import Kapture.Dataset.Published
import Kapture.Replay.FeedServer

/-!
# The end of a capture

A `Reader` may end with `ErrReaderDone` or with `io.EOF`: the comment on `ErrReaderDone` says so,
and the interface names only the second. The readers of this repository return the first, but for
the one through which an engine adapter reads the stream of its host. Four loops read from a
`Reader`. `Feeder.feed` and `Preshard` take both for the end; `Engine.readLoop` and
`FeedServer.readLoop` know only the first. So **the two endings are alike to a consumer exactly if
it is one of the first two** (`ends_alike_iff`): the engine fails on the other, and the feed server
answers 500 where it should answer 410.
-/

namespace Kapture.Dataset

open Go Storage Replay Pull

/-! ## The consumers -/

/-- A reader that returns these requests and then this error. -/
def readerOf (reqs : List CapturedRequest) (last : Error) : ReadOptions → Except Error ReaderRun :=
  fun _ => .ok ⟨reqs, last, []⟩

/-- The read loop of `Preshard` on what a reader returns. -/
def consumeRun (consume : CapturedRequest → Pass → Except Error Unit × Pass) (run : ReaderRun)
    (p : Pass) :
    Consumed Pass Error :=
  match walk consume run.reqs p with
  | (.error err, p') => ⟨.refused err, p', []⟩
  | (.ok (), p') => ⟨.ended run.last, p', run.finished⟩

/-- `Preshard` with any reader. -/
def preshardReader (env : Env) (f : WriterFactory) (J : Codec) (M : ManifestCodec)
    (opened : Except Error ReaderRun) (captureID : Str) (shardCount : Int64) (w : World) :
    Except Error PreshardResult × World :=
  preshardLoop env f M opened (consumeRun (route env f J shardCount)) captureID shardCount w

variable {env : Env} {f : WriterFactory} {J : Codec} {M : ManifestCodec} {captureID : Str}
  {n : Int64}
  {run : ReaderRun}

theorem ends_consumeRun {consume : CapturedRequest → Pass → Except Error Unit × Pass} {p : Pass}
    {c : Consumed Pass Error} (h : Ends consume run p c) :
    c.stop = (consumeRun consume run p).stop ∧ c.world = (consumeRun consume run p).world := by
  unfold Ends at h
  unfold consumeRun
  split at h
  · rename_i err p' hw
    rw [hw]
    exact h
  · rename_i p' hw
    rw [hw, h]
    exact ⟨rfl, rfl⟩

theorem consumeRun_ends {consume : CapturedRequest → Pass → Except Error Unit × Pass} {p : Pass} :
    Ends consume run p (consumeRun consume run p) := by
  unfold Ends consumeRun
  rcases walk consume run.reqs p with ⟨_ | _, p'⟩
  · exact ⟨rfl, rfl⟩
  · rfl

section Streaming

variable (noun : String) (opts : ReadOptions) (g : Fetch) (objects : List Str)

/-- The readers of the repository are such readers, as long as what they fetch stays as it is. -/
theorem ends_drain {ω δ : Type} (consume : CapturedRequest → ω → Except δ Unit × ω) (w : ω) :
    Ends consume (drain J noun opts g objects) w
      (consumeObjects J noun opts (fun _ => g) consume objects 0 w) :=
  consumeObjects_eq_walk (f := g) (P := fun _ => True) objects (fun _ _ _ _ => rfl) 0 w
    (fun _ _ _ _ => trivial) trivial

/-- The calls of `Next`, with a consumer in between, walk the requests that are there. -/
theorem drives_drain {ω δ : Type} (consume : CapturedRequest → ω → Except δ Unit × ω) (w : ω) :
    ∃ r c, Ends consume (drain J noun opts g objects) w c ∧ r.finished = c.finished
      ∧ Drives (fun _ => Reader.next J g) consume w (.open noun opts objects) c.stop c.world r := by
  obtain ⟨r, hdrives, hfin⟩ := drives_open objects w
  exact ⟨r, _, ends_drain noun opts g objects consume w, hfin, hdrives⟩

theorem preshard_drain (w : World) :
    preshard env f J M noun opts (.ok objects) (fun _ => g) captureID n w
      = preshardReader env f J M (.ok (drain J noun opts g objects)) captureID n w := by
  unfold preshard preshardReader preshardLoop
  dsimp only
  split
  · rfl
  · split
    · rfl
    · cases newWriters env f captureID n.toNatClampNeg (List.range n.toNatClampNeg) [] w with
      | mk res w' =>
          cases res with
          | error err => rfl
          | ok writers =>
              obtain ⟨hstop, hworld⟩ := ends_consumeRun
                (ends_drain (J := J) noun opts g objects (route env f J n)
                  (.start n.toNatClampNeg writers w'))
              simp only [conclude, hstop, hworld]

/-- A consumer that keeps what it is given. -/
def keep (req : CapturedRequest) (kept : List CapturedRequest) :
    Except Error Unit × List CapturedRequest := (.ok (), kept ++ [req])

theorem walk_keep (reqs kept : List CapturedRequest) :
    walk keep reqs kept = (.ok (), kept ++ reqs) := by
  induction reqs generalizing kept with
  | nil => exact congrArg _ (List.append_nil kept).symm
  | cons req reqs ih =>
      simp only [walk, keep, ih, List.append_assoc, List.singleton_append]

/-- **To stream a capture is to read it first.** There is one run that the calls of `Next` return
by themselves. The loop of `Preshard`, which routes each request before it calls `Next` again,
stops for the same reason and in the same state as routing that run; so `Preshard` returns and
stores what it does on a reader that has read everything. -/
theorem preshard_streams :
    ∃ run r, Drives (fun _ => Reader.next J g) keep [] (.open noun opts objects)
      (.ended run.last) run.reqs r ∧ r.finished = run.finished
    ∧ (∀ p, ∃ r', Drives (fun _ => Reader.next J g) (route env f J n) p (.open noun opts objects)
      (consumeRun (route env f J n) run p).stop (consumeRun (route env f J n) run p).world r')
    ∧ ∀ w, preshard env f J M noun opts (.ok objects) (fun _ => g) captureID n w
      = preshardReader env f J M (.ok run) captureID n w := by
  obtain ⟨r, c, hends, hfin, hdrives⟩ := drives_drain (J := J) noun opts g objects keep []
  rw [Ends, walk_keep] at hends
  rw [hends] at hdrives hfin
  refine ⟨_, r, hdrives, hfin, fun p => ?_, preshard_drain noun opts g objects⟩
  -- the same calls, with the writes in between
  obtain ⟨r', c', hends', -, hroute⟩ :=
    drives_drain (J := J) noun opts g objects (route env f J n) p
  obtain ⟨hstop, hworld⟩ := ends_consumeRun hends'
  rw [hstop, hworld] at hroute
  exact ⟨r', hroute⟩

end Streaming

/-! ## The two endings -/

/-- An error with which a `Reader` may end. -/
def IsEnding (last : Error) : Prop := last = errReaderDone ∨ last = eof

theorem endOfCapture_of_isEnding {last : Error} (h : IsEnding last) : endOfCapture last = true := by
  rcases h with rfl | rfl
  · rfl
  · rfl

/-- Who reads from a `Reader`. -/
inductive Consumer where
  | engine (e : Engine)
  | feeder (fd : FeederConfig)
  | preshard (f : WriterFactory) (captureID : Str) (shardCount : Int64)
  | feedServer (bufferSize : Int)

/-- The engine reads on to the end and returns nil, whichever ending it is. -/
structure EngineAlike (e : Engine) (reqs : List CapturedRequest) : Prop where
  same : ∀ ctx, e.run (readerOf reqs errReaderDone) ctx = e.run (readerOf reqs eof) ctx
  finishes : ∀ last, IsEnding last → (e.run (readerOf reqs last) fun _ => false).err = none
    ∧ (e.run (readerOf reqs last) fun _ => false).kept = reqs.filter fun req => !e.skips req

structure FeederAlike (fd : FeederConfig) (reqs : List CapturedRequest) : Prop where
  same : ∀ env, fd.run (readerOf reqs errReaderDone) env = fd.run (readerOf reqs eof) env
  finishes : ∀ last, IsEnding last →
    ∀ report, (fd.run (readerOf reqs last) (.quiet report)).Succeeds
    ∧ (fd.run (readerOf reqs last) (.quiet report)).feed.kept
        = reqs.filter fun req => shardOwns req.id fd.shardIndex fd.shardCount

structure PreshardAlike (J : Codec) (M : ManifestCodec) (f : WriterFactory) (captureID : Str)
    (n : Int64)
    (reqs : List CapturedRequest) : Prop where
  same : ∀ env w, preshardReader env f J M (.ok ⟨reqs, errReaderDone, []⟩) captureID n w
    = preshardReader env f J M (.ok ⟨reqs, eof, []⟩) captureID n w
  finishes : 2 ≤ n → captureID ≠ [] → (∀ req ∈ reqs, Marshals J req) → ∀ last, IsEnding last →
    ∀ env w,
    Live env → (∀ k, FourDigitYear (env.now k).day) → w.log = [] →
      ∃ result w', preshardReader env f J M (.ok ⟨reqs, last, []⟩) captureID n w = (.ok result, w')
        ∧ ∀ i, i < sliceCount n → SliceHolds env f J (sliceID captureID n i) w' (slicePart n reqs i)

/-- The clients of the feed server get the same answers, and once the reader has ended and there is
nothing left, the answer is 410. -/
structure FeedServerAlike (bufferSize : Int) (reqs : List CapturedRequest) : Prop where
  same : ∀ handlers,
    (∃ s, Steps.Reach (FeedServer.act errReaderDone) FeedServer.Undisturbed
        (.start bufferSize reqs) s ∧ s.handlers = handlers)
      ↔ ∃ s, Steps.Reach (FeedServer.act eof) FeedServer.Undisturbed (.start bufferSize reqs) s
        ∧ s.handlers = handlers
  gone : ∀ last, IsEnding last → ∀ s,
    Steps.Reach (FeedServer.act last) FeedServer.Undisturbed (.start bufferSize reqs) s →
      s.ended.isSome = true → s.emptyResponse = .gone

/-- **The two endings make no difference to a consumer**, and it finishes without an error. -/
def Consumer.Alike (J : Codec) (M : ManifestCodec) (reqs : List CapturedRequest) : Consumer → Prop
  | .engine e => EngineAlike e reqs
  | .feeder fd => FeederAlike fd reqs
  | .preshard f captureID n => PreshardAlike J M f captureID n reqs
  | .feedServer bufferSize => FeedServerAlike bufferSize reqs

/-- The consumers that test for both. -/
def Consumer.TestsBoth : Consumer → Prop
  | .feeder _ => True
  | .preshard _ _ _ => True
  | _ => False

theorem not_engineAlike (e : Engine) (reqs : List CapturedRequest) : ¬ EngineAlike e reqs := by
  intro h
  have hnone := (h.finishes eof (Or.inr rfl)).1
  have hlive : (e.readLoop (fun _ => false) eof reqs 0 0).err = some eof :=
    (readLoop_of_live reqs 0 0).1
  change (e.readLoop (fun _ => false) eof reqs 0 0).err.map _ = none at hnone
  rw [hlive] at hnone
  cases hnone

theorem not_feedServerAlike (bufferSize : Int) (reqs : List CapturedRequest) :
    ¬ FeedServerAlike bufferSize reqs := by
  intro h
  obtain ⟨s, hreach, hended, -, herr⟩ := FeedServer.exists_end bufferSize reqs eof
  rw [if_neg (by decide)] at herr
  have hgone := h.gone eof (Or.inr rfl) s hreach (by rw [hended]; rfl)
  rw [FeedServer.emptyResponse, herr] at hgone
  cases hgone

theorem feed_last_congr (fd : FeederConfig) (ctx : Nat → Bool) (stream : ExecuteStream)
    (pace : Bool) {last last' : Error} (hl : endOfCapture last = true)
    (hl' : endOfCapture last' = true) (reqs : List CapturedRequest) (k fed : Nat)
    (baseTime prev : Time) :
    fd.feed ctx stream pace last reqs k fed baseTime prev
      = fd.feed ctx stream pace last' reqs k fed baseTime prev := by
  induction reqs generalizing k fed baseTime prev with
  | nil => simp only [FeederConfig.feed, hl, hl', if_true]
  | cons req rest ih => simp only [FeederConfig.feed, ih]

theorem feederAlike (fd : FeederConfig) (reqs : List CapturedRequest) : FeederAlike fd reqs where
  same := by
    intro env
    have hfeed := feed_last_congr fd env.ctx env.stream (!env.stream.selfPaced)
      (endOfCapture_of_isEnding (Or.inl rfl)) (endOfCapture_of_isEnding (Or.inr rfl)) reqs 0 0 0 0
    simp only [FeederConfig.run, readerOf, hfeed]
  finishes := by
    intro last hlast report
    have hok : (fd.run (readerOf reqs last) (.quiet report)).Succeeds :=
      (run_quiet rfl report).mpr (endOfCapture_of_isEnding hlast)
    obtain ⟨run, hopen, hfeed, herr⟩ := run_succeeds hok
    cases hopen
    rw [hfeed] at herr
    refine ⟨hok, ?_⟩
    rw [hfeed]
    exact (feed_of_err_eq_none reqs 0 0 0 0 herr).2

theorem preshardAlike (J : Codec) (M : ManifestCodec) (f : WriterFactory) (captureID : Str)
    (n : Int64) (reqs : List CapturedRequest) : PreshardAlike J M f captureID n reqs where
  same := by
    intro env w
    have hconclude : ∀ count p, conclude env f M captureID count
        (consumeRun (route env f J n) ⟨reqs, errReaderDone, []⟩ p)
        = conclude env f M captureID count (consumeRun (route env f J n) ⟨reqs, eof, []⟩ p) := by
      intro count p
      unfold consumeRun
      dsimp only
      split
      · rfl
      · rfl
    simp only [preshardReader, preshardLoop, hconclude]
  finishes := by
    intro hn hc hm last hlast env w hl hnow hlog
    exact preshardLoop_live consumeRun_ends hn hc hlog hl hnow hm (endOfCapture_of_isEnding hlast)

/-- **The two endings are alike to a consumer exactly if it tests for both**, whatever the
capture. -/
theorem ends_alike_iff (J : Codec) (M : ManifestCodec) (c : Consumer)
    (reqs : List CapturedRequest) : c.Alike J M reqs ↔ c.TestsBoth := by
  cases c with
  | engine e => exact iff_of_false (not_engineAlike e reqs) id
  | feeder fd => exact iff_of_true (feederAlike fd reqs) trivial
  | preshard f captureID n => exact iff_of_true (preshardAlike J M f captureID n reqs) trivial
  | feedServer bufferSize => exact iff_of_false (not_feedServerAlike bufferSize reqs) id

/-! ## The bridge to k6 -/

def capturedFromItem (item : FeedItem) : CapturedRequest where
  id := item.requestId
  timestamp := item.capturedAt.getD 0
  method := item.method
  path := item.path
  headers := item.headers
  body := item.body
  contentLength := 0
  protocol := item.protocol
  metadata := item.metadata

/-- What `feedbridge.Reader` makes of the items of its host. -/
def bridgeRun (items : List FeedItem) : ReaderRun := ⟨items.map capturedFromItem, eof, []⟩

def oneItem : FeedItem := ⟨lit "a", lit "HTTP", lit "GET", lit "/", [], [], [], none, 0⟩

/-- **Once all items were served, the bridge answers 500, and k6 does not stop.** -/
theorem bridge_never_gone :
    ∃ s, Steps.Reach (FeedServer.act (bridgeRun [oneItem]).last) (fun _ _ => True)
        (.start 0 (bridgeRun [oneItem]).reqs) s
      ∧ s.handlers.map FeedHandler.state
          = [.answered (.ok [(capturedFromItem oneItem, 0)]), .answered (.readerError eof)] := by
  exact Steps.exists_run (FeedServer.act (bridgeRun [oneItem]).last) (fun _ _ => True)
    (.start 0 (bridgeRun [oneItem]).reqs)
    [.call .next, .check, .next, .send, .receive 0, .count 0, .respond 0, .check, .finish,
      .call (.batch []), .endBatch 1, .count 1, .respond 1]
    (fun s => s.handlers.map FeedHandler.state
      = [.answered (.ok [(capturedFromItem oneItem, 0)]), .answered (.readerError eof)])
    (by decide +kernel)

end Kapture.Dataset
