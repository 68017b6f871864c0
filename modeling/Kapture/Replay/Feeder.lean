import Kapture.Replay.Engine

/-!
# The external-engine feeder

`Feeder.Run` drives a replay through an engine in another process: `feed` pulls
requests from the reader and sends the shard's part of them as feed items, while
`collect` folds the engine's events into a report. Its read loop differs from the
builtin engine's in two ways: it has no transformers, and it also takes `io.EOF`
for the end of the capture.
-/

namespace Kapture.Replay

open Go Storage

/-- `replayengine.FeederConfig`. -/
structure FeederConfig where
  readOptions : ReadOptions
  shardIndex : Int64
  shardCount : Int64
  rateMode : RateMode
  ratePerSecond : Rat
  timeScale : Rat
deriving DecidableEq, Repr

/-- `replayenginev1.FeedItem`. -/
structure FeedItem where
  requestId : Str
  protocol : Str
  method : Str
  path : Str
  headers : List (Str × List Str)
  body : List UInt8
  metadata : List (Str × Str)
  capturedAt : Option Time
  sourceOffsetNs : Int
deriving DecidableEq, Repr

/-- A stored request as a wire item. -/
def feedItemFromCaptured (req : CapturedRequest) (baseTime : Time) : FeedItem where
  requestId := req.id
  protocol := req.protocol
  method := req.method
  path := req.path
  headers := req.headers
  body := req.body
  metadata := req.metadata
  capturedAt := if req.timestamp.isZero then none else some req.timestamp
  sourceOffsetNs :=
    if !req.timestamp.isZero && !baseTime.isZero then req.timestamp.sub baseTime else 0

/-- `NewFeeder`: the configuration with its defaults, or an error. -/
def newFeeder (cfg : FeederConfig) : Except Error FeederConfig :=
  if cfg.shardCount > 1 && (cfg.shardIndex < 0 || cfg.shardIndex ≥ cfg.shardCount) then
    .error (errShardIndex cfg.shardIndex cfg.shardCount)
  else .ok { cfg with timeScale := if cfg.timeScale ≤ 0 then 1 else cfg.timeScale }

/-- What the feeder meets at the engine's end of the stream. -/
structure ExecuteStream where
  /-- `engine.Execute`. -/
  execute : Option Error
  selfPaced : Bool
  /-- The result of the `k`-th `Send`. -/
  send : Nat → Option Error

/-- What `feed` does with one request. -/
inductive FeedEvent where
  | skip (req : CapturedRequest)
  | send (wait : Option Wait) (req : CapturedRequest) (item : FeedItem)
deriving DecidableEq, Repr

/-- A run of `feed`: what it did, and the error it returned. -/
structure FeedRun where
  events : List FeedEvent
  err : Option Error
deriving DecidableEq, Repr

/-- The request of an event that was sent. -/
def FeedEvent.kept : FeedEvent → Option CapturedRequest
  | .skip _ => none
  | .send _ req _ => some req

namespace FeedRun

/-- The run that returns at once. -/
def stop (err : Option Error) : FeedRun := ⟨[], err⟩

/-- The run that did one more thing first. -/
def push (ev : FeedEvent) (run : FeedRun) : FeedRun := { run with events := ev :: run.events }

/-- The requests whose items were sent, in order. -/
def kept (run : FeedRun) : List CapturedRequest := run.events.filterMap FeedEvent.kept

end FeedRun

/-- Whether an error of `Next` is taken for the end of the capture: `ErrReaderDone`
or `io.EOF`. -/
def endOfCapture (err : Error) : Bool := err.is .readerDone || err.is .eof

/-- The wait of the feed before `req`, if it paces at all. -/
def FeederConfig.wait (f : FeederConfig) (pace : Bool) (prev : Time) (req : CapturedRequest) :
    Option Wait :=
  if pace then Pacing.wait ⟨f.rateMode, f.ratePerSecond, f.timeScale⟩ prev req else none

/-- `prevTimestamp` after `req`. -/
def FeederConfig.advance (f : FeederConfig) (pace : Bool) (prev : Time) (req : CapturedRequest) :
    Time :=
  if pace then Pacing.advance ⟨f.rateMode, f.ratePerSecond, f.timeScale⟩ prev req else prev

/-- `baseTime` at `req`: the first timestamp of the feed. -/
def baseTimeAt (baseTime : Time) (req : CapturedRequest) : Time :=
  if baseTime.isZero && !req.timestamp.isZero then req.timestamp else baseTime

/-- `Feeder.feed` on what the reader returns. `k` counts the looks at the context,
`fed` the items sent. -/
def FeederConfig.feed (f : FeederConfig) (ctx : Nat → Bool) (stream : ExecuteStream) (pace : Bool)
    (last : Error) : List CapturedRequest → (k fed : Nat) → (baseTime prev : Time) → FeedRun
  | [], k, _, _, _ =>
      if ctx k then .stop (some canceled)
      else if endOfCapture last then .stop none
      else .stop (some (last.wrap "reader"))
  | req :: rest, k, fed, baseTime, prev =>
      if ctx k then .stop (some canceled)
      else if !shardOwns req.id f.shardIndex f.shardCount then
        (f.feed ctx stream pace last rest (k + 1) fed baseTime prev).push (.skip req)
      else
        if (f.wait pace prev req).isSome && ctx (k + 1) then .stop (some canceled)
        else
          match stream.send fed with
          | some err => .stop (some (err.wrap "send feed item"))
          | none =>
              (f.feed ctx stream pace last rest
                (if (f.wait pace prev req).isSome then k + 2 else k + 1) (fed + 1)
                (baseTimeAt baseTime req) (f.advance pace prev req)).push
                (.send (f.wait pace prev req) req
                  (feedItemFromCaptured req (baseTimeAt baseTime req)))

/-- `replay.RunReport`, and `RunSummary` on the wire. -/
structure RunReport where
  totalRequests : Int
  sentRequests : Int
  failedRequests : Int
  achievedRPS : Rat
  meanLatencyMs : Rat
  p50LatencyMs : Rat
  p95LatencyMs : Rat
  p99LatencyMs : Rat
deriving DecidableEq, Repr

/-- `replayenginev1.ExecuteResponse`. -/
inductive ExecuteResponse where
  | result (error : Str)
  | progress (sent failed : Int)
  | summary (s : RunReport)
deriving DecidableEq, Repr

/-- `Feeder.collect` on the engine's events and the error after them. The last
summary is the report; results and progress only feed the log. -/
def collect (recvErr : Error) : List ExecuteResponse → Option RunReport → Except Error RunReport
  | [], report =>
      if recvErr.is .eof then
        match report with
        | none => .error (.new "engine closed stream without a final RunSummary")
        | some r => .ok r
      else .error (recvErr.wrap "receive engine event")
  | .summary s :: rest, _ => collect recvErr rest (some s)
  | .result _ :: rest, report => collect recvErr rest report
  | .progress _ _ :: rest, report => collect recvErr rest report

/-- What a run of the feeder depends on besides its reader. -/
structure FeedEnv where
  ctx : Nat → Bool
  stream : ExecuteStream
  /-- What the engine sends, and the error that ends it. -/
  events : List ExecuteResponse
  recvErr : Error

/-- A run of the feeder: what `feed` did, and what `Run` returned. -/
structure FeederRun where
  feed : FeedRun
  result : Except Error RunReport

/-- `Feeder.Run`. An error of `collect` takes precedence over one of `feed`. -/
def FeederConfig.run (f : FeederConfig) (reader : ReadOptions → Except Error ReaderRun)
    (env : FeedEnv) : FeederRun :=
  match reader f.readOptions with
  | .error err => ⟨.stop none, .error (err.wrap "open reader")⟩
  | .ok run =>
      match env.stream.execute with
      | some err => ⟨.stop none, .error (err.wrap "open execute stream")⟩
      | none =>
          let feed := f.feed env.ctx env.stream (!env.stream.selfPaced) run.last run.reqs 0 0 0 0
          ⟨feed, match collect env.recvErr env.events none with
            | .error err => .error err
            | .ok report =>
                match feed.err with
                | some err => .error err
                | none => .ok report⟩

/-- A feeder replay: `NewFeeder`, then `Run`. -/
def feedReplay (cfg : FeederConfig) (reader : ReadOptions → Except Error ReaderRun)
    (env : FeedEnv) : FeederRun :=
  match newFeeder cfg with
  | .error err => ⟨.stop none, .error err⟩
  | .ok f => f.run reader env

/-- `Run` returned a report. -/
def FeederRun.Succeeds (run : FeederRun) : Prop := ∃ report, run.result = .ok report

/-! ## What a successful feed did -/

variable {f : FeederConfig} {ctx : Nat → Bool} {stream : ExecuteStream} {pace : Bool} {last : Error}
  {reader : ReadOptions → Except Error ReaderRun}

theorem FeedRun.kept_push (ev : FeedEvent) (run : FeedRun) :
    (run.push ev).kept = ev.kept.toList ++ run.kept := by
  cases ev <;> rfl

/-- **One round of a feed that returns nil** skips its request or sends it, and goes on. -/
theorem feed_cons {req : CapturedRequest} {rest : List CapturedRequest} {k fed : Nat}
    {baseTime prev : Time}
    (h : (f.feed ctx stream pace last (req :: rest) k fed baseTime prev).err = none) :
    ∃ ev k' fed' baseTime' prev', f.feed ctx stream pace last (req :: rest) k fed baseTime prev
        = (f.feed ctx stream pace last rest k' fed' baseTime' prev').push ev
      ∧ (f.feed ctx stream pace last rest k' fed' baseTime' prev').err = none
      ∧ ev.kept = (if shardOwns req.id f.shardIndex f.shardCount then some req else none) := by
  simp only [FeederConfig.feed] at h ⊢
  split at h
  · cases h
  · rename_i hc
    simp only [hc]
    split at h
    · rename_i hs
      have hs' : shardOwns req.id f.shardIndex f.shardCount = false := by simpa using hs
      exact ⟨.skip req, k + 1, fed, baseTime, prev, by simp [hs'], h, by simp [hs', FeedEvent.kept]⟩
    · rename_i hs
      have hs' : shardOwns req.id f.shardIndex f.shardCount = true := by simpa using hs
      simp only [hs', Bool.not_true, Bool.false_eq_true, if_false]
      split at h
      · cases h
      · rename_i hw
        simp only [hw]
        split at h
        · cases h
        · rename_i hsend
          exact ⟨_, _, _, _, _, rfl, h, rfl⟩

/-- **A feed that returns nil sent the requests its shard owns, to the end.** -/
theorem feed_of_err_eq_none (reqs : List CapturedRequest) (k fed : Nat) (baseTime prev : Time)
    (h : (f.feed ctx stream pace last reqs k fed baseTime prev).err = none) :
    endOfCapture last = true
      ∧ (f.feed ctx stream pace last reqs k fed baseTime prev).kept
          = reqs.filter (fun req => shardOwns req.id f.shardIndex f.shardCount) := by
  induction reqs generalizing k fed baseTime prev with
  | nil =>
      simp only [FeederConfig.feed] at h ⊢
      split at h
      · cases h
      · split at h
        · rename_i hc hl
          simp only [hc, hl]
          exact ⟨trivial, rfl⟩
        · cases h
  | cons req rest ih =>
      obtain ⟨ev, k', fed', base', prev', heq, herr, hkept⟩ := feed_cons h
      obtain ⟨hl, ihk⟩ := ih k' fed' base' prev' herr
      rw [heq, FeedRun.kept_push, ihk, hkept]
      refine ⟨hl, ?_⟩
      cases hs : shardOwns req.id f.shardIndex f.shardCount <;> simp [hs]

/-- **A feed that is never cancelled and whose sends succeed reads to the end**, one event for
each request, and returns what ended it. -/
theorem feed_of_live (f : FeederConfig) (pace : Bool) (last : Error)
    (hsend : ∀ k, stream.send k = none) (reqs : List CapturedRequest) (k fed : Nat)
    (baseTime prev : Time) :
    let r := f.feed (fun _ => false) stream pace last reqs k fed baseTime prev
    r.err = (if endOfCapture last then none else some (last.wrap "reader"))
      ∧ r.events.length = reqs.length := by
  induction reqs generalizing k fed baseTime prev with
  | nil =>
      simp only [FeederConfig.feed, Bool.false_eq_true, if_false]
      split
      · exact ⟨rfl, rfl⟩
      · exact ⟨rfl, rfl⟩
  | cons req rest ih =>
      simp only [FeederConfig.feed, Bool.false_eq_true, if_false, Bool.and_false, hsend]
      -- whatever becomes of the request, it is one event
      split
      · exact (ih _ _ _ _).imp_right (congrArg (· + 1))
      · exact (ih _ _ _ _).imp_right (congrArg (· + 1))

/-- A feeder run that returns a report had no failing step. -/
theorem run_succeeds {env : FeedEnv} (h : (f.run reader env).Succeeds) :
    ∃ run, reader f.readOptions = .ok run
      ∧ (f.run reader env).feed
          = f.feed env.ctx env.stream (!env.stream.selfPaced) run.last run.reqs 0 0 0 0
      ∧ (f.run reader env).feed.err = none := by
  obtain ⟨report, h⟩ := h
  unfold FeederConfig.run at h ⊢
  cases hr : reader f.readOptions with
  | error err => simp [hr] at h
  | ok run =>
      cases he : env.stream.execute with
      | some err => simp [hr, he] at h
      | none =>
          simp only [hr, he] at h
          refine ⟨run, rfl, rfl, ?_⟩
          split at h
          · cases h
          · split at h
            · cases h
            · assumption

/-- The run that nothing disturbs: no cancellation, sends that succeed, an engine
that reports and closes. -/
def FeedEnv.quiet (report : RunReport) : FeedEnv :=
  ⟨fun _ => false, ⟨none, true, fun _ => none⟩, [.summary report], eof⟩

/-- **An undisturbed feeder succeeds exactly when it takes the reader's last error for
the end of the capture.** -/
theorem run_quiet {run : ReaderRun} (hopen : reader f.readOptions = .ok run) (report : RunReport) :
    (f.run reader (.quiet report)).Succeeds ↔ endOfCapture run.last = true := by
  have hcol : collect eof [.summary report] none = .ok report := rfl
  have hsend : ∀ k, (FeedEnv.quiet report).stream.send k = none := fun _ => rfl
  have herr := (feed_of_live f false run.last hsend run.reqs 0 0 0 0).1
  simp only [FeederRun.Succeeds, FeederConfig.run, hopen, FeedEnv.quiet, hcol] at herr ⊢
  simp only [Bool.not_true, herr]
  cases endOfCapture run.last <;> simp

end Kapture.Replay
