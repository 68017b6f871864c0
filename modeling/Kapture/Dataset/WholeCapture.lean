import Kapture.Dataset.Published
import Kapture.Replay.ReadBack

/-!
# Success and the whole capture

`Feeder.feed` and `Preshard` both take `ErrReaderDone` and `io.EOF`, anywhere in
the chain of an error, for the end of the capture. The readers wrap what they meet
when an object cannot be opened or read, so a failure that is itself an `io.EOF`
passes for the end: an object whose gzip stream is empty, say.

A run that reports success has therefore read every object exactly when the first
object that fails, if any, fails with some other error, or fails after the limit
was reached anyway.
-/

namespace Kapture.Dataset

open Go Storage Replay Pull

variable {J : Codec} {M : ManifestCodec} {noun : String} {opts : ReadOptions} {g : Fetch}
  {objects : List Str}

/-- The first `Limit` requests. -/
def takeLimit (opts : ReadOptions) (reqs : List CapturedRequest) : List CapturedRequest :=
  if 0 < opts.limit then reqs.take opts.limit.toNat else reqs

/-- What a reader of the capture has to return: the matching requests of all the
objects that were listed, in order, up to the limit. -/
def wholeCapture (J : Codec) (opts : ReadOptions) (g : Fetch) (objects : List Str) :
    List CapturedRequest :=
  takeLimit opts (matching opts (objects.flatMap (objectRequests J g)))

/-- Every object was read to its end, or the limit was reached. -/
def Consumes (J : Codec) (noun : String) (opts : ReadOptions) (g : Fetch) (objects : List Str) :
    Prop :=
  (drain J noun opts g objects).finished = objects
    ∨ opts.limitReached (drain J noun opts g objects).reqs.length = true

/-- The first object that fails does not look like the end of the capture, or comes
after enough matching requests. -/
def NoFalseEnd (J : Codec) (noun : String) (opts : ReadOptions) (g : Fetch) (objects : List Str) :
    Prop :=
  ∀ err, firstFailure noun g objects = some err →
    err.is .readerDone = false ∧ err.is .eof = false
      ∨ opts.limitReached (matching opts (stored J noun g objects)).length = true

/-- The consumers take no other error for the end. -/
theorem endOfCapture_eq_false {err : Error} :
    endOfCapture err = false ↔ err.is .readerDone = false ∧ err.is .eof = false :=
  Bool.or_eq_false_iff

/-! ## The reader -/

theorem stored_prefixOf (J : Codec) (noun : String) (g : Fetch) (objects : List Str) :
    stored J noun g objects <+: objects.flatMap (objectRequests J g) := by
  induction objects with
  | nil => exact List.prefix_rfl
  | cons key rest ih =>
      rw [stored, List.flatMap_cons, List.prefix_append_right_inj]
      split
      · exact ih
      · exact List.nil_prefix

theorem stored_eq (h : firstFailure noun g objects = none) :
    stored J noun g objects = objects.flatMap (objectRequests J g) := by
  induction objects with
  | nil => rfl
  | cons key rest ih =>
      simp only [firstFailure, List.findSome?_cons] at h ih
      split at h
      · cases h
      · rename_i hf
        simp [stored, hf, ih h]

variable (opts) in
theorem matching_mono {as bs : List CapturedRequest} (h : as <+: bs) :
    matching opts as <+: matching opts bs := by
  obtain ⟨cs, rfl⟩ := h
  rw [matching_append]
  exact List.prefix_append ..

/-- A limit within the first part of a list cuts off the rest. -/
theorem takeLimit_of_prefixed {as bs : List CapturedRequest} (h : as <+: bs)
    (hl : opts.limitReached as.length = true) : takeLimit opts bs = as.take opts.limit.toNat := by
  obtain ⟨cs, rfl⟩ := h
  simp only [ReadOptions.limitReached, Bool.and_eq_true, decide_eq_true_eq] at hl
  rw [takeLimit, if_pos hl.1, List.take_append_of_le_length (by omega)]

theorem takeLimit_of_not_cut {reqs : List CapturedRequest} (h : ¬ Cut opts 0 reqs) :
    takeLimit opts reqs = reqs := by
  unfold takeLimit
  simp only [Cut] at h
  split
  · rw [List.take_of_length_le (by omega)]
  · rfl

/-- **A reader that stops with the end of the capture has returned the whole of it**,
unless a failure passed for the end. -/
theorem consumes_of_end (hc : NoFalseEnd J noun opts g objects)
    (hend : endOfCapture (drain J noun opts g objects).last = true) :
    Consumes J noun opts g objects
      ∧ (drain J noun opts g objects).reqs = wholeCapture J opts g objects := by
  have hpre := matching_mono opts (stored_prefixOf J noun g objects)
  unfold Consumes wholeCapture
  by_cases hcut : Cut opts 0 (matching opts (stored J noun g objects))
  · obtain ⟨hreqs, _⟩ := drainObjects_of_cut objects 0 hcut
    have hlim : opts.limitReached (matching opts (stored J noun g objects)).length = true := by
      simp only [Cut] at hcut
      simp only [ReadOptions.limitReached, Bool.and_eq_true, decide_eq_true_eq]
      omega
    rw [drain, hreqs, takeLimit_of_prefixed hpre hlim]
    refine ⟨Or.inr ?_, rfl⟩
    simp only [Cut] at hcut
    simp only [ReadOptions.limitReached, Bool.and_eq_true, decide_eq_true_eq, List.length_take]
    omega
  · obtain ⟨hreqs, hlast, hfin⟩ := drainObjects_of_not_cut objects 0 hcut
    rw [drain, hlast] at hend
    rw [drain, hreqs]
    cases hff : firstFailure noun g objects with
    | none =>
        rw [stored_eq hff] at hcut ⊢
        exact ⟨Or.inl (hfin hff), (takeLimit_of_not_cut hcut).symm⟩
    | some err =>
        rw [hff, Option.getD_some] at hend
        have hlim := (hc err hff).resolve_left (by rw [← endOfCapture_eq_false, hend]; decide)
        refine ⟨Or.inr hlim, ?_⟩
        rw [takeLimit_of_prefixed hpre hlim, List.take_of_length_le]
        simp only [Cut] at hcut
        simp only [ReadOptions.limitReached, Bool.and_eq_true, decide_eq_true_eq] at hlim
        omega

/-- **Otherwise the reader stops early with the end of the capture.** -/
theorem false_end (hc : ¬ NoFalseEnd J noun opts g objects) :
    endOfCapture (drain J noun opts g objects).last = true ∧ ¬ Consumes J noun opts g objects := by
  simp only [NoFalseEnd, ← endOfCapture_eq_false, not_forall, not_or, Bool.not_eq_false,
    Bool.not_eq_true] at hc
  obtain ⟨err, hff, hend, hlim⟩ := hc
  have hcut : ¬ Cut opts 0 (matching opts (stored J noun g objects)) := by
    intro hcut
    simp only [Cut] at hcut
    simp only [ReadOptions.limitReached, Bool.and_eq_false_iff, decide_eq_false_iff_not] at hlim
    omega
  obtain ⟨hreqs, hlast, _⟩ := drainObjects_of_not_cut objects 0 hcut
  refine ⟨?_, ?_⟩
  · rw [drain, hlast, hff]
    exact hend
  · rintro (hfin | hlim')
    · have hlt : (drainObjects J noun opts g objects 0).finished.length < objects.length :=
        length_finished_lt objects 0 (by rw [hff]; simp)
      rw [← drain, hfin] at hlt
      exact Nat.lt_irrefl _ hlt
    · rw [drain, hreqs, hlim] at hlim'
      cases hlim'

theorem decoded_of_mem_drain {req : CapturedRequest}
    (h : req ∈ (drain J noun opts g objects).reqs) : Decoded J req := by
  have hmem : req ∈ matching opts (stored J noun g objects) := by
    by_cases hcut : Cut opts 0 (matching opts (stored J noun g objects))
    · rw [drain, (drainObjects_of_cut objects 0 hcut).1] at h
      exact List.mem_of_mem_take h
    · rw [drain, (drainObjects_of_not_cut objects 0 hcut).1] at h
      exact h
  have hst := (List.mem_filter.mp hmem).1
  obtain ⟨key, _, hk⟩ := List.mem_flatMap.mp ((stored_prefixOf J noun g objects).subset hst)
  exact decoded_of_mem_objectRequests hk

/-! ## The two consumers -/

/-- A report of the feeder means that the whole capture was consumed, and what the
shard owns of it was sent. -/
def FeederSound (J : Codec) (noun : String) (g : Fetch) (objects : List Str) (fd : FeederConfig) :
    Prop :=
  ∀ env : FeedEnv, (fd.run (fun opts => .ok (drain J noun opts g objects)) env).Succeeds →
    Consumes J noun fd.readOptions g objects
      ∧ (fd.run (fun opts => .ok (drain J noun opts g objects)) env).feed.kept
          = (wholeCapture J fd.readOptions g objects).filter
              (fun req => shardOwns req.id fd.shardIndex fd.shardCount)

/-- A result of `Preshard` means that the whole capture was consumed, and every slice
was uploaded with its part of it. -/
def PreshardSound (J : Codec) (M : ManifestCodec) (noun : String) (opts : ReadOptions) (g : Fetch)
    (objects : List Str) (f : WriterFactory) (captureID : Str) (n : Int64) (s : Store) : Prop :=
  ∀ env result w', preshard env f J M noun opts (.ok objects) (fun _ => g) captureID n ⟨s, 0, 0, []⟩
      = (.ok result, w') →
    Consumes J noun opts g objects
      ∧ ∀ i, i < sliceCount n → SliceHolds env f J (sliceID captureID n i) w'
          (slicePart n (wholeCapture J opts g objects) i)

theorem feederSound_iff (fd : FeederConfig) :
    FeederSound J noun g objects fd ↔ NoFalseEnd J noun fd.readOptions g objects := by
  constructor
  · intro hs
    by_contra hc
    obtain ⟨hend, hnot⟩ := false_end hc
    -- nothing but the reader can disturb this run
    have hrun : (fd.run (fun opts => .ok (drain J noun opts g objects))
        (.quiet ⟨0, 0, 0, 0, 0, 0, 0, 0⟩)).Succeeds ↔ _ := run_quiet rfl _
    exact hnot (hs _ (hrun.mpr hend)).1
  · intro hc env hok
    obtain ⟨run, hopen, hfeed, herr⟩ := run_succeeds hok
    cases hopen
    rw [hfeed] at herr
    obtain ⟨hend, hkept⟩ := feed_of_err_eq_none _ 0 0 0 0 herr
    obtain ⟨hcons, hreqs⟩ := consumes_of_end hc hend
    refine ⟨hcons, ?_⟩
    rw [hfeed, hkept, hreqs]

/-- Uploads that all succeed, at the start of the calendar. -/
def liveEnv : Env := ⟨fun _ => 0, fun _ => .stored⟩

theorem fourDigitYear_liveEnv (k : Nat) : FourDigitYear (liveEnv.now k).day := by
  have h : FourDigitYear (Time.day 0) := by decide
  exact h

theorem preshardSound_iff (f : WriterFactory) {captureID : Str} {n : Int64} (s : Store)
    (hn : 2 ≤ n) (hid : captureID ≠ []) :
    PreshardSound J M noun opts g objects f captureID n s ↔ NoFalseEnd J noun opts g objects := by
  constructor
  · intro hs
    by_contra hc
    obtain ⟨hend, hnot⟩ := false_end hc
    obtain ⟨result, w', hok⟩ : ∃ result w', preshard liveEnv f J M noun opts (.ok objects)
        (fun _ => g) captureID n ⟨s, 0, 0, []⟩ = (.ok result, w') :=
      preshard_live hn hid rfl (fun _ _ _ _ _ => rfl) (fun _ => rfl)
        fourDigitYear_liveEnv (fun req hreq => (decoded_of_mem_drain hreq).marshals) hend
    exact hnot (hs _ result w' hok).1
  · intro hc env result w' hok
    rcases preshard_cases hn hid hok rfl (fun _ _ _ _ _ => rfl) with
      ⟨err, herr, _⟩ | ⟨p, w₁, hfin, r, hput, _⟩
    · cases herr
    · obtain ⟨hcons, hreqs⟩ := consumes_of_end hc hfin.ended
      have hman := manifests_putManifests (fun i hi => List.mem_range.mp hi) hput
      refine ⟨hcons, fun i hi => ?_⟩
      rw [← hreqs]
      exact (hfin.holds i hi).of_dataLog (hman.dataLog _)

/--
**A report of the feeder, and a result of `Preshard`, stand for the whole capture
exactly when no failure of an object passes for its end.** The objects are those
that were listed; `g` is what opening each of them finds.
-/
theorem success_means_consumed_iff (J : Codec) (M : ManifestCodec) (noun : String) (g : Fetch)
    (objects : List Str) (fd : FeederConfig) (opts : ReadOptions) (f : WriterFactory)
    (captureID : Str) (n : Int64) (s : Store) (hn : 2 ≤ n) (hid : captureID ≠ []) :
    (FeederSound J noun g objects fd ↔ NoFalseEnd J noun fd.readOptions g objects)
      ∧ (PreshardSound J M noun opts g objects f captureID n s
          ↔ NoFalseEnd J noun opts g objects) :=
  ⟨feederSound_iff fd, preshardSound_iff f s hn hid⟩

/-- A volume with one file, of no bytes. -/
def emptyFileKey : Str := lit "/data/default/checkout/2026-01-02/agent-0-000001.jsonl.gz"

def emptyFileStore : Store :=
  (Store.empty.mkdirAll (dirOf emptyFileKey)).put emptyFileKey (.gz .empty)

/-- Nothing has been encoded. -/
def noCodec : Codec := .ofTable [] (by decide +kernel) (by decide +kernel)

/-- Its capture, split in two. -/
theorem success_means_consumed_iff_two :
    PreshardSound noCodec .counts "file" (.all (lit "default/checkout"))
      (fetchFrom emptyFileStore fun _ => .none)
        [emptyFileKey] (commandFactory ⟨.filesystem, lit "/data"⟩) (lit "default/checkout") 2
        emptyFileStore
      ↔ NoFalseEnd noCodec "file" (.all (lit "default/checkout"))
        (fetchFrom emptyFileStore fun _ => .none) [emptyFileKey] :=
  (success_means_consumed_iff noCodec .counts "file" _ _
    ⟨.all (lit "default/checkout"), 0, 1, .unlimited, 0, 1⟩ _ _ _ 2 _ (by decide) (by decide)).2

/-- **A file of no bytes, the only one of its capture.** `gzip.NewReader` returns
`io.EOF`, the reader stops before it has read anything, and both consumers report
success. -/
theorem empty_file_passes_for_end :
    openCapture ⟨.filesystem, lit "/data"⟩ emptyFileStore none (.all (lit "default/checkout"))
        = .ok [emptyFileKey]
      ∧ (drain noCodec "file" (.all (lit "default/checkout"))
        (fetchFrom emptyFileStore fun _ => .none)
          [emptyFileKey]).finished = []
      ∧ (∃ env, (FeederConfig.run ⟨.all (lit "default/checkout"), 0, 1, .unlimited, 0, 1⟩
          (fun opts => .ok (drain noCodec "file" opts (fetchFrom emptyFileStore fun _ => .none)
            [emptyFileKey])) env).Succeeds)
      ∧ (∃ result w', preshard liveEnv (commandFactory ⟨.filesystem, lit "/data"⟩) noCodec
        .counts "file"
          (.all (lit "default/checkout")) (.ok [emptyFileKey])
          (fun _ => fetchFrom emptyFileStore fun _ => .none) (lit "default/checkout") 2
          ⟨emptyFileStore, 0, 0, []⟩ = (.ok result, w'))
      ∧ ¬ FeederSound noCodec "file" (fetchFrom emptyFileStore fun _ => .none) [emptyFileKey]
          ⟨.all (lit "default/checkout"), 0, 1, .unlimited, 0, 1⟩
      ∧ ¬ PreshardSound noCodec .counts "file" (.all (lit "default/checkout"))
          (fetchFrom emptyFileStore fun _ => .none) [emptyFileKey]
          (commandFactory ⟨.filesystem, lit "/data"⟩) (lit "default/checkout") 2
            emptyFileStore := by
  have hfalse : ¬ NoFalseEnd noCodec "file" (.all (lit "default/checkout"))
      (fetchFrom emptyFileStore fun _ => .none) [emptyFileKey] := by
    intro h
    rcases h _ rfl with ⟨-, heof⟩ | hlim
    · cases heof
    · cases hlim
  have hopen : openCapture ⟨.filesystem, lit "/data"⟩ emptyFileStore none
      (.all (lit "default/checkout")) = .ok [emptyFileKey] := by decide +kernel
  have hend := (false_end hfalse).1
  refine ⟨hopen, rfl, ⟨.quiet ⟨0, 0, 0, 0, 0, 0, 0, 0⟩, (run_quiet rfl _).mpr hend⟩, ?_, ?_, ?_⟩
  · exact preshard_live (by decide) (by decide) rfl (fun _ _ _ _ _ => rfl) (fun _ => rfl)
      fourDigitYear_liveEnv (fun req hreq => (decoded_of_mem_drain hreq).marshals) hend
  · exact fun hs => hfalse ((feederSound_iff _).mp hs)
  · exact fun hs => hfalse ((preshardSound_iff _ _ (by decide) (by decide)).mp hs)

end Kapture.Dataset
