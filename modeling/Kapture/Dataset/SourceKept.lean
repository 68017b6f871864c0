import Kapture.Dataset.Slices
import Mathlib.Data.List.Flatten

/-!
# The source after a run

Slices lie below the source, where its own listing finds them: on a volume always,
in a bucket whenever the prefix and the capture ID are a plain path. Reading the
source again after a successful run then returns the requests of the slices as
well, so every request comes twice.
-/

namespace Kapture.Dataset

open Go Path Storage Replay

variable {env : Env} {J : Codec} {M : ManifestCodec} {renv : ReadEnv} {b : Backend}
  {captureID : Str} {n : Int64} {s : Store} {result : PreshardResult} {w' : World}

/-- What a reader that meets no fault returns, and the error after it. -/
def reads (J : Codec) (b : Backend) (s : Store) (opts : ReadOptions) :
    Except Error (List CapturedRequest × Error) :=
  (readCapture J b s none (fun _ => .none) opts).map fun run => (run.reqs, run.last)

/-- The capture reads the same from both stores, under any options. -/
def SourceKept (J : Codec) (b : Backend) (captureID : Str) (s s' : Store) : Prop :=
  ∀ opts : ReadOptions, opts.captureID = captureID → reads J b s' opts = reads J b s opts

/-- Every object of the capture can be read to its end. -/
def Readable (b : Backend) (captureID : Str) (s : Store) : Prop :=
  firstFailure (nounOf b.kind) (fetchFrom s fun _ => .none) (listing b s (.all captureID)) = none

/-! ## When the slices are not listed, or hold nothing -/

theorem dirExists_of_effect {I K : Str → Prop} {w : World} (he : Effect I K w w') {base : Str}
    (h : dirExists w.store base = true) : dirExists w'.store base = true := by
  simp only [dirExists, Bool.or_eq_true, List.any_eq_true] at h ⊢
  rcases h with ⟨d, hd, hw⟩ | ⟨k, hk, hw⟩
  · exact Or.inl ⟨d, he.dirs d hd, hw⟩
  · exact Or.inr ⟨k, Store.mem_keys_iff.mpr (he.kept k (Store.mem_keys_iff.mp hk)), hw⟩

theorem dirExists_of_open {fault : Option Error} {objects : List Str}
    (h : openCapture b s fault (.all captureID) = .ok objects) (hk : b.kind = .filesystem) :
    dirExists s (basePath b.root captureID) = true := by
  by_contra hd
  unfold openCapture at h
  split at h
  · cases h
  · simp [hk, Bool.eq_false_iff.mpr hd, ReadOptions.all] at h

theorem reads_congr {opts : ReadOptions} {s' : Store} (hdir : b.kind = .filesystem →
      dirExists s' (basePath b.root opts.captureID) = dirExists s (basePath b.root opts.captureID))
    (h : ∀ k, lists b opts k = true → s'.get k = s.get k) :
    reads J b s' opts = reads J b s opts := by
  have hopen : openCapture b s' none opts = (openCapture b s none opts).map fun _ =>
      listing b s' opts := by
    simp only [openCapture]
    by_cases hk : b.kind = .filesystem
    · rw [hdir hk]
      split <;> rfl
    · simp [hk, Except.map]
  have hdrain := drain_listing_congr J (nounOf b.kind) (fun _ => .none) h
  rw [reads, reads, readCapture, readCapture, hopen]
  cases ho : openCapture b s none opts with
  | error err => rfl
  | ok objects =>
      rw [openCapture_ok ho]
      simp only [Except.map, hdrain]

/-- The whole effect of a run that got as far as its manifests. -/
theorem Finished.publishes {run : ReaderRun} {p : Pass} {w w₁ : World} {r : Except Error Unit}
    (h : Finished env (commandFactory b) J captureID n run p w w₁)
    (hput : putManifests env (commandFactory b) M captureID (sliceCount n) p (env.now w₁.clock)
      (List.range (sliceCount n)) w₁.tick = (r, w')) :
    Publishes (commandFactory b) captureID n w w' := by
  have hman := manifests_putManifests (fun i hi => List.mem_range.mp hi) hput
  refine (h.writes.mono (fun _ hi => hi) fun k hk => Or.inl hk).trans ?_
  refine (Effect.tick w₁).trans (hman.effect.mono (fun _ hi => hi) fun k hk => Or.inr hk)

/-- A run that read nothing logs nothing. -/
theorem Finished.log_eq_nil {run : ReaderRun} {p : Pass} {w w₁ : World}
    (h : Finished env (commandFactory b) J captureID n run p w w₁) (hlog : w.log = [])
    (hnil : run.reqs = []) : w₁.log = [] := by
  refine List.eq_nil_iff_forall_not_mem.mpr fun q hq => ?_
  obtain ⟨i, hi, hmem⟩ := h.mem_log hlog hq
  obtain ⟨uploads, hup, _, hne, hpart⟩ := h.holds i hi
  cases uploads with
  | nil =>
      rw [hup] at hmem
      cases hmem
  | cons u rest =>
      rw [hnil] at hpart
      simp only [List.flatMap_cons, slicePart, List.filter_nil, List.append_eq_nil_iff] at hpart
      exact hne u (List.mem_cons_self ..) hpart.1

/-- What a listing of the source returns is left alone. -/
theorem get_of_lists (hok : runCommand env J M renv b captureID n s = (.ok result, w'))
    (hc : (sourceRun J renv b captureID s).reqs = [] ∨ ¬ Nested b captureID)
    {opts : ReadOptions} (hopts : opts.captureID = captureID) {k : Str}
    (hl : lists b opts k = true) : w'.store.get k = s.get k := by
  have hu : Undisturbed J renv b captureID n s := hc.imp_right Or.inl
  rcases runCommand_cases hok hu with ⟨_, herr, _⟩ | ⟨_, hid, _, p, w₁, hfin, r, hput, _⟩
  · cases herr
  · have hman := manifests_putManifests (fun i hi => List.mem_range.mp hi) hput
    have hnm : ¬ IsSliceManifest (commandFactory b) captureID n k := by
      intro hm
      rw [not_lists_manifest opts hid hm] at hl
      cases hl
    rw [hman.effect.frame k hnm]
    rcases hc with hnil | hnest
    · refine hfin.stored.rest k fun q hq => ?_
      rw [hfin.log_eq_nil rfl hnil] at hq
      cases hq
    · exact hfin.writes.frame k fun hd => hnest (nested_of_lists hopts hid hd hl)

theorem sourceKept_of_unlisted (hok : runCommand env J M renv b captureID n s = (.ok result, w'))
    (hc : (sourceRun J renv b captureID s).reqs = [] ∨ ¬ Nested b captureID) :
    SourceKept J b captureID s w'.store := by
  intro opts hopts
  refine reads_congr ?_ fun k hl => get_of_lists hok hc hopts hl
  intro hk
  rcases runCommand_cases hok (hc.imp_right Or.inl) with
    ⟨_, herr, _⟩ | ⟨_, _, hopen, p, w₁, hfin, r, hput, _⟩
  · cases herr
  · -- the directory existed when the run opened its reader
    have hdir := dirExists_of_open hopen hk
    rw [hopts, hdir]
    exact dirExists_of_effect (hfin.publishes hput) hdir

/-! ## When they are listed and hold something -/

theorem not_cut_all (id : Str) (m : Nat) (reqs : List CapturedRequest) :
    ¬ Cut (.all id) m reqs := by
  simp [Cut, ReadOptions.all]

theorem matching_all (id : Str) (reqs : List CapturedRequest) : matching (.all id) reqs = reqs :=
  List.filter_eq_self.mpr fun req _ => matchesReadOptions_all req id

theorem length_flatMap_le {α β : Type} {l l' : List α} (f : α → List β) (hnd : l.Nodup)
    (h : l ⊆ l') : (l.flatMap f).length ≤ (l'.flatMap f).length := by
  obtain ⟨t, hperm, hsub⟩ := List.subperm_of_subset hnd h
  rw [← (hperm.flatMap_right f).length_eq]
  exact (hsub.flatMap f).length_le

theorem scanError_ne_done (noun : String) (key : Str) :
    scanError noun key errTooLong ≠ errReaderDone := by
  intro h
  have hc : [Sentinel.tooLong] = [Sentinel.readerDone] := congrArg Err.chain h
  cases hc

theorem reads_all (hdir : b.kind = .filesystem → dirExists s (basePath b.root captureID) = true) :
    reads J b s (.all captureID)
      = .ok (stored J (nounOf b.kind) (fetchFrom s fun _ => .none) (listing b s (.all captureID)),
          (firstFailure (nounOf b.kind) (fetchFrom s fun _ => .none)
            (listing b s (.all captureID))).getD errReaderDone) := by
  have hopen : openCapture b s none (.all captureID) = .ok (listing b s (.all captureID)) := by
    simp only [openCapture]
    by_cases hk : b.kind = .filesystem
    · simp [hdir hk, ReadOptions.all]
    · simp [hk]
  have hnc := not_cut_all captureID 0 (matching (.all captureID) (stored J (nounOf b.kind)
    (fetchFrom s fun _ => .none) (listing b s (.all captureID))))
  obtain ⟨hreqs, hlast, _⟩ := drainObjects_of_not_cut _ 0 hnc
  rw [matching_all] at hreqs
  simp only [reads, readCapture, hopen, Except.map, drain, hreqs, hlast]

variable {run : ReaderRun} {p : Pass} {w₁ : World} {k : Str}

/-- What is listed is as it was, or a chunk of the run. -/
theorem FreshRun.fetch_cases (h : FreshRun env J M b captureID n run p s w₁ w')
    (hk : k ∈ listing b w'.store (.all captureID)) :
    fetchFrom w'.store (fun _ => .none) k = fetchFrom s (fun _ => .none) k
        ∧ k ∈ listing b s (.all captureID)
      ∨ ∃ chunk, fetchFrom w'.store (fun _ => .none) k = .ok (.gzip (encode J chunk) none)
        ∧ ∀ req ∈ chunk, Decoded J req := by
  obtain ⟨hsome, hl⟩ := mem_listing.mp hk
  rw [h.get_listed hl] at hsome
  rcases h.finished.get_cases h.id rfl k with hold | ⟨i, _, ts, seq, chunk, _, hnew, hsub⟩
  · rw [hold] at hsome
    exact Or.inl ⟨fetchFrom_congr ((h.get_listed hl).trans hold), mem_listing.mpr ⟨hsome, hl⟩⟩
  · refine Or.inr ⟨chunk, ?_, fun req hreq => ?_⟩
    · simp [fetchFrom, h.get_listed hl, hnew, arrives]
    · exact h.decoded req (List.mem_of_mem_filter (hsub req hreq))

/-- What was listed before is still there. -/
theorem FreshRun.fetch_before (h : FreshRun env J M b captureID n run p s w₁ w')
    (hk : k ∈ listing b s (.all captureID)) :
    fetchFrom w'.store (fun _ => .none) k = fetchFrom s (fun _ => .none) k
      ∧ k ∈ listing b w'.store (.all captureID) := by
  obtain ⟨hsome, hl⟩ := mem_listing.mp hk
  rcases h.finished.get_cases h.id rfl k with heq | ⟨i, hi, ts, seq, _, rfl, _, _⟩
  · have heq' : w'.store.get k = s.get k := (h.get_listed hl).trans heq
    exact ⟨fetchFrom_congr heq', mem_listing.mpr ⟨by rw [heq']; exact hsome, hl⟩⟩
  · rw [h.fresh.get_eq_none h.id h.nested (isSliceData_dataKey h.id hi ts seq)] at hsome
    cases hsome

/-- A readable source stays so, unless a line of a chunk is too long. -/
theorem FreshRun.failure_after (h : FreshRun env J M b captureID n run p s w₁ w')
    (hr : Readable b captureID s) {err : Error}
    (herr : firstFailure (nounOf b.kind) (fetchFrom w'.store fun _ => .none)
      (listing b w'.store (.all captureID)) = some err) : err ≠ errReaderDone := by
  obtain ⟨k, hk, herr⟩ := List.exists_of_findSome?_eq_some herr
  rcases h.fetch_cases hk with ⟨hold, hkl⟩ | ⟨chunk, hnew, hdec⟩
  · have hnone := List.findSome?_eq_none_iff.mp hr k hkl
    rw [objectFailure_congr hold, hnone] at herr
    cases herr
  · rw [objectFailure_chunk hnew hdec] at herr
    split at herr
    · cases herr
    · cases herr
      exact scanError_ne_done _ _

/-- **A run that read a request adds to what its source lists.** -/
theorem FreshRun.length_lt (h : FreshRun env J M b captureID n run p s w₁ w') (hn : 2 ≤ n)
    (hne : run.reqs ≠ [])
    (hff : firstFailure (nounOf b.kind) (fetchFrom w'.store fun _ => .none)
      (listing b w'.store (.all captureID)) = none) :
    ((listing b s (.all captureID)).flatMap (objectRequests J (fetchFrom s fun _ => .none))).length
      < ((listing b w'.store (.all captureID)).flatMap
          (objectRequests J (fetchFrom w'.store fun _ => .none))).length := by
  obtain ⟨req, hreq⟩ := List.exists_mem_of_ne_nil _ hne
  have hi := sliceOf_lt (Int64.le_trans (by decide) hn) req
  have hpart : slicePart n run.reqs (sliceOf n req) ≠ [] :=
    List.ne_nil_of_mem (List.mem_filter.mpr ⟨hreq, decide_eq_true rfl⟩)
  obtain ⟨ts, seq, chunk, hnew, hcne, hsub⟩ := h.finished.exists_chunk h.id rfl hi hpart
  have hlk := lists_source (n := n) (i := sliceOf n req) h.id h.nested ts seq
  have hmem : dataKey b captureID n (sliceOf n req) ts seq ∈ listing b w'.store (.all captureID) :=
    mem_listing.mpr ⟨by rw [h.get_listed hlk, hnew]; rfl, hlk⟩
  have hnot : dataKey b captureID n (sliceOf n req) ts seq ∉ listing b s (.all captureID) := by
    intro hk
    have hsome := (mem_listing.mp hk).1
    rw [h.fresh.get_eq_none h.id h.nested (isSliceData_dataKey h.id hi ts seq)] at hsome
    cases hsome
  -- the chunk is read back, since nothing fails
  have hfetch : fetchFrom w'.store (fun _ => .none) (dataKey b captureID n (sliceOf n req) ts seq)
      = .ok (.gzip (encode J chunk) none) := by
    simp [fetchFrom, h.get_listed hlk, hnew, arrives]
  have hdec : ∀ r ∈ chunk, Decoded J r := fun r hr =>
    h.decoded r (List.mem_of_mem_filter (hsub r hr))
  have hread : objectRequests J (fetchFrom w'.store fun _ => .none)
      (dataKey b captureID n (sliceOf n req) ts seq) = chunk := by
    have hnone := List.findSome?_eq_none_iff.mp hff _ hmem
    rw [objectFailure_chunk hfetch hdec] at hnone
    split at hnone
    · rename_i hfit
      exact objectRequests_chunk hfetch hdec hfit
    · cases hnone
  have hcongr : (listing b s (.all captureID)).flatMap
        (objectRequests J (fetchFrom w'.store fun _ => .none))
      = (listing b s (.all captureID)).flatMap (objectRequests J (fetchFrom s fun _ => .none)) :=
    List.flatMap_congr fun k hk => objectRequests_congr (h.fetch_before hk).1
  have hle := length_flatMap_le (objectRequests J (fetchFrom w'.store fun _ => .none))
    (List.nodup_cons.mpr ⟨hnot, nodup_listing ..⟩)
    (List.cons_subset.mpr ⟨hmem, fun k hk => (h.fetch_before hk).2⟩)
  rw [List.flatMap_cons, List.length_append, hread, hcongr] at hle
  have hpos := List.length_pos_of_ne_nil hcne
  omega

/-- **Readers see requests twice after a run on a fresh layout.** -/
theorem not_sourceKept (hok : runCommand env J M renv b captureID n s = (.ok result, w'))
    (hf : Fresh b captureID n s) (hr : Readable b captureID s) (hnest : Nested b captureID)
    (hne : (sourceRun J renv b captureID s).reqs ≠ []) : ¬ SourceKept J b captureID s w'.store := by
  intro hkept
  rcases runCommand_cases hok (Or.inr (Or.inr hf)) with
    ⟨_, herr, _⟩ | ⟨hn, hid, hopen, p, w₁, hfin, r, hput, _⟩
  · cases herr
  have hrun : FreshRun env J M b captureID n (sourceRun J renv b captureID s) p s w₁ w' :=
    ⟨hid, hf, hnest, hfin, ⟨r, hput⟩, fun _ hreq => decoded_of_mem_drain hreq⟩
  have hdir := dirExists_of_open hopen
  have hsame := hkept (.all captureID) rfl
  rw [reads_all hdir,
    reads_all fun hk => dirExists_of_effect (hfin.publishes hput) (hdir hk), hr] at hsame
  simp only [Except.ok.injEq, Prod.mk.injEq, Option.getD_none] at hsame
  obtain ⟨hreqs, hlast⟩ := hsame
  cases hff : firstFailure (nounOf b.kind) (fetchFrom w'.store fun _ => .none)
      (listing b w'.store (.all captureID)) with
  | some err =>
      rw [hff] at hlast
      exact hrun.failure_after hr hff hlast
  | none =>
      have hlt := hrun.length_lt hn hne hff
      rw [← stored_eq hff, ← stored_eq hr, hreqs] at hlt
      exact Nat.lt_irrefl _ hlt

/--
**When presharding leaves its source alone.** It does if the run read nothing, or if
the source's listing does not come to the slices, which takes a bucket and a literal
prefix that is not clean. On a fresh layout whose source can be read, those are the
only cases.
-/
theorem sourceKept_iff (env : Env) (J : Codec) (M : ManifestCodec) (renv : ReadEnv) (b : Backend)
    (captureID : Str) (n : Int64) (s : Store) (result : PreshardResult) (w' : World)
    (hok : runCommand env J M renv b captureID n s = (.ok result, w')) :
    ((sourceRun J renv b captureID s).reqs = [] ∨ ¬ Nested b captureID →
        SourceKept J b captureID s w'.store)
      ∧ (Fresh b captureID n s → Readable b captureID s →
          (SourceKept J b captureID s w'.store
            ↔ (sourceRun J renv b captureID s).reqs = [] ∨ ¬ Nested b captureID)) := by
  refine ⟨sourceKept_of_unlisted hok, fun hf hr => ⟨fun hkept => ?_, sourceKept_of_unlisted hok⟩⟩
  by_contra hc
  rw [not_or, not_not] at hc
  exact not_sourceKept hok hf hr hc.2 hc.1 hkept

/-! ## A capture of one request -/

def oneRequest : CapturedRequest := ⟨lit "a", 0, lit "GET", lit "/", [], [], 0, lit "HTTP/1.1", []⟩

def oneCodec : Codec :=
  .ofTable [(oneRequest, plainLine oneRequest)] (by decide +kernel) (by decide +kernel)

/-- Uploads that all succeed, on the third of January 2026. -/
def dayEnv : Env := ⟨fun _ => 739618 * dayDuration, fun _ => .stored⟩

/-- A volume with that capture, in one file. -/
def oneFileStore : Store :=
  let key := lit "/data/default/checkout/2026-01-02/agent-0-000001.jsonl.gz"
  (Store.empty.mkdirAll (dirOf key)).put key (.gz (.gzip (encode oneCodec [oneRequest]) none))

/-- The run that splits it in two. -/
def oneRun : Except Error PreshardResult × World :=
  runCommand dayEnv oneCodec .counts ⟨none, fun _ => .none⟩ ⟨.filesystem, lit "/data"⟩
    (lit "default/checkout") 2 oneFileStore

theorem sourceKept_iff_one :
    SourceKept oneCodec ⟨.filesystem, lit "/data"⟩ (lit "default/checkout") oneFileStore
        oneRun.2.store
      ↔ (sourceRun oneCodec ⟨none, fun _ => .none⟩ ⟨.filesystem, lit "/data"⟩
            (lit "default/checkout") oneFileStore).reqs = []
          ∨ ¬ Nested ⟨.filesystem, lit "/data"⟩ (lit "default/checkout") :=
  (sourceKept_iff dayEnv oneCodec .counts ⟨none, fun _ => .none⟩ ⟨.filesystem, lit "/data"⟩
    (lit "default/checkout") 2 oneFileStore ⟨1, [1, 0]⟩ oneRun.2
    (Prod.ext (by decide +kernel) rfl)).2
    (by unfold Fresh; decide +kernel) (by unfold Readable; decide +kernel)

/-- **Its one request is read twice** afterwards. -/
theorem one_request_read_twice :
    oneRun.1 = .ok ⟨1, [1, 0]⟩
      ∧ reads oneCodec ⟨.filesystem, lit "/data"⟩ oneFileStore (.all (lit "default/checkout"))
        = .ok ([oneRequest], errReaderDone)
      ∧ reads oneCodec ⟨.filesystem, lit "/data"⟩ oneRun.2.store (.all (lit "default/checkout"))
        = .ok ([oneRequest, oneRequest], errReaderDone) := by
  decide +kernel

end Kapture.Dataset
