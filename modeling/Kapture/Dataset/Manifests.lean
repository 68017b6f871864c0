import Kapture.Dataset.SliceOrder
import Kapture.Dataset.SourceKept

/-!
# A manifest stands for a complete slice

A run stores its manifests last, so a slice with a manifest is complete when the run
started from nothing. It is not when slices already hold objects: nothing is ever
removed, names carry the date of the run, and the slices lie where the next run
looks for its source. The invariant is about sequences of runs that may each fail
anywhere, with the condition checked before each run.
-/

namespace Kapture.Dataset

open Go Path Storage Replay

variable {env : Env} {J : Codec} {M : ManifestCodec} {renv : ReadEnv} {b : Backend}
  {captureID : Str} {n : Int64} {s s₀ : Store} {w' : World}

/-- The requests of a capture, in the order of its objects. -/
def captured (J : Codec) (b : Backend) (captureID : Str) (s : Store) : List CapturedRequest :=
  (listing b s (.all captureID)).flatMap (objectRequests J (fetchFrom s fun _ => .none))

/-- The manifest of slice `i`, if it has one. -/
def manifestOf (M : ManifestCodec) (b : Backend) (captureID : Str) (n : Int64) (i : Nat)
    (s : Store) : Option Manifest :=
  match s.get (b.manifestName (sliceID captureID n i)) with
  | some (.raw bytes) => (parseManifest M bytes).toOption
  | _ => none

/-- Slice `i` of `s` reads back as its part of the capture in `s₀`, and the manifest
counts it. -/
def SliceComplete (J : Codec) (b : Backend) (captureID : Str) (n : Int64) (s₀ s : Store) (i : Nat)
    (m : Manifest) : Prop :=
  reads J b s (.all (sliceID captureID n i))
      = .ok (slicePart n (captured J b captureID s₀) i, errReaderDone)
    ∧ m.recordCount = (slicePart n (captured J b captureID s₀) i).length

/-- Every slice with a manifest is complete. -/
def ManifestsHold (J : Codec) (M : ManifestCodec) (b : Backend) (captureID : Str) (n : Int64)
    (s₀ s : Store) : Prop :=
  ∀ i, i < sliceCount n → ∀ m, manifestOf M b captureID n i s = some m →
    SliceComplete J b captureID n s₀ s i m

/-- No slice has a manifest. -/
def Bare (b : Backend) (captureID : Str) (n : Int64) (s : Store) : Prop :=
  ∀ i, i < sliceCount n → s.get (b.manifestName (sliceID captureID n i)) = none

/-- What a run needs. -/
structure RunCond (J : Codec) (b : Backend) (captureID : Str) (n : Int64) (env : Env)
    (renv : ReadEnv) (s : Store) : Prop where
  /-- Nothing is stored under a slice. -/
  fresh : Fresh b captureID n s
  bare : Bare b captureID n s
  /-- Readers find what is stored under a slice. -/
  nested : Nested b captureID
  /-- No failing object passes for the end of the capture. -/
  noFalseEnd : NoFalseEnd J (nounOf b.kind) (.all captureID) (fetchFrom s renv.fault)
    (listing b s (.all captureID))
  order : InOrder env J (captured J b captureID s)

/-- A store after runs that each met the condition, whatever came of them. -/
inductive Reached (J : Codec) (M : ManifestCodec) (b : Backend) (captureID : Str) (n : Int64)
    (s₀ : Store) : Store → Prop
  | start : Reached J M b captureID n s₀ s₀
  | run {s : Store} (env : Env) (renv : ReadEnv) : Reached J M b captureID n s₀ s →
      RunCond J b captureID n env renv s →
      Reached J M b captureID n s₀ (runCommand env J M renv b captureID n s).2.store

/-! ## What a finished run read -/

/-- An object that does not fail arrived as it is stored. -/
theorem fetch_of_no_failure {noun : String} {fault : Str → ReadFault} {key : Str}
    (h : objectFailure noun (fetchFrom s fault) key = none) :
    fetchFrom s fault key = fetchFrom s (fun _ => .none) key := by
  cases hfl : fault key with
  | none => simp [fetchFrom, hfl]
  | fail err =>
      have hf : fetchFrom s fault key = .error err := by simp [fetchFrom, hfl]
      simp [objectFailure, openObject, hf] at h
  | cut m err =>
      cases hg : s.get key with
      | none => simp [fetchFrom, hfl, hg]
      | some obj =>
          cases obj with
          | raw bytes => cases bytes <;> simp [fetchFrom, hfl, hg]
          | gz payload =>
              cases payload with
              | empty => simp [fetchFrom, hfl, hg, arrives]
              | notGzip e => simp [fetchFrom, hfl, hg, arrives]
              | gzip data tail =>
                  -- a stream that breaks off is a failure
                  have hf : fetchFrom s fault key
                      = .ok (.gzip (data.take m) (some (noEOF err))) := by
                    simp [fetchFrom, hfl, hg, arrives]
                  have hne : noEOF err ≠ eof := by
                    unfold noEOF
                    split
                    · decide
                    · assumption
                  simp only [objectFailure, openObject, hf, gzipNewReader, lineFailure, scannerErr,
                    Option.some.injEq, hne, if_false] at h
                  split at h
                  · cases h
                  · cases h

/-- A run that came to the end of the capture met no failure. -/
theorem firstFailure_of_end
    (hc : NoFalseEnd J (nounOf b.kind) (.all captureID) (fetchFrom s renv.fault)
      (listing b s (.all captureID)))
    (hend : endOfCapture (sourceRun J renv b captureID s).last = true) :
    firstFailure (nounOf b.kind) (fetchFrom s renv.fault) (listing b s (.all captureID))
      = none := by
  have hnc := not_cut_all captureID 0 (matching (.all captureID) (stored J (nounOf b.kind)
    (fetchFrom s renv.fault) (listing b s (.all captureID))))
  obtain ⟨_, hlast, _⟩ := drainObjects_of_not_cut _ 0 hnc
  cases hff : firstFailure (nounOf b.kind) (fetchFrom s renv.fault)
      (listing b s (.all captureID)) with
  | none => rfl
  | some err =>
      rw [sourceRun, drain, hlast, hff, Option.getD_some] at hend
      rcases hc err hff with h | h
      · rw [endOfCapture_eq_false.mpr h] at hend
        cases hend
      · simp [ReadOptions.limitReached, ReadOptions.all] at h

/-- **A run that came to the end of the capture read all of it.** -/
theorem reqs_eq_captured
    (hff : firstFailure (nounOf b.kind) (fetchFrom s renv.fault) (listing b s (.all captureID))
      = none) : (sourceRun J renv b captureID s).reqs = captured J b captureID s := by
  have hnc := not_cut_all captureID 0 (matching (.all captureID) (stored J (nounOf b.kind)
    (fetchFrom s renv.fault) (listing b s (.all captureID))))
  obtain ⟨hreqs, _, _⟩ := drainObjects_of_not_cut _ 0 hnc
  rw [matching_all] at hreqs
  rw [sourceRun, drain, hreqs, stored_eq hff, captured]
  refine List.flatMap_congr fun k hk => objectRequests_congr ?_
  exact fetch_of_no_failure (List.findSome?_eq_none_iff.mp hff k hk)

theorem readable_of_no_failure
    (hff : firstFailure (nounOf b.kind) (fetchFrom s renv.fault) (listing b s (.all captureID))
      = none) : Readable b captureID s := by
  refine List.findSome?_eq_none_iff.mpr fun k hk => ?_
  have hk' := List.findSome?_eq_none_iff.mp hff k hk
  rw [← hk']
  exact (objectFailure_congr (fetch_of_no_failure hk')).symm

/-! ## One run -/

theorem manifestName_not_data (hid : captureID ≠ []) {i : Nat} :
    ¬ IsSliceData (commandFactory b) captureID n (b.manifestName (sliceID captureID n i)) := by
  intro h
  obtain ⟨j, _, ts, seq, hk⟩ := isSliceData_key hid h
  rw [manifestName_slice hid] at hk
  have := (sliceKey_inj (by decide) (normal_dataKey ts seq) hk).2
  simp at this

theorem manifestName_inj (hid : captureID ≠ []) {i j : Nat}
    (h : b.manifestName (sliceID captureID n i) = b.manifestName (sliceID captureID n j)) :
    i = j := by
  rw [manifestName_slice hid, manifestName_slice hid] at h
  exact (sliceKey_inj (by decide) (by decide) h).1

/-- A manifest makes the directory of its slice. -/
theorem dirExists_of_manifest (hid : captureID ≠ []) {i : Nat}
    (h : (s.get (b.manifestName (sliceID captureID n i))).isSome) (hk : b.kind = .filesystem) :
    dirExists s (basePath b.root (sliceID captureID n i)) = true := by
  have hsel : selects b (sliceID captureID n i) (sliceKey b captureID n i [manifestObjectName])
      = true := (selects_slice hid (by decide) (by simp)).mpr ⟨Or.inl hk, rfl⟩
  rw [selects, hk] at hsel
  simp only [dirExists, Bool.or_eq_true, List.any_eq_true]
  exact Or.inr ⟨_, Store.mem_keys_iff.mpr h, by rw [manifestName_slice hid]; exact hsel⟩

variable {run : ReaderRun} {p : Pass} {w₁ : World} {i : Nat} {m : Manifest}

theorem manifestOf_some (h : manifestOf M b captureID n i s = some m) :
    ∃ bytes, s.get (b.manifestName (sliceID captureID n i)) = some (.raw bytes)
      ∧ M.unmarshal bytes = .ok m := by
  unfold manifestOf at h
  split at h
  · rename_i bytes hb
    refine ⟨bytes, hb, ?_⟩
    unfold parseManifest at h
    split at h
    · cases h
    · rename_i m' hm
      split at h
      · cases h
      · cases h
        exact hm
  · cases h

/-- **A manifest that a run left counts the slice.** One that broke off does not
decode. -/
theorem FreshRun.recordCount (h : FreshRun env J M b captureID n run p s w₁ w')
    (hbare : Bare b captureID n s) (hi : i < sliceCount n)
    (hm : manifestOf M b captureID n i w'.store = some m) :
    m.recordCount = (slicePart n run.reqs i).length := by
  obtain ⟨bytes, hget, hdec⟩ := manifestOf_some hm
  obtain ⟨r, hput⟩ := h.manifests
  have hman := manifests_putManifests (fun i hi => List.mem_range.mp hi) hput
  rcases hman.left (b.manifestName (sliceID captureID n i))
    with heq | ⟨j, hj, hkey, full, hfull, hleft⟩
  · have hw : w₁.store.get (b.manifestName (sliceID captureID n i)) = none :=
      (h.finished.writes.frame _ (manifestName_not_data h.id)).trans (hbare i hi)
    rw [heq] at hget
    cases hw.symm.trans hget
  · obtain rfl : i = j := manifestName_inj h.id hkey
    have hbytes : bytes = full := by
      rcases hleft with hleft | ⟨k, hleft⟩
      · rw [hleft] at hget
        cases hget
        rfl
      · rw [hleft] at hget
        cases hget
        exact M.whole _ full k m hfull hdec
    subst hbytes
    rw [(M.recordCount _ bytes m hfull hdec).1]
    simp only [sliceManifest, List.getD_eq_getElem?_getD, h.finished.inv.counts i hi,
      Option.getD_some]

/-- **One run that meets the condition**, whatever comes of it. -/
theorem manifestsHold_run (hc : RunCond J b captureID n env renv s)
    (hcap : captured J b captureID s = captured J b captureID s₀) :
    ManifestsHold J M b captureID n s₀ (runCommand env J M renv b captureID n s).2.store := by
  intro i hi m hm
  by_cases hid : captureID = []
  · subst hid
    obtain ⟨bytes, hget, _⟩ := manifestOf_some hm
    rw [runCommand_nil] at hget
    cases (hc.bare i hi).symm.trans hget
  rcases runCommand_cases (Prod.eta _).symm (Or.inr (Or.inr hc.fresh)) with
    ⟨_, _, hw⟩ | ⟨_, _, _, p, w₁, hfin, r, hput, _⟩
  · -- nothing but data was written, so there is still no manifest
    obtain ⟨bytes, hget, _⟩ := manifestOf_some hm
    rw [hw.frame _ (manifestName_not_data hid)] at hget
    cases (hc.bare i hi).symm.trans hget
  · have hrun : FreshRun env J M b captureID n (sourceRun J renv b captureID s) p s w₁
        (runCommand env J M renv b captureID n s).2 :=
      ⟨hid, hc.fresh, hc.nested, hfin, ⟨r, hput⟩, fun _ hreq => decoded_of_mem_drain hreq⟩
    have hreqs := reqs_eq_captured (J := J) (firstFailure_of_end hc.noFalseEnd hfin.ended)
    obtain ⟨hread, hnone⟩ := hrun.slice_reads (hreqs ▸ hc.order) hi
    have hcount := hrun.recordCount hc.bare hi hm
    rw [hreqs, hcap] at hread hcount
    refine ⟨?_, hcount⟩
    obtain ⟨bytes, hget, _⟩ := manifestOf_some hm
    rw [reads_all (dirExists_of_manifest hid (by rw [hget]; rfl)), hnone, stored_eq hnone, hread]
    rfl

/-! ## Sequences of runs -/

/-- What runs leave alone: everything outside the slices, and every key that exists. -/
structure SameSource (b : Backend) (captureID : Str) (n : Int64) (s₀ s : Store) : Prop where
  frame : ∀ k, ¬ IsSliceData (commandFactory b) captureID n k →
    ¬ IsSliceManifest (commandFactory b) captureID n k → s.get k = s₀.get k
  kept : ∀ k, (s₀.get k).isSome → (s.get k).isSome

/-- **The capture is what it was**, before every run. -/
theorem captured_eq (hs : SameSource b captureID n s₀ s) (hid : captureID ≠ [])
    (hf : Fresh b captureID n s) (hnest : Nested b captureID) :
    captured J b captureID s = captured J b captureID s₀ := by
  have hget : ∀ k, lists b (.all captureID) k = true → s.get k = s₀.get k := by
    intro k hl
    by_cases hd : IsSliceData (commandFactory b) captureID n k
    · have hnone := hf.get_eq_none hid hnest hd
      rw [hnone]
      cases h₀ : s₀.get k with
      | none => rfl
      | some obj =>
          have := hs.kept k (by rw [h₀]; rfl)
          rw [hnone] at this
          cases this
    · refine hs.frame k hd fun hm => ?_
      rw [not_lists_manifest _ hid hm] at hl
      cases hl
  have hlist : listing b s (.all captureID) = listing b s₀ (.all captureID) :=
    listing_congr fun k hl => by rw [hget k hl]
  rw [captured, captured, hlist]
  refine List.flatMap_congr fun k hk => objectRequests_congr (fetchFrom_congr (hget k ?_))
  exact (mem_listing.mp hk).2

theorem SameSource.after (hs : SameSource b captureID n s₀ s) (hf : Fresh b captureID n s) :
    SameSource b captureID n s₀ (runCommand env J M renv b captureID n s).2.store := by
  have he : Publishes (commandFactory b) captureID n (startWorld s)
      (runCommand env J M renv b captureID n s).2 := by
    rcases runCommand_cases (Prod.eta (runCommand env J M renv b captureID n s)).symm
        (Or.inr (Or.inr hf)) with ⟨_, _, hw⟩ | ⟨_, _, _, p, w₁, hfin, r, hput, _⟩
    · exact hw.mono (fun _ hi => hi) fun k hk => Or.inl hk
    · exact hfin.publishes hput
  refine ⟨fun k hd hm => ?_, fun k hk => he.kept k (hs.kept k hk)⟩
  rw [he.frame k fun h => h.elim hd hm]
  exact hs.frame k hd hm

/--
**A manifest implies a complete slice**, in every store reached from one without
manifests by runs that each meet the condition: each slice that has a manifest reads
back exactly its part of the source capture, once and in order, and the manifest
counts it.
-/
theorem manifest_implies_complete (J : Codec) (M : ManifestCodec) (b : Backend) (captureID : Str)
    (n : Int64) (s₀ s : Store) (hinit : Bare b captureID n s₀)
    (h : Reached J M b captureID n s₀ s) : ManifestsHold J M b captureID n s₀ s := by
  have key : SameSource b captureID n s₀ s ∧ ManifestsHold J M b captureID n s₀ s := by
    induction h with
    | start =>
        refine ⟨⟨fun _ _ _ => rfl, fun _ hk => hk⟩, fun i hi m hm => ?_⟩
        obtain ⟨bytes, hget, _⟩ := manifestOf_some hm
        cases (hinit i hi).symm.trans hget
    | run env renv _ hc ih =>
        refine ⟨ih.1.after hc.fresh, ?_⟩
        by_cases hid : captureID = []
        · subst hid
          rw [runCommand_nil]
          exact ih.2
        · exact manifestsHold_run hc (captured_eq ih.1 hid hc.fresh hc.nested)
  exact key.2

/-! ## A capture of four requests -/

def busyRequest (id method : String) : CapturedRequest :=
  ⟨lit id, 0, lit method, lit "/", [], [], 0, lit "HTTP/1.1", []⟩

def busyCapture : List CapturedRequest :=
  [busyRequest "a" "GET", busyRequest "b" "PUT", busyRequest "c" "GET", busyRequest "d" "DELETE"]

def busyCodec : Codec :=
  .ofTable (busyCapture.map fun req => (req, plainLine req)) (by decide +kernel) (by decide +kernel)

/-- Two agents have stored two of them each. -/
def busyStore : Store :=
  let key := fun agent : String => lit "/data/default/checkout/2026-01-02/" ++ lit agent
    ++ lit "-000001.jsonl.gz"
  let file := fun reqs => Object.gz (.gzip (encode busyCodec reqs) none)
  ((Store.empty.mkdirAll (dirOf (key "agent-0"))).put (key "agent-0")
    (file (busyCapture.take 2))).put
    (key "agent-1") (file (busyCapture.drop 2))

/-- Uploads that all succeed, on a day on which the clock is set back again and again. -/
def busyEnv : Env :=
  ⟨fun k => 739618 * dayDuration + if k % 2 = 0 then 1000000000 else 0, fun _ => .stored⟩

/-- The run that splits the capture in two. -/
def busyRun : Except Error PreshardResult × World :=
  runCommand busyEnv busyCodec .counts ⟨none, fun _ => .none⟩ ⟨.filesystem, lit "/data"⟩
    (lit "default/checkout") 2 busyStore

theorem runCond_busy :
    RunCond busyCodec ⟨.filesystem, lit "/data"⟩ (lit "default/checkout") 2 busyEnv
    ⟨none, fun _ => .none⟩ busyStore := by
  have hday : ∀ k, (busyEnv.now k).day = 739618 := by
    intro k
    unfold busyEnv
    dsimp only
    split <;> decide
  refine ⟨?_, ?_, Or.inl rfl, ?_, ?_⟩
  · unfold Fresh
    decide +kernel
  · unfold Bare
    decide +kernel
  · have h : firstFailure "file" (fetchFrom busyStore fun _ => .none)
        (listing ⟨.filesystem, lit "/data"⟩ busyStore (.all (lit "default/checkout"))) = none := by
      decide +kernel
    intro err herr
    cases h.symm.trans herr
  · refine ⟨fun k l _ => ?_, fun k => ?_, by decide +kernel, Or.inl (by decide +kernel)⟩
    · rw [hday, hday]
    · rw [hday]
      decide +kernel

theorem manifest_implies_complete_busy :
    busyRun.1 = .ok ⟨4, [2, 2]⟩ ∧ ManifestsHold busyCodec .counts ⟨.filesystem, lit "/data"⟩
      (lit "default/checkout") 2 busyStore busyRun.2.store := by
  refine ⟨by decide +kernel, ?_⟩
  unfold busyRun
  exact manifest_implies_complete _ _ _ _ _ _ _ (by unfold Bare; decide +kernel)
    (.run busyEnv ⟨none, fun _ => .none⟩ .start runCond_busy)

/-- The same run on the day after. -/
def rerun : Except Error PreshardResult × World :=
  runCommand ⟨fun _ => 739619 * dayDuration, fun _ => .stored⟩ oneCodec .counts
    ⟨none, fun _ => .none⟩ ⟨.filesystem, lit "/data"⟩ (lit "default/checkout") 2 oneRun.2.store

/-- **Two runs on two days.** The second one finds its source doubled by the first,
and adds its objects to those of the first: the manifest counts two requests, the
slice holds three, and the capture has one. -/
theorem rerun_breaks_slice :
    oneRun.1 = .ok ⟨1, [1, 0]⟩ ∧ rerun.1 = .ok ⟨2, [2, 0]⟩
      ∧ captured oneCodec ⟨.filesystem, lit "/data"⟩ (lit "default/checkout") oneFileStore
        = [oneRequest]
      ∧ (manifestOf .counts ⟨.filesystem, lit "/data"⟩ (lit "default/checkout") 2 0
          rerun.2.store).map (·.recordCount) = some 2
      ∧ reads oneCodec ⟨.filesystem, lit "/data"⟩ rerun.2.store
          (.all (sliceID (lit "default/checkout") 2 0))
        = .ok ([oneRequest, oneRequest, oneRequest], errReaderDone) := by
  decide +kernel

end Kapture.Dataset
