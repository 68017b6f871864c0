import Kapture.Dataset.Layout
import Kapture.Dataset.WholeCapture

/-!
# What a run of the command leaves in the store

The command reads and writes one store. A run that gets as far as its manifests
has stored each chunk of each slice under a key of its own, and the store is
otherwise as it was.
-/

namespace Kapture.Dataset

open Go Path Storage Replay

variable {env : Env} {J : Codec} {M : ManifestCodec} {b : Backend} {captureID : Str} {n : Int64}
  {run : ReaderRun} {p : Pass} {w w₁ : World} {i : Nat} {k : Str}

/-- The name of a data object of slice `i`. -/
def dataKey (b : Backend) (captureID : Str) (n : Int64) (i : Nat) (ts : Time) (seq : Nat) : Str :=
  sliceKey b captureID n i [dateOf ts, objectFileName (lit "kapture-preshard") seq]

theorem normal_dataKey (ts : Time) (seq : Nat) :
    ∀ e ∈ [dateOf ts, objectFileName (lit "kapture-preshard") seq], Normal e := by
  simp [normal_dateOf, normal_objectFileName]

theorem dataKey_inj {j : Nat} {ts ts' : Time} {seq seq' : Nat}
    (h : dataKey b captureID n i ts seq = dataKey b captureID n j ts' seq') :
    i = j ∧ dateOf ts = dateOf ts' ∧ seq = seq' := by
  obtain ⟨hij, hes⟩ := sliceKey_inj (normal_dataKey _ _) (normal_dataKey _ _) h
  simp only [List.cons.injEq, and_true] at hes
  exact ⟨hij, hes.1, objectFileName_inj hes.2⟩

theorem isSliceData_key (hid : captureID ≠ []) (h : IsSliceData (commandFactory b) captureID n k) :
    ∃ i, i < sliceCount n ∧ ∃ ts seq, k = dataKey b captureID n i ts seq := by
  obtain ⟨i, hi, ts, seq, rfl⟩ := h
  exact ⟨i, hi, ts, seq, objectName_slice hid i ts seq⟩

theorem isSliceData_dataKey (hid : captureID ≠ []) (hi : i < sliceCount n) (ts : Time) (seq : Nat) :
    IsSliceData (commandFactory b) captureID n (dataKey b captureID n i ts seq) :=
  ⟨i, hi, ts, seq, (objectName_slice hid i ts seq).symm⟩

theorem isSliceManifest_key (hid : captureID ≠ [])
    (h : IsSliceManifest (commandFactory b) captureID n k) :
    ∃ i, i < sliceCount n ∧ k = sliceKey b captureID n i [manifestObjectName] := by
  obtain ⟨i, hi, rfl⟩ := h
  exact ⟨i, hi, manifestName_slice hid i⟩

/-! ## Which of them a listing returns -/

theorem hasSuffix_dataKey (ts : Time) (seq : Nat) :
    (dataKey b captureID n i ts seq).hasSuffix dataSuffix = true := by
  rw [Str.hasSuffix_iff, dataKey, sliceKey_eq (by simp), join_cons _ (by simp),
    objectFileName_command]
  refine ⟨dirPrefix (capturePath b captureID) ++ (lit "shards" ++ Str.slash :: (sliceDir n i
    ++ Str.slash :: (dateOf ts ++ Str.slash :: (lit "kapture-preshard-" ++ padded 6 seq)))), ?_⟩
  simp [Str.join, dataSuffix]

theorem not_hasSuffix_manifest :
    (sliceKey b captureID n i [manifestObjectName]).hasSuffix dataSuffix = false := by
  rw [Bool.eq_false_iff]
  intro h
  obtain ⟨t, ht⟩ := Str.hasSuffix_iff.mp h
  have hlast := congrArg List.getLast? ht
  rw [sliceKey_eq (by simp), List.getLast?_append, List.getLast?_append, List.getLast?_append,
    List.getLast?_cons, List.getLast?_append, List.getLast?_cons] at hlast
  simp [dataSuffix, Str.join, manifestObjectName, lit] at hlast

theorem not_lists_manifest (opts : ReadOptions) (hid : captureID ≠ [])
    (h : IsSliceManifest (commandFactory b) captureID n k) : lists b opts k = false := by
  obtain ⟨i, _, rfl⟩ := isSliceManifest_key hid h
  simp [lists, not_hasSuffix_manifest]

theorem lists_all (id : Str) :
    lists b (.all id) k = true ↔ selects b id k = true ∧ k.hasSuffix dataSuffix = true := by
  simp [lists, ReadOptions.all, filterObjectByTime, Time.isZero]

variable {opts : ReadOptions}

theorem nested_of_lists (hopts : opts.captureID = captureID) (hid : captureID ≠ [])
    (h : IsSliceData (commandFactory b) captureID n k) (hl : lists b opts k = true) :
    Nested b captureID := by
  obtain ⟨i, _, ts, seq, rfl⟩ := isSliceData_key hid h
  simp only [lists, Bool.and_eq_true, hopts] at hl
  exact (selects_source hid (normal_dataKey _ _) (by simp)).mp hl.1.1

theorem lists_source (hid : captureID ≠ []) (hnest : Nested b captureID) (ts : Time) (seq : Nat) :
    lists b (.all captureID) (dataKey b captureID n i ts seq) = true :=
  (lists_all _).mpr ⟨(selects_source hid (normal_dataKey _ _) (by simp)).mpr hnest,
    hasSuffix_dataKey ..⟩

theorem lists_slice (hid : captureID ≠ []) {j : Nat} (ts : Time) (seq : Nat) :
    lists b (.all (sliceID captureID n i)) (dataKey b captureID n j ts seq) = true
      ↔ Nested b captureID ∧ i = j := by
  rw [lists_all, and_iff_left (hasSuffix_dataKey ..)]
  exact selects_slice hid (normal_dataKey _ _) (by simp)

/-- No slice holds anything yet. -/
def Fresh (b : Backend) (captureID : Str) (n : Int64) (s : Store) : Prop :=
  ∀ i, i < sliceCount n → listing b s (.all (sliceID captureID n i)) = []

theorem Fresh.get_eq_none {s : Store} (hf : Fresh b captureID n s) (hid : captureID ≠ [])
    (hnest : Nested b captureID) (h : IsSliceData (commandFactory b) captureID n k) :
    s.get k = none := by
  obtain ⟨i, hi, ts, seq, rfl⟩ := isSliceData_key hid h
  by_contra hs
  have hmem : dataKey b captureID n i ts seq ∈ listing b s (.all (sliceID captureID n i)) :=
    mem_listing.mpr ⟨Option.isSome_iff_ne_none.mpr hs, (lists_slice hid ts seq).mpr ⟨hnest, rfl⟩⟩
  rw [hf i hi] at hmem
  cases hmem

/-! ## The chunks -/

theorem Finished.mem_log (h : Finished env (commandFactory b) J captureID n run p w w₁)
    (hlog : w.log = []) {q : Put} (hq : q ∈ w₁.log) :
    ∃ i, i < sliceCount n ∧ q ∈ dataLog w₁ (sliceID captureID n i) := by
  obtain ⟨ps, hps, hI⟩ := h.writes.log
  rw [hlog, List.nil_append] at hps
  obtain ⟨i, hi, hqi⟩ := hI q (hps ▸ hq)
  exact ⟨i, hi, List.mem_filter.mpr ⟨hq, by simp [hqi, h.stored.data q hq]⟩⟩

/-- The key and the contents of an upload of a slice. -/
theorem mem_dataLog {uploads : List (Nat × List CapturedRequest)} {q : Put} (hid : captureID ≠ [])
    (hlog : dataLog w₁ (sliceID captureID n i)
      = uploads.mapIdx (chunkPut env (commandFactory b) J (sliceID captureID n i)))
    (hq : q ∈ dataLog w₁ (sliceID captureID n i)) :
    ∃ j u, (dataLog w₁ (sliceID captureID n i))[j]? = some q ∧ uploads[j]? = some u
      ∧ q.key = dataKey b captureID n i (env.now u.1) (j + 1)
      ∧ q.obj = .gz (.gzip (encode J u.2) none) := by
  obtain ⟨j, hj⟩ := List.mem_iff_getElem?.mp hq
  have hj' := hj
  rw [hlog, List.getElem?_mapIdx, Option.map_eq_some_iff] at hj'
  obtain ⟨u, hu, rfl⟩ := hj'
  exact ⟨j, u, hj, hu, objectName_slice hid i _ _, rfl⟩

/-- **Every chunk that was uploaded stands under its key.** -/
theorem Finished.get_chunk (h : Finished env (commandFactory b) J captureID n run p w w₁)
    (hid : captureID ≠ []) (hlog : w.log = []) (hi : i < sliceCount n) {q : Put}
    (hq : q ∈ dataLog w₁ (sliceID captureID n i)) : w₁.store.get q.key = some q.obj := by
  obtain ⟨q', hq', hkey, hget⟩ := h.stored.logged q (List.mem_of_mem_filter hq)
  obtain ⟨i', hi', hmem'⟩ := h.mem_log hlog hq'
  obtain ⟨uploads, hup, _⟩ := h.holds i hi
  obtain ⟨uploads', hup', _⟩ := h.holds i' hi'
  obtain ⟨j, u, hj, _, hk, _⟩ := mem_dataLog hid hup hq
  obtain ⟨j', u', hj', _, hk', _⟩ := mem_dataLog hid hup' hmem'
  -- the other upload of this key is the same one: slice and sequence number are in the key
  rw [hk, hk'] at hkey
  obtain ⟨rfl, _, hseq⟩ := dataKey_inj hkey
  obtain rfl : j' = j := Nat.succ.inj hseq
  obtain rfl : q' = q := Option.some.inj (hj'.symm.trans hj)
  exact hget

/-- **A run changes the store in its chunks only.** -/
theorem Finished.get_cases (h : Finished env (commandFactory b) J captureID n run p w w₁)
    (hid : captureID ≠ []) (hlog : w.log = []) (k : Str) :
    w₁.store.get k = w.store.get k
      ∨ ∃ i, i < sliceCount n ∧ ∃ ts seq chunk, k = dataKey b captureID n i ts seq
          ∧ w₁.store.get k = some (.gz (.gzip (encode J chunk) none))
          ∧ ∀ req ∈ chunk, req ∈ slicePart n run.reqs i := by
  by_cases hk : ∀ q ∈ w₁.log, q.key ≠ k
  · exact Or.inl (h.stored.rest k hk)
  · push Not at hk
    obtain ⟨q, hq, rfl⟩ := hk
    obtain ⟨i, hi, hmem⟩ := h.mem_log hlog hq
    obtain ⟨uploads, hup, _, _, hpart⟩ := h.holds i hi
    obtain ⟨j, u, _, hu, hkey, hobj⟩ := mem_dataLog hid hup hmem
    refine Or.inr ⟨i, hi, env.now u.1, j + 1, u.2, hkey, ?_, ?_⟩
    · rw [h.get_chunk hid hlog hi hmem, hobj]
    · intro req hreq
      rw [← hpart]
      exact List.mem_flatMap.mpr ⟨u, List.mem_of_getElem? hu, hreq⟩

/-- A slice with a request has a chunk with one. -/
theorem Finished.exists_chunk (h : Finished env (commandFactory b) J captureID n run p w w₁)
    (hid : captureID ≠ []) (hlog : w.log = []) (hi : i < sliceCount n)
    (hne : slicePart n run.reqs i ≠ []) :
    ∃ ts seq chunk, w₁.store.get (dataKey b captureID n i ts seq)
        = some (.gz (.gzip (encode J chunk) none))
      ∧ chunk ≠ [] ∧ ∀ req ∈ chunk, req ∈ slicePart n run.reqs i := by
  obtain ⟨uploads, hup, _, hnonempty, hpart⟩ := h.holds i hi
  cases uploads with
  | nil => exact absurd hpart.symm hne
  | cons u rest =>
      have hmem : chunkPut env (commandFactory b) J (sliceID captureID n i) 0 u
          ∈ dataLog w₁ (sliceID captureID n i) := by
        rw [hup, List.mapIdx_cons]
        exact List.mem_cons_self ..
      have hget := h.get_chunk hid hlog hi hmem
      have hkey : (chunkPut env (commandFactory b) J (sliceID captureID n i) 0 u).key
          = dataKey b captureID n i (env.now u.1) 1 := objectName_slice hid i _ _
      rw [hkey] at hget
      refine ⟨env.now u.1, 1, u.2, hget, hnonempty u (List.mem_cons_self ..), ?_⟩
      intro req hreq
      rw [← hpart]
      exact List.mem_flatMap.mpr ⟨u, List.mem_cons_self .., hreq⟩

/-! ## Runs of the command -/

/-- The world a run starts in. -/
def startWorld (s : Store) : World := ⟨s, 0, 0, []⟩

/-- What the reader of a run returns while nobody writes. -/
def sourceRun (J : Codec) (renv : ReadEnv) (b : Backend) (captureID : Str)
    (s : Store) : ReaderRun :=
  drain J (nounOf b.kind) (.all captureID) (fetchFrom s renv.fault) (listing b s (.all captureID))

/-- The run does not read what it writes: nothing is read at all, or the slices are
not among the objects listed, or there are none yet. -/
def Undisturbed (J : Codec) (renv : ReadEnv) (b : Backend) (captureID : Str) (n : Int64)
    (s : Store) : Prop :=
  (sourceRun J renv b captureID s).reqs = [] ∨ ¬ Nested b captureID ∨ Fresh b captureID n s

variable {renv : ReadEnv} {s : Store} {res : Except Error PreshardResult} {w' : World}

theorem fetch_undisturbed (hid : captureID ≠ []) (h : Undisturbed J renv b captureID n s)
    (u : World) (hu : Writes (commandFactory b) captureID n (startWorld s) u)
    (hnil : (sourceRun J renv b captureID s).reqs = [] → u.store = s) :
    ∀ k ∈ listing b s (.all captureID), fetchFrom u.store renv.fault k
      = fetchFrom s renv.fault k := by
  intro k hk
  obtain ⟨hsome, hl⟩ := mem_listing.mp hk
  rcases h with h | h | h
  · rw [hnil h]
  · exact fetchFrom_congr (hu.frame k fun hd => h (nested_of_lists rfl hid hd hl))
  · refine fetchFrom_congr (hu.frame k fun hd => ?_)
    rw [h.get_eq_none hid (nested_of_lists rfl hid hd hl) hd] at hsome
    cases hsome

theorem openCapture_ok {fault : Option Error} {objects : List Str}
    (h : openCapture b s fault opts = .ok objects) : objects = listing b s opts := by
  unfold openCapture at h
  split at h
  · cases h
  · split at h
    · cases h
    · cases h
      rfl

theorem runCommand_nil : (runCommand env J M renv b [] n s).2 = startWorld s := by
  unfold runCommand preshard preshardLoop
  split
  · rfl
  · rfl

/-- **All that the command can do**, when it does not read what it writes. -/
theorem runCommand_cases (h : runCommand env J M renv b captureID n s = (res, w'))
    (hu : Undisturbed J renv b captureID n s) :
    (∃ err, res = .error err ∧ Writes (commandFactory b) captureID n (startWorld s) w')
      ∨ 2 ≤ n ∧ captureID ≠ []
        ∧ openCapture b s renv.listFault (.all captureID) = .ok (listing b s (.all captureID))
        ∧ ∃ p w₁, Finished env (commandFactory b) J captureID n (sourceRun J renv b captureID s) p
              (startWorld s) w₁
          ∧ ∃ r, putManifests env (commandFactory b) M captureID (sliceCount n) p (env.now w₁.clock)
                (List.range (sliceCount n)) w₁.tick = (r, w')
              ∧ res = r.map fun _ => p.result := by
  by_cases hn : n < 2
  · simp only [runCommand, preshard, preshardLoop, if_pos hn] at h
    cases h
    exact Or.inl ⟨_, rfl, Effect.refl _⟩
  by_cases hid : captureID = []
  · simp only [runCommand, preshard, preshardLoop, if_neg hn, if_pos hid] at h
    cases h
    exact Or.inl ⟨_, rfl, Effect.refl _⟩
  cases ho : openCapture b s renv.listFault (.all captureID) with
  | error err =>
      simp only [runCommand, preshard, preshardLoop, if_neg hn, if_neg hid, ho] at h
      cases h
      exact Or.inl ⟨_, rfl, Effect.refl _⟩
  | ok objects =>
      obtain rfl := openCapture_ok ho
      rw [runCommand, ho] at h
      rcases preshard_cases (Int64.not_lt.mp hn) hid h rfl (fetch_undisturbed hid hu) with
        hfail | hfin
      · exact Or.inl hfail
      · exact Or.inr ⟨Int64.not_lt.mp hn, hid, rfl, hfin⟩

/-! ## Fresh layouts -/

/-- A run that finished on a fresh layout, with its slices where the source is
listed. -/
structure FreshRun (env : Env) (J : Codec) (M : ManifestCodec) (b : Backend) (captureID : Str)
    (n : Int64) (run : ReaderRun) (p : Pass) (s : Store) (w₁ w' : World) : Prop where
  id : captureID ≠ []
  fresh : Fresh b captureID n s
  nested : Nested b captureID
  finished : Finished env (commandFactory b) J captureID n run p (startWorld s) w₁
  manifests : ∃ r, putManifests env (commandFactory b) M captureID (sliceCount n) p
    (env.now w₁.clock) (List.range (sliceCount n)) w₁.tick = (r, w')
  decoded : ∀ req ∈ run.reqs, Decoded J req

/-- Manifests are not listed. -/
theorem FreshRun.get_listed (h : FreshRun env J M b captureID n run p s w₁ w')
    (hl : lists b opts k = true) : w'.store.get k = w₁.store.get k := by
  obtain ⟨r, hput⟩ := h.manifests
  have hman := manifests_putManifests (fun i hi => List.mem_range.mp hi) hput
  refine hman.effect.frame k fun hm => ?_
  rw [not_lists_manifest opts h.id hm] at hl
  cases hl

end Kapture.Dataset
