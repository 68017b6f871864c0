import Kapture.Dataset.Slices
import Kapture.Storage.Pace

/-!
# Reading a slice back

The objects of a slice carry the date of their upload and a padded sequence number,
and a reader takes them in the order of their names. While the date does not go
back and there are fewer than a million of them, that is the order in which they
were written, so the slice reads back as the part of the source it was given.
-/

namespace Kapture.Dataset

open Go Path Storage Replay Pull

variable {env : Env} {f : WriterFactory} {J : Codec} {M : ManifestCodec} {b : Backend}
  {captureID : Str} {n : Int64} {run : ReaderRun} {p p' : Pass} {w w₁ : World} {i : Nat}
  {start : Time}

/-! ## How many objects a slice has -/

/-- Every writer keeps the pace of what was routed to it. -/
def PaceInv (env : Env) (f : WriterFactory) (J : Codec) (n : Int64) (start : Time)
    (routed : List CapturedRequest) (p : Pass) : Prop :=
  ∀ (i : Nat) (wr : BufferedObjectWriter), p.writers[i]? = some wr →
    Limits f wr ∧ Pace env start (encode J (slicePart n routed i)).length wr p.world

theorem paceInv_start (hm : Monotone env) (w : World) :
    PaceInv env f J n (env.now w.clock) [] (startPass env f captureID n w) := by
  intro i wr h
  have hi : i < sliceCount n := by
    have := (List.getElem?_eq_some_iff.mp h).1
    simpa [startPass, Pass.start, startWriters] using this
  rw [getElem?_startWriters h]
  refine ⟨⟨rfl, rfl⟩, 0, 0, Nat.le_refl _, ?_, ?_, hm _ _ ?_⟩
  · simp [freshWriter, slicePart, encode]
  · have h0 : (env.now w.clock : Int) ≤ env.now (w.clock + i) := hm _ _ (Nat.le_add_right ..)
    simp only [freshWriter]
    dsimp only [Time, Duration] at h0 ⊢
    omega
  · simp only [startPass, Pass.start, List.length_range]
    omega

variable {routed : List CapturedRequest}

theorem PaceInv.route {req : CapturedRequest} (hm : Monotone env)
    (hp : PaceInv env f J n start routed p) (h : route env f J n req p = (.ok (), p')) :
    PaceInv env f J n start (routed ++ [req]) p' := by
  obtain ⟨wr, wr', hwr, hw, _, _, _, hget⟩ := route_ok h
  have hclock := (own_write hw).1.clock
  intro i x hx
  rw [slicePart_append]
  rcases hget i x hx with ⟨rfl, rfl⟩ | ⟨hi, hx⟩
  · obtain ⟨hl, hpace⟩ := hp _ wr hwr
    refine ⟨limits_write hl hw, ?_⟩
    have := hpace.write hm hl hw
    rw [if_pos rfl, encode_append, List.length_append]
    simpa [encode] using this
  · obtain ⟨hl, hpace⟩ := hp i x hx
    rw [if_neg (Ne.symm hi), List.append_nil]
    exact ⟨hl, hpace.later hm hclock⟩

theorem PaceInv.walk {reqs : List CapturedRequest} (hm : Monotone env)
    (hp : PaceInv env f J n start routed p)
    (h : walk (Dataset.route env f J n) reqs p = (.ok (), p')) :
    PaceInv env f J n start (routed ++ reqs) p' := by
  induction reqs generalizing routed p with
  | nil =>
      cases h
      rw [List.append_nil]
      exact hp
  | cons req rest ih =>
      rw [Pull.walk] at h
      split at h
      · cases h
      · rename_i p₁ hr
        have := ih (hp.route hm hr) h
        rwa [List.append_assoc] at this

theorem length_encode_slicePart (J : Codec) (n : Int64) (reqs : List CapturedRequest) (i : Nat) :
    (encode J (slicePart n reqs i)).length ≤ (encode J reqs).length := by
  induction reqs with
  | nil => exact Nat.le_refl _
  | cons req rest ih =>
      simp only [slicePart, List.filter_cons, encode, List.flatMap_cons, List.length_append] at ih ⊢
      split
      · simp only [List.flatMap_cons, List.length_append]
        omega
      · omega

/-- The most objects a slice can have. -/
def maxObjects (J : Codec) (reqs : List CapturedRequest) (duration : Duration) : Int :=
  (encode J reqs).length / defaultMaxBufferSize + duration / defaultFlushInterval + 1

theorem Finished.length_dataLog (h : Finished env (commandFactory b) J captureID n run p w w₁)
    (hm : Monotone env) {duration : Duration}
    (hd : ∀ k, env.now k - env.now w.clock ≤ duration) (hi : i < sliceCount n) :
    ((dataLog w₁ (sliceID captureID n i)).length : Int) ≤ maxObjects J run.reqs duration := by
  have hget : p.writers[i]? = some _ := List.getElem?_eq_getElem (h.inv.length ▸ hi)
  obtain ⟨hl, hpace⟩ := (paceInv_start hm w).walk hm h.walked i _ hget
  have hseq := hpace.sequence_le hl (hd _)
  have hcount := h.count i _ hget
  have hlen := length_encode_slicePart J n run.reqs i
  have hdiv : ((encode J (slicePart n run.reqs i)).length : Int) / defaultMaxBufferSize
      ≤ (encode J run.reqs).length / defaultMaxBufferSize :=
    Int.ediv_le_ediv (by decide) (by omega)
  rw [List.nil_append] at hseq
  have hsize : normalizeMaxBufferBytes (commandFactory b).maxBufferBytes = defaultMaxBufferSize :=
    rfl
  have htime : normalizeFlushInterval (commandFactory b).flushInterval = defaultFlushInterval := rfl
  rw [hsize, htime] at hseq
  unfold maxObjects
  omega

/-! ## Their order -/

theorem dataKey_eq (ts : Time) (seq : Nat) : dataKey b captureID n i ts seq
    = (dirPrefix (capturePath b captureID) ++ lit "shards" ++ Str.slash :: sliceDir n i
      ++ [Str.slash])
        ++ (dateOf ts
          ++ Str.slash :: (lit "kapture-preshard-" ++ (padded 6 seq ++ lit ".jsonl.gz"))) := by
  rw [dataKey, sliceKey_eq (by simp), join_cons _ (by simp), objectFileName_command]
  simp [Str.join]

/-- **Later uploads have greater keys.** -/
theorem dataKey_lt {ts ts' : Time} {seq seq' : Nat} (hts : ts.day ≤ ts'.day)
    (hy : FourDigitYear ts.day) (hy' : FourDigitYear ts'.day) (hseq : seq < seq')
    (hmax : seq' < 10 ^ 6) :
    dataKey b captureID n i ts seq < dataKey b captureID n i ts' seq' := by
  rw [dataKey_eq, dataKey_eq]
  refine append_left_lt _ ?_
  rcases Nat.lt_or_eq_of_le hts with hday | hday
  · refine append_lt_append _ _ ?_ (format_lt hy' hday)
    exact (length_format hy).trans (length_format hy').symm
  · have hdate : dateOf ts = dateOf ts' := by rw [dateOf, dateOf, hday]
    rw [hdate]
    refine append_left_lt _ (List.cons_lt_cons_iff.mpr (Or.inr ⟨rfl, append_left_lt _ ?_⟩))
    rw [padded_eq (Nat.lt_trans hseq hmax), padded_eq hmax]
    exact append_lt_append _ _ (by simp) (digits_lt_digits hmax hseq)

/-- The keys of a slice's uploads, in order. -/
def uploadKeys (env : Env) (b : Backend) (captureID : Str) (n : Int64) (i : Nat)
    (uploads : List (Nat × List CapturedRequest)) : List Str :=
  uploads.mapIdx fun j u => dataKey b captureID n i (env.now u.1) (j + 1)

theorem pairwise_uploadKeys {uploads : List (Nat × List CapturedRequest)}
    (hm : ∀ k l, k ≤ l → (env.now k).day ≤ (env.now l).day)
    (hy : ∀ k, FourDigitYear (env.now k).day) (hclock : uploads.Pairwise fun a b => a.1 < b.1)
    (hmax : uploads.length < 10 ^ 6) :
    (uploadKeys env b captureID n i uploads).Pairwise (· < ·) := by
  rw [List.pairwise_iff_getElem]
  intro j k hj hk hjk
  simp only [uploadKeys, List.length_mapIdx] at hj hk
  simp only [uploadKeys, List.getElem_mapIdx]
  have hlt := List.pairwise_iff_getElem.mp hclock j k hj hk hjk
  exact dataKey_lt (hm _ _ (Nat.le_of_lt hlt)) (hy _) (hy _) (by omega) (by omega)

/-! ## Reading them -/

variable {s : Store} {w' : World} {uploads : List (Nat × List CapturedRequest)}

/-- The uploads of slice `i`. -/
def Uploads (env : Env) (J : Codec) (b : Backend) (captureID : Str) (n : Int64) (i : Nat)
    (w : World) (uploads : List (Nat × List CapturedRequest)) : Prop :=
  dataLog w (sliceID captureID n i)
    = uploads.mapIdx (chunkPut env (commandFactory b) J (sliceID captureID n i))

theorem FreshRun.get_upload (h : FreshRun env J M b captureID n run p s w₁ w')
    (hi : i < sliceCount n) (hup : Uploads env J b captureID n i w₁ uploads) {j : Nat}
    {u : Nat × List CapturedRequest} (hu : uploads[j]? = some u) :
    w₁.store.get (dataKey b captureID n i (env.now u.1) (j + 1))
      = some (.gz (.gzip (encode J u.2) none)) := by
  have hmem : chunkPut env (commandFactory b) J (sliceID captureID n i) j u
      ∈ dataLog w₁ (sliceID captureID n i) := by
    rw [hup]
    refine List.mem_of_getElem? (i := j) ?_
    rw [List.getElem?_mapIdx, hu]
    rfl
  have hget := h.finished.get_chunk h.id rfl hi hmem
  have hkey : (chunkPut env (commandFactory b) J (sliceID captureID n i) j u).key
      = dataKey b captureID n i (env.now u.1) (j + 1) := objectName_slice h.id i _ _
  rwa [hkey] at hget

/-- **The listing of a slice is its uploads.** -/
theorem FreshRun.mem_slice_listing (h : FreshRun env J M b captureID n run p s w₁ w')
    (hi : i < sliceCount n) (hup : Uploads env J b captureID n i w₁ uploads) (k : Str) :
    k ∈ listing b w'.store (.all (sliceID captureID n i))
      ↔ k ∈ uploadKeys env b captureID n i uploads := by
  rw [mem_listing]
  constructor
  · rintro ⟨hsome, hl⟩
    rw [h.get_listed hl] at hsome
    by_cases hk : ∀ q ∈ w₁.log, q.key ≠ k
    · -- nothing was there before
      rw [h.finished.stored.rest k hk] at hsome
      have hmem : k ∈ listing b s (.all (sliceID captureID n i)) := mem_listing.mpr ⟨hsome, hl⟩
      rw [h.fresh i hi] at hmem
      cases hmem
    · push Not at hk
      obtain ⟨q, hq, rfl⟩ := hk
      obtain ⟨i', hi', hmem⟩ := h.finished.mem_log rfl hq
      obtain ⟨uploads', hup', _⟩ := h.finished.holds i' hi'
      obtain ⟨j', u', _, _, hkey', _⟩ := mem_dataLog h.id hup' hmem
      rw [hkey'] at hl
      obtain ⟨_, rfl⟩ := (lists_slice h.id _ _).mp hl
      obtain ⟨j, u, _, hu, hkey, _⟩ := mem_dataLog h.id hup hmem
      refine List.mem_of_getElem? (i := j) ?_
      rw [uploadKeys, List.getElem?_mapIdx, hu, hkey]
      rfl
  · intro hk
    obtain ⟨j, hj⟩ := List.mem_iff_getElem?.mp hk
    rw [uploadKeys, List.getElem?_mapIdx, Option.map_eq_some_iff] at hj
    obtain ⟨u, hu, rfl⟩ := hj
    have hl :=
      (lists_slice (i := i) (j := i) (n := n) h.id (env.now u.1) (j + 1)).mpr ⟨h.nested, rfl⟩
    exact ⟨by rw [h.get_listed hl, h.get_upload hi hup hu]; rfl, hl⟩

/-- What a run needs for its slices to read back in order. -/
structure InOrder (env : Env) (J : Codec) (reqs : List CapturedRequest) : Prop where
  dates : ∀ k l, k ≤ l → (env.now k).day ≤ (env.now l).day
  year : ∀ k, FourDigitYear (env.now k).day
  fits : ∀ req ∈ reqs, Fits J req
  /-- There are not a million requests; or the clock does not go back, and the run is over after
  some time, before there are a million objects. -/
  objects : reqs.length < 10 ^ 6 ∨ Monotone env
    ∧ ∃ duration, (∀ k, env.now k - env.now 0 ≤ duration) ∧ maxObjects J reqs duration < 10 ^ 6

/-- No upload is empty. -/
theorem length_le_of_nonempty (h : ∀ u ∈ uploads, u.2 ≠ []) :
    uploads.length ≤ (uploads.flatMap Prod.snd).length := by
  induction uploads with
  | nil => exact Nat.le_refl _
  | cons u uploads ih =>
      have hu := List.length_pos_of_ne_nil (h u (List.mem_cons_self ..))
      have hrest := ih fun v hv => h v (List.mem_cons_of_mem _ hv)
      rw [List.flatMap_cons, List.length_append, List.length_cons]
      omega

/-- **A slice reads back as the part of the source it was given.** -/
theorem FreshRun.slice_reads (h : FreshRun env J M b captureID n run p s w₁ w')
    (ho : InOrder env J run.reqs) (hi : i < sliceCount n) :
    (listing b w'.store (.all (sliceID captureID n i))).flatMap
        (objectRequests J (fetchFrom w'.store fun _ => .none)) = slicePart n run.reqs i
      ∧ firstFailure (nounOf b.kind) (fetchFrom w'.store fun _ => .none)
        (listing b w'.store (.all (sliceID captureID n i))) = none := by
  obtain ⟨uploads, hup, hclock, hne, hpart⟩ := h.finished.holds i hi
  have hlen : uploads.length < 10 ^ 6 := by
    rcases ho.objects with hfew | ⟨hm, duration, hd, hmax⟩
    · have hle := length_le_of_nonempty hne
      rw [hpart] at hle
      exact Nat.lt_of_le_of_lt (hle.trans (List.length_filter_le ..)) hfew
    · have hlen := h.finished.length_dataLog hm hd hi
      rw [hup, List.length_mapIdx] at hlen
      omega
  have hsorted : (uploadKeys env b captureID n i uploads).Pairwise (· < ·) :=
    pairwise_uploadKeys ho.dates ho.year hclock hlen
  have hlist : listing b w'.store (.all (sliceID captureID n i))
      = uploadKeys env b captureID n i uploads := by
    rw [← Str.sort_eq_self hsorted]
    refine Str.sort_eq_of_mem_iff (Store.nodup_keys _ |>.filter _) hsorted.nodup fun k => ?_
    rw [← h.mem_slice_listing hi hup k, listing, Str.mem_sort]
  -- each object is one chunk
  have hfetch : ∀ (j : Nat) (u : Nat × List CapturedRequest), uploads[j]? = some u →
      fetchFrom w'.store (fun _ => .none) (dataKey b captureID n i (env.now u.1) (j + 1))
        = .ok (.gzip (encode J u.2) none) := by
    intro j u hu
    have hl :=
      (lists_slice (i := i) (j := i) (n := n) h.id (env.now u.1) (j + 1)).mpr ⟨h.nested, rfl⟩
    simp [fetchFrom, h.get_listed hl, h.get_upload hi hup hu, arrives]
  have hreq : ∀ (u : Nat × List CapturedRequest), u ∈ uploads → ∀ req ∈ u.2, req ∈ run.reqs := by
    intro u hu req hreq
    have : req ∈ slicePart n run.reqs i := hpart ▸ List.mem_flatMap.mpr ⟨u, hu, hreq⟩
    exact List.mem_of_mem_filter this
  have hdec : ∀ u ∈ uploads, ∀ req ∈ u.2, Decoded J req := fun u hu req hr =>
    h.decoded req (hreq u hu req hr)
  have hfits : ∀ u ∈ uploads, ∀ req ∈ u.2, Fits J req := fun u hu req hr =>
    ho.fits req (hreq u hu req hr)
  rw [hlist]
  constructor
  · have hmap : (uploadKeys env b captureID n i uploads).map
        (objectRequests J (fetchFrom w'.store fun _ => .none)) = uploads.map Prod.snd := by
      refine List.ext_getElem (by simp [uploadKeys]) fun j hj _ => ?_
      simp only [uploadKeys, List.length_map, List.length_mapIdx] at hj
      have hu : uploads[j]? = some uploads[j] := List.getElem?_eq_getElem hj
      simp only [uploadKeys, List.getElem_map, List.getElem_mapIdx]
      exact objectRequests_chunk (hfetch j _ hu) (hdec _ (List.mem_of_getElem? hu))
        (hfits _ (List.mem_of_getElem? hu))
    rw [← hpart, List.flatMap_def, hmap, ← List.flatMap_def]
  · refine List.findSome?_eq_none_iff.mpr fun k hk => ?_
    obtain ⟨j, hj⟩ := List.mem_iff_getElem?.mp hk
    rw [uploadKeys, List.getElem?_mapIdx, Option.map_eq_some_iff] at hj
    obtain ⟨u, hu, rfl⟩ := hj
    rw [objectFailure_chunk (hfetch j u hu) (hdec u (List.mem_of_getElem? hu)),
      if_pos (hfits u (List.mem_of_getElem? hu))]

end Kapture.Dataset
