import Kapture.Dataset.Preshard
import Kapture.Storage.Session

/-!
# The pass over the source

The read loop of `Preshard` keeps one invariant, indexed by the requests it has
routed: every slice's writer has accepted exactly the requests of its shard, in
order. From it follows what the slices hold when the run gets as far as its
manifests. What a run may touch at all, whatever goes wrong, is an `Effect` on
the names of its slices.
-/

namespace Kapture.Dataset

open Go Storage Replay Pull

variable {env : Env} {f : WriterFactory} {J : Codec} {M : ManifestCodec} {captureID : Str}
  {n : Int64} {s : Store}

/-- The number of slices. -/
def sliceCount (n : Int64) : Nat := n.toNatClampNeg

/-- The slice a request is routed to. -/
def sliceOf (n : Int64) (req : CapturedRequest) : Nat := (shardIndexOf req.id n).toNatClampNeg

/-- The requests of slice `i`, in order. -/
def slicePart (n : Int64) (reqs : List CapturedRequest) (i : Nat) : List CapturedRequest :=
  reqs.filter fun req => sliceOf n req = i

/-- The capture ID of slice `i`. -/
def sliceID (captureID : Str) (n : Int64) (i : Nat) : Str :=
  shardSliceCaptureID captureID i (sliceCount n)

theorem sliceOf_lt (hn : 1 ≤ n) (req : CapturedRequest) : sliceOf n req < sliceCount n := by
  obtain ⟨h0, h1⟩ := shardIndexOf_inShards req.id hn
  have h0' := Int64.le_iff_toInt_le.mp h0
  have h1' := Int64.lt_iff_toInt_lt.mp h1
  simp only [Int64.toInt_zero] at h0'
  simp only [sliceOf, sliceCount, Int64.toNatClampNeg]
  omega

theorem sliceID_inj {i j : Nat} (h : sliceID captureID n i = sliceID captureID n j) : i = j := by
  simp only [sliceID, shardSliceCaptureID, List.append_assoc, List.append_cancel_left_eq] at h
  simp only [← List.append_assoc, List.append_cancel_right_eq] at h
  exact decimal_injective h

theorem slicePart_append (reqs : List CapturedRequest) (req : CapturedRequest) (i : Nat) :
    slicePart n (reqs ++ [req]) i
      = slicePart n reqs i ++ if sliceOf n req = i then [req] else [] := by
  simp only [slicePart, List.filter_append]
  by_cases h : sliceOf n req = i
  · simp [h]
  · simp [h]

/-! ## What a run may touch -/

/-- The capture IDs of the slices. -/
def IsSlice (captureID : Str) (n : Int64) (id : Str) : Prop :=
  ∃ i, i < sliceCount n ∧ id = sliceID captureID n i

/-- The names of the slices' data objects. -/
def IsSliceData (f : WriterFactory) (captureID : Str) (n : Int64) (k : Str) : Prop :=
  ∃ i, i < sliceCount n ∧ DataKey f (sliceID captureID n i) k

/-- The names of the slices' manifests. -/
def IsSliceManifest (f : WriterFactory) (captureID : Str) (n : Int64) (k : Str) : Prop :=
  ∃ i, i < sliceCount n ∧ k = f.backend.manifestName (sliceID captureID n i)

/-- The effect of writing to slices. -/
def Writes (f : WriterFactory) (captureID : Str) (n : Int64) : World → World → Prop :=
  Effect (IsSlice captureID n) (IsSliceData f captureID n)

/-- Writers of slices. -/
def SliceWriters (captureID : Str) (n : Int64) (writers : List BufferedObjectWriter) : Prop :=
  ∀ wr ∈ writers, IsSlice captureID n wr.captureID

variable {w w' : World} {wr : BufferedObjectWriter} {p p' : Pass} {req : CapturedRequest}
  {routed reqs : List CapturedRequest}

theorem writes_of_own {id : Str} (hid : IsSlice captureID n id) (h : Own f id w w') :
    Writes f captureID n w w' := by
  obtain ⟨i, hi, rfl⟩ := hid
  refine h.mono ?_ ?_
  · rintro _ rfl
    exact ⟨i, hi, rfl⟩
  · intro k hk
    exact ⟨i, hi, hk⟩

variable {writers done ws : List BufferedObjectWriter} {res : Except Error Unit}

theorem writes_closeWriters (h : SliceWriters captureID n writers) :
    Writes f captureID n w (closeWriters env f writers w) := by
  induction writers generalizing w with
  | nil => exact Effect.refl w
  | cons wr rest ih =>
      obtain ⟨how, _⟩ := own_close (show close env f wr w = (_, _, _) from rfl)
      have h1 := writes_of_own (h wr (List.mem_cons_self ..)) how
      exact h1.trans (ih fun x hx => h x (List.mem_cons_of_mem _ hx))

theorem SliceWriters.set (h : SliceWriters captureID n writers)
    (hwr : IsSlice captureID n wr.captureID) (i : Nat) :
    SliceWriters captureID n (writers.set i wr) := by
  intro x hx
  rcases List.mem_or_eq_of_mem_set hx with hx | rfl
  · exact h x hx
  · exact hwr

/-- Routing a request, whatever comes of it. -/
theorem writes_route (h : route env f J n req p = (res, p'))
    (hp : SliceWriters captureID n p.writers) :
    Writes f captureID n p.world p'.world ∧ SliceWriters captureID n p'.writers := by
  unfold route at h
  dsimp only at h
  split at h
  · cases h
    exact ⟨Effect.refl _, hp⟩
  · rename_i wr hwr
    have hid := hp wr (List.mem_of_getElem? hwr)
    split at h
    · rename_i err wr' w' hw
      obtain ⟨how, hcid, _⟩ := own_write hw
      cases h
      exact ⟨writes_of_own hid how, hp.set (by rw [hcid]; exact hid) _⟩
    · rename_i wr' w' hw
      obtain ⟨how, hcid, _⟩ := own_write hw
      split at h
      · cases h
        exact ⟨writes_of_own hid how, hp.set (by rw [hcid]; exact hid) _⟩
      · cases h
        exact ⟨writes_of_own hid how, hp.set (by rw [hcid]; exact hid) _⟩

theorem writes_finishWriters (h : finishWriters env f done ws w = (res, w'))
    (hd : SliceWriters captureID n done) (hws : SliceWriters captureID n ws) :
    Writes f captureID n w w' := by
  induction ws generalizing done w with
  | nil =>
      cases h
      exact Effect.refl _
  | cons wr rest ih =>
      have hid := hws wr (List.mem_cons_self ..)
      have hrest : SliceWriters captureID n rest := fun x hx => hws x (List.mem_cons_of_mem _ hx)
      rw [finishWriters] at h
      split at h
      · rename_i err wr₁ w₁ hf
        obtain ⟨how, hcid, _⟩ := own_flush hf
        cases h
        refine (writes_of_own hid how).trans (writes_closeWriters ?_)
        intro x hx
        rcases List.mem_append.mp hx with hx | hx
        · exact hd x hx
        · rcases List.mem_cons.mp hx with rfl | hx
          · rw [hcid]; exact hid
          · exact hrest x hx
      · rename_i wr₁ w₁ hf
        obtain ⟨how, hcid, _⟩ := own_flush hf
        have hid₁ : IsSlice captureID n wr₁.captureID := by rw [hcid]; exact hid
        split at h
        · rename_i err wr₂ w₂ hc
          obtain ⟨how₂, _⟩ := own_close hc
          cases h
          exact ((writes_of_own hid how).trans (writes_of_own hid₁ how₂)).trans
            (writes_closeWriters hrest)
        · rename_i wr₂ w₂ hc
          obtain ⟨how₂, hcid₂⟩ := own_close hc
          refine ((writes_of_own hid how).trans (writes_of_own hid₁ how₂)).trans (ih h ?_ hrest)
          intro x hx
          rcases List.mem_append.mp hx with hx | hx
          · exact hd x hx
          · rw [List.mem_singleton.mp hx, hcid₂]; exact hid₁

/-! ## The invariant of the pass -/

variable (env f J captureID n s) in
/-- Every slice's writer has accepted the requests routed to it. -/
structure PassInv (routed : List CapturedRequest) (p : Pass) : Prop where
  length : p.writers.length = sliceCount n
  ids : ∀ (i : Nat) (wr : BufferedObjectWriter), p.writers[i]? = some wr →
    wr.captureID = sliceID captureID n i
  opened : ∀ (i : Nat) (wr : BufferedObjectWriter), p.writers[i]? = some wr → wr.closed = false
  accepted : ∀ (i : Nat) (wr : BufferedObjectWriter), p.writers[i]? = some wr →
    Accepted env f J wr p.world (slicePart n routed i)
  counts : ∀ i, i < sliceCount n →
    p.result.shardCounts[i]? = some (slicePart n routed i).length
  marshals : ∀ req ∈ routed, Marshals J req
  stored : LogStored s p.world

theorem PassInv.sliceWriters (h : PassInv env f J captureID n s routed p) :
    SliceWriters captureID n p.writers := by
  intro wr hwr
  obtain ⟨i, hi, rfl⟩ := List.mem_iff_getElem.mp hwr
  refine ⟨i, h.length ▸ hi, h.ids i _ ?_⟩
  exact List.getElem?_eq_getElem hi

/-- The writers of two different slices have different capture IDs. -/
theorem PassInv.ne (h : PassInv env f J captureID n s routed p) {i j : Nat}
    {wr' : BufferedObjectWriter} (hi : p.writers[i]? = some wr) (hj : p.writers[j]? = some wr')
    (hij : i ≠ j) : wr'.captureID ≠ wr.captureID := by
  intro heq
  rw [h.ids i wr hi, h.ids j wr' hj] at heq
  exact hij (sliceID_inj heq).symm

/-- What is left of `Session` after a writer is gone. -/
def SliceHolds (env : Env) (f : WriterFactory) (J : Codec) (id : Str) (w : World)
    (reqs : List CapturedRequest) : Prop :=
  ∃ uploads : List (Nat × List CapturedRequest),
    dataLog w id = uploads.mapIdx (chunkPut env f J id)
      ∧ (uploads.Pairwise fun a b => a.1 < b.1)
      ∧ (∀ u ∈ uploads, u.2 ≠ [])
      ∧ uploads.flatMap Prod.snd = reqs

theorem Accepted.of_effect {I K : Str → Prop} (h : Accepted env f J wr w reqs)
    (he : Effect I K w w') (hid : ¬ I wr.captureID) : Accepted env f J wr w' reqs := by
  obtain ⟨uploads, pending, hs, hreqs⟩ := h
  exact ⟨uploads, pending, hs.of_effect he hid, hreqs⟩

/-- **What a successful round did**: one writer took the request, the others stayed. -/
theorem route_ok (h : route env f J n req p = (.ok (), p')) :
    ∃ wr wr', p.writers[sliceOf n req]? = some wr
      ∧ write env f J req wr p.world = (.ok (), wr', p'.world)
      ∧ Marshals J req
      ∧ p'.writers.length = p.writers.length
      ∧ p'.result.shardCounts = p.result.shardCounts.modify (sliceOf n req) (· + 1)
      ∧ ∀ (i : Nat) (x : BufferedObjectWriter), p'.writers[i]? = some x →
          (i = sliceOf n req ∧ x = wr') ∨ (i ≠ sliceOf n req ∧ p.writers[i]? = some x) := by
  unfold route at h
  dsimp only at h
  split at h
  · cases h
  · rename_i wr hwr
    split at h
    · cases h
    · rename_i wr' w' hw
      split at h
      · cases h
      · rename_i line hl
        cases h
        have hlt : sliceOf n req < p.writers.length := (List.getElem?_eq_some_iff.mp hwr).1
        refine ⟨wr, wr', hwr, hw, ⟨line, hl⟩, List.length_set, rfl, ?_⟩
        intro i x hx
        change (p.writers.set (sliceOf n req) wr')[i]? = some x at hx
        rw [List.getElem?_set, if_pos hlt] at hx
        split at hx
        · rename_i hi
          exact Or.inl ⟨hi.symm, (Option.some.inj hx).symm⟩
        · rename_i hi
          exact Or.inr ⟨fun h => hi h.symm, hx⟩

/-- **A request that is routed reaches the writer of its slice, and no other.** -/
theorem PassInv.route (hp : PassInv env f J captureID n s routed p)
    (h : route env f J n req p = (.ok (), p')) :
    PassInv env f J captureID n s (routed ++ [req]) p' := by
  obtain ⟨wr, wr', hwr, hw, hm, hlen, hcounts, hget⟩ := route_ok h
  obtain ⟨how, hcid, hclosed⟩ := own_write hw
  refine ⟨hlen.trans hp.length, ?_, ?_, ?_, ?_, ?_, hp.stored.write hw⟩
  · intro i x hx
    rcases hget i x hx with ⟨rfl, rfl⟩ | ⟨_, hx⟩
    · rw [hcid]; exact hp.ids _ wr hwr
    · exact hp.ids i x hx
  · intro i x hx
    rcases hget i x hx with ⟨rfl, rfl⟩ | ⟨_, hx⟩
    · rw [hclosed]; exact hp.opened _ wr hwr
    · exact hp.opened i x hx
  · intro i x hx
    rw [slicePart_append]
    rcases hget i x hx with ⟨rfl, rfl⟩ | ⟨hi, hx⟩
    · rw [if_pos rfl]
      exact (hp.accepted _ wr hwr).write hw
    · rw [if_neg (Ne.symm hi), List.append_nil]
      exact Accepted.of_effect (hp.accepted i x hx) how (hp.ne hwr hx (Ne.symm hi))
  · intro i hi
    rw [hcounts, List.getElem?_modify, hp.counts i hi, slicePart_append]
    by_cases hs : sliceOf n req = i
    · simp [hs]
    · simp [hs]
  · intro x hx
    rcases List.mem_append.mp hx with hx | hx
    · exact hp.marshals x hx
    · rw [List.mem_singleton.mp hx]
      exact hm

/-- **The pass routes every request it is given.** -/
theorem PassInv.walk (hp : PassInv env f J captureID n s routed p)
    (h : walk (Dataset.route env f J n) reqs p = (.ok (), p')) :
    PassInv env f J captureID n s (routed ++ reqs) p' := by
  induction reqs generalizing routed p with
  | nil =>
      cases h
      rw [List.append_nil]
      exact hp
  | cons req rest ih =>
      rw [Pull.walk] at h
      split at h
      · cases h
      · rename_i p₁ hr
        have := ih (hp.route hr) h
        rwa [List.append_assoc] at this

theorem SliceHolds.of_dataLog {id : Str} (h : SliceHolds env f J id w reqs)
    (hl : dataLog w' id = dataLog w id) : SliceHolds env f J id w' reqs := by
  obtain ⟨uploads, hlog, hrest⟩ := h
  exact ⟨uploads, hl.trans hlog, hrest⟩

/-- **Writers that all flush and close leave complete slices.** -/
theorem finishWriters_ok {part : Str → List CapturedRequest}
    (h : finishWriters env f done ws w = (.ok (), w'))
    (hacc : ∀ wr ∈ ws, Accepted env f J wr w (part wr.captureID))
    (hnodup : (ws.map (·.captureID)).Nodup) (hst : LogStored s w) :
    (∀ wr ∈ ws, SliceHolds env f J wr.captureID w' (part wr.captureID)
        ∧ (dataLog w' wr.captureID).length ≤ wr.sequence + 1)
      ∧ LogStored s w'
      ∧ Effect (fun id => id ∈ ws.map (·.captureID))
          (fun k => ∃ wr ∈ ws, DataKey f wr.captureID k) w w' := by
  induction ws generalizing done w with
  | nil =>
      cases h
      exact ⟨by simp, hst, Effect.refl _⟩
  | cons wr rest ih =>
      rw [finishWriters] at h
      split at h
      · cases h
      · rename_i wr₁ w₁ hf
        split at h
        · cases h
        · rename_i wr₂ w₂ hc
          obtain ⟨how, hcid, _⟩ := own_flush hf
          obtain ⟨how₂, hcid₂⟩ := own_close hc
          rw [hcid] at how₂
          have how' : Own f wr.captureID w w₂ := how.trans how₂
          have hdup := List.nodup_cons.mp hnodup
          have hrest : ∀ x ∈ rest, Accepted env f J x w₂ (part x.captureID) := by
            intro x hx
            refine Accepted.of_effect (hacc x (List.mem_cons_of_mem _ hx)) how' ?_
            intro heq
            exact hdup.1 (List.mem_map.mpr ⟨x, hx, heq⟩)
          obtain ⟨hholds, hst', heff⟩ := ih h hrest hdup.2 ((hst.flush hf).close hc)
          refine ⟨?_, hst', ?_⟩
          · intro x hx
            rcases List.mem_cons.mp hx with rfl | hx
            · obtain ⟨uploads, hs, hup⟩ :=
                ((hacc x (List.mem_cons_self ..)).flush hf).close hc
              have hlog := hs.log
              rw [hcid₂, hcid] at hlog
              have hframe := dataLog_of_effect heff hdup.1
              refine ⟨⟨uploads, hframe.trans hlog, hs.clocks, hs.nonempty, hup⟩, ?_⟩
              obtain ⟨hseq, hbuf⟩ := sequence_flush hf
              rw [hframe, hlog, List.length_mapIdx, ← hs.sequence, sequence_close hc hbuf]
              exact hseq
            · exact hholds x hx
          · refine (how'.mono ?_ ?_).trans (heff.mono ?_ ?_)
            · rintro _ rfl
              exact List.mem_cons_self ..
            · intro k hk
              exact ⟨wr, List.mem_cons_self .., hk⟩
            · intro id hid
              exact List.mem_cons_of_mem _ hid
            · rintro k ⟨x, hx, hk⟩
              exact ⟨x, List.mem_cons_of_mem _ hx, hk⟩

end Kapture.Dataset
