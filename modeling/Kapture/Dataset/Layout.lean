import Kapture.Dataset.Published

/-!
# Where slices lie

The names of a slice's objects are the cleaned path of the source capture followed
by `shards`, the slice and the rest, so they lie **below the source**. A walk of a
volume therefore comes to every slice of the capture it walks. The prefix of a
bucket listing is not cleaned: it matches the slices exactly when the prefix and
the capture ID are a plain path to begin with.
-/

namespace Kapture.Dataset

open Go Path Storage Replay

variable {b : Backend} {captureID : Str} {n : Int64}

/-- The directory of slice `i`. -/
def sliceDir (n : Int64) (i : Nat) : Str := decimal i ++ lit "-of-" ++ decimal (sliceCount n)

/-- The name of an object of slice `i`. -/
def sliceKey (b : Backend) (captureID : Str) (n : Int64) (i : Nat) (es : List Str) : Str :=
  dirPrefix (capturePath b captureID) ++ Str.join (lit "shards" :: sliceDir n i :: es)

/-! ## Elements of names -/

theorem normal_sliceDir (i : Nat) : Normal (sliceDir n i) := by
  refine normal_of_mem (b := 45) ?_ (by decide) ?_
  · simp [sliceDir, lit]
  · simp only [sliceDir, List.mem_append, not_or]
    exact ⟨⟨slash_notMem_decimal i, by decide⟩, slash_notMem_decimal _⟩

/-- The file name of the command's writers. -/
theorem objectFileName_command (seq : Nat) :
    objectFileName (lit "kapture-preshard") seq
      = lit "kapture-preshard-" ++ padded 6 seq ++ lit ".jsonl.gz" := by
  have h : Str.trimSpace (lit "kapture-preshard") = lit "kapture-preshard" := by decide
  rw [objectFileName, h, if_neg (by decide)]
  rfl

theorem normal_objectFileName (seq : Nat) :
    Normal (objectFileName (lit "kapture-preshard") seq) :=
  Storage.normal_objectFileName (by decide) seq

theorem objectFileName_inj {seq seq' : Nat}
    (h : objectFileName (lit "kapture-preshard") seq
      = objectFileName (lit "kapture-preshard") seq') : seq = seq' := by
  rw [objectFileName_command, objectFileName_command, List.append_cancel_right_eq,
    List.append_cancel_left_eq] at h
  exact padded_injective 6 h

theorem sliceDir_inj {i j : Nat} (h : sliceDir n i = sliceDir n j) : i = j := by
  rw [sliceDir, sliceDir, List.append_cancel_right_eq, List.append_cancel_right_eq] at h
  exact decimal_injective h

/-! ## Names -/

theorem normal_sliceKey {i : Nat} {es : List Str} (h : ∀ e ∈ es, Normal e) :
    ∀ e ∈ lit "shards" :: sliceDir n i :: es, Normal e := by
  intro e he
  rcases List.mem_cons.mp he with rfl | he
  · decide
  · rcases List.mem_cons.mp he with rfl | he
    · exact normal_sliceDir i
    · exact h e he

theorem sliceID_eq (i : Nat) :
    sliceID captureID n i = captureID ++ Str.slash :: Str.join [lit "shards", sliceDir n i] := by
  simp [sliceID, shardSliceCaptureID, sliceDir, Str.join, List.intercalate, lit, Str.slash]

theorem capturePath_slice (i : Nat) :
    capturePath b (sliceID captureID n i)
      = capturePath b captureID ++ Str.slash :: Str.join [lit "shards", sliceDir n i] := by
  rw [capturePath, capturePath, sliceID_eq]
  split <;> simp

/-- Names of slices are built with `path.Join`, which cleans the path of the source. -/
theorem joinPath_slice (hid : captureID ≠ []) {i : Nat} {es : List Str} (h : ∀ e ∈ es, Normal e)
    (hne : es ≠ []) :
    joinPath (topOf b :: sliceID captureID n i :: es) = sliceKey b captureID n i es := by
  have hjoin : capturePath b (sliceID captureID n i) ++ Str.slash :: Str.join es
      = capturePath b captureID ++ Str.slash :: Str.join (lit "shards" :: sliceDir n i :: es) := by
    have h2 := join_append (List.cons_ne_nil (lit "shards") [sliceDir n i]) hne
    rw [capturePath_slice, List.append_assoc, List.cons_append, ← h2]
    rfl
  rw [joinPath_capture (sliceID_ne_nil i) hne, hjoin,
    clean_append (capturePath_ne_nil hid) (normal_sliceKey h) (by simp), sliceKey]

theorem objectName_slice (hid : captureID ≠ []) (i : Nat) (ts : Time) (seq : Nat) :
    b.objectName (sliceID captureID n i) (lit "kapture-preshard") ts seq
      = sliceKey b captureID n i [dateOf ts, objectFileName (lit "kapture-preshard") seq] := by
  have hes : ∀ e ∈ [dateOf ts, objectFileName (lit "kapture-preshard") seq], Normal e := by
    simp [normal_dateOf, normal_objectFileName]
  rw [objectName_joinPath (sliceID_ne_nil i), joinPath_slice hid hes (by simp)]

theorem manifestName_slice (hid : captureID ≠ []) (i : Nat) :
    b.manifestName (sliceID captureID n i) = sliceKey b captureID n i [manifestObjectName] := by
  rw [← joinPath_slice hid (by decide) (by simp)]
  unfold Backend.manifestName topOf
  split
  · rename_i hk
    rw [if_pos hk]
  · rename_i hk
    rw [if_neg hk]

/-- **Different slices, and different names in a slice, are different keys.** -/
theorem sliceKey_inj {i j : Nat} {es fs : List Str} (hes : ∀ e ∈ es, Normal e)
    (hfs : ∀ e ∈ fs, Normal e) (h : sliceKey b captureID n i es = sliceKey b captureID n j fs) :
    i = j ∧ es = fs := by
  rw [sliceKey, sliceKey, List.append_cancel_left_eq] at h
  have hsp := congrArg Str.split h
  rw [split_join (fun e he => (normal_sliceKey hes e he).2.2.2) (by simp),
    split_join (fun e he => (normal_sliceKey hfs e he).2.2.2) (by simp)] at hsp
  simp only [List.cons.injEq, true_and] at hsp
  exact ⟨sliceDir_inj hsp.1, hsp.2⟩

/-! ## Listings -/

/-- Whether the slices of a capture lie where its own listing looks. -/
def Nested (b : Backend) (captureID : Str) : Prop :=
  b.kind = .filesystem ∨ Plain (capturePath b captureID)

instance (b : Backend) (captureID : Str) : Decidable (Nested b captureID) :=
  inferInstanceAs (Decidable (_ ∨ _))

variable {i j : Nat} {es : List Str}

theorem sliceKey_eq (hne : es ≠ []) : sliceKey b captureID n i es
    = dirPrefix (capturePath b captureID)
        ++ (lit "shards" ++ Str.slash :: (sliceDir n i ++ Str.slash :: Str.join es)) := by
  rw [sliceKey, join_cons _ (by simp), join_cons _ hne]

/-- **The listing of a capture comes to its slices** unless it is a bucket listing
whose literal prefix is not the cleaned path. -/
theorem selects_source (hid : captureID ≠ []) (hes : ∀ e ∈ es, Normal e) (hne : es ≠ []) :
    selects b captureID (sliceKey b captureID n i es) = true ↔ Nested b captureID := by
  have hcp := capturePath_ne_nil (b := b) hid
  by_cases hk : b.kind = .filesystem
  · refine iff_of_true ?_ (Or.inl hk)
    rw [selects, hk]
    simp only [basePath_eq hid hk, walks, dirPrefix_clean hcp, Bool.or_eq_true, Bool.and_eq_true]
    refine Or.inr ⟨Str.hasPrefix_iff.mpr (List.prefix_append ..), ?_⟩
    by_cases hd : dirPrefix (capturePath b captureID) = []
    · rw [sliceKey_eq hne, hd]
      right
      simp [Str.hasPrefix, lit, Str.slash, List.isPrefixOf]
    · left
      simpa using hd
  · have hsel : selects b captureID (sliceKey b captureID n i es)
        = (sliceKey b captureID n i es).hasPrefix (capturePath b captureID ++ [Str.slash]) := by
      rw [selects, ← buildObjectPrefix_eq hid hk]
      split
      · contradiction
      · rfl
    rw [hsel, Nested, or_iff_right hk]
    constructor
    · exact dirPrefix_of_hasPrefix hcp (normal_sliceKey hes) (by simp)
    · intro hp
      rw [sliceKey, hp.2]
      exact Str.hasPrefix_iff.mpr (List.prefix_append ..)

/-- **The listing of a slice comes to that slice only.** -/
theorem selects_slice (hid : captureID ≠ []) (hes : ∀ e ∈ es, Normal e) (hne : es ≠ []) :
    selects b (sliceID captureID n i) (sliceKey b captureID n j es) = true
      ↔ Nested b captureID ∧ i = j := by
  have hcp := capturePath_ne_nil (b := b) hid
  have hsid : sliceID captureID n i ≠ [] := sliceID_ne_nil i
  have hnorm : ∀ e ∈ [lit "shards", sliceDir n i], Normal e := normal_sliceKey (by simp)
  have hdir : ∀ r : Str, sliceDir n i ++ [Str.slash] <+: sliceDir n j ++ Str.slash :: r
      ↔ i = j := by
    intro r
    rw [prefix_slash_iff (normal_sliceDir i).2.2.2 (normal_sliceDir j).2.2.2]
    exact ⟨sliceDir_inj, fun h => by rw [h]⟩
  have hjoin : Str.join [lit "shards", sliceDir n i]
      = lit "shards" ++ Str.slash :: sliceDir n i := by
    rw [join_cons _ (by simp)]
    simp [Str.join]
  by_cases hk : b.kind = .filesystem
  · rw [and_iff_right (show Nested b captureID from Or.inl hk), selects, hk]
    have hcp' := capturePath_ne_nil (b := b) hsid
    have hfile : sliceKey b captureID n j es
        ≠ clean (clean (capturePath b (sliceID captureID n i))) := by
      rw [clean_clean hcp', capturePath_slice, clean_append hcp hnorm (by simp)]
      intro h
      have := (sliceKey_inj (j := i) hes (by simp) h).2
      exact hne this
    have hpre : dirPrefix (capturePath b (sliceID captureID n i))
        = dirPrefix (capturePath b captureID)
            ++ (lit "shards" ++ Str.slash :: (sliceDir n i ++ [Str.slash])) := by
      rw [capturePath_slice, dirPrefix_append hcp hnorm (by simp), hjoin]
      simp
    simp only [basePath_eq hsid hk, walks, dirPrefix_clean hcp', Bool.or_eq_true, Bool.and_eq_true,
      beq_iff_eq, hfile, false_or, Str.hasPrefix_iff]
    rw [hpre, sliceKey_eq hne, List.prefix_append_right_inj, List.prefix_append_right_inj,
      List.prefix_cons_inj, hdir]
    refine and_iff_left (Or.inl ?_)
    simp [lit]
  · have hsel : selects b (sliceID captureID n i) (sliceKey b captureID n j es)
        = (sliceKey b captureID n j es).hasPrefix
            (capturePath b (sliceID captureID n i) ++ [Str.slash]) := by
      rw [selects, ← buildObjectPrefix_eq hsid hk]
      split
      · contradiction
      · rfl
    rw [hsel, Nested, or_iff_right hk, Str.hasPrefix_iff, capturePath_slice, hjoin]
    constructor
    · intro hp
      have hplain : Plain (capturePath b captureID) := by
        refine dirPrefix_of_hasPrefix hcp (normal_sliceKey (n := n) (i := j) hes) (by simp) ?_
        refine Str.hasPrefix_iff.mpr (List.IsPrefix.trans ?_ hp)
        simp
      refine ⟨hplain, ?_⟩
      rw [sliceKey_eq hne, hplain.2] at hp
      simp only [List.append_assoc, List.cons_append, List.nil_append,
        List.prefix_append_right_inj, List.prefix_cons_inj] at hp
      exact (hdir _).mp hp
    · rintro ⟨hplain, rfl⟩
      rw [sliceKey_eq hne, hplain.2]
      simp only [List.append_assoc, List.cons_append, List.nil_append,
        List.prefix_append_right_inj, List.prefix_cons_inj]
      exact List.nil_prefix

end Kapture.Dataset
