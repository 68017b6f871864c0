import Kapture.Replay.Listing

/-!
# Readers find what writers store

A bucket writer joins the prefix, the capture ID, the date and the file, and `path.Join` cleans
what it joins. A bucket reader concatenates the prefix and the capture ID, and lists what
starts with that. Both trim slashes off the ends of the prefix; only the writer does anything
about the rest of it.

So a reader finds its objects exactly if cleaning leaves the trimmed prefix alone, and a prefix
`.` is none to the writer. It never finds the objects of another capture.
-/

namespace Kapture.Replay

open Go Path Storage

/-- The ID of a capture: its namespace and its name. The names that Kubernetes admits are plain
elements of a path. -/
def CaptureName (captureID : Str) : Prop :=
  ∃ ns name, Normal ns ∧ Normal name ∧ captureID = Str.join [ns, name]

/-- Whether a path is another, or leads to it. -/
def PathPrefix (p q : Str) : Prop := p = q ∨ p ++ [Str.slash] <+: q

/-- A prefix that means the same to writers and readers. -/
def CleanPrefix (storagePrefix : Str) : Prop :=
  storagePrefix.trim = [] ∨ clean storagePrefix.trim = storagePrefix.trim ∧ storagePrefix.trim ≠ dot

instance (storagePrefix : Str) : Decidable (CleanPrefix storagePrefix) :=
  inferInstanceAs (Decidable (_ ∨ _))

/-! ## Trimmed prefixes -/

theorem rooted_trim (s : Str) : rooted s.trim = false := by
  rw [rooted, beq_eq_false_iff_ne]
  intro hhead
  have hpre : s.trim <+: s.dropWhile (· == Str.slash) := List.rdropWhile_prefix _ _
  obtain ⟨rest, hrest⟩ := hpre
  have hdrop : (s.dropWhile (· == Str.slash)).head? = some Str.slash := by
    rw [← hrest, List.head?_append, hhead]
    rfl
  have hnot := List.head?_dropWhile_not (· == Str.slash) s
  rw [hdrop] at hnot
  exact absurd hnot (by decide)

/-- A path that does not start with a slash is plain if cleaning leaves it alone. -/
theorem plain_iff {a : Str} (hne : a ≠ []) (hr : rooted a = false) :
    Plain a ↔ clean a = a ∧ a ≠ dot := by
  rw [Plain, and_iff_right hne, dirPrefix, clean, if_neg hne, render, hr]
  simp only [Bool.false_eq_true, if_false, List.nil_append]
  by_cases hst : stack a = []
  · rw [if_pos hst, if_pos hst]
    refine iff_of_false (by simp) ?_
    rintro ⟨hdot, hno⟩
    exact hno hdot.symm
  · rw [if_neg hst, if_neg hst, List.append_cancel_right_eq]
    refine (and_iff_left ?_).symm
    rintro rfl
    exact hst (by decide)

theorem normal_plain {e : Str} (h : Normal e) : Plain e := by
  have hsplit : Str.split e = [e] := by
    have hall : ∀ x ∈ [e], Str.slash ∉ x := by simp [h.2.2.2]
    simpa [Str.join] using split_join hall (by simp)
  have hr : rooted e = false := by
    rw [rooted, beq_eq_false_iff_ne]
    intro hhead
    exact h.2.2.2 (List.mem_of_mem_head? hhead)
  have hst : stack e = [e] := by
    rw [stack, hsplit, List.foldl_cons, List.foldl_nil, push_normal h]
  refine ⟨h.1, ?_⟩
  rw [dirPrefix, hr, hst]
  simp [Str.join]

/-! ## Names and prefixes -/

variable {storagePrefix ns name ns' name' pod : Str}

/-- The bucket of a prefix. -/
def bucket (storagePrefix : Str) : Backend := ⟨.s3, storagePrefix⟩

theorem kind_bucket : (bucket storagePrefix).kind ≠ .filesystem := nofun

theorem topOf_bucket : topOf (bucket storagePrefix) = storagePrefix.trim := rfl

theorem captureName_ne_nil (ns name : Str) : Str.join [ns, name] ≠ [] := by
  rw [join_cons _ (by simp)]
  simp

theorem newCloudObjectName_eq (hpod : Str.slash ∉ pod) (ts : Time) (seq : Nat) :
    newCloudObjectName storagePrefix (Str.join [ns, name]) pod ts seq
      = dirPrefix (capturePath (bucket storagePrefix) (Str.join [ns, name]))
          ++ Str.join [dateOf ts, objectFileName pod seq] :=
  objectName_eq (b := bucket storagePrefix) (captureName_ne_nil ns name) hpod ts seq

theorem normal_rest (hpod : Str.slash ∉ pod) (ts : Time) (seq : Nat) :
    ∀ e ∈ [dateOf ts, objectFileName pod seq], Normal e := by
  simp [normal_dateOf, normal_objectFileName hpod]

theorem dirPrefix_name (hns : Normal ns) (hname : Normal name) :
    dirPrefix (Str.join [ns, name]) = Str.join [ns, name] ++ [Str.slash] := by
  have hjoin : Str.join [ns, name] = ns ++ Str.slash :: Str.join [name] := join_cons ns (by simp)
  rw [hjoin, dirPrefix_append hns.1 (by simp [hname]) (by simp), (normal_plain hns).2]
  simp

theorem capturePath_plain_iff (hns : Normal ns) (hname : Normal name) :
    Plain (capturePath (bucket storagePrefix) (Str.join [ns, name]))
      ↔ CleanPrefix storagePrefix := by
  rw [capturePath, topOf_bucket, CleanPrefix]
  by_cases ht : storagePrefix.trim = []
  · rw [if_pos ht]
    exact iff_of_true ⟨captureName_ne_nil ns name, dirPrefix_name hns hname⟩ (Or.inl ht)
  · have hes : ∀ e ∈ [ns, name], Normal e := by simp [hns, hname]
    rw [if_neg ht, or_iff_right ht, ← plain_iff ht (rooted_trim storagePrefix), Plain, Plain,
      dirPrefix_append ht hes (by simp), and_iff_right ht, and_iff_right (by simp)]
    constructor
    · intro h
      have hcancel : dirPrefix storagePrefix.trim ++ (Str.join [ns, name] ++ [Str.slash])
          = (storagePrefix.trim ++ [Str.slash]) ++ (Str.join [ns, name] ++ [Str.slash]) := by
        rw [← List.append_assoc, h]
        simp
      exact List.append_cancel_right hcancel
    · intro h
      rw [h]
      simp

/-- **An object is found by its own reader exactly if the prefix is clean.** -/
theorem found_iff (hns : Normal ns) (hname : Normal name) (hpod : Str.slash ∉ pod) (ts : Time)
    (seq : Nat) :
    (newCloudObjectName storagePrefix (Str.join [ns, name]) pod ts seq).hasPrefix
        (buildObjectPrefix storagePrefix (Str.join [ns, name])) = true
      ↔ CleanPrefix storagePrefix := by
  have hid := captureName_ne_nil ns name
  have hcp := capturePath_ne_nil (b := bucket storagePrefix) hid
  have hpre := buildObjectPrefix_eq (b := bucket storagePrefix) hid kind_bucket
  rw [newCloudObjectName_eq hpod, ← capturePath_plain_iff hns hname]
  change Str.hasPrefix _ (buildObjectPrefix (bucket storagePrefix).root _) = true ↔ _
  rw [hpre]
  constructor
  · exact dirPrefix_of_hasPrefix hcp (normal_rest hpod ts seq) (by simp)
  · intro hp
    rw [hp.2]
    exact Str.hasPrefix_iff.mpr (List.prefix_append ..)

theorem hasSuffix_objectName (hpod : Str.slash ∉ pod) (ts : Time) (seq : Nat) :
    (newCloudObjectName storagePrefix (Str.join [ns, name]) pod ts seq).hasSuffix
      dataSuffix = true := by
  have hjoin : Str.join [dateOf ts, objectFileName pod seq]
      = dateOf ts ++ Str.slash :: objectFileName pod seq := by
    rw [join_cons _ (by simp)]
    simp [Str.join]
  rw [Str.hasSuffix_iff, newCloudObjectName_eq hpod, hjoin, objectFileName_eq, fileTail]
  refine ⟨dirPrefix (capturePath (bucket storagePrefix) (Str.join [ns, name]))
    ++ dateOf ts ++ Str.slash :: (podName pod ++ (lit "-" ++ padded 6 seq)), ?_⟩
  simp [dataSuffix]

/-- **An object is not found by the reader of another capture.** -/
theorem not_found_of_ne (hns : Normal ns) (hname : Normal name) (hns' : Normal ns')
    (hname' : Normal name') (hne : Str.join [ns, name] ≠ Str.join [ns', name'])
    (hpod : Str.slash ∉ pod) (ts : Time) (seq : Nat) :
    (newCloudObjectName storagePrefix (Str.join [ns, name]) pod ts seq).hasPrefix
        (buildObjectPrefix storagePrefix (Str.join [ns', name'])) = false := by
  rw [Bool.eq_false_iff]
  intro hp
  have hpre :=
    buildObjectPrefix_eq (b := bucket storagePrefix) (captureName_ne_nil ns' name') kind_bucket
  rw [newCloudObjectName_eq hpod] at hp
  change Str.hasPrefix _ (buildObjectPrefix (bucket storagePrefix).root _) = true at hp
  rw [hpre, Str.hasPrefix_iff, capturePath, capturePath, topOf_bucket] at hp
  have htwo : ∀ a b : Str, Str.join [a, b] = a ++ Str.slash :: b := by
    intro a b
    rw [join_cons _ (by simp)]
    simp [Str.join]
  -- below the prefix the two IDs are compared element by element
  have hcmp : ∀ r : Str, Str.join [ns', name'] ++ [Str.slash] <+: Str.join [ns, name]
      ++ Str.slash :: r →
      Str.join [ns, name] = Str.join [ns', name'] := by
    intro r h
    rw [htwo, htwo, List.append_assoc, List.append_assoc, List.cons_append, List.cons_append] at h
    have h1 : ns' ++ [Str.slash] <+: ns ++ Str.slash :: (name ++ Str.slash :: r) := by
      refine List.IsPrefix.trans ?_ h
      simp
    obtain rfl := (prefix_slash_iff hns'.2.2.2 hns.2.2.2).mp h1
    rw [List.prefix_append_right_inj, List.prefix_cons_inj] at h
    rw [(prefix_slash_iff hname'.2.2.2 hname.2.2.2).mp h]
  by_cases ht : storagePrefix.trim = []
  · rw [if_pos ht, if_pos ht, dirPrefix_name hns hname, List.append_assoc,
      List.singleton_append] at hp
    exact hne (hcmp _ hp)
  · rw [if_neg ht, if_neg ht] at hp
    have hes : ∀ e ∈ [ns, name], Normal e := by simp [hns, hname]
    have hall : ∀ e ∈ [ns, name, dateOf ts, objectFileName pod seq], Normal e := by
      simp [hns, hname, normal_dateOf, normal_objectFileName hpod]
    rw [dirPrefix_append ht hes (by simp)] at hp
    have hjoin : dirPrefix storagePrefix.trim ++ Str.join [ns, name] ++ [Str.slash]
        ++ Str.join [dateOf ts, objectFileName pod seq]
        = dirPrefix storagePrefix.trim
          ++ Str.join [ns, name, dateOf ts, objectFileName pod seq] := by
      have := join_append (List.cons_ne_nil ns [name])
        (List.cons_ne_nil (dateOf ts) [objectFileName pod seq])
      rw [List.append_assoc, List.append_assoc, List.singleton_append, ← this]
      rfl
    -- the literal prefix is a directory of a cleaned path, so it is clean itself
    have hplain : Plain storagePrefix.trim := by
      refine dirPrefix_of_hasPrefix ht hall (by simp)
        (Str.hasPrefix_iff.mpr (List.IsPrefix.trans ?_ (hjoin ▸ hp)))
      simp
    rw [hplain.2] at hp
    have hcut : Str.join [ns', name'] ++ [Str.slash]
        <+: Str.join [ns, name] ++ Str.slash :: Str.join [dateOf ts, objectFileName pod seq] := by
      have hp' : storagePrefix.trim ++ Str.slash :: (Str.join [ns', name'] ++ [Str.slash])
          <+: storagePrefix.trim ++ Str.slash :: (Str.join [ns, name]
            ++ Str.slash :: Str.join [dateOf ts, objectFileName pod seq]) := by
        simpa using hp
      rwa [List.prefix_append_right_inj, List.prefix_cons_inj] at hp'
    exact hne (hcmp _ hcut)

/-- **Readers find what writers store, and nothing of another capture, exactly if the prefix is
clean**: for every prefix, every two captures of which neither is a path to the other, and
every pod, date and number. -/
theorem readers_find_iff {captureID captureID' : Str} (hid : CaptureName captureID)
    (hid' : CaptureName captureID') (hapart : ¬ PathPrefix captureID captureID')
    (hapart' : ¬ PathPrefix captureID' captureID) (storagePrefix : Str) {pod : Str}
    (hpod : Str.slash ∉ pod) (ts : Time) (seq : Nat) :
    ((newCloudObjectName storagePrefix captureID pod ts seq).hasPrefix
          (buildObjectPrefix storagePrefix captureID) = true
        ∧ (newCloudObjectName storagePrefix captureID pod ts seq).hasSuffix dataSuffix = true
        ∧ (newCloudObjectName storagePrefix captureID pod ts seq).hasPrefix
          (buildObjectPrefix storagePrefix captureID') = false)
      ↔ CleanPrefix storagePrefix := by
  obtain ⟨ns, name, hns, hname, rfl⟩ := hid
  obtain ⟨ns', name', hns', hname', rfl⟩ := hid'
  rw [found_iff hns hname hpod]
  refine and_iff_left ⟨hasSuffix_objectName hpod ts seq, ?_⟩
  exact not_found_of_ne hns hname hns' hname' (fun heq => hapart (Or.inl heq)) hpod ts seq

/-! ## Two prefixes -/

theorem captureName_cart : CaptureName (lit "shop/cart") :=
  ⟨lit "shop", lit "cart", by decide, by decide, by decide⟩

theorem captureName_cart2 : CaptureName (lit "shop/cart-2") :=
  ⟨lit "shop", lit "cart-2", by decide, by decide, by decide⟩

instance (p q : Str) : Decidable (PathPrefix p q) := inferInstanceAs (Decidable (_ ∨ _))

theorem readers_find_data : CleanPrefix (lit "/data/")
    ∧ (newCloudObjectName (lit "/data/") (lit "shop/cart") (lit "agent-0") 0 1).hasPrefix
        (buildObjectPrefix (lit "/data/") (lit "shop/cart")) = true
    ∧ (newCloudObjectName (lit "/data/") (lit "shop/cart") (lit "agent-0") 0 1).hasSuffix
      dataSuffix = true
    ∧ (newCloudObjectName (lit "/data/") (lit "shop/cart") (lit "agent-0") 0 1).hasPrefix
        (buildObjectPrefix (lit "/data/") (lit "shop/cart-2")) = false :=
  ⟨by decide,
    (readers_find_iff captureName_cart captureName_cart2 (by decide) (by decide) (lit "/data/")
    (by decide) 0 1).mpr (by decide)⟩

/-- **A repeated slash in the prefix hides a capture from its reader.** -/
theorem repeated_slash_hides : CaptureName (lit "shop/cart")
    ∧ newCloudObjectName (lit "prod//eu") (lit "shop/cart") (lit "agent-0") 0 1
      = lit "prod/eu/shop/cart/0001-01-01/agent-0-000001.jsonl.gz"
    ∧ buildObjectPrefix (lit "prod//eu") (lit "shop/cart") = lit "prod//eu/shop/cart/"
    ∧ (newCloudObjectName (lit "prod//eu") (lit "shop/cart") (lit "agent-0") 0 1).hasPrefix
        (buildObjectPrefix (lit "prod//eu") (lit "shop/cart")) = false :=
  ⟨captureName_cart, by decide +kernel, by decide +kernel, by decide +kernel⟩

end Kapture.Replay
