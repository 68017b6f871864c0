import Kapture.Storage.Names

/-!
# The names of a capture's objects

A name is a cleaned path: the directory of the capture, the date, and the file. The file
always survives cleaning, so **two objects of one writer with different numbers have different
names**, whatever the name of its pod is (`objectName_seq`). A pod name without a slash leaves
the date alone too, and then the name is just the directory, the date and the file
(`objectName_eq`).
-/

namespace Kapture.Storage

open Go Path

/-- The prefix in the bucket, trimmed, or the mount path. -/
def topOf (b : Backend) : Str := if b.kind = .filesystem then b.root else b.root.trim

/-- The literal path of a capture. -/
def capturePath (b : Backend) (captureID : Str) : Str :=
  if topOf b = [] then captureID else topOf b ++ Str.slash :: captureID

variable {b : Backend} {captureID pod : Str}

theorem capturePath_ne_nil (hid : captureID ≠ []) : capturePath b captureID ≠ [] := by
  unfold capturePath
  split
  · exact hid
  · simp

/-! ## Elements -/

theorem slash_ne_of_digit {x : UInt8} (h : 48 ≤ x.toNat ∧ x.toNat ≤ 57) : Str.slash ≠ x := by
  rintro rfl
  exact absurd h.1 (by decide)

theorem slash_notMem_padded (w m : Nat) : Str.slash ∉ padded w m :=
  fun h => slash_ne_of_digit (padded_digit h) rfl

theorem slash_notMem_decimal (m : Nat) : Str.slash ∉ decimal m :=
  fun h => slash_ne_of_digit (decimal_digit h) rfl

theorem normal_dateOf (ts : Time) : Normal (dateOf ts) := by
  refine normal_of_mem (b := 45) ?_ (by decide) ?_
  · simp [dateOf, Date.format]
  · simp only [dateOf, Date.format, List.mem_append, List.mem_cons, not_or]
    exact ⟨⟨slash_notMem_padded _ _, by decide, slash_notMem_padded _ _⟩, by decide,
      slash_notMem_padded _ _⟩

/-- The pod in the name of a file. -/
def podName (agentPod : Str) : Str :=
  if agentPod.trimSpace = [] then lit "unknown-agent" else agentPod.trimSpace

/-- The end of the name of a file. -/
def fileTail (seq : Nat) : Str := lit "-" ++ padded 6 seq ++ lit ".jsonl.gz"

theorem objectFileName_eq (agentPod : Str) (seq : Nat) :
    objectFileName agentPod seq = podName agentPod ++ fileTail seq := by
  rw [objectFileName, podName, fileTail, List.append_assoc, List.append_assoc, List.append_assoc]

theorem slash_notMem_fileTail (seq : Nat) : Str.slash ∉ fileTail seq := by
  simp only [fileTail, List.mem_append, not_or]
  exact ⟨⟨by decide, slash_notMem_padded _ _⟩, by decide⟩

theorem fileTail_inj {m n : Nat} (h : fileTail m = fileTail n) : m = n := by
  rw [fileTail, fileTail, List.append_cancel_right_eq, List.append_cancel_left_eq] at h
  exact padded_injective 6 h

/-- Whatever stands before the end, a file is an element that cleaning leaves alone. -/
theorem normal_fileTail {e : Str} (h : Str.slash ∉ e) (seq : Nat) : Normal (e ++ fileTail seq) := by
  refine normal_of_mem (b := 45) (List.mem_append_right _ ?_) (by decide) ?_
  · simp [fileTail, lit]
  · rw [List.mem_append, not_or]
    exact ⟨h, slash_notMem_fileTail seq⟩

theorem slash_notMem_podName (h : Str.slash ∉ pod) : Str.slash ∉ podName pod := by
  unfold podName
  split
  · decide
  · exact fun hmem => h (Str.mem_trimSpace hmem)

theorem normal_objectFileName (hpod : Str.slash ∉ pod) (seq : Nat) :
    Normal (objectFileName pod seq) := by
  rw [objectFileName_eq]
  exact normal_fileTail (slash_notMem_podName hpod) seq

/-! ## Names -/

/-- What is joined to a name. -/
theorem objectName_joinPath (hid : captureID ≠ []) (ts : Time) (seq : Nat) :
    b.objectName captureID pod ts seq
      = joinPath [topOf b, captureID, dateOf ts, objectFileName pod seq] := by
  unfold Backend.objectName topOf
  split
  · rename_i hk
    rw [if_pos hk]
    rfl
  · rename_i hk
    rw [if_neg hk, newCloudObjectName]
    by_cases ht : b.root.trim = []
    · simp [ht, joinPath, hid]
    · simp [ht]

/-- The path that is cleaned. -/
theorem joinPath_capture (hid : captureID ≠ []) {es : List Str} (hne : es ≠ []) :
    joinPath (topOf b :: captureID :: es)
      = clean (capturePath b captureID ++ Str.slash :: Str.join es) := by
  have h2 := join_cons captureID hne
  rw [capturePath]
  by_cases ht : topOf b = []
  · simp [joinPath, ht, hid, h2]
  · have h1 := join_cons (topOf b) (List.cons_ne_nil captureID es)
    simp [joinPath, ht, h1, h2]

/-- **The name of an object is its directory, the date and the file.** -/
theorem objectName_eq (hid : captureID ≠ []) (hpod : Str.slash ∉ pod) (ts : Time) (seq : Nat) :
    b.objectName captureID pod ts seq
      = dirPrefix (capturePath b captureID) ++ Str.join [dateOf ts, objectFileName pod seq] := by
  have hes : ∀ e ∈ [dateOf ts, objectFileName pod seq], Normal e := by
    simp [normal_dateOf, normal_objectFileName hpod]
  rw [objectName_joinPath hid, joinPath_capture hid (by simp),
    clean_append (capturePath_ne_nil hid) hes (by simp)]

/-- Names of one writer tell the dates and the numbers apart. -/
theorem objectName_inj (hid : captureID ≠ []) (hpod : Str.slash ∉ pod) {ts ts' : Time}
    {seq seq' : Nat} :
    b.objectName captureID pod ts seq = b.objectName captureID pod ts' seq'
      ↔ dateOf ts = dateOf ts' ∧ seq = seq' := by
  have hslash : ∀ ts seq, ∀ e ∈ [dateOf ts, objectFileName pod seq], Str.slash ∉ e := by
    intro ts seq e he
    simp only [List.mem_cons, List.not_mem_nil, or_false] at he
    rcases he with rfl | rfl
    · exact (normal_dateOf ts).2.2.2
    · exact (normal_objectFileName hpod seq).2.2.2
  constructor
  · intro h
    rw [objectName_eq hid hpod, objectName_eq hid hpod, List.append_cancel_left_eq] at h
    have hsplit := congrArg Str.split h
    rw [split_join (hslash ts seq) (by simp), split_join (hslash ts' seq') (by simp)] at hsplit
    simp only [List.cons.injEq, and_true] at hsplit
    refine ⟨hsplit.1, ?_⟩
    rw [objectFileName_eq, objectFileName_eq, List.append_cancel_left_eq] at hsplit
    exact fileTail_inj hsplit.2
  · rintro ⟨hd, rfl⟩
    rw [objectName_eq hid hpod, objectName_eq hid hpod, hd]

/-! ## The last element -/

theorem getLast_split_append (p q : Str) :
    (Str.split (p ++ Str.slash :: q)).getLast? = (Str.split q).getLast? := by
  have hne : Str.split q ≠ [] := List.splitOn_ne_nil Str.slash q
  rw [split_append, List.getLast?_append_of_ne_nil _ hne]

/-- An element at the end that cleaning leaves alone stays at the end. -/
theorem getLast_split_clean {p e : Str} (hlast : (Str.split p).getLast? = some e) (he : Normal e) :
    (Str.split (clean p)).getLast? = some e := by
  obtain ⟨init, hinit⟩ := List.getLast?_eq_some_iff.mp hlast
  have hst : stack p = e :: init.foldl (push (rooted p)) [] := by
    rw [stack, hinit, List.foldl_append]
    exact push_normal he
  have hne : p ≠ [] := by
    rintro rfl
    have hnil : Str.split [] = [[]] := rfl
    rw [hnil] at hlast
    exact he.1 (Option.some.inj hlast).symm
  rw [split_clean hne (by simp [hst]), hst, List.reverse_cons, ← List.append_assoc,
    List.getLast?_concat]

/-- **Objects of one writer with different numbers have different names.** -/
theorem objectName_seq (hid : captureID ≠ []) {ts ts' : Time} {seq seq' : Nat}
    (h : b.objectName captureID pod ts seq = b.objectName captureID pod ts' seq') : seq = seq' := by
  obtain ⟨e, hfree, he⟩ := split_append_tail (podName pod)
  have hlast : ∀ ts seq, (Str.split (b.objectName captureID pod ts seq)).getLast?
      = some (e ++ fileTail seq) := by
    intro ts seq
    rw [objectName_joinPath hid, joinPath_capture hid (by simp)]
    refine getLast_split_clean ?_ (normal_fileTail hfree seq)
    have hj : Str.join [dateOf ts, objectFileName pod seq]
        = dateOf ts ++ Str.slash :: objectFileName pod seq := by
      rw [join_cons _ (by simp)]
      simp [Str.join]
    rw [getLast_split_append, hj, getLast_split_append, objectFileName_eq,
      he _ (slash_notMem_fileTail seq), List.getLast?_concat]
  have hend :=
    (hlast ts seq).symm.trans
      ((congrArg (fun k => (Str.split k).getLast?) h).trans (hlast ts' seq'))
  exact fileTail_inj (List.append_cancel_left (Option.some.inj hend))

end Kapture.Storage
