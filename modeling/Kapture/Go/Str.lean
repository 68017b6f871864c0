import Mathlib.Algebra.Order.Ring.Int
import Mathlib.Data.List.DropRight
import Mathlib.Data.List.Sort

/-!
# Byte strings

A Go `string` is a sequence of bytes: it is hashed, compared, cut and joined byte
by byte, and nothing promises that it is valid UTF-8. `Str` is that type, with
the handful of `strings` functions the storage layout is built from.
-/

namespace Go

/-- A Go `string`. -/
abbrev Str := List UInt8

/-- An ASCII string literal. -/
def lit (s : String) : Str := s.toList.map fun c => UInt8.ofNat c.toNat

namespace Str

/-- The byte `/`. -/
def slash : UInt8 := 47

/-- `strings.HasPrefix`. -/
def hasPrefix (s p : Str) : Bool := p.isPrefixOf s

/-- `strings.HasSuffix`. -/
def hasSuffix (s p : Str) : Bool := p.isSuffixOf s

/-- `strings.Split(s, "/")`. -/
def split (s : Str) : List Str := s.splitOn slash

/-- `strings.Join(parts, "/")`. -/
def join (parts : List Str) : Str := [slash].intercalate parts

/-- `strings.TrimRight(s, "/")`. -/
def trimRight (s : Str) : Str := s.rdropWhile (· == slash)

/-- `strings.Trim(s, "/")`. -/
def trim (s : Str) : Str := trimRight (s.dropWhile (· == slash))

/-- The characters that `unicode.IsSpace` accepts, in UTF-8. -/
def spaces : List Str :=
  [[9], [10], [11], [12], [13], [32], [0xC2, 0x85], [0xC2, 0xA0], [0xE1, 0x9A, 0x80],
    [0xE2, 0x80, 0x80], [0xE2, 0x80, 0x81], [0xE2, 0x80, 0x82], [0xE2, 0x80, 0x83],
    [0xE2, 0x80, 0x84], [0xE2, 0x80, 0x85], [0xE2, 0x80, 0x86], [0xE2, 0x80, 0x87],
    [0xE2, 0x80, 0x88], [0xE2, 0x80, 0x89], [0xE2, 0x80, 0x8A], [0xE2, 0x80, 0xA8],
    [0xE2, 0x80, 0xA9], [0xE2, 0x80, 0xAF], [0xE2, 0x81, 0x9F], [0xE3, 0x80, 0x80]]

/-- Takes pieces off the front while there are any, at most `fuel`. -/
def strip (pieces : List Str) : Nat → Str → Str
  | 0, s => s
  | fuel + 1, s =>
      match pieces.find? (·.isPrefixOf s) with
      | none => s
      | some piece => strip pieces fuel (s.drop piece.length)

def trimLeftSpace (s : Str) : Str := strip spaces s.length s

def trimRightSpace (s : Str) : Str :=
  (strip (spaces.map List.reverse) s.length s.reverse).reverse

/-- `strings.TrimSpace`. -/
def trimSpace (s : Str) : Str := trimRightSpace (trimLeftSpace s)

/-- The lower-case form of an ASCII byte. -/
def lowerByte (b : UInt8) : UInt8 := if 65 ≤ b ∧ b ≤ 90 then b + 32 else b

/-- Equal up to the case of ASCII letters. -/
def equalFoldAscii (s t : Str) : Bool := s.map lowerByte == t.map lowerByte

/-- `%q`, for printable ASCII. -/
def quote (s : Str) : String :=
  "\"" ++ String.ofList (s.map fun b => Char.ofNat b.toNat) ++ "\""

/-- `sort.Strings`: byte-wise lexicographic order. -/
def sort (keys : List Str) : List Str := keys.insertionSort (· ≤ ·)

theorem mem_sort {keys : List Str} {k : Str} : k ∈ sort keys ↔ k ∈ keys :=
  List.mem_insertionSort _

theorem sorted_sort (keys : List Str) : (sort keys).Pairwise (· ≤ ·) :=
  List.pairwise_insertionSort _ keys

/-- A sorted listing is determined by what is in it. -/
theorem sort_eq_of_mem_iff {ks ls : List Str} (hk : ks.Nodup) (hl : ls.Nodup)
    (h : ∀ k, k ∈ ks ↔ k ∈ ls) : sort ks = sort ls := by
  have hp : ks.Perm ls := (List.perm_ext_iff_of_nodup hk hl).mpr h
  refine List.Perm.eq_of_pairwise ?_ (sorted_sort ks) (sorted_sort ls) ?_
  · intro a b _ _ hab hba
    exact List.le_antisymm hab hba
  · exact ((List.perm_insertionSort _ ks).trans hp).trans (List.perm_insertionSort _ ls).symm

/-- Keys in ascending order are sorted already. -/
theorem sort_eq_self {ks : List Str} (h : ks.Pairwise (· < ·)) : sort ks = ks :=
  List.Pairwise.insertionSort_eq (h.imp fun hab => List.le_of_lt hab)

/-! ## Splitting -/

variable {s : Str}

/-- No piece holds the separator. -/
theorem notMem_splitOn {c : UInt8} {e : Str} (h : e ∈ s.splitOn c) : c ∉ e := by
  induction s generalizing e with
  | nil =>
      rw [List.splitOn_nil, List.mem_singleton] at h
      simp [h]
  | cons b s ih =>
      rw [List.splitOn_cons_eq_if_modifyHead] at h
      split at h
      · rcases List.mem_cons.mp h with rfl | h
        · simp
        · exact ih h
      · rename_i hb
        obtain ⟨x, xs, hx⟩ := List.exists_cons_of_ne_nil (List.splitOn_ne_nil c s)
        rw [hx, List.modifyHead_cons] at h
        rcases List.mem_cons.mp h with rfl | h
        · have hx' : c ∉ x := ih (by rw [hx]; exact List.mem_cons_self ..)
          intro hm
          rcases List.mem_cons.mp hm with hm | hm
          · exact hb (by rw [← hm]; exact beq_self_eq_true c)
          · exact hx' hm
        · exact ih (by rw [hx]; exact List.mem_cons_of_mem _ h)

/-! ## Trimming -/

theorem strip_suffix (pieces : List Str) (fuel : Nat) (s : Str) : strip pieces fuel s <:+ s := by
  induction fuel generalizing s with
  | zero => exact List.suffix_refl s
  | succ fuel ih =>
      unfold strip
      split
      · exact List.suffix_refl s
      · exact (ih _).trans (List.drop_suffix _ _)

/-- With enough fuel nothing is left to take off. -/
theorem not_prefix_strip {pieces : List Str} (hne : ∀ p ∈ pieces, p ≠ []) {fuel : Nat}
    (h : s.length ≤ fuel) : ∀ p ∈ pieces, ¬ p <+: strip pieces fuel s := by
  induction fuel generalizing s with
  | zero =>
      obtain rfl : s = [] := List.eq_nil_of_length_eq_zero (Nat.le_zero.mp h)
      exact fun p hp hpre => hne p hp (List.prefix_nil.mp hpre)
  | succ fuel ih =>
      unfold strip
      split
      · rename_i hnone
        intro p hp hpre
        exact List.find?_eq_none.mp hnone p hp (List.isPrefixOf_iff_prefix.mpr hpre)
      · rename_i piece hsome
        refine ih ?_
        have hpos : 0 < piece.length :=
          List.length_pos_of_ne_nil (hne piece (List.mem_of_find?_eq_some hsome))
        rw [List.length_drop]
        omega

theorem strip_eq_self {pieces : List Str} (h : ∀ p ∈ pieces, ¬ p <+: s) (fuel : Nat) :
    strip pieces fuel s = s := by
  cases fuel with
  | zero => rfl
  | succ fuel =>
      have hnone : pieces.find? (·.isPrefixOf s) = none :=
        List.find?_eq_none.mpr fun p hp hpre => h p hp (List.isPrefixOf_iff_prefix.mp hpre)
      unfold strip
      rw [hnone]

theorem spaces_ne_nil : ∀ p ∈ spaces, p ≠ [] := by decide

theorem trimRightSpace_prefixOf (s : Str) : trimRightSpace s <+: s := by
  rw [← List.reverse_suffix, trimRightSpace, List.reverse_reverse]
  exact strip_suffix _ _ _

theorem mem_trimSpace {b : UInt8} (h : b ∈ trimSpace s) : b ∈ s :=
  (strip_suffix _ _ _).subset ((trimRightSpace_prefixOf _).subset h)

/-- **A trimmed string neither starts nor ends with a space.** -/
theorem not_space_trimSpace (s : Str) :
    ∀ p ∈ spaces, ¬ p <+: trimSpace s ∧ ¬ p <:+ trimSpace s := by
  intro p hp
  constructor
  · intro hpre
    exact not_prefix_strip spaces_ne_nil le_rfl p hp (hpre.trans (trimRightSpace_prefixOf _))
  · intro hsuf
    have hrev : ∀ q ∈ spaces.map List.reverse, q ≠ [] := by
      intro q hq
      obtain ⟨p, hp, rfl⟩ := List.mem_map.mp hq
      exact fun h => spaces_ne_nil p hp (List.reverse_eq_nil_iff.mp h)
    have hlen : (trimLeftSpace s).reverse.length ≤ (trimLeftSpace s).length := by
      rw [List.length_reverse]
    refine not_prefix_strip hrev hlen p.reverse (List.mem_map.mpr ⟨p, hp, rfl⟩) ?_
    rw [← List.reverse_suffix, List.reverse_reverse]
    exact hsuf

theorem trimSpace_eq_self (h : ∀ p ∈ spaces, ¬ p <+: s ∧ ¬ p <:+ s) : trimSpace s = s := by
  have hleft : trimLeftSpace s = s := strip_eq_self (fun p hp => (h p hp).1) _
  rw [trimSpace, hleft, trimRightSpace, strip_eq_self, List.reverse_reverse]
  intro q hq hpre
  obtain ⟨p, hp, rfl⟩ := List.mem_map.mp hq
  exact (h p hp).2 (List.reverse_prefix.mp hpre)

theorem trimSpace_trimSpace (s : Str) : trimSpace (trimSpace s) = trimSpace s :=
  trimSpace_eq_self (not_space_trimSpace s)

/-! ## Prefixes -/

theorem hasPrefix_iff {p : Str} : s.hasPrefix p = true ↔ p <+: s :=
  List.isPrefixOf_iff_prefix

theorem hasSuffix_iff {p : Str} : s.hasSuffix p = true ↔ p <:+ s :=
  List.isSuffixOf_iff_suffix

end Str

end Go
