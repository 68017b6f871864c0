import Mathlib.Data.List.Infix
import Kapture.Go.Str

/-!
# What trimming leaves

`strings.TrimSpace` takes spaces off both ends of a string. A space is one to three bytes
long, so it is not obvious that what is taken off one end does not depend on the other.
It does not: no end of one space is the beginning of another, so a string has only one
way to be spaces, then a text that no space starts or ends, then spaces
(`trimSpace_unique`).
-/

namespace Go.Str

/-- A string of spaces. -/
def Spaces (w : Str) : Prop := ∃ ps : List Str, (∀ p ∈ ps, p ∈ spaces) ∧ w = ps.flatten

theorem Spaces.nil : Spaces [] := ⟨[], by simp, rfl⟩

variable {w w' t : Str}

theorem Spaces.append (h : Spaces w) (h' : Spaces w') : Spaces (w ++ w') := by
  obtain ⟨ps, hps, rfl⟩ := h
  obtain ⟨qs, hqs, rfl⟩ := h'
  refine ⟨ps ++ qs, fun p hp => ?_, by rw [List.flatten_append]⟩
  rcases List.mem_append.mp hp with hp | hp
  · exact hps p hp
  · exact hqs p hp

/-- The bytes of spaces. -/
theorem Spaces.mem (h : Spaces w) {b : UInt8} (hb : b ∈ w) : ∃ p ∈ spaces, b ∈ p := by
  obtain ⟨ps, hps, rfl⟩ := h
  obtain ⟨p, hp, hbp⟩ := List.mem_flatten.mp hb
  exact ⟨p, hps p hp, hbp⟩

/-! ## One end, for any code -/

section Strip

variable {pieces : List Str}

/-- No piece begins another. -/
def PrefixFree (pieces : List Str) : Prop := ∀ p ∈ pieces, ∀ q ∈ pieces, p <+: q → p = q

/-- The piece at the front is the one that is found. -/
theorem find_prefix (hfree : PrefixFree pieces) {p : Str} (hp : p ∈ pieces) (s : Str) :
    pieces.find? (·.isPrefixOf (p ++ s)) = some p := by
  rcases hf : pieces.find? (·.isPrefixOf (p ++ s)) with _ | q
  · have := List.find?_eq_none.mp hf p hp
    exact absurd (List.isPrefixOf_iff_prefix.mpr (List.prefix_append p s)) this
  · have hq := List.mem_of_find?_eq_some hf
    have hqs := List.find?_some hf
    rcases List.prefix_or_prefix_of_prefix (List.isPrefixOf_iff_prefix.mp hqs)
      (List.prefix_append p s) with h | h
    · rw [hf, hfree q hq p hp h]
    · rw [hf, hfree p hp q hq h]

/-- **Pieces at the front are taken off, and nothing more.** -/
theorem strip_flatten (hfree : PrefixFree pieces) (hne : ∀ p ∈ pieces, p ≠ []) {ps : List Str}
    (hps : ∀ p ∈ ps, p ∈ pieces) (ht : ∀ p ∈ pieces, ¬ p <+: t) {fuel : Nat}
    (hf : (ps.flatten ++ t).length ≤ fuel) : strip pieces fuel (ps.flatten ++ t) = t := by
  induction ps generalizing fuel with
  | nil => exact strip_eq_self ht fuel
  | cons p ps ih =>
      have hp := hps p (List.mem_cons_self ..)
      have hpos : 0 < p.length := List.length_pos_of_ne_nil (hne p hp)
      rw [List.flatten_cons, List.append_assoc] at hf ⊢
      rw [List.length_append] at hf
      obtain ⟨fuel, rfl⟩ : ∃ k, fuel = k + 1 := ⟨fuel - 1, by omega⟩
      rw [strip, find_prefix hfree hp]
      simp only [List.drop_left]
      exact ih (fun q hq => hps q (List.mem_cons_of_mem _ hq)) (by omega)

/-- What is taken off is made of pieces. -/
theorem strip_decomp (pieces : List Str) (fuel : Nat) (s : Str) :
    ∃ ps : List Str, (∀ p ∈ ps, p ∈ pieces) ∧ s = ps.flatten ++ strip pieces fuel s := by
  induction fuel generalizing s with
  | zero => exact ⟨[], by simp, rfl⟩
  | succ fuel ih =>
      unfold strip
      split
      · exact ⟨[], by simp, rfl⟩
      · rename_i p hp
        obtain ⟨ps, hps, hs⟩ := ih (s.drop p.length)
        refine ⟨p :: ps, fun q hq => ?_, ?_⟩
        · rcases List.mem_cons.mp hq with rfl | hq
          · exact List.mem_of_find?_eq_some hp
          · exact hps q hq
        · have hpre := List.find?_some hp
          obtain ⟨r, rfl⟩ := List.isPrefixOf_iff_prefix.mp hpre
          rw [List.drop_left] at hs ⊢
          rw [List.flatten_cons, List.append_assoc, ← hs]

end Strip

/-! ## Both ends -/

theorem spaces_prefixFree : PrefixFree spaces := by
  unfold PrefixFree
  decide +kernel

theorem reversed_prefixFree : PrefixFree (spaces.map List.reverse) := by
  unfold PrefixFree
  decide +kernel

/-- No end of a space begins a space, and none begins with one. -/
theorem suffix_not_space : ∀ q ∈ spaces, ∀ x ∈ q.tails, x ≠ q → x ≠ [] →
    ∀ p ∈ spaces, ¬ x <+: p ∧ ¬ p <+: x := by decide +kernel

/-- A text that no space starts or ends. -/
def Trimmed (t : Str) : Prop := ∀ p ∈ spaces, ¬ p <+: t ∧ ¬ p <:+ t

/-- Spaces at the end do not make a space at the front. -/
theorem not_prefix_append (ht : ∀ p ∈ spaces, ¬ p <+: t) (hne : t ≠ []) (hw : Spaces w) :
    ∀ q ∈ spaces, ¬ q <+: t ++ w := by
  intro q hq hqt
  rcases List.prefix_or_prefix_of_prefix hqt (List.prefix_append t w) with h | h
  · exact ht q hq h
  · -- `t` is a proper beginning of the space, and the rest of it begins `w`
    obtain ⟨x, rfl⟩ := h
    have hx : x <+: w := (List.prefix_append_right_inj t).mp hqt
    have hxne : x ≠ [] := by
      rintro rfl
      exact ht _ hq (by simp)
    obtain ⟨ps, hps, rfl⟩ := hw
    rcases ps with _ | ⟨p, ps⟩
    · exact hxne (List.prefix_nil.mp hx)
    · have hp := hps p (List.mem_cons_self ..)
      have hlong := suffix_not_space _ hq x ((List.mem_tails _ _).mpr (List.suffix_append t x))
        (fun h => hne (by simpa using h)) hxne p hp
      rw [List.flatten_cons] at hx
      rcases List.prefix_or_prefix_of_prefix hx (List.prefix_append p _) with h | h
      · exact hlong.1 h
      · exact hlong.2 h

theorem trimLeftSpace_append (hw : Spaces w) (ht : ∀ p ∈ spaces, ¬ p <+: t) :
    trimLeftSpace (w ++ t) = t := by
  obtain ⟨ps, hps, rfl⟩ := hw
  exact strip_flatten spaces_prefixFree spaces_ne_nil hps ht le_rfl

theorem trimRightSpace_append (hw : Spaces w) (ht : ∀ p ∈ spaces, ¬ p <:+ t) :
    trimRightSpace (t ++ w) = t := by
  obtain ⟨ps, hps, rfl⟩ := hw
  have hne : ∀ p ∈ spaces.map List.reverse, p ≠ [] := by decide
  have hrev : (ps.flatten).reverse = (ps.reverse.map List.reverse).flatten := by
    rw [List.reverse_flatten, List.map_reverse]
  have ht' : ∀ p ∈ spaces.map List.reverse, ¬ p <+: t.reverse := by
    intro p hp hpre
    obtain ⟨q, hq, rfl⟩ := List.mem_map.mp hp
    exact ht q hq (List.reverse_prefix.mp hpre)
  have hps' : ∀ p ∈ ps.reverse.map List.reverse, p ∈ spaces.map List.reverse := by
    intro p hp
    obtain ⟨q, hq, rfl⟩ := List.mem_map.mp hp
    exact List.mem_map.mpr ⟨q, hps q (List.mem_reverse.mp hq), rfl⟩
  have hlen : ((ps.reverse.map List.reverse).flatten ++ t.reverse).length
      ≤ (t ++ ps.flatten).length := by
    rw [← hrev, ← List.reverse_append, List.length_reverse]
  rw [trimRightSpace, List.reverse_append, hrev,
    strip_flatten reversed_prefixFree hne hps' ht' hlen, List.reverse_reverse]

theorem trimSpace_of_spaces (hw : Spaces w) : trimSpace w = [] := by
  have hnil : ∀ p ∈ spaces, ¬ p <+: [] := fun p hp h => spaces_ne_nil p hp (List.prefix_nil.mp h)
  have hleft := trimLeftSpace_append hw hnil
  rw [List.append_nil] at hleft
  rw [trimSpace, hleft]
  rfl

/-- **What trimming leaves** is determined by what is around it. -/
theorem trimSpace_unique (hw : Spaces w) (hw' : Spaces w') (ht : Trimmed t) :
    trimSpace (w ++ t ++ w') = t := by
  by_cases hne : t = []
  · rw [hne, List.append_nil]
    exact trimSpace_of_spaces (hw.append hw')
  · rw [trimSpace, List.append_assoc,
      trimLeftSpace_append hw (not_prefix_append (fun p hp => (ht p hp).1) hne hw'),
      trimRightSpace_append hw' fun p hp => (ht p hp).2]

/-- A string is spaces, what trimming leaves, and spaces. -/
theorem trimSpace_decomp (s : Str) :
    ∃ w w', Spaces w ∧ Spaces w' ∧ s = w ++ trimSpace s ++ w' := by
  obtain ⟨ps, hps, hs⟩ := strip_decomp spaces s.length s
  obtain ⟨qs, hqs, hq⟩ := strip_decomp (spaces.map List.reverse) (trimLeftSpace s).length
    (trimLeftSpace s).reverse
  refine ⟨ps.flatten, (qs.flatten).reverse, ⟨ps, hps, rfl⟩, ?_, ?_⟩
  · refine ⟨qs.reverse.map List.reverse, fun p hp => ?_, ?_⟩
    · obtain ⟨q, hq', rfl⟩ := List.mem_map.mp hp
      obtain ⟨r, hr, rfl⟩ := List.mem_map.mp (hqs q (List.mem_reverse.mp hq'))
      rw [List.reverse_reverse]
      exact hr
    · rw [List.reverse_flatten, List.map_reverse]
  · have hright : trimLeftSpace s = trimSpace s ++ (qs.flatten).reverse := by
      have := congrArg List.reverse hq
      rw [List.reverse_reverse, List.reverse_append] at this
      exact this
    rw [List.append_assoc, ← hright]
    exact hs

/-- Spaces around a string make no difference to what trimming leaves. -/
theorem trimSpace_pad (hw : Spaces w) (hw' : Spaces w') (s : Str) :
    trimSpace (w ++ s ++ w') = trimSpace s := by
  obtain ⟨v, v', hv, hv', hs⟩ := trimSpace_decomp s
  have hall : w ++ s ++ w' = (w ++ v) ++ trimSpace s ++ (v' ++ w') := by
    conv_lhs => rw [hs]
    simp only [List.append_assoc]
  rw [hall]
  exact trimSpace_unique (hw.append hv) (hv'.append hw') (not_space_trimSpace s)

/-- A text whose first and last byte are in no space is left as it is. -/
theorem trimSpace_of_edges {s : Str} (hh : ∀ b ∈ s.head?, ∀ p ∈ spaces, b ∉ p)
    (hl : ∀ b ∈ s.getLast?, ∀ p ∈ spaces, b ∉ p) : trimSpace s = s := by
  refine trimSpace_eq_self fun p hp => ⟨fun hpre => ?_, fun hsuf => ?_⟩
  · obtain ⟨b, p', rfl⟩ := List.exists_cons_of_ne_nil (spaces_ne_nil p hp)
    obtain ⟨r, rfl⟩ := hpre
    exact hh b rfl _ hp (List.mem_cons_self ..)
  · rcases List.eq_nil_or_concat p with rfl | ⟨p', b, rfl⟩
    · exact spaces_ne_nil _ hp rfl
    · rw [List.concat_eq_append] at hp hsuf
      obtain ⟨r, rfl⟩ := hsuf
      exact hl b (by simp) _ hp (by simp)

/-- No visible ASCII byte is in a space. -/
theorem visible_notMem_space : ∀ p ∈ spaces, ∀ b ∈ p, ¬ (33 ≤ b ∧ b ≤ 126) := by
  decide +kernel

/-- A byte that is in no space stays. -/
theorem mem_trimSpace_iff {s : Str} {b : UInt8} (hb : ∀ p ∈ spaces, b ∉ p) :
    b ∈ trimSpace s ↔ b ∈ s := by
  refine ⟨mem_trimSpace, fun h => ?_⟩
  obtain ⟨w, w', hw, hw', hs⟩ := trimSpace_decomp s
  rw [hs, List.mem_append, List.mem_append] at h
  rcases h with (h | h) | h
  · obtain ⟨p, hp, hbp⟩ := hw.mem h
    exact absurd hbp (hb p hp)
  · exact h
  · obtain ⟨p, hp, hbp⟩ := hw'.mem h
    exact absurd hbp (hb p hp)

/-! ## Lists in a string -/

/-- Spaces at the ends of a list of texts go into its first and its last text. -/
theorem exists_padded {c : UInt8} (hc : ∀ p ∈ spaces, c ∉ p) (hw' : Spaces w') {qs : List Str}
    (hne : qs ≠ []) (hqs : ∀ q ∈ qs, c ∉ q) (hw : Spaces w) :
    ∃ L : List Str, L ≠ [] ∧ (∀ q ∈ L, c ∉ q) ∧ [c].intercalate L = w ++ [c].intercalate qs ++ w'
      ∧ L.map trimSpace = qs.map trimSpace := by
  have hsp : ∀ {v : Str}, Spaces v → c ∉ v := by
    intro v hv hcv
    obtain ⟨p, hp, hcp⟩ := hv.mem hcv
    exact hc p hp hcp
  induction qs generalizing w with
  | nil => exact absurd rfl hne
  | cons q qs ih =>
      have hq := hqs q (List.mem_cons_self ..)
      by_cases hqsne : qs = []
      · subst hqsne
        refine ⟨[w ++ q ++ w'], by simp, ?_, by simp [List.intercalate], ?_⟩
        · simp [hsp hw, hq, hsp hw']
        · rw [List.map_cons, List.map_cons, trimSpace_pad hw hw' q]
      · obtain ⟨L, hL, hfree, hjoin, hmap⟩ :=
          ih hqsne (fun r hr => hqs r (List.mem_cons_of_mem _ hr)) Spaces.nil
        refine ⟨(w ++ q) :: L, by simp, ?_, ?_, ?_⟩
        · intro r hr
          rcases List.mem_cons.mp hr with rfl | hr
          · simp [hsp hw, hq]
          · exact hfree r hr
        · rw [List.intercalate_cons_of_ne_nil hL, List.intercalate_cons_of_ne_nil hqsne, hjoin]
          simp
        · have hpad := trimSpace_pad hw Spaces.nil q
          rw [List.append_nil] at hpad
          rw [List.map_cons, List.map_cons, hmap, hpad]

/-- **A list of texts survives trimming of the whole**, up to trimming of each. -/
theorem map_trimSpace_splitOn {c : UInt8} (hc : ∀ p ∈ spaces, c ∉ p) {qs : List Str} (hne : qs ≠ [])
    (hqs : ∀ q ∈ qs, c ∉ q) :
    ((trimSpace ([c].intercalate qs)).splitOn c).map trimSpace = qs.map trimSpace := by
  obtain ⟨w, w', hw, hw', hs⟩ := trimSpace_decomp ([c].intercalate qs)
  obtain ⟨L, hL, hfree, hjoin, hmap⟩ := exists_padded hc hw'
    (List.splitOn_ne_nil c (trimSpace ([c].intercalate qs))) (fun q hq => notMem_splitOn hq) hw
  rw [List.intercalate_splitOn, ← hs] at hjoin
  have hLq : L = qs := by
    rw [← List.splitOn_intercalate c hfree hL, ← List.splitOn_intercalate c hqs hne, hjoin]
  rw [← hmap, hLq]

end Go.Str
