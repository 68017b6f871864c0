import Mathlib.Data.List.Perm.Basic

/-!
# The first by an order

A loop that keeps the best element so far, and replaces it by one that comes strictly before
it. If the order decides between any two elements of the list, the loop finds the one that
nothing comes before (`least_eq_some_iff`), in whatever order the list is, and an element that
is added changes the result exactly if nothing comes before it (`least_cons_iff`).
-/

namespace Least

variable {α : Type} (lt : α → α → Prop) [DecidableRel lt]

/-- One round of the loop. -/
def better (best : Option α) (x : α) : Option α :=
  match best with
  | none => some x
  | some b => if lt x b then some x else some b

def least (l : List α) : Option α := l.foldl (better lt) none

/-- The order decides between any two elements of a list. -/
def TotalOn (l : List α) : Prop := ∀ a ∈ l, ∀ b ∈ l, a = b ∨ lt a b ∨ lt b a

section

variable {lt} {l l' : List α} {a x : α} (htrans : ∀ a b c, lt a b → lt b c → lt a c)
  (hirr : ∀ a, ¬ lt a a)

include htrans hirr

theorem foldl_better (l : List α) (b : α) : ∃ a, l.foldl (better lt) (some b) = some a
    ∧ (a = b ∨ a ∈ l ∧ lt a b) ∧ ∀ x ∈ l, ¬ lt x a := by
  induction l generalizing b with
  | nil => exact ⟨b, rfl, Or.inl rfl, fun x hx => absurd hx List.not_mem_nil⟩
  | cons y l ih =>
      rw [List.foldl_cons, better]
      by_cases hy : lt y b
      · rw [if_pos hy]
        obtain ⟨a, ha, hab, hmin⟩ := ih y
        refine ⟨a, ha, Or.inr ?_, fun x hx => ?_⟩
        · rcases hab with rfl | ⟨hmem, hlt⟩
          · exact ⟨List.mem_cons_self, hy⟩
          · exact ⟨List.mem_cons_of_mem _ hmem, htrans _ _ _ hlt hy⟩
        · rcases List.mem_cons.mp hx with rfl | hx
          · rcases hab with rfl | ⟨-, hlt⟩
            · exact hirr _
            · exact fun hxa => hirr _ (htrans _ _ _ hxa hlt)
          · exact hmin x hx
      · rw [if_neg hy]
        obtain ⟨a, ha, hab, hmin⟩ := ih b
        refine ⟨a, ha, ?_, fun x hx => ?_⟩
        · exact hab.imp_right fun h => ⟨List.mem_cons_of_mem _ h.1, h.2⟩
        · rcases List.mem_cons.mp hx with rfl | hx
          · -- it was passed over for `b`, and `a` does not come after `b`
            intro hxa
            rcases hab with rfl | ⟨-, hlt⟩
            · exact hy hxa
            · exact hy (htrans _ _ _ hxa hlt)
          · exact hmin x hx

theorem exists_least (hne : l ≠ []) : ∃ a, least lt l = some a ∧ a ∈ l ∧ ∀ x ∈ l, ¬ lt x a := by
  cases l with
  | nil => exact absurd rfl hne
  | cons b l =>
      obtain ⟨a, ha, hab, hmin⟩ := foldl_better htrans hirr l b
      refine ⟨a, ha, ?_, fun x hx => ?_⟩
      · rcases hab with rfl | ⟨hmem, -⟩
        · exact List.mem_cons_self
        · exact List.mem_cons_of_mem _ hmem
      · rcases List.mem_cons.mp hx with rfl | hx
        · rcases hab with rfl | ⟨-, hlt⟩
          · exact hirr _
          · exact fun hxa => hirr _ (htrans _ _ _ hxa hlt)
        · exact hmin x hx

/-- **The loop finds the element that nothing comes before.** -/
theorem least_eq_some_iff (htotal : TotalOn lt l) :
    least lt l = some a ↔ a ∈ l ∧ ∀ x ∈ l, ¬ lt x a := by
  by_cases hne : l = []
  · simp [hne, least]
  · obtain ⟨b, hb, hmem, hmin⟩ := exists_least htrans hirr hne
    rw [hb, Option.some.injEq]
    constructor
    · rintro rfl
      exact ⟨hmem, hmin⟩
    · intro h
      rcases htotal b hmem a h.1 with heq | hlt | hlt
      · exact heq
      · exact absurd hlt (h.2 b hmem)
      · exact absurd hlt (hmin a h.1)

/-- **An element that is added leaves the result as it is exactly if something comes before
it**, in whatever order the longer list is. -/
theorem least_cons_iff (hperm : l'.Perm (x :: l)) (hx : x ∉ l) (htotal : TotalOn lt (x :: l)) :
    least lt l' = least lt l ↔ ∃ y ∈ l, lt y x := by
  have htotal' : TotalOn lt l' := fun a ha b hb => htotal a (hperm.subset ha) b (hperm.subset hb)
  by_cases hne : l = []
  · subst hne
    have hx' : least lt l' = some x := by
      rw [least_eq_some_iff htrans hirr htotal']
      refine ⟨hperm.symm.subset List.mem_cons_self, fun y hy => ?_⟩
      rw [List.mem_singleton.mp (hperm.subset hy)]
      exact hirr x
    rw [hx']
    simp [least]
  · obtain ⟨a, ha, hmem, hmin⟩ := exists_least htrans hirr hne
    rw [ha, least_eq_some_iff htrans hirr htotal']
    constructor
    · intro h
      refine ⟨a, hmem, ?_⟩
      rcases htotal x List.mem_cons_self a (List.mem_cons_of_mem _ hmem) with heq | hlt | hlt
      · exact absurd (heq ▸ hmem) hx
      · exact absurd hlt (h.2 x (hperm.symm.subset List.mem_cons_self))
      · exact hlt
    · rintro ⟨y, hy, hyx⟩
      refine ⟨hperm.symm.subset (List.mem_cons_of_mem _ hmem), fun z hz hza => ?_⟩
      rcases List.mem_cons.mp (hperm.subset hz) with rfl | hz
      · exact hmin y hy (htrans _ _ _ hyx hza)
      · exact hmin z hz hza

end

end Least
