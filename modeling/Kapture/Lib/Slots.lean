import Mathlib.Algebra.GroupWithZero.Nat
import Mathlib.Data.List.Basic
import Mathlib.Data.List.Induction
import Mathlib.Data.List.Perm.Basic

/-!
# A list of parties, one of which moves

What a list of parties have together, when one of them changes its state: the others have what they
had, so the difference is that of the one.
-/

namespace Slots

variable {α β : Type} {l : List α} {i : Nat} {old : α} {g : α → List β} {new x : α}

theorem flatMap_set (g : α → List β) (new : α) (h : l[i]? = some old) :
    ((l.set i new).flatMap g ++ g old).Perm (l.flatMap g ++ g new) := by
  induction l generalizing i with
  | nil => cases h
  | cons x l ih =>
      cases i with
      | zero =>
          cases h
          rw [List.set_cons_zero, List.flatMap_cons, List.flatMap_cons]
          refine List.perm_append_comm.trans ?_
          rw [List.append_assoc]
          exact List.perm_append_comm.append_left _
      | succ i =>
          rw [List.set_cons_succ, List.flatMap_cons, List.flatMap_cons, List.append_assoc,
            List.append_assoc]
          exact (ih h).append_left _

/-- A party that keeps what it has. -/
theorem flatMap_set_of_eq (h : l[i]? = some old) (hg : g new = g old) :
    ((l.set i new).flatMap g).Perm (l.flatMap g) := by
  have hperm := flatMap_set g new h
  rw [hg] at hperm
  exact (List.perm_append_right_iff _).mp hperm

/-- A party that gets more. -/
theorem flatMap_set_of_append {ys : List β} (h : l[i]? = some old) (hg : g new = g old ++ ys) :
    ((l.set i new).flatMap g).Perm (l.flatMap g ++ ys) := by
  have hperm := flatMap_set g new h
  rw [hg] at hperm
  refine (List.perm_append_right_iff (g old)).mp (hperm.trans ?_)
  rw [List.append_assoc]
  exact List.perm_append_comm.append_left _

/-- A party that puts one thing on a pile. -/
theorem flatMap_set_of_give {b : β} (h : l[i]? = some old) (hg : g old = g new ++ [b])
    (pile : List β) : ((l.set i new).flatMap g ++ (pile ++ [b])).Perm (l.flatMap g ++ pile) := by
  have hperm := flatMap_set g new h
  rw [hg] at hperm
  have hgive : ((l.set i new).flatMap g ++ [b]).Perm (l.flatMap g) := by
    refine (List.perm_append_right_iff (g new)).mp (List.Perm.trans ?_ hperm)
    rw [List.append_assoc]
    exact List.perm_append_comm.append_left _
  refine List.Perm.trans ?_ (hgive.append_right pile)
  rw [List.append_assoc]
  exact List.perm_append_comm.append_left _

theorem sum_set (g : α → Nat) (new : α) (h : l[i]? = some old) :
    ((l.set i new).map g).sum + g old = (l.map g).sum + g new := by
  induction l generalizing i with
  | nil => cases h
  | cons x l ih =>
      cases i with
      | zero =>
          cases h
          simp only [List.set_cons_zero, List.map_cons, List.sum_cons]
          omega
      | succ i =>
          have := ih h
          simp only [List.set_cons_succ, List.map_cons, List.sum_cons]
          omega

/-- Parties of which none has anything. -/
theorem sum_eq_zero {g : α → Nat} (h : ∀ x ∈ l, g x = 0) : (l.map g).sum = 0 := by
  induction l with
  | nil => rfl
  | cons x l ih =>
      rw [List.map_cons, List.sum_cons, h x (List.mem_cons_self ..),
        ih fun y hy => h y (List.mem_cons_of_mem _ hy)]

/-- What holds of all parties, and of the new state of the one that moves. -/
theorem forall_set {P : α → Prop} (h : ∀ x ∈ l, P x) (hnew : P new) : ∀ x ∈ l.set i new, P x := by
  intro x hx
  rcases List.mem_or_eq_of_mem_set hx with hx | rfl
  · exact h x hx
  · exact hnew

/-- Who was there is there still, but for the one that moves. -/
theorem mem_set_or (new : α) (h : l[i]? = some old) (hx : x ∈ l) : x = old ∨ x ∈ l.set i new := by
  obtain ⟨j, hj⟩ := List.mem_iff_getElem?.mp hx
  by_cases hij : i = j
  · subst hij
    rw [h] at hj
    exact Or.inl (Option.some.inj hj).symm
  · refine Or.inr (List.mem_iff_getElem?.mpr ⟨j, ?_⟩)
    rw [List.getElem?_set_ne hij]
    exact hj

theorem of_getElem?_set {j : Nat} (h : (l.set i new)[j]? = some x) :
    j = i ∧ x = new ∨ j ≠ i ∧ l[j]? = some x := by
  by_cases hij : i = j
  · subst hij
    rw [List.getElem?_set_self'] at h
    obtain ⟨y, -, rfl⟩ := Option.map_eq_some_iff.mp h
    exact Or.inl ⟨rfl, rfl⟩
  · rw [List.getElem?_set_ne hij] at h
    exact Or.inr ⟨Ne.symm hij, h⟩

theorem of_getElem?_modify {f : α → α} {j : Nat} (h : (l.modify i f)[j]? = some x) :
    (j = i ∧ ∃ y, l[i]? = some y ∧ f y = x) ∨ j ≠ i ∧ l[j]? = some x := by
  by_cases hij : i = j
  · subst hij
    rw [List.getElem?_modify_eq] at h
    exact Or.inl ⟨rfl, Option.map_eq_some_iff.mp h⟩
  · rw [List.getElem?_modify_ne f l hij] at h
    exact Or.inr ⟨Ne.symm hij, h⟩

theorem of_mem_modify {f : α → α} (h : x ∈ l.modify i f) :
    (∃ y, l[i]? = some y ∧ f y = x) ∨ x ∈ l := by
  obtain ⟨j, hj⟩ := List.mem_iff_getElem?.mp h
  rcases of_getElem?_modify hj with ⟨-, hy⟩ | ⟨-, hx⟩
  · exact Or.inl hy
  · exact Or.inr (List.mem_of_getElem? hx)

theorem mem_set (h : l[i]? = some old) : new ∈ l.set i new := by
  obtain ⟨hi, -⟩ := List.getElem?_eq_some_iff.mp h
  exact List.mem_set hi new

theorem forall_append {P : α → Prop} (h : ∀ x ∈ l, P x) (hnew : P new) : ∀ x ∈ l ++ [new], P x := by
  intro x hx
  rcases List.mem_append.mp hx with hx | hx
  · exact h x hx
  · rw [List.mem_singleton.mp hx]
    exact hnew

end Slots
