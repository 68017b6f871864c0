import Mathlib.Tactic.Basic

/-!
# Reporting once

A loop that reports a thing only once keeps the keys of what it has reported, and passes
over everything that has one of them. What is left is the first element of each key, so
such a loop never reports nothing where there was something to report, and **which element
stands for a key depends on the order of the list**.
-/

namespace Once

variable {α κ : Type} [DecidableEq κ] (key : α → κ)

/-- What is reported of a list when the keys in `seen` have been reported already. -/
def once : List κ → List α → List α
  | _, [] => []
  | seen, x :: xs => if key x ∈ seen then once seen xs else x :: once (key x :: seen) xs

variable {key} {seen : List κ} {l : List α} {x y : α}

/-- **The first element of each key is reported.** -/
theorem mem_once : x ∈ once key seen l ↔ key x ∉ seen ∧ l.find? (key · = key x) = some x := by
  induction l generalizing seen with
  | nil => simp [once]
  | cons y ys ih =>
      rw [once]
      by_cases hy : key y ∈ seen
      · rw [if_pos hy, ih]
        refine and_congr_right fun hx => ?_
        have hne : key y ≠ key x := fun heq => hx (heq ▸ hy)
        rw [List.find?_cons_of_neg (by simpa using hne)]
      · rw [if_neg hy, List.mem_cons, ih]
        by_cases heq : key y = key x
        · -- `y` is the first of its key, and nothing after it is reported
          rw [List.find?_cons_of_pos (by simpa using heq)]
          constructor
          · rintro (rfl | ⟨hseen, -⟩)
            · exact ⟨hy, rfl⟩
            · exact absurd (List.mem_cons.mpr (.inl heq.symm)) hseen
          · rintro ⟨-, hxy⟩
            exact .inl (Option.some.inj hxy).symm
        · rw [List.find?_cons_of_neg (by simpa using heq), List.mem_cons, not_or]
          constructor
          · rintro (rfl | ⟨⟨-, hseen⟩, hfind⟩)
            · exact absurd rfl heq
            · exact ⟨hseen, hfind⟩
          · rintro ⟨hseen, hfind⟩
            exact .inr ⟨⟨Ne.symm heq, hseen⟩, hfind⟩

theorem mem_of_mem_once (h : x ∈ once key seen l) : x ∈ l :=
  List.mem_of_find?_eq_some (mem_once.mp h).2

/-- No key is reported twice. -/
theorem eq_of_mem_once (hx : x ∈ once key seen l) (hy : y ∈ once key seen l) (h : key x = key y) :
    x = y := by
  have hfx := (mem_once.mp hx).2
  rw [h, (mem_once.mp hy).2] at hfx
  exact (Option.some.inj hfx).symm

/-- Every key is reported. -/
theorem exists_mem_once (key : α → κ) (h : x ∈ l) : ∃ y ∈ once key [] l, key y = key x := by
  cases hfind : l.find? (key · = key x) with
  | none =>
      have hne := List.find?_eq_none.mp hfind x h
      rw [decide_eq_true_eq] at hne
      exact absurd rfl hne
  | some y =>
      have hy : key y = key x := by simpa using List.find?_some hfind
      refine ⟨y, mem_once.mpr ⟨List.not_mem_nil, ?_⟩, hy⟩
      rw [hy]
      exact hfind

/-- **Nothing is reported only if there is nothing to report.** -/
theorem once_eq_nil_iff : once key [] l = [] ↔ l = [] := by
  constructor
  · intro h
    refine List.eq_nil_iff_forall_not_mem.mpr fun x hx => ?_
    obtain ⟨y, hy, -⟩ := exists_mem_once key hx
    rw [h] at hy
    cases hy
  · rintro rfl
    rfl

end Once
