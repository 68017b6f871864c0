import Mathlib.Data.List.Nodup

/-!
# Selections that look back

A filter decides on each element alone. A limit does not: whether an element is kept
depends on how many were kept before it. `pick` is the common form, where each
decision sees the elements before its own, and two selections of that form are
compared position by position.
-/

namespace Pick

variable {α : Type}

/-- Keep the elements that `keep` accepts after what comes before them; `done` comes
before the whole list. -/
def pick (keep : List α → α → Bool) : List α → List α → List α
  | _, [] => []
  | done, x :: xs =>
      if keep done x then x :: pick keep (done ++ [x]) xs else pick keep (done ++ [x]) xs

/-- Two selections decide alike at every position of a list. -/
def Agree (keep keep' : List α → α → Bool) (xs : List α) : Prop :=
  ∀ j (h : j < xs.length), keep (xs.take j) xs[j] = keep' (xs.take j) xs[j]

instance (keep keep' : List α → α → Bool) (xs : List α) : Decidable (Agree keep keep' xs) :=
  inferInstanceAs (Decidable (∀ j (h : j < xs.length),
    keep (xs.take j) xs[j] = keep' (xs.take j) xs[j]))

variable {keep keep' : List α → α → Bool} {p r : α → Bool}

theorem pick_congr (done xs : List α)
    (h : ∀ j (hj : j < xs.length), keep (done ++ xs.take j) xs[j]
      = keep' (done ++ xs.take j) xs[j]) :
    pick keep done xs = pick keep' done xs := by
  induction xs generalizing done with
  | nil => rfl
  | cons x xs ih =>
      have h0 := h 0 (Nat.succ_pos _)
      simp only [List.take_zero, List.append_nil, List.getElem_cons_zero] at h0
      have ih' := ih (done ++ [x]) fun j hj => by
        have := h (j + 1) (Nat.succ_lt_succ hj)
        simpa using this
      rw [pick, pick, h0, ih']

theorem mem_pick {x : α} (done xs : List α) :
    x ∈ pick keep done xs
      ↔ ∃ j, ∃ h : j < xs.length, xs[j] = x ∧ keep (done ++ xs.take j) x = true := by
  induction xs generalizing done with
  | nil => simp [pick]
  | cons y ys ih =>
      have hstep : x ∈ pick keep done (y :: ys)
          ↔ y = x ∧ keep done x = true ∨ x ∈ pick keep (done ++ [y]) ys := by
        rw [pick]
        split
        · rename_i hy
          rw [List.mem_cons]
          refine or_congr_left ⟨?_, ?_⟩
          · rintro rfl
            exact ⟨rfl, hy⟩
          · exact fun h => h.1.symm
        · rename_i hy
          refine ⟨Or.inr, fun h => h.resolve_left ?_⟩
          rintro ⟨rfl, hk⟩
          exact hy hk
      rw [hstep, ih]
      constructor
      · rintro (⟨rfl, hk⟩ | ⟨j, hj, hx, hk⟩)
        · exact ⟨0, Nat.succ_pos _, rfl, by simpa using hk⟩
        · exact ⟨j + 1, Nat.succ_lt_succ hj, by simpa using hx, by simpa using hk⟩
      · rintro ⟨j, hj, hx, hk⟩
        cases j with
        | zero => exact Or.inl ⟨hx, by simpa using hk⟩
        | succ j =>
            exact Or.inr ⟨j, Nat.lt_of_succ_lt_succ hj, by simpa using hx, by simpa using hk⟩

/-- **Selections that decide alike select the same.** -/
theorem Agree.pick_eq {xs : List α} (h : Agree keep keep' xs) :
    pick keep [] xs = pick keep' [] xs :=
  pick_congr [] xs h

/-- **Selections that select the same decide alike**, where no element comes twice. -/
theorem agree_of_pick_eq {β : Type} {f : α → β} {xs : List α} (hn : (xs.map f).Nodup)
    (h : (pick keep [] xs).map f = (pick keep' [] xs).map f) : Agree keep keep' xs := by
  have hpos : ∀ (k : List α → α → Bool) (j : Nat) (hj : j < xs.length),
      f xs[j] ∈ (pick k [] xs).map f ↔ k (xs.take j) xs[j] = true := by
    intro k j hj
    rw [List.mem_map]
    constructor
    · rintro ⟨x, hx, hf⟩
      obtain ⟨i, hi, rfl, hk⟩ := (mem_pick [] xs).mp hx
      obtain rfl : i = j := by
        have hij : (xs.map f)[i]? = (xs.map f)[j]? := by simp [hi, hj, hf]
        exact (List.getElem?_inj (by simpa using hi) hn).mp hij
      exact hk
    · intro hk
      exact ⟨xs[j], (mem_pick [] xs).mpr ⟨j, hj, rfl, hk⟩, rfl⟩
  intro j hj
  rw [Bool.eq_iff_iff, ← hpos keep j hj, h, hpos keep' j hj]

/-! ## Filters and limits -/

theorem filter_pick (done xs : List α) :
    (pick keep done xs).filter r = pick (fun ys x => keep ys x && r x) done xs := by
  induction xs generalizing done with
  | nil => rfl
  | cons x xs ih =>
      simp only [pick]
      by_cases hk : keep done x = true <;> by_cases hr : r x = true <;> simp [hk, hr, ih]

theorem filter_eq_pick (done xs : List α) : xs.filter p = pick (fun _ x => p x) done xs := by
  induction xs generalizing done with
  | nil => rfl
  | cons x xs ih =>
      simp only [pick, List.filter_cons, ih (done ++ [x])]

/-- The first elements that pass a filter. -/
theorem take_filter_eq_pick (n : Nat) (done xs : List α) :
    (xs.filter p).take (n - done.countP p)
      = pick (fun ys x => p x && decide (ys.countP p < n)) done xs := by
  induction xs generalizing done with
  | nil => simp [pick]
  | cons x xs ih =>
      have hih := ih (done ++ [x])
      rw [List.countP_append, List.countP_singleton] at hih
      cases hp : p x with
      | false =>
          simp only [hp, Bool.false_eq_true, if_false, Nat.add_zero] at hih
          simp [pick, hp, hih]
      | true =>
          simp only [hp, if_true] at hih
          by_cases hlt : done.countP p < n
          · have hsub : n - done.countP p = (n - (done.countP p + 1)) + 1 := by omega
            rw [List.filter_cons_of_pos hp, hsub, List.take_succ_cons, hih]
            simp [pick, hp, hlt]
          · -- the limit was reached before
            have h0 : n - done.countP p = 0 := by omega
            have h1 : n - (done.countP p + 1) = 0 := by omega
            rw [h1, List.take_zero] at hih
            simp [pick, hlt, h0, ← hih]

end Pick
