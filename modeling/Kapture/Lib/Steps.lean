import Mathlib.Tactic.Basic

/-!
# A system that takes steps

A state and acts on it, each of which may be impossible. What every reachable state
satisfies follows from what an act preserves (`Reach.holds`). A list of acts can be run, and
ends in a reachable state.
-/

namespace Steps

variable {S A : Type} (act : A → S → Option S) (ok : A → S → Prop)

/-- What is reached from `s₀` when every act meets `ok`. -/
inductive Reach (s₀ : S) : S → Prop
  | start : Reach s₀ s₀
  | step {s s' : S} {a : A} : Reach s₀ s → ok a s → act a s = some s' → Reach s₀ s'

variable {act ok} {s₀ : S}

/-- **What every reachable state satisfies.** -/
theorem Reach.holds {I : S → Prop} {s : S} (h : Reach act ok s₀ s) (h₀ : I s₀)
    (hstep : ∀ a s s', ok a s → act a s = some s' → I s → I s') : I s := by
  induction h with
  | start => exact h₀
  | step _ hok hact ih => exact hstep _ _ _ hok hact ih

variable (act) in
/-- Takes the steps, as long as each of them meets a condition that can be checked. -/
def run (check : A → S → Bool) : List A → S → Option S
  | [], s => some s
  | a :: rest, s => if check a s then (act a s).bind (run check rest) else none

theorem reach_of_run {check : A → S → Bool} (hok : ∀ a s, check a s = true → ok a s)
    {acts : List A} {s s' : S} (hs : Reach act ok s₀ s) (h : run act check acts s = some s') :
    Reach act ok s₀ s' := by
  induction acts generalizing s with
  | nil =>
      cases h
      exact hs
  | cons a rest ih =>
      unfold run at h
      split at h
      · rename_i hc
        obtain ⟨t, ht, hrest⟩ := Option.bind_eq_some_iff.mp h
        exact ih (hs.step (hok a s hc) ht) hrest
      · cases h

/-- A run that ends in a state with a decidable property. -/
theorem exists_of_run {check : A → S → Bool} (hok : ∀ a s, check a s = true → ok a s)
    (acts : List A) (P : S → Bool) (h : (run act check acts s₀).any P = true) :
    ∃ s, Reach act ok s₀ s ∧ P s = true := by
  obtain ⟨s, hrun, hP⟩ := (Option.any_eq_true _ _).mp h
  exact ⟨s, reach_of_run hok .start hrun, hP⟩

/-- A run whose steps meet a condition, to a state with a property, when both can be decided. -/
theorem exists_run (act : A → S → Option S) (ok : A → S → Prop) [∀ a s, Decidable (ok a s)]
    (s₀ : S) (acts : List A) (P : S → Prop) [DecidablePred P]
    (h : (run act (fun a s => decide (ok a s)) acts s₀).any (fun s => decide (P s)) = true) :
    ∃ s, Reach act ok s₀ s ∧ P s := by
  obtain ⟨s, hreach, hP⟩ := exists_of_run (fun a s h => of_decide_eq_true h) acts _ h
  exact ⟨s, hreach, of_decide_eq_true hP⟩

end Steps
