import Mathlib.Tactic.Basic

/-!
# Pull loops

A loop pulls items from a stream until the stream fails, and hands each one to a
consumer that may fail too. Stream and consumer share a world: what the consumer
did decides what the next pull finds. `Drives` is such a loop, run to its end.

When the consumer cannot change what the stream yields, the loop is a walk over a
list that was fixed from the start: `walk`. A stream on its own refines a list when
every pull takes its first element (`pulls_eq`).
-/

namespace Pull

variable {ω σ ε δ α : Type}

/-- Why a loop ended. -/
inductive Stop (ε δ : Type) where
  /-- The stream returned this error. -/
  | ended (err : ε)
  /-- The consumer returned this error. -/
  | refused (err : δ)
deriving DecidableEq, Repr

/-- The loop on world `w` and stream state `s` stops for `stop`, in `w'` and `s'`. -/
inductive Drives (next : ω → σ → Except ε α × σ) (consume : α → ω → Except δ Unit × ω) :
    ω → σ → Stop ε δ → ω → σ → Prop
  | ended {w : ω} {s s' : σ} {err : ε} :
      next w s = (.error err, s') → Drives next consume w s (.ended err) w s'
  | refused {w w' : ω} {s s' : σ} {x : α} {err : δ} :
      next w s = (.ok x, s') → consume x w = (.error err, w') →
        Drives next consume w s (.refused err) w' s'
  | item {w w' w'' : ω} {s s' s'' : σ} {x : α} {stop : Stop ε δ} :
      next w s = (.ok x, s') → consume x w = (.ok (), w') →
        Drives next consume w' s' stop w'' s'' → Drives next consume w s stop w'' s''

variable {next : ω → σ → Except ε α × σ} {consume : α → ω → Except δ Unit × ω}

/-- Two stream states from which the first pull does the same drive alike. -/
theorem Drives.of_next_eq {w w' : ω} {s t s' : σ} {stop : Stop ε δ} (h : next w s = next w t)
    (ht : Drives next consume w t stop w' s') : Drives next consume w s stop w' s' := by
  cases ht with
  | ended h' => exact .ended (h.trans h')
  | refused h' hc => exact .refused (h.trans h') hc
  | item h' hc hrest => exact .item (h.trans h') hc hrest

/-- The consumer on a list, up to the first item it refuses. -/
def walk (consume : α → ω → Except δ Unit × ω) : List α → ω → Except δ Unit × ω
  | [], w => (.ok (), w)
  | x :: xs, w =>
      match consume x w with
      | (.error err, w') => (.error err, w')
      | (.ok (), w') => walk consume xs w'

/-- A walk that refuses nothing keeps what each step keeps. -/
theorem walk_invariant {P : ω → Prop} {xs : List α} {w w' : ω} {res : Except δ Unit}
    (hstep : ∀ x ∈ xs, ∀ w, P w → P (consume x w).2) (hw : P w)
    (h : walk consume xs w = (res, w')) : P w' := by
  induction xs generalizing w with
  | nil =>
      cases h
      exact hw
  | cons x xs ih =>
      have hx : P (consume x w).2 := hstep x (List.mem_cons_self ..) w hw
      rw [walk] at h
      split at h
      · rename_i err w₁ hc
        cases h
        rw [hc] at hx
        exact hx
      · rename_i w₁ hc
        rw [hc] at hx
        exact ih (fun y hy => hstep y (List.mem_cons_of_mem _ hy)) hx h

/-- The answers of the first `n` pulls, and the state after them. -/
def pulls (next : σ → Except ε α × σ) : Nat → σ → List (Except ε α) × σ
  | 0, s => ([], s)
  | n + 1, s => ((next s).1 :: (pulls next n (next s).2).1, (pulls next n (next s).2).2)

/-- **A stream that yields a list, and then says that it is done, forever.** -/
theorem pulls_eq {next : σ → Except ε α × σ} {done : ε} {R : List α → σ → Prop}
    (hnil : ∀ s, R [] s → (next s).1 = .error done ∧ R [] (next s).2)
    (hcons : ∀ x xs s, R (x :: xs) s → (next s).1 = .ok x ∧ R xs (next s).2)
    (n : Nat) {xs : List α} {s : σ} (h : R xs s) :
    (pulls next n s).1 = (xs.take n).map .ok ++ List.replicate (n - xs.length) (.error done)
      ∧ R (xs.drop n) (pulls next n s).2 := by
  induction n generalizing xs s with
  | zero =>
      rw [Nat.zero_sub]
      exact ⟨rfl, h⟩
  | succ n ih =>
      cases xs with
      | nil =>
          obtain ⟨hanswer, hrest⟩ := hnil s h
          obtain ⟨hanswers, hend⟩ := ih hrest
          rw [List.drop_nil] at hend
          refine ⟨?_, hend⟩
          rw [pulls, hanswer, hanswers]
          simp [List.replicate_succ]
      | cons x xs =>
          obtain ⟨hanswer, hrest⟩ := hcons x xs s h
          obtain ⟨hanswers, hend⟩ := ih hrest
          refine ⟨?_, hend⟩
          rw [pulls, hanswer, hanswers, List.length_cons, Nat.succ_sub_succ]
          rfl

end Pull
