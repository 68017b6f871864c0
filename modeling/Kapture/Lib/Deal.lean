import Mathlib.Data.List.Basic

/-!
# Dealing a sequence out

A sequence is *dealt out* to a set of players when every occurrence in it goes to
exactly one of them and each player receives its occurrences in the original
order. The occurrences are what is dealt, not the values: a value that occurs
twice is two cards.

`Deals` says so with a list of owners, one for each occurrence. Disjointness,
exhaustiveness and order then hold by construction, and the two rules below are
all a proof needs: a sequence filtered by owner is dealt out, and so is the image
of one under a partial map that is applied after the owner was chosen.
-/

namespace Deal

variable {α β ι : Type} [DecidableEq ι] {players : ι → Prop} {xs : List α}

/-- The occurrences of `xs` whose owner is `i`, in order. -/
def pick (i : ι) : List α → List ι → List α
  | x :: xs, o :: os => if o = i then x :: pick i xs os else pick i xs os
  | _, _ => []

/-- `parts` deals `xs` out to the players in `players`. -/
def Deals (players : ι → Prop) (xs : List α) (parts : ι → List α) : Prop :=
  ∃ owners : List ι, owners.length = xs.length ∧ (∀ o ∈ owners, players o)
    ∧ ∀ i, players i → parts i = pick i xs owners

/-- The owners of the occurrences a partial map keeps. -/
def keptOwners (owner : α → ι) (g : α → Option β) (xs : List α) : List ι :=
  xs.filterMap fun x => (g x).map fun _ => owner x

theorem pick_keptOwners (owner : α → ι) (g : α → Option β) (i : ι) (xs : List α) :
    pick i (xs.filterMap g) (keptOwners owner g xs)
      = (xs.filter fun x => owner x = i).filterMap g := by
  induction xs with
  | nil => rfl
  | cons x xs ih =>
      unfold keptOwners at ih ⊢
      cases hg : g x with
      | none =>
          simp only [List.filterMap_cons, hg, Option.map_none, List.filter_cons]
          rw [ih]
          split
          · rw [List.filterMap_cons, hg]
          · rfl
      | some y =>
          simp only [List.filterMap_cons, hg, Option.map_some, List.filter_cons, pick]
          rw [ih]
          by_cases ho : owner x = i
          · simp [ho, hg]
          · simp [ho]

omit [DecidableEq ι] in
theorem length_keptOwners (owner : α → ι) (g : α → Option β) (xs : List α) :
    (keptOwners owner g xs).length = (xs.filterMap g).length := by
  induction xs with
  | nil => rfl
  | cons x xs ih =>
      unfold keptOwners at ih ⊢
      cases hg : g x with
      | none => simpa [hg] using ih
      | some y => simpa [hg] using ih

/--
**Choosing the owner first and mapping afterwards deals the image out.** The
owner is read off the original value, the part receives what the map made of it.
-/
theorem deals_filterMap (owner : α → ι) (g : α → Option β) (hown : ∀ x ∈ xs, players (owner x)) :
    Deals players (xs.filterMap g) fun i => (xs.filter fun x => owner x = i).filterMap g := by
  refine ⟨keptOwners owner g xs, length_keptOwners owner g xs, ?_, ?_⟩
  · intro o ho
    obtain ⟨x, hx, hxo⟩ := List.mem_filterMap.mp ho
    obtain ⟨_, _, rfl⟩ := Option.map_eq_some_iff.mp hxo
    exact hown x hx
  · intro i _
    exact (pick_keptOwners owner g i xs).symm

/-- **Filtering by owner deals a sequence out.** -/
theorem deals_filter (owner : α → ι) (hown : ∀ x ∈ xs, players (owner x)) :
    Deals players xs fun i => xs.filter fun x => owner x = i := by
  have h := deals_filterMap (β := α) owner some hown
  simpa using h

/-- Parts may be replaced by equal parts. -/
theorem Deals.congr {parts parts' : ι → List α} (h : Deals players xs parts)
    (he : ∀ i, players i → parts' i = parts i) : Deals players xs parts' := by
  obtain ⟨owners, hlen, hown, hparts⟩ := h
  exact ⟨owners, hlen, hown, fun i hi => (he i hi).trans (hparts i hi)⟩

end Deal
