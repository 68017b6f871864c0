import Mathlib.Algebra.GroupWithZero.Nat
import Mathlib.Data.List.Nodup

/-!
# Sums and counts by key

Items are filed under keys, and there is a list of keys without repetition. What the keys
get adds up to what the items have, as long as every item has a key of the list. The
addition may be that of a machine integer, so nothing but its laws is assumed.

How many items there are says little about whether **every key has one**: items may be
filed under a key that is not in the list, or several under one key. Each such item is in
`surplus`, each key without an item in `missing`, and the numbers of items and of keys
agree exactly if these two do (`length_add_missing`).
-/

namespace Tally

variable {α κ : Type} [DecidableEq κ]

/-! ## Sums -/

section Sums

variable {M : Type} [Add M] [Zero M] [Std.Associative (α := M) (· + ·)]
  [Std.Commutative (α := M) (· + ·)] [Std.LawfulIdentity (α := M) (· + ·) 0]

omit [DecidableEq κ] [Std.Associative (α := M) (· + ·)] [Std.Commutative (α := M) (· + ·)] in
theorem sum_map_zero (l : List α) : (l.map fun _ => (0 : M)).sum = 0 := by
  induction l with
  | nil => rfl
  | cons x l ih =>
      rw [List.map_cons, List.sum_cons, ih]
      exact Std.LawfulLeftIdentity.left_id 0

omit [DecidableEq κ] in
/-- Two sums of one list. -/
theorem sum_map_add (f g : α → M) (l : List α) :
    (l.map fun x => f x + g x).sum = (l.map f).sum + (l.map g).sum := by
  induction l with
  | nil => exact (Std.LawfulLeftIdentity.left_id 0).symm
  | cons x l ih =>
      rw [List.map_cons, List.sum_cons, ih, List.map_cons, List.sum_cons, List.map_cons,
        List.sum_cons]
      ac_rfl

omit [Std.Associative (α := M) (· + ·)] [Std.Commutative (α := M) (· + ·)] in
/-- Nothing is added for a key that is not there. -/
theorem sum_map_ite_of_notMem {key : α → κ} {k : κ} {l : List α} (hk : k ∉ l.map key) (n : M) :
    (l.map fun x => if key x = k then n else 0).sum = 0 := by
  refine Eq.trans (congrArg List.sum (List.map_congr_left fun x hx => if_neg ?_)) (sum_map_zero l)
  rintro rfl
  exact hk (List.mem_map_of_mem hx)

omit [Std.Associative (α := M) (· + ·)] [Std.Commutative (α := M) (· + ·)] in
/-- What is added for a key is added once, if the key is there once. -/
theorem sum_map_ite_of_mem {key : α → κ} {k : κ} {l : List α} (hnodup : (l.map key).Nodup)
    (hk : k ∈ l.map key) (n : M) : (l.map fun x => if key x = k then n else 0).sum = n := by
  induction l with
  | nil => cases hk
  | cons x l ih =>
      obtain ⟨hx, hnodup⟩ := List.nodup_cons.mp hnodup
      rw [List.map_cons, List.sum_cons]
      by_cases heq : key x = k
      · subst heq
        rw [if_pos rfl, sum_map_ite_of_notMem hx]
        exact Std.LawfulRightIdentity.right_id n
      · have hk : k ∈ l.map key := (List.mem_cons.mp hk).resolve_left fun h => heq h.symm
        rw [if_neg heq, ih hnodup hk]
        exact Std.LawfulLeftIdentity.left_id n

/-- A number is added to what one key has. -/
theorem sum_map_add_ite {key : α → κ} {k : κ} {l : List α} (hnodup : (l.map key).Nodup)
    (hk : k ∈ l.map key) (g : α → M) (n : M) :
    (l.map fun x => if key x = k then g x + n else g x).sum = (l.map g).sum + n := by
  have hsplit : ∀ x, (if key x = k then g x + n else g x) = g x + if key x = k then n else 0 := by
    intro x
    split
    · rfl
    · exact (Std.LawfulRightIdentity.right_id (g x)).symm
  simp only [hsplit]
  rw [sum_map_add, sum_map_ite_of_mem hnodup hk]

omit [DecidableEq κ] in
/-- What meets a condition and what does not. -/
theorem sum_filter_add (p : α → Bool) (g : α → M) (l : List α) :
    ((l.filter p).map g).sum + ((l.filter fun x => !p x).map g).sum = (l.map g).sum := by
  induction l with
  | nil => exact Std.LawfulLeftIdentity.left_id 0
  | cons x l ih =>
      rw [List.map_cons, List.sum_cons, ← ih]
      by_cases hx : p x = true
      · rw [List.filter_cons_of_pos hx, List.filter_cons_of_neg (by simp [hx]), List.map_cons,
          List.sum_cons]
        ac_rfl
      · rw [List.filter_cons_of_neg hx, List.filter_cons_of_pos (by simp [hx]), List.map_cons,
          List.sum_cons]
        ac_rfl

/-- **Groups add up to the whole.** -/
theorem sum_groups (key : α → κ) (g : α → M) {keys : List κ} (hnodup : keys.Nodup) (l : List α)
    (hkeys : ∀ x ∈ l, key x ∈ keys) :
    (keys.map fun k => ((l.filter (key · = k)).map g).sum).sum = (l.map g).sum := by
  induction l with
  | nil => exact sum_map_zero keys
  | cons x l ih =>
      have hstep : ∀ k, (((x :: l).filter (key · = k)).map g).sum
          = if k = key x then ((l.filter (key · = k)).map g).sum + g x
            else ((l.filter (key · = k)).map g).sum := by
        intro k
        by_cases hx : key x = k
        · rw [List.filter_cons_of_pos (by simpa using hx), if_pos hx.symm, List.map_cons,
            List.sum_cons]
          ac_rfl
        · rw [List.filter_cons_of_neg (by simpa using hx), if_neg fun h => hx h.symm]
      have hmem : key x ∈ keys.map id := by
        rw [List.map_id]
        exact hkeys x List.mem_cons_self
      have hadd := sum_map_add_ite (k := key x) (l := keys) (by rwa [List.map_id]) hmem
        (fun k => ((l.filter (key · = k)).map g).sum) (g x)
      simp only [hstep]
      refine hadd.trans ?_
      rw [ih fun y hy => hkeys y (List.mem_cons_of_mem _ hy), List.map_cons, List.sum_cons]
      ac_rfl

end Sums

/-! ## Counts -/

variable (key : α → κ) (keys : List κ) (items : List α)

/-- The keys without an item. -/
def missing : Nat := keys.countP fun k => !(items.map key).contains k

/-- The items that are filed under no key of the list, or are not the only ones of their key. -/
def surplus : Nat :=
  items.countP (fun x => !keys.contains (key x))
    + (keys.map fun k => (items.map key).count k - 1).sum

theorem missing_eq_zero : missing key keys items = 0 ↔ ∀ k ∈ keys, ∃ x ∈ items, key x = k := by
  rw [missing, List.countP_eq_zero]
  constructor
  · intro h k hk
    have hmem := h k hk
    rw [Bool.not_eq_true, Bool.not_eq_false', List.contains_iff_mem] at hmem
    exact List.mem_map.mp hmem
  · intro h k hk
    rw [Bool.not_eq_true, Bool.not_eq_false', List.contains_iff_mem]
    exact List.mem_map.mpr (h k hk)

/-- The items of each key, and the keys that have none. -/
theorem sum_count_add_missing :
    (keys.map fun k => (items.map key).count k).sum + missing key keys items
    = keys.length + (keys.map fun k => (items.map key).count k - 1).sum := by
  unfold missing
  induction keys with
  | nil => rfl
  | cons k keys ih =>
      simp only [List.map_cons, List.sum_cons, List.length_cons, List.countP_cons]
      by_cases hk : k ∈ items.map key
      · have hpos := List.count_pos_iff.mpr hk
        have hcontains : (items.map key).contains k = true := List.contains_iff_mem.mpr hk
        rw [hcontains]
        simp only [Bool.not_true, Bool.false_eq_true, if_false]
        omega
      · have hzero := List.count_eq_zero.mpr hk
        have hcontains : (items.map key).contains k = false := by
          rw [Bool.eq_false_iff]
          exact fun h => hk (List.contains_iff_mem.mp h)
        rw [hcontains, hzero]
        simp only [Bool.not_false, if_true]
        omega

/-- **There are as many items as keys, but for the missing and the surplus.** -/
theorem length_add_missing (hnodup : keys.Nodup) :
    items.length + missing key keys items = keys.length + surplus key keys items := by
  have hfiled : ((items.filter fun x => keys.contains (key x)).map fun _ => 1).sum
      = (keys.map fun k => (items.map key).count k).sum := by
    rw [← sum_groups key (fun _ => 1) hnodup]
    · refine congrArg List.sum (List.map_congr_left fun k hk => ?_)
      have hsame : (items.filter fun x => keys.contains (key x)).filter (key · = k)
          = items.filter (key · = k) := by
        rw [List.filter_filter]
        refine List.filter_congr fun x _ => ?_
        by_cases hx : key x = k
        · have hc : keys.contains (key x) = true := List.contains_iff_mem.mpr (by rwa [hx])
          rw [hc, Bool.and_true]
        · rw [decide_eq_false hx, Bool.false_and]
      rw [hsame, List.map_const', List.sum_replicate_nat, Nat.mul_one,
        ← List.countP_eq_length_filter, List.count, List.countP_map]
      refine List.countP_congr fun x _ => ?_
      simp
    · intro x hx
      exact List.contains_iff_mem.mp (List.mem_filter.mp hx).2
  have hlen : items.length = (items.filter fun x => keys.contains (key x)).length
      + items.countP fun x => !keys.contains (key x) := by
    rw [List.length_eq_countP_add_countP fun x => keys.contains (key x),
      List.countP_eq_length_filter]
    simp only [Bool.not_eq_true, Bool.decide_eq_false]
  have hsum := sum_count_add_missing key keys items
  rw [List.map_const', List.sum_replicate_nat, Nat.mul_one] at hfiled
  unfold surplus
  omega

end Tally
