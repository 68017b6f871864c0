import Kapture.Go.Str
import Mathlib.Data.Nat.Log

/-!
# Decimal numbers in names

Object names carry numbers: shard indexes with `%d`, sequence numbers with
`%06d`, dates with fixed-width fields. Two facts about them are used. A plain
rendering determines its number, so names with different numbers differ. A
fixed-width rendering is ordered like its number, byte by byte, as long as the
number fits the width; what the order is otherwise is `padded_lt_padded_iff`.
-/

namespace Go

/-- The ASCII digit of `d`. -/
def digit (d : Nat) : UInt8 := UInt8.ofNat (48 + d % 10)

/-- Digits of `n` in front of `acc`, least significant first. -/
def decimalAux : Nat → Nat → Str → Str
  | 0, _, acc => acc
  | fuel + 1, n, acc =>
      if n < 10 then digit n :: acc else decimalAux fuel (n / 10) (digit n :: acc)

/-- `fmt.Sprintf("%d", n)`. -/
def decimal (n : Nat) : Str := decimalAux (n + 1) n []

/-- The low `w` decimal digits of `n`, most significant first. -/
def digits : Nat → Nat → Str
  | 0, _ => []
  | w + 1, n => digits w (n / 10) ++ [digit n]

/-- `fmt.Sprintf("%0*d", w, n)`: at least `w` digits. -/
def padded (w n : Nat) : Str := if n < 10 ^ w then digits w n else decimal n

/-- The number a digit string denotes. -/
def ofDecimal (s : Str) : Nat := s.foldl (fun a b => 10 * a + (b.toNat - 48)) 0

theorem digit_toNat (d : Nat) : (digit d).toNat = 48 + d % 10 := by
  have h : 48 + d % 10 < 2 ^ 8 := by omega
  rw [digit, UInt8.toNat_ofNat', Nat.mod_eq_of_lt h]

theorem foldl_decimalAux : ∀ (fuel n : Nat) (acc : Str) (a : Nat), n < fuel →
    (decimalAux fuel n acc).foldl (fun a b => 10 * a + (b.toNat - 48)) a
      = acc.foldl (fun a b => 10 * a + (b.toNat - 48))
          ((decimalAux fuel n []).foldl (fun a b => 10 * a + (b.toNat - 48)) a) := by
  intro fuel
  induction fuel with
  | zero => intro n acc a h; omega
  | succ fuel ih =>
      intro n acc a h
      simp only [decimalAux]
      split
      · simp
      · rw [ih (n / 10) (digit n :: acc) a (by omega), ih (n / 10) [digit n] a (by omega)]
        simp

theorem ofDecimal_decimalAux : ∀ (fuel n : Nat), n < fuel →
    ofDecimal (decimalAux fuel n []) = n := by
  intro fuel
  induction fuel with
  | zero => intro n h; omega
  | succ fuel ih =>
      intro n h
      simp only [decimalAux]
      split
      · simp only [ofDecimal, List.foldl_cons, List.foldl_nil, digit_toNat]
        omega
      · rename_i hn
        have hrec := ih (n / 10) (by omega)
        unfold ofDecimal at hrec ⊢
        rw [foldl_decimalAux fuel (n / 10) [digit n] 0 (by omega), hrec]
        simp only [List.foldl_cons, List.foldl_nil, digit_toNat]
        omega

/-- Reading a rendered number back. -/
theorem ofDecimal_decimal (n : Nat) : ofDecimal (decimal n) = n :=
  ofDecimal_decimalAux (n + 1) n (Nat.lt_succ_self n)

/-- **A plain rendering determines its number.** -/
theorem decimal_injective : Function.Injective decimal := by
  intro a b h
  rw [← ofDecimal_decimal a, ← ofDecimal_decimal b, h]

theorem decimalAux_digit : ∀ (fuel n : Nat) (acc : Str),
    (∀ b ∈ acc, 48 ≤ b.toNat ∧ b.toNat ≤ 57) →
    ∀ b ∈ decimalAux fuel n acc, 48 ≤ b.toNat ∧ b.toNat ≤ 57 := by
  intro fuel
  induction fuel with
  | zero => intro n acc h; exact h
  | succ fuel ih =>
      intro n acc h
      have hcons : ∀ b ∈ digit n :: acc, 48 ≤ b.toNat ∧ b.toNat ≤ 57 := by
        intro b hb
        rcases List.mem_cons.mp hb with rfl | hb
        · rw [digit_toNat]; omega
        · exact h b hb
      simp only [decimalAux]
      split
      · exact hcons
      · exact ih (n / 10) _ hcons

variable {b : UInt8} {n w : Nat}

/-- A rendering consists of digits only. -/
theorem decimal_digit (h : b ∈ decimal n) : 48 ≤ b.toNat ∧ b.toNat ≤ 57 :=
  decimalAux_digit (n + 1) n [] (by simp) b h

@[simp] theorem length_digits (w n : Nat) : (digits w n).length = w := by
  induction w generalizing n with
  | zero => rfl
  | succ w ih => simp [digits, ih]

theorem digits_digit (h : b ∈ digits w n) : 48 ≤ b.toNat ∧ b.toNat ≤ 57 := by
  induction w generalizing n with
  | zero => simp [digits] at h
  | succ w ih =>
      rw [digits] at h
      rcases List.mem_append.mp h with h | h
      · exact ih h
      · rw [List.mem_singleton.mp h, digit_toNat]; omega

/-! ## Order -/

/-- A strictly smaller head of the same length decides the comparison. -/
theorem append_lt_append {a b : Str} (x y : Str) (hlen : a.length = b.length) (h : a < b) :
    a ++ x < b ++ y := by
  induction a generalizing b with
  | nil =>
      cases b with
      | nil => exact absurd h (List.lt_irrefl _)
      | cons _ _ => simp at hlen
  | cons u a ih =>
      cases b with
      | nil => simp at hlen
      | cons v b =>
          rw [List.cons_append, List.cons_append]
          rcases List.cons_lt_cons_iff.mp h with huv | ⟨huv, hab⟩
          · exact List.cons_lt_cons_iff.mpr (Or.inl huv)
          · exact List.cons_lt_cons_iff.mpr (Or.inr ⟨huv, ih (by simpa using hlen) hab⟩)

/-- A common head does not matter. -/
theorem append_left_lt {x y : Str} (a : Str) (h : x < y) : a ++ x < a ++ y := by
  induction a with
  | nil => exact h
  | cons u a ih => exact List.cons_lt_cons_iff.mpr (Or.inr ⟨rfl, ih⟩)

/-- **A fixed-width rendering is ordered like its number.** -/
theorem digits_lt_digits {m : Nat} (hm : m < 10 ^ w) (h : n < m) : digits w n < digits w m := by
  induction w generalizing n m with
  | zero => simp at hm; omega
  | succ w ih =>
      have hm' : m / 10 < 10 ^ w := by
        rw [Nat.pow_succ] at hm
        exact Nat.div_lt_of_lt_mul (by omega)
      simp only [digits]
      rcases Nat.lt_or_ge (n / 10) (m / 10) with hlt | hge
      · exact append_lt_append _ _ (by simp) (ih hm' hlt)
      · have heq : n / 10 = m / 10 := by
          have := Nat.div_le_div_right (c := 10) (Nat.le_of_lt h)
          omega
        rw [heq]
        refine append_left_lt _ (List.cons_lt_cons_iff.mpr (Or.inl ?_))
        rw [UInt8.lt_iff_toNat_lt, digit_toNat, digit_toNat]
        omega

theorem ofDecimal_digits (w n : Nat) : ofDecimal (digits w n) = n % 10 ^ w := by
  induction w generalizing n with
  | zero => simp [digits, ofDecimal, Nat.mod_one]
  | succ w ih =>
      have hrec := ih (n / 10)
      unfold ofDecimal at hrec ⊢
      rw [digits, List.foldl_append, hrec]
      simp only [List.foldl_cons, List.foldl_nil, digit_toNat, Nat.pow_succ]
      have h := Nat.mod_mul (x := n) (a := 10) (b := 10 ^ w)
      rw [Nat.mul_comm (10 ^ w) 10, h]
      omega

/-- A number of more than four digits. -/
theorem decimal_long (h : 10000 ≤ n) :
    ∃ y1 y2 y3 y4 y5 rest, decimal n = y1 :: y2 :: y3 :: y4 :: y5 :: rest := by
  have hval := ofDecimal_decimal n
  have hdig := fun b => decimal_digit (b := b) (n := n)
  rcases hd : decimal n with _ | ⟨y1, _ | ⟨y2, _ | ⟨y3, _ | ⟨y4, _ | ⟨y5, rest⟩⟩⟩⟩⟩
  all_goals rw [hd] at hval hdig
  all_goals simp only [ofDecimal, List.foldl_cons, List.foldl_nil, List.mem_cons,
    List.not_mem_nil, or_false, forall_eq_or_imp, forall_eq] at hval hdig
  all_goals first | omega | exact ⟨y1, y2, y3, y4, y5, rest, rfl⟩

/-- Padding with zeros keeps renderings apart. -/
theorem padded_injective (w : Nat) : Function.Injective (padded w) := by
  have hof : ∀ n, ofDecimal (padded w n) = n := by
    intro n
    unfold padded
    split
    · rename_i h
      rw [ofDecimal_digits, Nat.mod_eq_of_lt h]
    · exact ofDecimal_decimal n
  intro a b h
  rw [← hof a, ← hof b, h]

theorem padded_digit (h : b ∈ padded w n) : 48 ≤ b.toNat ∧ b.toNat ≤ 57 := by
  unfold padded at h
  split at h
  · exact digits_digit h
  · exact decimal_digit h

/-! ## Numbers that do not fit the width -/

/-- How many digits `%0*d` writes. -/
def width (w n : Nat) : Nat := if n < 10 ^ w then w else Nat.log 10 n + 1

theorem decimalAux_eq_digits : ∀ (fuel n : Nat) (acc : Str), n < fuel →
    decimalAux fuel n acc = digits (Nat.log 10 n + 1) n ++ acc := by
  intro fuel
  induction fuel with
  | zero => intro n acc h; omega
  | succ fuel ih =>
      intro n acc h
      rw [decimalAux]
      by_cases hn : n < 10
      · rw [if_pos hn, Nat.log_of_lt hn]
        rfl
      · have hlog : Nat.log 10 n = Nat.log 10 (n / 10) + 1 :=
          Nat.log_of_one_lt_of_le (by decide) (Nat.le_of_not_lt hn)
        have hlast : digits (Nat.log 10 (n / 10) + 1 + 1) n
            = digits (Nat.log 10 (n / 10) + 1) (n / 10) ++ [digit n] := rfl
        rw [if_neg hn, ih (n / 10) _ (by omega), hlog, hlast, List.append_assoc]
        rfl

theorem padded_eq_digits (w n : Nat) : padded w n = digits (width w n) n := by
  unfold padded width
  split
  · rfl
  · rw [decimal, decimalAux_eq_digits _ _ _ (Nat.lt_succ_self n), List.append_nil]

theorem lt_pow_width (w n : Nat) : n < 10 ^ width w n := by
  unfold width
  split
  · assumption
  · exact Nat.lt_pow_succ_log_self (by decide) n

theorem width_mono (w : Nat) {m : Nat} (h : n ≤ m) : width w n ≤ width w m := by
  unfold width
  by_cases hm : m < 10 ^ w
  · rw [if_pos hm, if_pos (Nat.lt_of_le_of_lt h hm)]
  · rw [if_neg hm]
    split
    · exact Nat.le_succ_of_le (Nat.le_log_of_pow_le (by decide) (Nat.le_of_not_lt hm))
    · exact Nat.succ_le_succ (Nat.log_mono_right h)

theorem digits_add (a k n : Nat) : digits (a + k) n = digits a (n / 10 ^ k) ++ digits k n := by
  induction k generalizing n with
  | zero => simp [digits]
  | succ k ih =>
      rw [← Nat.add_assoc, digits, ih, digits, Nat.div_div_eq_div_mul, ← Nat.pow_succ',
        List.append_assoc]

/-- The first `width w n` digits of a greater number. -/
def leading (w n m : Nat) : Nat := m / 10 ^ (width w m - width w n)

/-- **A rendering comes before that of a greater number exactly if it is not greater than the first
of its digits**; what follows both begins with a byte below the digits. -/
theorem padded_lt_padded_iff {m : Nat} (h : n < m) {c : UInt8} (hc : c < 48) (x y : Str) :
    padded w n ++ c :: x < padded w m ++ c :: y ↔ n ≤ leading w n m := by
  obtain ⟨k, hk⟩ := Nat.exists_eq_add_of_le (width_mono w h.le)
  have hlead : leading w n m = m / 10 ^ k := by rw [leading, hk, Nat.add_sub_cancel_left]
  have hbound : m / 10 ^ k < 10 ^ width w n := by
    refine Nat.div_lt_of_lt_mul ?_
    have := lt_pow_width w m
    rwa [hk, Nat.add_comm, Nat.pow_add] at this
  rw [padded_eq_digits, padded_eq_digits, hk, digits_add, List.append_assoc, hlead]
  rcases Nat.lt_trichotomy n (m / 10 ^ k) with hlt | heq | hgt
  · exact iff_of_true (append_lt_append _ _ (by simp) (digits_lt_digits hbound hlt)) hlt.le
  · refine iff_of_true ?_ heq.le
    rw [← heq]
    refine append_left_lt _ ?_
    -- the greater number has one more digit, which stands against the byte
    cases k with
    | zero => simp at heq; omega
    | succ k =>
        obtain ⟨d, rest, hd⟩ :=
          List.exists_cons_of_ne_nil (l := digits (k + 1) m) (by simp [digits])
        have hdigit : 48 ≤ d.toNat :=
          (digits_digit (hd ▸ List.mem_cons_self : d ∈ digits (k + 1) m)).1
        rw [hd, List.cons_append]
        refine List.cons_lt_cons_iff.mpr (.inl ?_)
        rw [UInt8.lt_iff_toNat_lt] at hc ⊢
        exact Nat.lt_of_lt_of_le hc hdigit
  · refine iff_of_false (fun hlt => ?_) (by omega)
    have hrev :=
      append_lt_append (digits k m ++ c :: y) (c :: x) (by simp)
        (digits_lt_digits (lt_pow_width w n) hgt)
    exact List.lt_irrefl _ (List.lt_trans hlt hrev)

/-! ## Signed numbers -/

/-- `strconv.Itoa`. -/
def itoa (z : Int) : Str := if z < 0 then 45 :: decimal z.natAbs else decimal z.natAbs

theorem itoa_byte {z : Int} (h : b ∈ itoa z) : b = 45 ∨ (48 ≤ b.toNat ∧ b.toNat ≤ 57) := by
  unfold itoa at h
  split at h
  · rcases List.mem_cons.mp h with rfl | h
    · exact .inl rfl
    · exact .inr (decimal_digit h)
  · exact .inr (decimal_digit h)

def isDigit (b : UInt8) : Bool := 48 ≤ b && b ≤ 57

/-- A digit string as a number. -/
def parseUint (s : Str) : Option Nat :=
  if s ≠ [] ∧ s.all isDigit then some (ofDecimal s) else none

/-- `strconv.ParseInt`, for decimal texts and 64 bits. -/
def parseInt (s : Str) : Option Int :=
  let sign : Int := if s.head? = some 45 then -1 else 1
  let digits := if s.head? = some 45 ∨ s.head? = some 43 then s.tail else s
  match parseUint digits with
  | none => none
  | some n => if -2 ^ 63 ≤ sign * n ∧ sign * n < 2 ^ 63 then some (sign * n) else none

theorem isDigit_iff : isDigit b = true ↔ 48 ≤ b.toNat ∧ b.toNat ≤ 57 := by
  simp [isDigit, UInt8.le_iff_toNat_le]

theorem decimalAux_ne_nil {fuel : Nat} (n : Nat) {acc : Str} (h : acc ≠ [] ∨ fuel ≠ 0) :
    decimalAux fuel n acc ≠ [] := by
  induction fuel generalizing n acc with
  | zero => exact h.resolve_right fun hz => hz rfl
  | succ fuel ih =>
      rw [decimalAux]
      split
      · exact List.cons_ne_nil _ _
      · exact ih _ (Or.inl (List.cons_ne_nil _ _))

theorem decimal_ne_nil (n : Nat) : decimal n ≠ [] := decimalAux_ne_nil n (Or.inr n.succ_ne_zero)

theorem parseUint_decimal (n : Nat) : parseUint (decimal n) = some n := by
  have hall : (decimal n).all isDigit = true :=
    List.all_eq_true.mpr fun b hb => isDigit_iff.mpr (decimal_digit hb)
  rw [parseUint, if_pos ⟨decimal_ne_nil n, hall⟩, ofDecimal_decimal]

theorem head_decimal (h : b.toNat < 48) : (decimal n).head? ≠ some b := by
  intro hb
  have := (decimal_digit (List.mem_of_head? hb)).1
  omega

/-- **A rendered integer is read back**, if it has 64 bits. -/
theorem parseInt_itoa {z : Int} (h : -2 ^ 63 ≤ z ∧ z < 2 ^ 63) : parseInt (itoa z) = some z := by
  unfold itoa
  split
  · rename_i hneg
    have hz : -1 * (z.natAbs : Int) = z := by omega
    simp only [parseInt, List.head?_cons, List.tail_cons, true_or, if_true, parseUint_decimal, hz]
    rw [if_pos h]
  · have hz : 1 * (z.natAbs : Int) = z := by omega
    have hminus : (decimal z.natAbs).head? ≠ some 45 := head_decimal (by decide)
    have hplus : (decimal z.natAbs).head? ≠ some 43 := head_decimal (by decide)
    simp only [parseInt, hminus, hplus, or_self, if_false, parseUint_decimal, hz]
    rw [if_pos h]

theorem parseInt_int32 (v : Int32) : parseInt (itoa v.toInt) = some v.toInt := by
  have hlo : -2 ^ 31 ≤ v.toInt := v.minValue_le_toInt
  have hhi : v.toInt ≤ 2 ^ 31 - 1 := v.toInt_le
  exact parseInt_itoa ⟨by omega, by omega⟩

example : parseInt (lit "-42") = some (-42) ∧ parseInt (lit "9223372036854775808") = none := by
  decide
example : padded 6 42 = lit "000042" := by decide
example : padded 6 1234567 = lit "1234567" := by decide

end Go
