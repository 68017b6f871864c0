import Mathlib.Data.Rat.Floor

/-!
# Rounding to binary64

A `float64` is the rational number it stands for. Every operation rounds its exact
result to 53 significant bits, ties to even. The numbers of this program are far from
the ends of the exponent range, so there are no infinities and no subnormals here.
-/

namespace Go.Float64

/-- The exponent of the leading bit of `n / d`, for positive `n` and `d`. -/
def exponent (n d : Nat) : Int :=
  let e : Int := (Nat.log2 n : Int) - Nat.log2 d
  if (2 : Rat) ^ e ≤ (n : Rat) / d then e else e - 1

def roundEven (x : Rat) : Int :=
  let r := x - ⌊x⌋
  if r < 1 / 2 then ⌊x⌋ else if 1 / 2 < r then ⌊x⌋ + 1
  else if ⌊x⌋ % 2 = 0 then ⌊x⌋ else ⌊x⌋ + 1

/-- The nearest `float64`. -/
def round (x : Rat) : Rat :=
  if x = 0 then 0
  else
    let ulp := (2 : Rat) ^ (exponent x.num.natAbs x.den - 52)
    roundEven (x / ulp) * ulp

/-- `float64(n)`. -/
def ofInt (n : Int) : Rat := round n

def mul (x y : Rat) : Rat := round (x * y)

def div (x y : Rat) : Rat := round (x / y)

/-- `int64(x)`, cut off at the point. A number that does not fit becomes the smallest one,
as on amd64. -/
def toInt64 (x : Rat) : Int :=
  let n := if 0 ≤ x then ⌊x⌋ else ⌈x⌉
  if -2 ^ 63 ≤ n ∧ n < 2 ^ 63 then n else -2 ^ 63

/-! ## Integers -/

/-- An integer of at most 53 significant bits. -/
def Fits (n : Nat) : Prop := 2 ^ (Nat.log2 n - 52) ∣ n

instance (n : Nat) : Decidable (Fits n) := inferInstanceAs (Decidable (_ ∣ _))

theorem fits_of_le {r : Nat} (h : r ≤ 2 ^ 53) (k : Nat) : Fits (r * 2 ^ k) := by
  unfold Fits
  rcases h.lt_or_eq with h | rfl
  · by_cases hr : r = 0
    · rw [hr, zero_mul]
      exact dvd_zero _
    · have hne : r * 2 ^ k ≠ 0 := mul_ne_zero hr (Nat.two_pow_pos k).ne'
      have hlt : r * 2 ^ k < 2 ^ (53 + k) := by
        rw [pow_add]
        exact Nat.mul_lt_mul_of_pos_right h (Nat.two_pow_pos k)
      have hlog := (Nat.log2_lt hne).mpr hlt
      exact (pow_dvd_pow 2 (by omega)).trans (dvd_mul_left _ _)
  · rw [← pow_add, Nat.log2_two_pow]
    exact pow_dvd_pow 2 (by omega)

variable {n : Nat}

theorem fits_of_lt (h : n < 2 ^ 53) : Fits n := by
  have hfits := fits_of_le h.le 0
  rwa [pow_zero, mul_one] at hfits

theorem roundEven_intCast (n : Int) : roundEven n = n := by
  unfold roundEven
  rw [Int.floor_intCast, sub_self, if_pos (by norm_num)]

theorem exponent_nat (hn : n ≠ 0) : exponent n 1 = Nat.log2 n := by
  have hle : (2 : Rat) ^ ((Nat.log2 n : Int) - Nat.log2 1) ≤ (n : Rat) / (1 : Nat) := by
    rw [show Nat.log2 1 = 0 from rfl, Nat.cast_zero, sub_zero, zpow_natCast, Nat.cast_one, div_one]
    exact_mod_cast Nat.log2_self_le hn
  rw [exponent, if_pos hle]
  exact sub_zero _

/-- The unit in the last place of an integer: a fraction, which divides it, or a power of two. -/
theorem round_nat (hn : n ≠ 0) : (Nat.log2 n ≤ 52 ∧ round n = n)
    ∨ round n = roundEven (n / (2 ^ (Nat.log2 n - 52) : Nat)) * (2 ^ (Nat.log2 n - 52) : Nat) := by
  have hexp : exponent (n : Rat).num.natAbs (n : Rat).den = Nat.log2 n := exponent_nat hn
  unfold round
  rw [if_neg (Nat.cast_ne_zero.mpr hn)]
  dsimp only
  rw [hexp]
  rcases Nat.le_total (Nat.log2 n) 52 with hlog | hlog
  · have hulp : (2 : Rat) ^ ((Nat.log2 n : Int) - 52)
        = ((2 ^ (52 - Nat.log2 n) : Nat) : Rat)⁻¹ := by
      rw [Nat.cast_pow, Nat.cast_ofNat, ← zpow_natCast, ← zpow_neg, Nat.cast_sub hlog,
        Nat.cast_ofNat, neg_sub]
    refine .inl ⟨hlog, ?_⟩
    rw [hulp, div_inv_eq_mul, ← Nat.cast_mul, ← Int.cast_natCast (n * _), roundEven_intCast,
      Int.cast_natCast, Nat.cast_mul, mul_assoc, mul_inv_cancel₀, mul_one]
    exact Nat.cast_ne_zero.mpr (Nat.two_pow_pos _).ne'
  · have hulp : (2 : Rat) ^ ((Nat.log2 n : Int) - 52) = ((2 ^ (Nat.log2 n - 52) : Nat) : Rat) := by
      rw [Nat.cast_pow, Nat.cast_ofNat, ← zpow_natCast, Nat.cast_sub hlog, Nat.cast_ofNat]
    exact .inr (by rw [hulp])

theorem round_of_fits (h : Fits n) : round n = n := by
  by_cases hn : n = 0
  · rw [hn]
    rfl
  · rcases round_nat hn with ⟨-, hround⟩ | hround
    · exact hround
    · obtain ⟨q, hq⟩ := h
      have hpow : ((2 ^ (Nat.log2 n - 52) : Nat) : Rat) ≠ 0 :=
        Nat.cast_ne_zero.mpr (Nat.two_pow_pos _).ne'
      have hdiv : (n : Rat) / (2 ^ (Nat.log2 n - 52) : Nat) = ((q : Int) : Rat) := by
        rw [div_eq_iff hpow, Int.cast_natCast, ← Nat.cast_mul, mul_comm q, ← hq]
      rw [hround, hdiv, roundEven_intCast, Int.cast_natCast, ← Nat.cast_mul, mul_comm q, ← hq]

theorem roundEven_cases (x : Rat) : roundEven x = ⌊x⌋ ∨ roundEven x = ⌊x⌋ + 1 := by
  unfold roundEven
  dsimp only
  split_ifs
  · exact .inl rfl
  · exact .inr rfl
  · exact .inl rfl
  · exact .inr rfl

/-- **An integer is rounded to an integer of 53 bits.** -/
theorem exists_round (n : Nat) : ∃ m : Nat, round n = m ∧ Fits m := by
  by_cases hn : n = 0
  · exact ⟨0, by rw [hn]; rfl, by decide⟩
  · rcases round_nat hn with ⟨hlog, hround⟩ | hround
    · refine ⟨n, hround, fits_of_lt ((Nat.log2_lt hn).mp (by omega))⟩
    · generalize hk : Nat.log2 n - 52 = k at hround
      have hq : n / 2 ^ k < 2 ^ 53 := by
        have hlt : n < 2 ^ (Nat.log2 n + 1) := Nat.lt_log2_self
        rw [Nat.div_lt_iff_lt_mul (Nat.two_pow_pos k), ← pow_add]
        exact hlt.trans_le (Nat.pow_le_pow_right (by decide) (by omega))
      have hfloor : ⌊(n : Rat) / (2 ^ k : Nat)⌋ = ((n / 2 ^ k : Nat) : Int) := by
        exact Rat.floor_natCast_div_natCast n (2 ^ k)
      rcases roundEven_cases ((n : Rat) / (2 ^ k : Nat)) with hcase | hcase
      · refine ⟨n / 2 ^ k * 2 ^ k, ?_, fits_of_le hq.le k⟩
        rw [hround, hcase, hfloor, Int.cast_natCast, Nat.cast_mul]
      · refine ⟨(n / 2 ^ k + 1) * 2 ^ k, ?_, fits_of_le hq k⟩
        rw [hround, hcase, hfloor, Nat.cast_mul, Nat.cast_add, Nat.cast_one]
        push_cast
        rfl

-- a third and the first integer that is no float64
example : round (1 / 3) = 6004799503160661 / 2 ^ 54 ∧ ofInt (2 ^ 53 + 1) = 2 ^ 53 := by
  decide +kernel

end Go.Float64
