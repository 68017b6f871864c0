import Kapture.Go.Decimal

/-!
# Calendar dates

The proleptic Gregorian calendar of Go's `time` package, on days counted from
January 1 of year 1, with the one layout the storage layout uses: `2006-01-02`.

Two facts are proved. The decomposition of a day number into year and day of the
year is exact, so it is ordered like the day number; and the rendered date is
ordered like the day, byte by byte, while the year has four digits.
-/

namespace Go

/-- Whether a year has 366 days. -/
def isLeap (year : Nat) : Bool := year % 4 == 0 && (year % 100 != 0 || year % 400 == 0)

/-- The number of days in a year. -/
def yearLength (year : Nat) : Nat := if isLeap year then 366 else 365

/-- The number of days before January 1 of a year; negative before year 1. -/
def daysBeforeYear (year : Int) : Int :=
  365 * (year - 1) + (year - 1) / 4 - (year - 1) / 100 + (year - 1) / 400

/-- The year and the day of the year, from zero, of a day number: 400-year
cycles, then centuries, then four-year cycles, then years. -/
def yearDay (day : Nat) : Nat × Nat :=
  let n400 := day / 146097
  let d1 := day % 146097
  let n100 := min (d1 / 36524) 3
  let d2 := d1 - n100 * 36524
  let n4 := d2 / 1461
  let d3 := d2 % 1461
  let n1 := min (d3 / 365) 3
  (400 * n400 + 100 * n100 + 4 * n4 + n1 + 1, d3 - n1 * 365)

/-- The lengths of the months. -/
def monthLengths (leap : Bool) : List Nat :=
  [31, if leap then 29 else 28, 31, 30, 31, 30, 31, 31, 30, 31, 30, 31]

/-- The month, counting from `m`, and the day of the month of a day counted from
the start of month `m`. -/
def monthDay : List Nat → Nat → Nat → Nat × Nat
  | [], m, d => (m, d + 1)
  | len :: rest, m, d => if d < len then (m, d + 1) else monthDay rest (m + 1) (d - len)

/-- A calendar date. -/
structure Date where
  year : Nat
  month : Nat
  day : Nat
deriving DecidableEq, Repr

/-- The date of a day number. -/
def Date.ofDay (day : Nat) : Date :=
  let yd := yearDay day
  let md := monthDay (monthLengths (isLeap yd.1)) 1 yd.2
  ⟨yd.1, md.1, md.2⟩

/-- `t.Format("2006-01-02")`. -/
def Date.format (d : Date) : Str :=
  padded 4 d.year ++ 45 :: padded 2 d.month ++ 45 :: padded 2 d.day

/-- The number of days in a month. -/
def daysIn (year month : Nat) : Nat := (monthLengths (isLeap year)).getD (month - 1) 0

/-- The number of days before a month, within its year. -/
def daysBeforeMonth (year month : Nat) : Nat :=
  ((monthLengths (isLeap year)).take (month - 1)).sum

/-- The number a string of `w` digits denotes. -/
def fixedNumber (w : Nat) (s : Str) : Option Nat :=
  if s.length = w ∧ s.all (fun b => 48 ≤ b && b ≤ 57) then some (ofDecimal s) else none

/-- `time.Parse("2006-01-02", s)`, as a day number. -/
def parseDate (s : Str) : Option Int := do
  let year ← fixedNumber 4 (s.take 4)
  let month ← fixedNumber 2 ((s.drop 5).take 2)
  let day ← fixedNumber 2 (s.drop 8)
  if s[4]? = some 45 ∧ s[7]? = some 45 ∧ 1 ≤ month ∧ month ≤ 12 ∧ 1 ≤ day
      ∧ day ≤ daysIn year month then
    some (daysBeforeYear year + daysBeforeMonth year month + (day - 1))
  else none

/-! ## A day number is its year and its day of the year -/

/-- The cycle counts behind `yearDay`. A 366th day only exists at the end of a
four-year cycle that is not cut short by its century. -/
theorem yearDay_digits (day : Nat) : ∃ a h b g r : Nat,
    yearDay day = (400 * a + 100 * h + 4 * b + g + 1, r)
      ∧ h ≤ 3 ∧ b ≤ 24 ∧ g ≤ 3 ∧ r < 366
      ∧ day = 146097 * a + 36524 * h + 1461 * b + 365 * g + r
      ∧ (r = 365 → g = 3 ∧ (b = 24 → h = 3)) := by
  refine ⟨_, _, _, _, _, rfl, ?_, ?_, ?_, ?_, ?_, ?_⟩ <;> omega

/-- **The decomposition is exact.** -/
theorem yearDay_spec (day : Nat) :
    (day : Int) = daysBeforeYear (yearDay day).1 + (yearDay day).2 := by
  obtain ⟨a, h, b, g, r, he, hh, hb, hg, _, hday, _⟩ := yearDay_digits day
  have h4 : (400 * a + 100 * h + 4 * b + g) / 4 = 100 * a + 25 * h + b := by omega
  have h100 : (400 * a + 100 * h + 4 * b + g) / 100 = 4 * a + h := by omega
  have h400 : (400 * a + 100 * h + 4 * b + g) / 400 = a := by omega
  rw [he]
  simp only [daysBeforeYear]
  omega

theorem yearDay_snd_lt (day : Nat) : (yearDay day).2 < yearLength (yearDay day).1 := by
  obtain ⟨a, h, b, g, r, he, hh, hb, hg, hr, _, hlast⟩ := yearDay_digits day
  rw [he]
  unfold yearLength
  split
  · exact hr
  · rename_i hl
    by_contra hge
    have h365 : r = 365 := by omega
    apply hl
    simp only [isLeap, Bool.and_eq_true, Bool.or_eq_true, beq_iff_eq, bne_iff_ne]
    have := hlast h365
    omega

theorem daysBeforeYear_succ (year : Nat) :
    daysBeforeYear (year + 1) = daysBeforeYear year + yearLength year := by
  have hl : (isLeap year = true) ↔ year % 4 = 0 ∧ (year % 100 ≠ 0 ∨ year % 400 = 0) := by
    simp [isLeap]
  unfold yearLength daysBeforeYear
  split
  · rename_i h
    have := hl.mp h
    omega
  · rename_i h
    have := mt hl.mpr h
    omega

theorem daysBeforeYear_mono {y z : Nat} (h : y ≤ z) : daysBeforeYear y ≤ daysBeforeYear z := by
  unfold daysBeforeYear
  omega

variable {a b day : Nat}

/-- **Later days come later in the year, or in a later year.** -/
theorem yearDay_lt (h : a < b) :
    (yearDay a).1 < (yearDay b).1
      ∨ (yearDay a).1 = (yearDay b).1 ∧ (yearDay a).2 < (yearDay b).2 := by
  have ha := yearDay_spec a
  have hb := yearDay_spec b
  have hbl := yearDay_snd_lt b
  rcases Nat.lt_trichotomy (yearDay a).1 (yearDay b).1 with hlt | heq | hgt
  · exact Or.inl hlt
  · refine Or.inr ⟨heq, ?_⟩
    rw [heq] at ha
    omega
  · -- a later year starts after every day of the earlier one
    have hs := daysBeforeYear_succ (yearDay b).1
    have hm : daysBeforeYear ((yearDay b).1 + 1) ≤ daysBeforeYear (yearDay a).1 :=
      daysBeforeYear_mono (Nat.succ_le_of_lt hgt)
    omega

/-! ## Months -/

theorem monthDay_fst_ge : ∀ (ls : List Nat) (m d : Nat), m ≤ (monthDay ls m d).1
  | [], m, d => Nat.le_refl m
  | len :: rest, m, d => by
      rw [monthDay]
      split
      · exact Nat.le_refl m
      · have := monthDay_fst_ge rest (m + 1) (d - len)
        omega

theorem monthDay_lt : ∀ (ls : List Nat) (m a b : Nat), a < b →
    (monthDay ls m a).1 < (monthDay ls m b).1
      ∨ (monthDay ls m a).1 = (monthDay ls m b).1 ∧ (monthDay ls m a).2 < (monthDay ls m b).2
  | [], m, a, b, h => Or.inr ⟨rfl, by simpa [monthDay] using h⟩
  | len :: rest, m, a, b, h => by
      simp only [monthDay]
      by_cases ha : a < len
      · by_cases hb : b < len
        · simp [ha, hb, h]
        · have := monthDay_fst_ge rest (m + 1) (b - len)
          simp only [ha, hb, if_true, if_false]
          left
          omega
      · have hb : ¬ b < len := by omega
        simp only [ha, hb, if_false]
        exact monthDay_lt rest (m + 1) (a - len) (b - len) (by omega)

theorem monthDay_bounds : ∀ (ls : List Nat) (m d : Nat), d < ls.sum → (∀ l ∈ ls, l < 100) →
    (monthDay ls m d).1 < m + ls.length ∧ (monthDay ls m d).2 < 100
  | [], m, d, h, _ => by simp at h
  | len :: rest, m, d, h, hl => by
      have hlen := hl len (List.mem_cons_self ..)
      rw [monthDay]
      split
      · simp only [List.length_cons]
        omega
      · have := monthDay_bounds rest (m + 1) (d - len)
          (by simp only [List.sum_cons] at h; omega)
          (fun l hmem => hl l (List.mem_cons_of_mem _ hmem))
        simp only [List.length_cons]
        omega

/-- The month of a day and the day in the month, by the months before it. -/
theorem monthDay_spec : ∀ (ls : List Nat) (m d : Nat), d < ls.sum →
    ∃ i r, i < ls.length ∧ monthDay ls m d = (m + i, r + 1) ∧ r < ls.getD i 0
      ∧ d = (ls.take i).sum + r
  | [], m, d, h => by simp at h
  | len :: rest, m, d, h => by
      rw [monthDay]
      split
      · rename_i hlt
        exact ⟨0, d, Nat.succ_pos _, rfl, hlt, by simp⟩
      · rename_i hge
        obtain ⟨i, r, hi, he, hr, hd⟩ := monthDay_spec rest (m + 1) (d - len)
          (by rw [List.sum_cons] at h; omega)
        refine ⟨i + 1, r, Nat.succ_lt_succ hi, ?_, hr, ?_⟩
        · rw [he, Nat.add_assoc, Nat.add_comm 1 i]
        · rw [List.take_succ_cons, List.sum_cons]
          omega

theorem sum_monthLengths (year : Nat) :
    (monthLengths (isLeap year)).sum = yearLength year := by
  unfold yearLength
  cases isLeap year <;> rfl

/-- Months and days have two digits. -/
theorem ofDay_bounds (day : Nat) : (Date.ofDay day).month < 100 ∧ (Date.ofDay day).day < 100 := by
  have h := monthDay_bounds (monthLengths (isLeap (yearDay day).1)) 1 (yearDay day).2
    (by rw [sum_monthLengths]; exact yearDay_snd_lt day)
    (by intro l hl; revert hl; cases isLeap (yearDay day).1 <;> simp [monthLengths] <;> omega)
  have hlen : (monthLengths (isLeap (yearDay day).1)).length = 12 := rfl
  rw [hlen] at h
  exact ⟨by simp only [Date.ofDay]; omega, h.2⟩

/-! ## Rendered dates -/

theorem padded_eq {w n : Nat} (h : n < 10 ^ w) : padded w n = digits w n := if_pos h

/-- The day numbers whose year has four digits. -/
def FourDigitYear (day : Nat) : Prop := (Date.ofDay day).year < 10000

instance (day : Nat) : Decidable (FourDigitYear day) :=
  inferInstanceAs (Decidable ((Date.ofDay day).year < 10000))

theorem format_eq (h : FourDigitYear day) :
    (Date.ofDay day).format = digits 4 (Date.ofDay day).year
      ++ 45 :: digits 2 (Date.ofDay day).month ++ 45 :: digits 2 (Date.ofDay day).day := by
  have hb := ofDay_bounds day
  have hy : (Date.ofDay day).year < 10 ^ 4 := h
  rw [Date.format, padded_eq hy, padded_eq (w := 2) (by omega), padded_eq (w := 2) (by omega)]

theorem length_format (h : FourDigitYear day) : (Date.ofDay day).format.length = 10 := by
  rw [format_eq h]
  simp

/-- What follows the year. -/
def Date.afterYear (d : Date) : Str := 45 :: padded 2 d.month ++ 45 :: padded 2 d.day

theorem format_eq_afterYear (d : Date) :
    d.format = padded 4 d.year ++ d.afterYear := List.append_assoc ..

theorem afterYear_eq (day : Nat) : (Date.ofDay day).afterYear =
    45 :: digits 2 (Date.ofDay day).month ++ 45 :: digits 2 (Date.ofDay day).day := by
  have hb := ofDay_bounds day
  have hm : (Date.ofDay day).month < 10 ^ 2 := hb.1
  have hd : (Date.ofDay day).day < 10 ^ 2 := hb.2
  rw [Date.afterYear, padded_eq hm, padded_eq hd]

theorem length_afterYear (day : Nat) : (Date.ofDay day).afterYear.length = 6 := by
  rw [afterYear_eq]
  simp

/-- In one year, the months and days decide. -/
theorem afterYear_lt (h : a < b) (hyear : (Date.ofDay a).year = (Date.ofDay b).year) :
    (Date.ofDay a).afterYear < (Date.ofDay b).afterYear := by
  have heq : (yearDay a).1 = (yearDay b).1 := hyear
  have hlt : (yearDay a).2 < (yearDay b).2 := by
    rcases yearDay_lt h with hlt | ⟨-, hlt⟩
    · omega
    · exact hlt
  have hmd : (Date.ofDay a).month < (Date.ofDay b).month
      ∨ (Date.ofDay a).month = (Date.ofDay b).month ∧ (Date.ofDay a).day < (Date.ofDay b).day := by
    have := monthDay_lt (monthLengths (isLeap (yearDay b).1)) 1 _ _ hlt
    simpa only [Date.ofDay, heq] using this
  have bb := ofDay_bounds b
  rw [afterYear_eq, afterYear_eq, List.cons_append, List.cons_append]
  refine List.cons_lt_cons_iff.mpr (Or.inr ⟨rfl, ?_⟩)
  rcases hmd with hm | ⟨hm, hd⟩
  · exact append_lt_append _ _ (by simp) (digits_lt_digits (by omega) hm)
  · rw [hm]
    refine append_left_lt _ (List.cons_lt_cons_iff.mpr (Or.inr ⟨rfl, ?_⟩))
    exact digits_lt_digits (by omega) hd

/-- **The years decide by their leading digits**, whatever follows the dates. -/
theorem format_lt_iff (h : a < b) (x y : Str) :
    (Date.ofDay a).format ++ x < (Date.ofDay b).format ++ y
      ↔ (Date.ofDay a).year ≤ leading 4 (Date.ofDay a).year (Date.ofDay b).year := by
  rw [format_eq_afterYear, format_eq_afterYear, List.append_assoc, List.append_assoc]
  rcases yearDay_lt h with hlt | ⟨heq, -⟩
  · rw [Date.afterYear, Date.afterYear]
    simp only [List.cons_append]
    exact padded_lt_padded_iff hlt (by decide) _ _
  · have hyear : (Date.ofDay a).year = (Date.ofDay b).year := heq
    have hsame : leading 4 (Date.ofDay b).year (Date.ofDay b).year = (Date.ofDay b).year := by
      simp [leading]
    rw [hyear, hsame]
    refine iff_of_true (append_left_lt _ ?_) (Nat.le_refl _)
    exact append_lt_append _ _ (by rw [length_afterYear, length_afterYear]) (afterYear_lt h hyear)

/-- **Rendered dates are ordered like the days they name.** -/
theorem format_lt (hb : FourDigitYear b) (h : a < b) :
    (Date.ofDay a).format < (Date.ofDay b).format := by
  have hby : (Date.ofDay b).year < 10 ^ 4 := hb
  have hle : (Date.ofDay a).year ≤ (Date.ofDay b).year := by
    rcases yearDay_lt h with hlt | ⟨heq, -⟩
    · exact Nat.le_of_lt hlt
    · exact Nat.le_of_eq heq
  have hlead : leading 4 (Date.ofDay a).year (Date.ofDay b).year = (Date.ofDay b).year := by
    rw [leading, width, if_pos hby, width, if_pos (Nat.lt_of_le_of_lt hle hby), Nat.sub_self,
      Nat.pow_zero, Nat.div_one]
  have hlt := (format_lt_iff h [] []).mpr (by rw [hlead]; exact hle)
  rwa [List.append_nil, List.append_nil] at hlt

/-! ## Parsed dates -/

theorem fixedNumber_digits {w n : Nat} (h : n < 10 ^ w) : fixedNumber w (digits w n) = some n := by
  have hall : (digits w n).all (fun b => 48 ≤ b && b ≤ 57) = true :=
    List.all_eq_true.mpr fun b hb => isDigit_iff.mpr (digits_digit hb)
  rw [fixedNumber, if_pos ⟨length_digits w n, hall⟩, ofDecimal_digits, Nat.mod_eq_of_lt h]

/-- A text that is a date has a hyphen after four bytes and ends in two digits. -/
theorem parseDate_some {s : Str} {d : Int} (h : parseDate s = some d) :
    s[4]? = some 45 ∧ ∃ b, s.getLast? = some b ∧ isDigit b = true := by
  obtain ⟨year, -, h⟩ := Option.bind_eq_some_iff.mp h
  obtain ⟨month, -, h⟩ := Option.bind_eq_some_iff.mp h
  obtain ⟨day, hday, h⟩ := Option.bind_eq_some_iff.mp h
  split at h
  · rename_i hc
    unfold fixedNumber at hday
    split at hday
    · rename_i hd
      have hne : s.drop 8 ≠ [] := by
        intro hnil
        rw [hnil] at hd
        cases hd.1
      refine ⟨hc.1, (s.drop 8).getLast hne, ?_, List.all_eq_true.mp hd.2 _ (List.getLast_mem hne)⟩
      rw [← List.getLast?_eq_some_getLast hne, List.getLast?_drop, if_neg]
      exact fun hle => hne (List.drop_eq_nil_iff.mpr hle)
    · cases hday
  · cases h

/-- **A rendered date is read back**, if its year has four digits. -/
theorem parseDate_format (h : FourDigitYear day) :
    parseDate (Date.ofDay day).format = some day := by
  obtain ⟨i, r, hi, hmd, hr, hd⟩ := monthDay_spec (monthLengths (isLeap (yearDay day).1)) 1
    (yearDay day).2 (by rw [sum_monthLengths]; exact yearDay_snd_lt day)
  have hdate : Date.ofDay day = ⟨(yearDay day).1, 1 + i, r + 1⟩ := by
    simp only [Date.ofDay, hmd]
  have hspec := yearDay_spec day
  have hb := ofDay_bounds day
  have hy : (Date.ofDay day).year < 10 ^ 4 := h
  rw [format_eq h]
  rw [hdate] at hb hy ⊢
  have hi12 : i < 12 := hi
  have hyear := fixedNumber_digits hy
  have hmonth := fixedNumber_digits (w := 2) hb.1
  have hday := fixedNumber_digits (w := 2) hb.2
  -- the fields, byte by byte, so that the positions compute
  simp only [digits, List.nil_append, List.cons_append] at hyear hmonth hday ⊢
  simp only [parseDate, List.take_succ_cons, List.take_zero, List.drop_succ_cons,
    List.drop_zero, hyear, hmonth, hday, Option.bind_eq_bind, Option.bind_some]
  have hin : r + 1 ≤ daysIn (yearDay day).1 (1 + i) := by
    rw [daysIn, Nat.add_sub_cancel_left]
    exact hr
  rw [if_pos ⟨rfl, rfl, by omega, by omega, by omega, hin⟩]
  simp only [daysBeforeMonth, Nat.add_sub_cancel_left]
  congr 1
  omega

/-- A year with more digits is not read as a date. -/
theorem parseDate_format_long (h : ¬ FourDigitYear day) :
    parseDate (Date.ofDay day).format = none := by
  obtain ⟨y1, y2, y3, y4, y5, rest, hlong⟩ := decimal_long (Nat.not_lt.mp h)
  have hfmt : padded 4 (Date.ofDay day).year = decimal (Date.ofDay day).year := if_neg h
  cases hp : parseDate (Date.ofDay day).format with
  | none => rfl
  | some d =>
      have hdigit : 48 ≤ y5.toNat :=
        (decimal_digit (n := (Date.ofDay day).year) (by simp [hlong])).1
      have hyphen := (parseDate_some hp).1
      rw [Date.format, hfmt, hlong] at hyphen
      simp only [List.cons_append, List.getElem?_cons_succ, List.getElem?_cons_zero,
        Option.some.injEq] at hyphen
      rw [hyphen] at hdigit
      exact absurd hdigit (by decide)

-- 2026-01-02 and the leap day of 2024, with the day numbers Go's `time` gives them.
example : (Date.ofDay 739617).format = lit "2026-01-02" := by decide
example : (Date.ofDay 738944).format = lit "2024-02-29" := by decide
example : parseDate (lit "2024-02-29") = some 738944 := by decide
example : parseDate (lit "2023-02-29") = none := by decide

end Go
