import Kapture.Go.Calendar

/-!
# RFC 3339 times

`time.RFC3339` is how a time becomes an argument of a process. `format` renders a time in
UTC and drops what is below a second. `parse` is the strict parser of `time.Parse`: four
digits for the year, an optional fraction, and `Z` or an offset. What it rejects goes to a
laxer one, which wants four digits for the year as well.

A time is a number of nanoseconds from January 1 of year 1, and may be negative.
-/

namespace Go.Rfc3339

/-- A second, in nanoseconds. -/
def second : Int := 1000000000

/-- A date whose year may be negative. -/
structure Civil where
  year : Int
  month : Nat
  day : Nat
deriving DecidableEq, Repr

/-- The date of a day number. The calendar repeats after 400 years. -/
def civil (day : Int) : Civil :=
  let d := Date.ofDay (day % 146097).toNat
  ⟨d.year + 400 * (day / 146097), d.month, d.day⟩

/-- The year of a time, in UTC. -/
def yearOf (t : Int) : Int := (civil (t / second / 86400)).year

/-- A year, with at least four digits. -/
def formatYear (year : Int) : Str :=
  if year < 0 then 45 :: padded 4 year.natAbs else padded 4 year.natAbs

/-- The part after the year. -/
def formatRest (month day clock : Nat) : Str :=
  45 :: padded 2 month ++ 45 :: padded 2 day ++ 84 :: padded 2 (clock / 3600)
    ++ 58 :: padded 2 (clock / 60 % 60) ++ 58 :: padded 2 (clock % 60) ++ [90]

/-- `t.UTC().Format(time.RFC3339)`. -/
def format (t : Int) : Str :=
  let date := civil (t / second / 86400)
  formatYear date.year ++ formatRest date.month date.day (t / second % 86400).toNat

/-- `t.UTC().Format(time.RFC3339Nano)`, which is how JSON has a time. -/
def formatNano (t : Int) : Str :=
  let frac := (digits 9 (t % second).toNat).rdropWhile (· == 48)
  (format t).dropLast ++ (if frac = [] then [] else 46 :: frac) ++ [90]

/-- A field of digits with its bounds. -/
def field (s : Str) (lo hi : Nat) : Option Nat :=
  if s.all isDigit ∧ lo ≤ ofDecimal s ∧ ofDecimal s ≤ hi then some (ofDecimal s) else none

/-- The nanoseconds of a fraction, which has a digit at least, and what follows it. -/
def fraction (s : Str) : Nat × Str :=
  if s.head? = some 46 ∧ (s.tail.takeWhile isDigit) ≠ [] then
    let frac := (s.tail.takeWhile isDigit).take 9
    (ofDecimal frac * 10 ^ (9 - frac.length), s.tail.dropWhile isDigit)
  else (0, s)

/-- The offset of a zone, in seconds. -/
def zone : Str → Option Int
  | [90] => some 0
  | [sign, h1, h2, colon, m1, m2] =>
      match field [h1, h2] 0 23, field [m1, m2] 0 59 with
      | some h, some m =>
          if colon ≠ 58 then none
          else if sign = 43 then some ((h * 60 + m) * 60)
          else if sign = 45 then some (-((h * 60 + m) * 60))
          else none
      | _, _ => none
  | _ => none

/-- `time.Parse(time.RFC3339, s)`. -/
def parse : Str → Option Int
  | y1 :: y2 :: y3 :: y4 :: c1 :: m1 :: m2 :: c2 :: d1 :: d2 :: c3 :: h1 :: h2 :: c4 :: n1 :: n2
      :: c5 :: s1 :: s2 :: rest => do
      let year ← field [y1, y2, y3, y4] 0 9999
      let month ← field [m1, m2] 1 12
      let day ← field [d1, d2] 1 (daysIn year month)
      let hour ← field [h1, h2] 0 23
      let min ← field [n1, n2] 0 59
      let sec ← field [s1, s2] 0 59
      if c1 = 45 ∧ c2 = 45 ∧ c3 = 84 ∧ c4 = 58 ∧ c5 = 58 then
        let offset ← zone (fraction rest).2
        let days := daysBeforeYear year + daysBeforeMonth year month + (day - 1)
        some ((days * 86400 + (hour * 3600 + min * 60 + sec) - offset) * second
          + (fraction rest).1)
      else none
  | _ => none

/-! ## Dates -/

theorem isLeap_add (year k : Nat) : isLeap (year + 400 * k) = isLeap year := by
  have h4 : (year + 400 * k) % 4 = year % 4 := by omega
  have h100 : (year + 400 * k) % 100 = year % 100 := by omega
  have h400 : (year + 400 * k) % 400 = year % 400 := by omega
  simp only [isLeap, h4, h100, h400]

/-- **A date names its day**, for years that are not negative. -/
theorem civil_spec {day : Int} (h : 0 ≤ (civil day).year) :
    1 ≤ (civil day).month ∧ (civil day).month ≤ 12 ∧ 1 ≤ (civil day).day
      ∧ (civil day).day ≤ daysIn (civil day).year.toNat (civil day).month
      ∧ day = daysBeforeYear (civil day).year
          + daysBeforeMonth (civil day).year.toNat (civil day).month + ((civil day).day - 1) := by
  obtain ⟨n, hn⟩ : ∃ n : Nat, (day % 146097).toNat = n := ⟨_, rfl⟩
  have hday : day = n + 146097 * (day / 146097) := by omega
  have hn' : n < 146097 := by omega
  have hspec := yearDay_spec n
  obtain ⟨i, r, hi, hmd, hr, hd⟩ := monthDay_spec (monthLengths (isLeap (yearDay n).1)) 1
    (yearDay n).2 (by rw [sum_monthLengths]; exact yearDay_snd_lt n)
  -- the year of the cycle and the year itself have the same months
  have hciv : civil day = ⟨(yearDay n).1 + 400 * (day / 146097), 1 + i, r + 1⟩ := by
    simp only [civil, hn, Date.ofDay, hmd]
  have hi12 : i < 12 := hi
  rw [hciv] at h ⊢
  have hleap : isLeap ((yearDay n).1 + 400 * (day / 146097) : Int).toNat
      = isLeap (yearDay n).1 := by
    rcases Int.le_total 0 (day / 146097) with hk | hk
    · have he : ((yearDay n).1 + 400 * (day / 146097) : Int).toNat
          = (yearDay n).1 + 400 * (day / 146097).toNat := by omega
      rw [he, isLeap_add]
    · have he : (yearDay n).1 = ((yearDay n).1 + 400 * (day / 146097) : Int).toNat
          + 400 * (-(day / 146097)).toNat := by simp only at h; omega
      rw [he, isLeap_add, ← he]
  have hyears : daysBeforeYear ((yearDay n).1 + 400 * (day / 146097))
      = daysBeforeYear (yearDay n).1 + 146097 * (day / 146097) := by
    unfold daysBeforeYear
    omega
  simp only [daysIn, daysBeforeMonth, hleap, Nat.add_sub_cancel_left]
  refine ⟨by omega, by omega, by omega, by omega, ?_⟩
  rw [hyears]
  omega

/-! ## Round trip -/

theorem field_digits {w n lo hi : Nat} (hw : n < 10 ^ w) (hlo : lo ≤ n) (hhi : n ≤ hi) :
    field (digits w n) lo hi = some n := by
  have hall : (digits w n).all isDigit = true :=
    List.all_eq_true.mpr fun b hb => isDigit_iff.mpr (digits_digit hb)
  rw [field, ofDecimal_digits, Nat.mod_eq_of_lt hw, if_pos ⟨hall, hlo, hhi⟩]

/-- A text that parses starts with four digits and a hyphen. -/
theorem parse_some {s : Str} {t : Int} (h : parse s = some t) :
    ∃ y1 y2 y3 y4 rest, s = y1 :: y2 :: y3 :: y4 :: 45 :: rest ∧ isDigit y1 = true := by
  unfold parse at h
  split at h
  · rename_i y1 y2 y3 y4 c1 m1 m2 c2 d1 d2 c3 h1 h2 c4 n1 n2 c5 s1 s2 rest
    obtain ⟨year, hyear, h⟩ := Option.bind_eq_some_iff.mp h
    obtain ⟨month, -, h⟩ := Option.bind_eq_some_iff.mp h
    obtain ⟨day, -, h⟩ := Option.bind_eq_some_iff.mp h
    obtain ⟨hour, -, h⟩ := Option.bind_eq_some_iff.mp h
    obtain ⟨min, -, h⟩ := Option.bind_eq_some_iff.mp h
    obtain ⟨sec, -, h⟩ := Option.bind_eq_some_iff.mp h
    split at h
    · rename_i hc
      have hdigit : isDigit y1 = true := by
        unfold field at hyear
        split at hyear
        · rename_i hall
          exact List.all_eq_true.mp hall.1 y1 (List.mem_cons_self ..)
        · cases hyear
      rw [hc.1]
      exact ⟨y1, y2, y3, y4, _, rfl, hdigit⟩
    · cases h
  · cases h

/-- What is parsed from the rendering of a date and a time of day. -/
theorem parse_fields {year month day clock : Nat} (hy : year < 10000) (hm1 : 1 ≤ month)
    (hm2 : month ≤ 12) (hd1 : 1 ≤ day) (hd2 : day ≤ daysIn year month) (hc : clock < 86400) :
    parse (digits 4 year ++ formatRest month day clock)
      = some (((daysBeforeYear year + daysBeforeMonth year month + (day - 1)) * 86400 + clock)
          * second) := by
  have hd31 : day ≤ 31 := by
    have hle : ∀ leap : Bool, ∀ k < 12, (monthLengths leap).getD k 0 ≤ 31 := by decide
    exact hd2.trans (hle _ _ (by omega))
  have hpad : ∀ {k : Nat}, k < 100 → padded 2 k = [digit (k / 10), digit k] := by
    intro k hk
    rw [padded_eq (w := 2) hk]
    rfl
  have htwo : ∀ {k lo hi : Nat}, k < 100 → lo ≤ k → k ≤ hi →
      field [digit (k / 10), digit k] lo hi = some k := fun hk => field_digits (w := 2) hk
  have hfour : field [digit (year / 10 / 10 / 10), digit (year / 10 / 10), digit (year / 10),
      digit year] 0 9999 = some year := field_digits (w := 4) hy (Nat.zero_le _) (by omega)
  have hclock : (((clock / 3600 : Nat) : Int) * 3600 + ((clock / 60 % 60 : Nat) : Int) * 60
      + ((clock % 60 : Nat) : Int)) = clock := by omega
  simp only [formatRest, hpad (show month < 100 by omega), hpad (show day < 100 by omega),
    hpad (show clock / 3600 < 100 by omega), hpad (show clock / 60 % 60 < 100 by omega),
    hpad (show clock % 60 < 100 by omega), digits, List.nil_append, List.cons_append, parse,
    hfour, htwo (show month < 100 by omega) hm1 hm2, htwo (show day < 100 by omega) hd1 hd2,
    htwo (show clock / 3600 < 100 by omega) (Nat.zero_le _) (show clock / 3600 ≤ 23 by omega),
    htwo (show clock / 60 % 60 < 100 by omega) (Nat.zero_le _)
      (show clock / 60 % 60 ≤ 59 by omega),
    htwo (show clock % 60 < 100 by omega) (Nat.zero_le _) (show clock % 60 ≤ 59 by omega),
    Option.bind_eq_bind, Option.bind_some, and_self, if_true, hclock]
  simp [fraction, zone]

/-- **A rendered time is read back without its fraction**, if its year has four digits;
otherwise it is no RFC 3339 time. -/
theorem parse_format (t : Int) :
    parse (format t)
      = if 0 ≤ yearOf t ∧ yearOf t ≤ 9999 then some (t - t % second) else none := by
  split
  · rename_i h
    obtain ⟨hm1, hm2, hd1, hd2, hday⟩ := civil_spec h.1
    have hy0 : 0 ≤ (civil (t / second / 86400)).year := h.1
    have hy9 : (civil (t / second / 86400)).year ≤ 9999 := h.2
    have hyear : formatYear (civil (t / second / 86400)).year
        = digits 4 (civil (t / second / 86400)).year.toNat := by
      have habs : (civil (t / second / 86400)).year.natAbs
          = (civil (t / second / 86400)).year.toNat := by omega
      rw [formatYear, if_neg (by omega), padded_eq (w := 4) (by omega), habs]
    rw [format, hyear, parse_fields (by omega) hm1 hm2 hd1 hd2 (by omega)]
    have hcast : (((civil (t / second / 86400)).year.toNat : Nat) : Int)
        = (civil (t / second / 86400)).year := by omega
    have hclock : (((t / second % 86400).toNat : Nat) : Int) = t / second % 86400 := by omega
    rw [hcast, hclock, ← hday]
    congr 1
    have hsec : second = 1000000000 := rfl
    rw [hsec]
    omega
  · rename_i h
    rcases hp : parse (format t) with _ | u
    · rfl
    · obtain ⟨y1, y2, y3, y4, rest, he, hdig⟩ := parse_some hp
      exfalso
      rw [format, formatYear] at he
      change ¬ (0 ≤ (civil (t / second / 86400)).year
        ∧ (civil (t / second / 86400)).year ≤ 9999) at h
      split at he
      · -- a minus sign is no digit
        rw [List.cons_append] at he
        obtain ⟨rfl, _⟩ := List.cons.inj he
        cases hdig
      · -- the fifth byte is a digit
        rw [padded, if_neg (by omega)] at he
        obtain ⟨z1, z2, z3, z4, z5, more, hlong⟩ :=
          decimal_long (n := (civil (t / second / 86400)).year.natAbs) (by omega)
        have hz := decimal_digit (n := (civil (t / second / 86400)).year.natAbs) (b := z5)
          (by rw [hlong]; simp)
        rw [hlong] at he
        simp only [List.cons_append, List.cons.injEq] at he
        rw [he.2.2.2.2.1] at hz
        exact absurd hz.1 (by decide)

-- a time with a fraction and an offset, and the first time after year 9999
example : parse (lit "2026-01-02T03:04:05.25+01:00")
    = some ((739617 * 86400 + 2 * 3600 + 4 * 60 + 5) * second + 250000000) := by decide
example : format (3652059 * 86400 * second) = lit "10000-01-01T00:00:00Z" := by decide +kernel

/-! ## The bytes of a time -/

theorem format_byte {t : Int} {b : UInt8} (h : b ∈ format t) : 45 ≤ b.toNat := by
  have hpad : ∀ {w n : Nat}, b ∈ padded w n → 45 ≤ b.toNat :=
    fun h => le_trans (by decide) (padded_digit h).1
  have hyear : ∀ {year : Int}, b ∈ formatYear year → 45 ≤ b.toNat := by
    intro year h
    unfold formatYear at h
    split at h
    · rcases List.mem_cons.mp h with rfl | h
      · decide
      · exact hpad h
    · exact hpad h
  unfold format formatRest at h
  simp only [List.cons_append, List.append_assoc, List.mem_append, List.mem_cons, List.not_mem_nil,
    or_false] at h
  rcases h with h | rfl | h | rfl | h | rfl | h | rfl | h | rfl | h | rfl
  · exact hyear h
  all_goals first | exact hpad h | decide

theorem formatNano_byte {t : Int} {b : UInt8} (h : b ∈ formatNano t) : 45 ≤ b.toNat := by
  unfold formatNano at h
  simp only [List.mem_append, List.mem_singleton] at h
  rcases h with (h | h) | rfl
  · exact format_byte (List.dropLast_subset _ h)
  · split at h
    · cases h
    · rcases List.mem_cons.mp h with rfl | h
      · decide
      · exact le_trans (by decide) (digits_digit ((List.rdropWhile_prefix _ _).subset h)).1
  · decide

end Go.Rfc3339
