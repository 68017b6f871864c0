import Kapture.Go.Str

/-!
# Strings in JSON

`encoding/json` writes every byte that is not part of a valid UTF-8 sequence as the
replacement character, so a string survives a round trip exactly when it is valid.
What a round trip changes is counted: each such byte becomes three, and no ASCII byte
comes or goes.
-/

namespace Go

/-- A continuation byte. -/
def isCont (b : UInt8) : Bool := 0x80 ≤ b && b ≤ 0xBF

/-- The bytes that may follow a first byte of a longer sequence. -/
def secondRange (b : UInt8) : UInt8 × UInt8 :=
  if b = 0xE0 then (0xA0, 0xBF)
  else if b = 0xED then (0x80, 0x9F)
  else if b = 0xF0 then (0x90, 0xBF)
  else if b = 0xF4 then (0x80, 0x8F)
  else (0x80, 0xBF)

def inRange (b : UInt8) (r : UInt8 × UInt8) : Bool := r.1 ≤ b && b ≤ r.2

/-- `utf8.DecodeRuneInString`: the size of the sequence at the front, or zero. -/
def runeLen : Str → Nat
  | [] => 0
  | b :: rest =>
      if b < 0x80 then 1
      else if b < 0xC2 || 0xF4 < b then 0
      else
        match rest with
        | [] => 0
        | c :: rest =>
            if !inRange c (secondRange b) then 0
            else if b < 0xE0 then 2
            else
              match rest with
              | [] => 0
              | d :: rest =>
                  if !isCont d then 0
                  else if b < 0xF0 then 3
                  else
                    match rest with
                    | [] => 0
                    | e :: _ => if isCont e then 4 else 0

/-- U+FFFD. -/
def replacement : Str := [0xEF, 0xBF, 0xBD]

/-- A string after a round trip; `k` bytes of the current sequence are still to come. -/
def coerceFrom : Nat → Str → Str
  | _, [] => []
  | k + 1, b :: rest => b :: coerceFrom k rest
  | 0, b :: rest =>
      match runeLen (b :: rest) with
      | 0 => replacement ++ coerceFrom 0 rest
      | k + 1 => b :: coerceFrom k rest

/-- A string after a round trip through JSON. -/
def jsonText (s : Str) : Str := coerceFrom 0 s

/-- How many bytes are replaced. -/
def badFrom : Nat → Str → Nat
  | _, [] => 0
  | k + 1, _ :: rest => badFrom k rest
  | 0, b :: rest =>
      match runeLen (b :: rest) with
      | 0 => badFrom 0 rest + 1
      | k + 1 => badFrom k rest

/-- `utf8.ValidString`. -/
def ValidUtf8 (s : Str) : Prop := badFrom 0 s = 0

instance (s : Str) : Decidable (ValidUtf8 s) := inferInstanceAs (Decidable (_ = _))

variable {b : UInt8}

/-- A byte that is replaced is none of ASCII. -/
theorem high_of_runeLen {rest : Str} (h : runeLen (b :: rest) = 0) : ¬ b < 0x80 := by
  intro hb
  simp [runeLen, hb] at h

theorem countP_coerceFrom {q : UInt8 → Bool} (hq : ∀ b, ¬ b < 0x80 → q b = false) (k : Nat)
    (s : Str) : (coerceFrom k s).countP q = s.countP q := by
  induction s generalizing k with
  | nil => cases k <;> rfl
  | cons b rest ih =>
      cases k with
      | succ k => simp [coerceFrom, List.countP_cons, ih]
      | zero =>
          rw [coerceFrom]
          split
          · rename_i h
            rw [List.countP_append, ih,
              List.countP_cons_of_neg (by simp [hq b (high_of_runeLen h)])]
            simp [replacement, hq]
          · simp [List.countP_cons, ih]

/-- A byte that is no ASCII. -/
def isHigh (b : UInt8) : Bool := !decide (b < 0x80)

theorem countP_isHigh_coerceFrom (k : Nat) (s : Str) :
    (coerceFrom k s).countP isHigh = s.countP isHigh + 2 * badFrom k s := by
  induction s generalizing k with
  | nil => cases k <;> rfl
  | cons b rest ih =>
      cases k with
      | succ k =>
          simp only [coerceFrom, badFrom, List.countP_cons, ih]
          omega
      | zero =>
          rw [coerceFrom, badFrom]
          split
          · rename_i h
            have hb : isHigh b = true := by simpa [isHigh] using high_of_runeLen h
            have hr : replacement.countP isHigh = 3 := by decide
            rw [List.countP_append, ih, List.countP_cons_of_pos hb, hr]
            omega
          · simp only [List.countP_cons, ih]
            omega

theorem coerceFrom_eq_self (k : Nat) (s : Str) (h : badFrom k s = 0) : coerceFrom k s = s := by
  induction s generalizing k with
  | nil => cases k <;> rfl
  | cons b rest ih =>
      cases k with
      | succ k => rw [coerceFrom, ih k h]
      | zero =>
          rw [badFrom] at h
          rw [coerceFrom]
          split at h
          · omega
          · rename_i k' hk
            rw [ih k' h]

/-- A valid string survives. -/
theorem jsonText_eq_self {s : Str} (h : ValidUtf8 s) : jsonText s = s := coerceFrom_eq_self 0 s h

/-- **A round trip keeps the ASCII bytes**, and adds two others for each byte that it
replaces. -/
theorem countP_jsonText {q : UInt8 → Bool} (hq : ∀ b, ¬ b < 0x80 → q b = false) (s : Str) :
    (jsonText s).countP q = s.countP q := countP_coerceFrom hq 0 s

theorem countP_isHigh_jsonText (s : Str) :
    (jsonText s).countP isHigh = s.countP isHigh + 2 * badFrom 0 s :=
  countP_isHigh_coerceFrom 0 s

/-- ASCII is valid. -/
theorem validUtf8_of_ascii {s : Str} (h : ∀ b ∈ s, b < 0x80) : ValidUtf8 s := by
  unfold ValidUtf8
  induction s with
  | nil => rfl
  | cons b rest ih =>
      have hb : runeLen (b :: rest) = 1 := by simp [runeLen, h b (List.mem_cons_self ..)]
      rw [badFrom, hb]
      exact ih fun c hc => h c (List.mem_cons_of_mem _ hc)

/-! ## Runes -/

/-- The runes that a string can have; a byte that is no UTF-8 counts as an empty one. -/
def IsRune (r : Str) : Prop := r = [] ∨ (∃ b, r = [b] ∧ b < 128) ∨ 2 ≤ r.length ∧ ∀ b ∈ r, ¬ b < 128

theorem high_of_isCont (h : isCont b = true) : ¬ b < 128 := by
  rw [isCont, Bool.and_eq_true, decide_eq_true_eq] at h
  exact fun hb => UInt8.not_lt.mpr h.1 hb

theorem high_of_inRange {c : UInt8} (h : inRange c (secondRange b) = true) : ¬ c < 128 := by
  have hlow : 128 ≤ (secondRange b).1 := by
    unfold secondRange
    split_ifs <;> decide
  rw [inRange, Bool.and_eq_true, decide_eq_true_eq] at h
  exact fun hc => UInt8.not_lt.mpr (UInt8.le_trans hlow h.1) hc

/-- The sequence at the front of a string is a rune. -/
theorem isRune_of_runeLen {rest : Str} {n : Nat} (h : runeLen (b :: rest) = n + 1) :
    IsRune (b :: rest.take n) := by
  rw [runeLen.eq_def] at h
  simp only at h
  split at h
  · rename_i hb
    obtain rfl : n = 0 := (Nat.succ.inj h).symm
    exact Or.inr (Or.inl ⟨b, rfl, hb⟩)
  · rename_i hb
    split at h
    · cases h
    · -- a longer sequence: no byte of it is ASCII
      refine Or.inr (Or.inr ?_)
      rcases rest with _ | ⟨c, rest⟩
      · cases h
      · simp only at h
        split at h
        · cases h
        · rename_i hc
          have hc' := high_of_inRange (by simpa using hc)
          split at h
          · obtain rfl : n = 1 := (Nat.succ.inj h).symm
            simpa using ⟨UInt8.not_lt.mp hb, UInt8.not_lt.mp hc'⟩
          · rcases rest with _ | ⟨d, rest⟩
            · cases h
            · simp only at h
              split at h
              · cases h
              · rename_i hd
                have hd' := high_of_isCont (b := d) (by simpa using hd)
                split at h
                · obtain rfl : n = 2 := (Nat.succ.inj h).symm
                  simpa using ⟨UInt8.not_lt.mp hb, UInt8.not_lt.mp hc', UInt8.not_lt.mp hd'⟩
                · rcases rest with _ | ⟨e, rest⟩
                  · cases h
                  · simp only at h
                    split at h
                    · rename_i he
                      have he' := high_of_isCont he
                      obtain rfl : n = 3 := (Nat.succ.inj h).symm
                      simpa using ⟨UInt8.not_lt.mp hb, UInt8.not_lt.mp hc', UInt8.not_lt.mp hd',
                        UInt8.not_lt.mp he'⟩
                    · cases h

end Go
