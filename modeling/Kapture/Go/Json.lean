import Kapture.Go.Url
import Kapture.Go.Utf8

/-!
# String literals of JSON

`encoding/json` writes a string rune by rune: quotes, backslashes, control characters and
the characters that HTML treats specially are escaped, so are the two line separators, and a
byte that is no UTF-8 becomes the replacement character. `unquote` reads a literal back.
It does not join surrogate pairs, which the encoder never writes.
-/

namespace Go.Json

/-- The runes of a string; the empty rune stands for a byte that is no UTF-8. -/
def runes : Nat → Str → List Str
  | 0, _ => []
  | _, [] => []
  | fuel + 1, b :: rest =>
      match runeLen (b :: rest) with
      | 0 => [] :: runes fuel rest
      | n + 1 => (b :: rest.take n) :: runes fuel (rest.drop n)

/-- The letter of a two-byte escape. -/
def shortEscape (b : UInt8) : Option UInt8 :=
  if b = 34 ∨ b = 92 then some b
  else if b = 8 then some 98
  else if b = 12 then some 102
  else if b = 10 then some 110
  else if b = 13 then some 114
  else if b = 9 then some 116
  else none

/-- A digit of an escape. -/
def hexDigit (x : UInt8) : UInt8 := if x < 10 then 48 + x else 97 + (x - 10)

/-- An ASCII character in a literal. -/
def escapeAscii (b : UInt8) : Str :=
  match shortEscape b with
  | some e => [92, e]
  | none =>
      if b < 32 ∨ b = 38 ∨ b = 60 ∨ b = 62 then
        [92, 117, 48, 48, hexDigit (b / 16), hexDigit (b % 16)]
      else [b]

/-- A rune in a literal. -/
def escapeRune (r : Str) : Str :=
  match r with
  | [] => lit "\\ufffd"
  | [b] => escapeAscii b
  | r =>
      if r = [0xE2, 0x80, 0xA8] then lit "\\u2028" else if r = [0xE2, 0x80, 0xA9] then lit "\\u2029"
      else r

/-- A string literal, from behind its opening quote. -/
def quote (s : Str) : Str := (runes s.length s).flatMap escapeRune ++ [34]

/-- The code of a `\u` escape. -/
def hexCode (a b c d : UInt8) : Option Nat :=
  match Url.unhex a, Url.unhex b, Url.unhex c, Url.unhex d with
  | some w, some x, some y, some z =>
      some (((w.toNat * 16 + x.toNat) * 16 + y.toNat) * 16 + z.toNat)
  | _, _, _, _ => none

/-- A code in UTF-8. A surrogate on its own is replaced. -/
def encodeRune (code : Nat) : Str :=
  if code < 0x80 then [UInt8.ofNat code]
  else if code < 0x800 then [UInt8.ofNat (0xC0 + code / 64), UInt8.ofNat (0x80 + code % 64)]
  else if 0xD800 ≤ code ∧ code ≤ 0xDFFF then replacement
  else [UInt8.ofNat (0xE0 + code / 4096), UInt8.ofNat (0x80 + code / 64 % 64),
    UInt8.ofNat (0x80 + code % 64)]

/-- The character of a two-byte escape. -/
def unescapeByte (e : UInt8) : Option UInt8 :=
  if e = 34 ∨ e = 92 ∨ e = 47 then some e
  else if e = 98 then some 8
  else if e = 102 then some 12
  else if e = 110 then some 10
  else if e = 114 then some 13
  else if e = 116 then some 9
  else none

/-- A literal from behind its opening quote: the string, and what follows the literal. -/
def unquote : Str → Option (Str × Str)
  | [] => none
  | b :: rest =>
      if b = 34 then some ([], rest)
      else if b = 92 then
        match rest with
        | [] => none
        | e :: rest =>
            if e = 117 then
              match rest with
              | h1 :: h2 :: h3 :: h4 :: rest =>
                  (hexCode h1 h2 h3 h4).bind fun code =>
                    (unquote rest).map fun r => (encodeRune code ++ r.1, r.2)
              | _ => none
            else (unescapeByte e).bind fun c => (unquote rest).map fun r => (c :: r.1, r.2)
      else if b < 32 then none
      else (unquote rest).map fun r => (b :: r.1, r.2)

/-! ## Round trip -/

/-- What a rune is read back as. -/
def readRune (r : Str) : Str := if r = [] then replacement else r

/-- Reading `text` first gives `s`. -/
def Reads (text s : Str) : Prop :=
  ∀ rest, unquote (text ++ rest) = (unquote rest).map fun r => (s ++ r.1, r.2)

theorem Reads.nil : Reads [] [] := by
  intro rest
  cases h : unquote rest <;> simp [h]

theorem Reads.append {text text' s s' : Str} (h : Reads text s) (h' : Reads text' s') :
    Reads (text ++ text') (s ++ s') := by
  intro rest
  rw [List.append_assoc, h, h']
  cases unquote rest <;> simp

/-- A byte that stands for itself. -/
theorem reads_plain {b : UInt8} (hq : b ≠ 34) (hs : b ≠ 92) (hc : ¬ b < 32) : Reads [b] [b] := by
  intro rest
  rw [List.singleton_append, unquote.eq_def]
  simp only [if_neg hq, if_neg hs, if_neg hc]
  rfl

theorem reads_escape {e c : UInt8} (he : e ≠ 117) (h : unescapeByte e = some c) :
    Reads [92, e] [c] := by
  intro rest
  rw [List.cons_append, unquote.eq_def]
  simp only [List.cons_append, List.nil_append, if_neg he, h]
  rfl

theorem reads_hex {h1 h2 h3 h4 : UInt8} {code : Nat} (h : hexCode h1 h2 h3 h4 = some code) :
    Reads [92, 117, h1, h2, h3, h4] (encodeRune code) := by
  intro rest
  rw [List.cons_append, unquote.eq_def]
  simp only [List.cons_append, List.nil_append, h]
  rfl

/-- **An ASCII character is read back.** -/
theorem reads_escapeAscii {b : UInt8} (hb : b < 128) : Reads (escapeAscii b) [b] := by
  have hshort : ∀ n : Fin 256, (shortEscape (UInt8.ofNat n)).all fun e =>
      e ≠ 117 ∧ unescapeByte e = some (UInt8.ofNat n) := by decide +kernel
  have hhex : ∀ n : Fin 128, hexCode 48 48 (hexDigit (UInt8.ofNat n / 16))
      (hexDigit (UInt8.ofNat n % 16)) = some n ∧ encodeRune n = [UInt8.ofNat n] := by decide +kernel
  have hn : b.toNat < 128 := UInt8.lt_iff_toNat_lt.mp hb
  unfold escapeAscii
  split
  · rename_i e he
    have := hshort ⟨b.toNat, b.toNat_lt⟩
    simp only [UInt8.ofNat_toNat, he, Option.all_some, decide_eq_true_eq] at this
    exact reads_escape this.1 this.2
  · rename_i hnone
    split
    · have := hhex ⟨b.toNat, hn⟩
      simp only [UInt8.ofNat_toNat] at this
      rw [← this.2]
      exact reads_hex this.1
    · rename_i hplain
      rw [not_or] at hplain
      refine reads_plain ?_ ?_ hplain.1
      · rintro rfl
        cases hnone
      · rintro rfl
        cases hnone

/-- The bytes of a longer rune stand for themselves. -/
theorem reads_high {r : Str} (h : ∀ b ∈ r, ¬ b < 128) : Reads r r := by
  induction r with
  | nil => exact Reads.nil
  | cons b rest ih =>
      have hb := h b (List.mem_cons_self ..)
      have hplain : Reads [b] [b] := by
        refine reads_plain ?_ ?_ fun hc => hb (UInt8.lt_trans hc (by decide))
        · rintro rfl
          exact hb (by decide)
        · rintro rfl
          exact hb (by decide)
      exact hplain.append (ih fun c hc => h c (List.mem_cons_of_mem _ hc))

theorem escapeRune_of_long {r : Str} (hlen : 2 ≤ r.length) :
    escapeRune r = if r = [0xE2, 0x80, 0xA8] then lit "\\u2028"
      else if r = [0xE2, 0x80, 0xA9] then lit "\\u2029" else r := by
  match r, hlen with
  | _ :: _ :: _, _ => rfl

theorem reads_escapeRune {r : Str} (h : IsRune r) : Reads (escapeRune r) (readRune r) := by
  have hfffd : Reads [92, 117, 102, 102, 102, 100] (encodeRune 0xFFFD) := reads_hex (by decide)
  have h2028 : Reads [92, 117, 50, 48, 50, 56] (encodeRune 0x2028) := reads_hex (by decide)
  have h2029 : Reads [92, 117, 50, 48, 50, 57] (encodeRune 0x2029) := reads_hex (by decide)
  rcases h with rfl | ⟨b, rfl, hb⟩ | ⟨hlen, hhigh⟩
  · exact hfffd
  · exact reads_escapeAscii hb
  · have hne : r ≠ [] := by
      rintro rfl
      exact absurd hlen (by decide)
    rw [escapeRune_of_long hlen, readRune, if_neg hne]
    split
    · rename_i heq
      rw [heq]
      exact h2028
    · split
      · rename_i heq
        rw [heq]
        exact h2029
      · exact reads_high hhigh

theorem isRune_runes (fuel : Nat) (s : Str) : ∀ r ∈ runes fuel s, IsRune r := by
  induction fuel generalizing s with
  | zero => exact fun r hr => nomatch hr
  | succ fuel ih =>
      rcases s with _ | ⟨b, rest⟩
      · exact fun r hr => nomatch hr
      · intro r hr
        rw [runes] at hr
        split at hr
        · rcases List.mem_cons.mp hr with rfl | hr
          · exact Or.inl rfl
          · exact ih _ r hr
        · rename_i n hn
          rcases List.mem_cons.mp hr with rfl | hr
          · exact isRune_of_runeLen hn
          · exact ih _ r hr

/-- A literal has no control characters. -/
theorem quote_byte {s : Str} {b : UInt8} (h : b ∈ quote s) : 32 ≤ b.toNat := by
  have hascii : ∀ n : Fin 256, ∀ b ∈ escapeAscii (UInt8.ofNat n), 32 ≤ b.toNat := by decide +kernel
  have hfffd : ∀ b ∈ lit "\\ufffd", 32 ≤ b.toNat := by decide +kernel
  have h2028 : ∀ b ∈ lit "\\u2028", 32 ≤ b.toNat := by decide +kernel
  have h2029 : ∀ b ∈ lit "\\u2029", 32 ≤ b.toNat := by decide +kernel
  have hrune : ∀ r, IsRune r → ∀ b ∈ escapeRune r, 32 ≤ b.toNat := by
    rintro r (rfl | ⟨c, rfl, -⟩ | ⟨hlen, hhigh⟩) b hb
    · exact hfffd b hb
    · have hc := hascii ⟨c.toNat, c.toNat_lt⟩
      simp only [UInt8.ofNat_toNat] at hc
      exact hc b hb
    · rw [escapeRune_of_long hlen] at hb
      split at hb
      · exact h2028 b hb
      · split at hb
        · exact h2029 b hb
        · exact le_trans (by decide) (UInt8.le_iff_toNat_le.mp (UInt8.not_lt.mp (hhigh b hb)))
  rw [quote, List.mem_append, List.mem_flatMap, List.mem_singleton] at h
  rcases h with ⟨r, hr, hb⟩ | rfl
  · exact hrune r (isRune_runes _ s r hr) b hb
  · decide

/-- **A literal is read back**, up to its closing quote. -/
theorem unquote_quote (s rest : Str) :
    unquote (quote s ++ rest) = some ((runes s.length s).flatMap readRune, rest) := by
  have hreads : ∀ rs : List Str, (∀ r ∈ rs, IsRune r) →
      Reads (rs.flatMap escapeRune) (rs.flatMap readRune) := by
    intro rs
    induction rs with
    | nil => exact fun _ => Reads.nil
    | cons r rs ih =>
        intro h
        rw [List.flatMap_cons, List.flatMap_cons]
        exact (reads_escapeRune (h r (List.mem_cons_self ..))).append
          (ih fun r' hr => h r' (List.mem_cons_of_mem _ hr))
  rw [quote, List.append_assoc, hreads _ (isRune_runes _ s), List.singleton_append,
    unquote.eq_def]
  simp

/-- Inside a sequence nothing is looked at. -/
theorem badFrom_drop (k : Nat) (s : Str) : badFrom k s = badFrom 0 (s.drop k) := by
  induction k generalizing s with
  | zero => rfl
  | succ k ih =>
      cases s with
      | nil => rfl
      | cons b rest => exact ih rest

/-- **A valid string is read back as itself.** -/
theorem flatMap_readRune {fuel : Nat} {s : Str} (hf : s.length ≤ fuel) (h : ValidUtf8 s) :
    (runes fuel s).flatMap readRune = s := by
  induction fuel generalizing s with
  | zero =>
      obtain rfl : s = [] := List.eq_nil_of_length_eq_zero (Nat.le_zero.mp hf)
      rfl
  | succ fuel ih =>
      rcases s with _ | ⟨b, rest⟩
      · rfl
      · rw [List.length_cons] at hf
        rw [ValidUtf8, badFrom] at h
        rw [runes]
        rcases hn : runeLen (b :: rest) with _ | n
        · rw [hn] at h
          cases h
        · rw [hn] at h
          change badFrom n rest = 0 at h
          rw [badFrom_drop] at h
          simp only [List.flatMap_cons]
          rw [ih (by rw [List.length_drop]; omega) h, readRune, if_neg (List.cons_ne_nil _ _),
            List.cons_append, List.take_append_drop]

example : quote (lit "a\"<b>") = lit "a\\\"\\u003cb\\u003e\"" := by decide

end Go.Json
