import Kapture.Go.Str

/-!
# HTTP headers

A header is a list of names with their values. `net/http` keeps names in a canonical
form, so two spellings of a name are one header.
-/

namespace Go

namespace Header

/-- A byte of a token. -/
def isTokenByte (b : UInt8) : Bool :=
  48 ≤ b && b ≤ 57 || 65 ≤ b && b ≤ 90 || 97 ≤ b && b ≤ 122
    || (lit "!#$%&'*+-.^_`|~").contains b

def upperByte (b : UInt8) : UInt8 := if 97 ≤ b ∧ b ≤ 122 then b - 32 else b

/-- The canonical form of a name; `upper` is whether the next letter is a capital. -/
def canonicalFrom : Bool → Str → Str
  | _, [] => []
  | upper, b :: rest =>
      (if upper then upperByte b else Str.lowerByte b) :: canonicalFrom (b == 45) rest

/-- `http.CanonicalHeaderKey`. -/
def canonicalHeaderKey (name : Str) : Str :=
  if name.all isTokenByte then canonicalFrom true name else name

/-! ## Spellings of a name -/

/-- A fact about every byte. -/
theorem forall_byte {P : UInt8 → Prop} (h : ∀ n : Fin 256, P (UInt8.ofNat n)) (b : UInt8) :
    P b := by
  have hb := h ⟨b.toNat, b.toNat_lt⟩
  rwa [UInt8.ofNat_toNat] at hb

theorem lowerByte_upperByte : ∀ b : UInt8, Str.lowerByte (upperByte b) = Str.lowerByte b :=
  forall_byte (by decide +kernel)

theorem lowerByte_lowerByte : ∀ b : UInt8, Str.lowerByte (Str.lowerByte b) = Str.lowerByte b :=
  forall_byte (by decide +kernel)

theorem upperByte_lowerByte : ∀ b : UInt8, upperByte (Str.lowerByte b) = upperByte b :=
  forall_byte (by decide +kernel)

theorem lowerByte_eq_dash : ∀ b : UInt8, (Str.lowerByte b == 45) = (b == 45) :=
  forall_byte (by decide +kernel)

theorem isTokenByte_lowerByte : ∀ b : UInt8, isTokenByte (Str.lowerByte b) = isTokenByte b :=
  forall_byte (by decide +kernel)

theorem map_lowerByte_canonicalFrom (upper : Bool) (s : Str) :
    (canonicalFrom upper s).map Str.lowerByte = s.map Str.lowerByte := by
  induction s generalizing upper with
  | nil => rfl
  | cons b s ih =>
      rw [canonicalFrom, List.map_cons, List.map_cons, ih]
      cases upper
      · exact congrArg (· :: _) (lowerByte_lowerByte b)
      · exact congrArg (· :: _) (lowerByte_upperByte b)

/-- The canonical form does not see the case of the letters. -/
theorem canonicalFrom_map_lowerByte (upper : Bool) (s : Str) :
    canonicalFrom upper (s.map Str.lowerByte) = canonicalFrom upper s := by
  induction s generalizing upper with
  | nil => rfl
  | cons b s ih =>
      rw [List.map_cons, canonicalFrom, canonicalFrom, lowerByte_eq_dash, ih, upperByte_lowerByte,
        lowerByte_lowerByte]

theorem canonicalFrom_eq_iff {upper : Bool} {s t : Str} :
    canonicalFrom upper s = canonicalFrom upper t ↔ s.equalFoldAscii t = true := by
  rw [Str.equalFoldAscii, beq_iff_eq]
  constructor
  · intro h
    rw [← map_lowerByte_canonicalFrom upper s, h, map_lowerByte_canonicalFrom]
  · intro h
    rw [← canonicalFrom_map_lowerByte upper s, h, canonicalFrom_map_lowerByte]

theorem all_token_map_lowerByte (s : Str) :
    (s.map Str.lowerByte).all isTokenByte = s.all isTokenByte := by
  induction s with
  | nil => rfl
  | cons b s ih => rw [List.map_cons, List.all_cons, List.all_cons, isTokenByte_lowerByte, ih]

/-- Spellings of one name are tokens together. -/
theorem all_token_of_equalFoldAscii {s t : Str} (h : s.equalFoldAscii t = true) :
    s.all isTokenByte = t.all isTokenByte := by
  rw [← all_token_map_lowerByte s, beq_iff_eq.mp h, all_token_map_lowerByte]

/-- **Two names are one header** if they are spellings of one token; any other name is
only itself. -/
theorem canonicalHeaderKey_eq_iff {s t : Str} : canonicalHeaderKey s = canonicalHeaderKey t
    ↔ s = t ∨ s.all isTokenByte = true ∧ s.equalFoldAscii t = true := by
  have hcanon : ∀ u : Str, (canonicalFrom true u).all isTokenByte = u.all isTokenByte := by
    intro u
    rw [← all_token_map_lowerByte, map_lowerByte_canonicalFrom, all_token_map_lowerByte]
  unfold canonicalHeaderKey
  by_cases hs : s.all isTokenByte = true
  · by_cases ht : t.all isTokenByte = true
    · rw [if_pos hs, if_pos ht, canonicalFrom_eq_iff]
      constructor
      · intro h
        exact Or.inr ⟨hs, h⟩
      · rintro (rfl | ⟨-, h⟩)
        · exact beq_self_eq_true _
        · exact h
    · -- the canonical form of a token is a token
      rw [if_pos hs, if_neg ht]
      constructor
      · intro h
        rw [← h, hcanon] at ht
        exact absurd hs ht
      · rintro (rfl | ⟨-, h⟩)
        · exact absurd hs ht
        · exact absurd ((all_token_of_equalFoldAscii h).symm.trans hs) ht
  · by_cases ht : t.all isTokenByte = true
    · rw [if_neg hs, if_pos ht]
      constructor
      · intro h
        rw [h, hcanon] at hs
        exact absurd ht hs
      · rintro (rfl | ⟨h, -⟩)
        · exact absurd ht hs
        · exact absurd h hs
    · rw [if_neg hs, if_neg ht]
      constructor
      · exact Or.inl
      · rintro (h | ⟨h, -⟩)
        · exact h
        · exact absurd h hs

theorem mem_canonicalFrom {b : UInt8} (hb : ∀ c, upperByte c = b ∨ Str.lowerByte c = b → c = b)
    (upper : Bool) (s : Str) (h : b ∈ canonicalFrom upper s) : b ∈ s := by
  induction s generalizing upper with
  | nil => exact h
  | cons c s ih =>
      rw [canonicalFrom, List.mem_cons] at h
      rcases h with h | h
      · have hc : upperByte c = b ∨ Str.lowerByte c = b := by
          cases upper
          · exact Or.inr h.symm
          · exact Or.inl h.symm
        rw [hb c hc]
        exact List.mem_cons_self ..
      · exact List.mem_cons_of_mem _ (ih _ h)

/-- Only a name that had a comma has one in its canonical form. -/
theorem comma_mem_canonicalHeaderKey {name : Str} : 44 ∈ canonicalHeaderKey name ↔ 44 ∈ name := by
  unfold canonicalHeaderKey
  split
  · rename_i htoken
    have hcomma : 44 ∉ name := by
      intro h
      have := List.all_eq_true.mp htoken 44 h
      exact absurd this (by decide)
    refine ⟨fun h => mem_canonicalFrom (fun c hc => ?_) true name h, fun h => absurd h hcomma⟩
    have hall : ∀ b : UInt8, upperByte b = 44 ∨ Str.lowerByte b = 44 → b = 44 :=
      forall_byte (by decide +kernel)
    exact hall c hc
  · exact Iff.rfl

/-! ## Values -/

/-- `Header.Add`. -/
def add (headers : List (Str × List Str)) (name value : Str) : List (Str × List Str) :=
  let key := canonicalHeaderKey name
  if headers.any fun h => h.1 = key then
    headers.map fun h => if h.1 = key then (h.1, h.2 ++ [value]) else h
  else headers ++ [(key, [value])]

/-- `Header.Set`. -/
def set (headers : List (Str × List Str)) (name value : Str) : List (Str × List Str) :=
  let key := canonicalHeaderKey name
  (headers.filter fun h => h.1 ≠ key) ++ [(key, [value])]

end Header

end Go
