import Kapture.Go.Decimal
import Kapture.Go.Path

/-!
# Request targets

The part of `net/url` that a request target goes through: percent-encoding of paths,
and the parser for absolute URLs with a host. A server decodes a path, but which
slashes separate segments is decided before that, so what it sees is the list of
decoded segments.
-/

namespace Go

namespace Url

/-- The byte `%`. -/
def percent : UInt8 := 37

def unhex (b : UInt8) : Option UInt8 :=
  if 48 ≤ b ∧ b ≤ 57 then some (b - 48)
  else if 97 ≤ b ∧ b ≤ 102 then some (b - 97 + 10)
  else if 65 ≤ b ∧ b ≤ 70 then some (b - 65 + 10)
  else none

/-- The byte of an escape. -/
def unhexPair (a b : UInt8) : Option UInt8 :=
  match unhex a, unhex b with
  | some x, some y => some (x * 16 + y)
  | _, _ => none

/-- `unescape(s, encodePath)`. -/
def unescape : Str → Option Str
  | [] => some []
  | c :: rest =>
      if c = percent then
        match rest with
        | a :: b :: rest => (unhexPair a b).bind fun x => (unescape rest).map (x :: ·)
        | _ => none
      else (unescape rest).map (c :: ·)

def isAlnum (c : UInt8) : Bool :=
  97 ≤ c && c ≤ 122 || 65 ≤ c && c ≤ 90 || 48 ≤ c && c ≤ 57

/-- `shouldEscape(c, encodePath)`. -/
def shouldEscape (c : UInt8) : Bool :=
  !(isAlnum c || (lit "-_.~$&+,/:;=@").contains c)

/-- A digit of an escape. -/
def hexDigit (x : UInt8) : UInt8 := if x < 10 then 48 + x else 65 + (x - 10)

def escapeByte (c : UInt8) : Str :=
  if shouldEscape c then [percent, hexDigit (c / 16), hexDigit (c % 16)] else [c]

/-- `escape(s, encodePath)`. -/
def escape (s : Str) : Str := s.flatMap escapeByte

/-- `validEncoded(s, encodePath)`. -/
def validEncoded (s : Str) : Bool :=
  s.all fun c => (lit "!$&'()*+,;=:@[]%").contains c || !shouldEscape c

/-- `EscapedPath` of a URL whose path was `p` in the text. -/
def escapedPath (p path : Str) : Str :=
  if p ≠ escape path ∧ validEncoded p then p
  else if path = lit "*" then path
  else escape path

/-- The decoded segments of a path, as a server sees them. -/
def segments (p : Str) : Option (List Str) := (Str.split p).mapM unescape

/-- `stringContainsCTLByte`. -/
def containsCTL (s : Str) : Bool := s.any fun b => b < 32 || b == 127

/-- `strings.Cut` at a byte. -/
def cut (c : UInt8) (s : Str) : Str × Str := (s.takeWhile (· != c), (s.dropWhile (· != c)).tail)

/-- The port of a host, with its colon. -/
def colonPort (host : Str) : Str :=
  if host.head? = some 91 then host.rtakeWhile (· != 93)
  else if 58 ∈ host then 58 :: host.rtakeWhile (· != 58) else []

/-- `splitHostPort`: `Hostname` and `Port` of a URL. -/
def splitHostPort (hostPort : Str) : Str × Str :=
  let port := hostPort.rtakeWhile (· != 58)
  let split := if 58 ∈ hostPort ∧ port.all isDigit then
    ((hostPort.rdropWhile (· != 58)).dropLast, port) else (hostPort, [])
  (if split.1.head? = some 91 ∧ split.1.getLast? = some 93 then split.1.tail.dropLast else split.1,
    split.2)

/-- `parseAuthority`, for hosts without credentials. -/
def validHost (host : Str) : Bool :=
  host != []
    && (host.all fun c => 128 ≤ c || isAlnum c || (lit "-_.~!$&'()*+,;=:[]<>\"").contains c)
    && (host.head? != some 91 || host.contains 93)
    && (colonPort host).tail.all (fun c => 48 ≤ c && c ≤ 57)

/-- A `url.URL` with a host. -/
structure URL where
  scheme : Str
  host : Str
  path : Str
  /-- The text of the path. -/
  text : Str
  rawQuery : Str
deriving DecidableEq, Repr

/-- `url.Parse`, for URLs with a host; without one a request cannot be sent. -/
def parse (raw : Str) : Option URL :=
  let u := (cut 35 raw).1
  if containsCTL u || (unescape (cut 35 raw).2).isNone then none
  else
    let scheme := (cut 58 u).1
    let rest := (cut 63 (cut 58 u).2).1
    if !(scheme.all isAlnum) || scheme = [] || !rest.hasPrefix (lit "//") then none
    else
      let authority := (rest.drop 2).takeWhile (· != Str.slash)
      let text := (rest.drop 2).dropWhile (· != Str.slash)
      if !validHost authority then none
      else
        (unescape text).map fun path =>
          ⟨scheme.map Str.lowerByte, authority, path, text, (cut 63 (cut 58 u).2).2⟩

/-! ## Escapes -/

variable {c x : UInt8} {p host : Str}

theorem unescape_cons (h : c ≠ percent) (rest : Str) :
    unescape (c :: rest) = (unescape rest).map (c :: ·) := by
  rcases rest with _ | ⟨a, _ | ⟨b, rest⟩⟩ <;> simp only [unescape, if_neg h]

theorem unescape_escape_cons (a b : UInt8) (rest : Str) :
    unescape (percent :: a :: b :: rest)
      = (unhexPair a b).bind fun x => (unescape rest).map (x :: ·) := by
  rw [unescape, if_pos rfl]

/-- A path without escapes stands for itself. -/
theorem unescape_eq_self {s : Str} (h : percent ∉ s) : unescape s = some s := by
  induction s with
  | nil => rfl
  | cons c rest ih =>
      rw [List.mem_cons, not_or] at h
      rw [unescape_cons (Ne.symm h.1), ih h.2]
      rfl

theorem unhex_hexDigit (h : x < 16) : unhex (hexDigit x) = some x := by
  have hall : ∀ n : Fin 16, unhex (hexDigit (UInt8.ofNat n)) = some (UInt8.ofNat n) := by decide
  have hx := hall ⟨x.toNat, UInt8.lt_iff_toNat_lt.mp h⟩
  simpa using hx

theorem div_lt (c : UInt8) : c / 16 < 16 := by
  rw [UInt8.lt_iff_toNat_lt, UInt8.toNat_div]
  exact Nat.div_lt_of_lt_mul (by simpa using c.toNat_lt)

theorem mod_lt (c : UInt8) : c % 16 < 16 := by
  rw [UInt8.lt_iff_toNat_lt, UInt8.toNat_mod]
  exact Nat.mod_lt _ (by decide)

theorem unhexPair_hexDigit (c : UInt8) :
    unhexPair (hexDigit (c / 16)) (hexDigit (c % 16)) = some c := by
  have hc := c.toNat_lt
  rw [unhexPair, unhex_hexDigit (div_lt c), unhex_hexDigit (mod_lt c)]
  refine congrArg some (UInt8.toNat_inj.mp ?_)
  simp only [UInt8.toNat_add, UInt8.toNat_mul, UInt8.toNat_div, UInt8.toNat_mod, UInt8.reduceToNat]
  omega

theorem escapeByte_percent : shouldEscape percent = true := by decide

/-- **What is escaped decodes to itself**, with anything after it. -/
theorem unescape_escapeByte (c : UInt8) (rest : Str) :
    unescape (escapeByte c ++ rest) = (unescape rest).map (c :: ·) := by
  unfold escapeByte
  split
  · rw [List.cons_append, List.cons_append, List.cons_append, List.nil_append,
      unescape_escape_cons, unhexPair_hexDigit]
    rfl
  · rename_i h
    refine unescape_cons ?_ rest
    rintro rfl
    exact h escapeByte_percent

theorem unescape_escape (s : Str) : unescape (escape s) = some s := by
  induction s with
  | nil => rfl
  | cons c rest ih =>
      rw [escape, List.flatMap_cons, unescape_escapeByte]
      exact congrArg _ ih

/-- The cases of a path that decodes. -/
theorem unescape_some {u : Str} (h : unescape p = some u) :
    p = [] ∧ u = []
      ∨ (∃ c rest v, p = c :: rest ∧ c ≠ percent ∧ unescape rest = some v ∧ u = c :: v)
      ∨ ∃ a b rest x v, p = percent :: a :: b :: rest ∧ unhexPair a b = some x
        ∧ unescape rest = some v ∧ u = x :: v := by
  cases p with
  | nil =>
      cases h
      exact Or.inl ⟨rfl, rfl⟩
  | cons c rest =>
      by_cases hc : c = percent
      · subst hc
        rcases rest with _ | ⟨a, _ | ⟨b, rest⟩⟩
        · simp [unescape] at h
        · simp [unescape] at h
        · rw [unescape_escape_cons, Option.bind_eq_some_iff] at h
          obtain ⟨x, hx, hrest⟩ := h
          obtain ⟨v, hv, rfl⟩ := Option.map_eq_some_iff.mp hrest
          exact Or.inr (Or.inr ⟨a, b, rest, x, v, rfl, hx, hv, rfl⟩)
      · rw [unescape_cons hc] at h
        obtain ⟨v, hv, rfl⟩ := Option.map_eq_some_iff.mp h
        exact Or.inr (Or.inl ⟨c, rest, v, rfl, hc, hv, rfl⟩)

theorem head_of_unescape {u : Str} (h : unescape p = some u) (hp : p.head? = some Str.slash) :
    u.head? = some Str.slash := by
  rcases unescape_some h with ⟨rfl, _⟩ | ⟨c, rest, v, rfl, _, _, rfl⟩ | ⟨a, b, rest, x, v, rfl, _⟩
  · cases hp
  · exact hp
  · cases hp

theorem unhexPair_ne {a b : UInt8} (h : unhexPair a b = some x) :
    a ≠ percent ∧ b ≠ percent ∧ a ≠ Str.slash ∧ b ≠ Str.slash := by
  have hp : unhex percent = none := by decide
  have hs : unhex Str.slash = none := by decide
  refine ⟨?_, ?_, ?_, ?_⟩ <;> rintro rfl <;> simp [unhexPair, hp, hs] at h

theorem unhex_some {a : UInt8} (h : unhex a = some x) :
    x < 16 ∧ (x = 2 → a = 50) ∧ (x = 5 → a = 53) := by
  have hall : ∀ n : Fin 256, (unhex (UInt8.ofNat n)).all fun y =>
      y < 16 ∧ (y = 2 → UInt8.ofNat n = 50) ∧ (y = 5 → UInt8.ofNat n = 53) := by
    decide +kernel
  have ha := hall ⟨a.toNat, a.toNat_lt⟩
  simp only [UInt8.ofNat_toNat, h, Option.all_some, decide_eq_true_eq] at ha
  exact ha

/-- The escape of a percent sign. -/
theorem unhexPair_percent {a b : UInt8} (h : unhexPair a b = some percent) : a = 50 ∧ b = 53 := by
  unfold unhexPair at h
  split at h
  · rename_i x y hx hy
    obtain ⟨hx16, hx2, _⟩ := unhex_some hx
    obtain ⟨hy16, _, hy5⟩ := unhex_some hy
    have hsum := congrArg UInt8.toNat (Option.some.inj h)
    rw [UInt8.lt_iff_toNat_lt] at hx16 hy16
    simp only [percent, UInt8.toNat_add, UInt8.toNat_mul, UInt8.reduceToNat] at hsum hx16 hy16
    exact ⟨hx2 (UInt8.toNat_inj.mp (by simp; omega)), hy5 (UInt8.toNat_inj.mp (by simp; omega))⟩
  · cases h

/-- What an escape costs: two bytes, and the percent sign unless it stands for one. -/
theorem countP_unescape {u : Str} (h : unescape p = some u) :
    u.length + 2 * p.count percent = p.length
      ∧ (u.count percent < p.count percent
        ∨ u.count percent = p.count percent
          ∧ ∀ q : UInt8 → Bool, q 50 = false → q 53 = false → u.countP q = p.countP q) := by
  induction hn : p.length using Nat.strong_induction_on generalizing p u with
  | _ n ih =>
      rcases unescape_some h with ⟨rfl, rfl⟩ | ⟨c, rest, v, rfl, hc, hv, rfl⟩
        | ⟨a, b, rest, x, v, rfl, hx, hv, rfl⟩
      · subst hn
        exact ⟨rfl, Or.inr ⟨rfl, fun _ _ _ => rfl⟩⟩
      · obtain ⟨hlen, hcount⟩ := ih rest.length (by simp at hn; omega) hv rfl
        simp only [List.count_cons_of_ne hc, List.length_cons, List.countP_cons] at hn ⊢
        refine ⟨by omega, hcount.imp id fun ⟨hc', hq⟩ => ⟨hc', fun q h2 h5 => ?_⟩⟩
        rw [hq q h2 h5]
      · obtain ⟨hlen, hcount⟩ := ih rest.length (by simp at hn; omega) hv rfl
        obtain ⟨ha, hb, _, _⟩ := unhexPair_ne hx
        have hp : (percent :: a :: b :: rest).count percent = rest.count percent + 1 := by
          rw [List.count_cons_self, List.count_cons_of_ne ha, List.count_cons_of_ne hb]
        rw [hp]
        simp only [List.length_cons] at hn ⊢
        refine ⟨by omega, ?_⟩
        by_cases hxp : x = percent
        · subst hxp
          obtain ⟨rfl, rfl⟩ := unhexPair_percent hx
          rw [List.count_cons_self]
          refine hcount.imp (fun hlt => Nat.succ_lt_succ hlt) fun ⟨hc', hq⟩ =>
            ⟨by rw [hc'], fun q h2 h5 => ?_⟩
          simp only [List.countP_cons, hq q h2 h5, h2, h5]
          simp
        · left
          rw [List.count_cons_of_ne hxp]
          rcases hcount with hlt | ⟨heq, _⟩ <;> omega

/-! ## Segments -/

theorem split_ne_nil (s : Str) : Str.split s ≠ [] := List.splitOn_ne_nil Str.slash s

theorem split_slash (rest : Str) : Str.split (Str.slash :: rest) = [] :: Str.split rest := by
  simp [Str.split, List.splitOn_cons_eq_if_modifyHead]

/-- Bytes that are no slash go into the first segment. -/
theorem split_block {block : Str} (h : Str.slash ∉ block) (rest : Str) :
    Str.split (block ++ rest) = (Str.split rest).modifyHead (block ++ ·) := by
  induction block with
  | nil =>
      obtain ⟨x, xs, hx⟩ := List.exists_cons_of_ne_nil (split_ne_nil rest)
      simp [hx]
  | cons c cs ih =>
      rw [List.mem_cons, not_or] at h
      obtain ⟨x, xs, hx⟩ := List.exists_cons_of_ne_nil (split_ne_nil rest)
      have ih' := ih h.2
      simp only [Str.split] at ih' hx ⊢
      rw [List.cons_append, List.splitOn_cons_eq_if_modifyHead, if_neg (by simpa using Ne.symm h.1),
        ih', hx]
      rfl

theorem segments_slash (rest : Str) :
    segments (Str.slash :: rest) = (segments rest).map ([] :: ·) := by
  rw [segments, split_slash, List.mapM_cons, segments]
  cases (Str.split rest).mapM unescape <;> rfl

/-- A block that stands for one byte. -/
theorem segments_block {block : Str} (h : Str.slash ∉ block)
    (hx : ∀ y, unescape (block ++ y) = (unescape y).map (x :: ·)) (rest : Str) :
    segments (block ++ rest) = (segments rest).map fun segs => segs.modifyHead (x :: ·) := by
  obtain ⟨y, ys, hy⟩ := List.exists_cons_of_ne_nil (split_ne_nil rest)
  rw [segments, split_block h, segments, hy, List.modifyHead_cons, List.mapM_cons,
    List.mapM_cons, hx]
  cases unescape y with
  | none => rfl
  | some v => cases ys.mapM unescape <;> rfl

theorem join_modifyHead (x : UInt8) {segs : List Str} (hne : segs ≠ []) :
    Str.join (segs.modifyHead (x :: ·)) = x :: Str.join segs := by
  obtain ⟨y, ys, rfl⟩ := List.exists_cons_of_ne_nil hne
  cases ys with
  | nil => simp [Str.join]
  | cons z zs =>
      rw [List.modifyHead_cons, Path.join_cons _ (List.cons_ne_nil z zs),
        Path.join_cons _ (List.cons_ne_nil z zs), List.cons_append]

/-- **Segments join to the decoded path.** -/
theorem segments_of_unescape {d : Str} (h : unescape p = some d) :
    ∃ segs, segments p = some segs ∧ segs ≠ [] ∧ Str.join segs = d := by
  induction hn : p.length using Nat.strong_induction_on generalizing p d with
  | _ n ih =>
      rcases unescape_some h with ⟨rfl, rfl⟩ | ⟨c, rest, v, rfl, hc, hv, rfl⟩
        | ⟨a, b, rest, x, v, rfl, hx, hv, rfl⟩
      · exact ⟨[[]], rfl, by simp, rfl⟩
      · obtain ⟨segs, hsegs, hne, rfl⟩ := ih rest.length (by simp at hn; omega) hv rfl
        by_cases hs : c = Str.slash
        · subst hs
          refine ⟨[] :: segs, by rw [segments_slash, hsegs]; rfl, by simp, ?_⟩
          rw [Path.join_cons _ hne]
          rfl
        · have hno : Str.slash ∉ [c] := by simpa using Ne.symm hs
          have hb := segments_block hno (fun y => unescape_cons hc y) rest
          rw [List.singleton_append, hsegs] at hb
          exact ⟨_, hb, by simpa using hne, join_modifyHead c hne⟩
      · obtain ⟨segs, hsegs, hne, rfl⟩ := ih rest.length (by simp at hn; omega) hv rfl
        obtain ⟨_, _, ha, hb⟩ := unhexPair_ne hx
        have hno : Str.slash ∉ [percent, a, b] := by
          simp only [List.mem_cons, List.not_mem_nil, or_false, not_or]
          exact ⟨by decide, Ne.symm ha, Ne.symm hb⟩
        have hun : ∀ y, unescape ([percent, a, b] ++ y) = (unescape y).map (x :: ·) := by
          intro y
          rw [List.cons_append, List.cons_append, List.cons_append, List.nil_append,
            unescape_escape_cons, hx]
          rfl
        have hblock := segments_block hno hun rest
        rw [hsegs] at hblock
        exact ⟨_, hblock, by simpa using hne, join_modifyHead x hne⟩

/-- Bytes each written in their own way: the segments are those of the text. -/
theorem segments_flatMap {enc : UInt8 → Str} {s : Str} (hslash : enc Str.slash = [Str.slash])
    (hother : ∀ c ∈ s, c ≠ Str.slash → Str.slash ∉ enc c
      ∧ ∀ y, unescape (enc c ++ y) = (unescape y).map (c :: ·)) :
    segments (s.flatMap enc) = some (Str.split s) := by
  induction s with
  | nil => rfl
  | cons c rest ih =>
      have ih' := ih fun c' hc' => hother c' (List.mem_cons_of_mem _ hc')
      rw [List.flatMap_cons]
      by_cases hs : c = Str.slash
      · rw [hs, hslash, List.singleton_append, segments_slash, ih', split_slash]
        rfl
      · obtain ⟨hno, hun⟩ := hother c (List.mem_cons_self ..) hs
        rw [segments_block hno hun, ih', ← List.singleton_append (x := c), split_block]
        · rfl
        · simpa using Ne.symm hs

/-- **The segments of an escaped path.** -/
theorem segments_escape (s : Str) : segments (escape s) = some (Str.split s) := by
  refine segments_flatMap (by decide) fun c _ hc => ⟨?_, unescape_escapeByte c⟩
  unfold escapeByte
  split
  · have hdigit : ∀ x : UInt8, x < 16 → hexDigit x ≠ Str.slash := by
      intro x hx hs
      have := unhex_hexDigit hx
      rw [hs] at this
      cases this
    have hp : Str.slash ≠ percent := by decide
    simp [hp, (hdigit _ (div_lt c)).symm, (hdigit _ (mod_lt c)).symm]
  · simpa using Ne.symm hc

/-- The segments of a path without escapes. -/
theorem segments_eq_split {s : Str} (h : percent ∉ s) : segments s = some (Str.split s) := by
  have hself : s.flatMap (fun c => [c]) = s := by simp
  rw [← hself, segments_flatMap rfl, hself]
  intro c hm hs
  exact ⟨by simpa using Ne.symm hs, fun y => unescape_cons (fun hp => h (hp ▸ hm)) y⟩

/-- The path on the wire decodes to the path. -/
theorem unescape_escapedPath {path : Str} (h : unescape p = some path) :
    unescape (escapedPath p path) = some path := by
  unfold escapedPath
  split
  · exact h
  · split
    · rename_i hstar
      rw [hstar]
      decide
    · exact unescape_escape path

/-- **A path that was written without escapes** keeps its segments on the wire. -/
theorem segments_escapedPath (h : percent ∉ p) :
    segments (escapedPath p p) = some (Str.split p) := by
  unfold escapedPath
  split
  · exact segments_eq_split h
  · split
    · exact segments_eq_split h
    · exact segments_escape p

/-! ## URLs below a base -/

/-- A base URL: a scheme and a host. -/
structure Base where
  scheme : Str
  host : Str
  scheme_ok : scheme = lit "http" ∨ scheme = lit "https"
  host_ok : validHost host = true
deriving DecidableEq

namespace Base

def text (base : Base) : Str := base.scheme ++ lit "://" ++ base.host

end Base

theorem cut_append {a : Str} (h : c ∉ a) (e : Str) :
    cut c (a ++ e) = (a ++ (cut c e).1, (cut c e).2) := by
  have hall : ∀ b ∈ a, (b != c) = true := by
    intro b hb
    rw [bne_iff_ne]
    rintro rfl
    exact h hb
  rw [cut, cut, List.takeWhile_append_of_pos hall, List.dropWhile_append_of_pos hall]

/-- What a host cannot hold. -/
theorem notMem_host (h : validHost host = true)
    (hc : (128 ≤ c || isAlnum c || (lit "-_.~!$&'()*+,;=:[]<>\"").contains c) = false) :
    c ∉ host := by
  intro hm
  simp only [validHost, Bool.and_eq_true, List.all_eq_true] at h
  have := h.1.1.2 c hm
  rw [hc] at this
  cases this

theorem containsCTL_append (a e : Str) : containsCTL (a ++ e) = (containsCTL a || containsCTL e) :=
  List.any_append

theorem cut_cons_self {a : Str} (h : c ∉ a) (r : Str) : cut c (a ++ c :: r) = (a, r) := by
  rw [cut_append h]
  simp [cut]

theorem containsCTL_host (h : validHost host = true) : containsCTL host = false := by
  have hall : ∀ n : Fin 256, (UInt8.ofNat n < 32 ∨ UInt8.ofNat n = 127) →
      (128 ≤ UInt8.ofNat n || isAlnum (UInt8.ofNat n)
        || (lit "-_.~!$&'()*+,;=:[]<>\"").contains (UInt8.ofNat n)) = false := by
    decide +kernel
  rw [Bool.eq_false_iff]
  intro hctl
  simp only [containsCTL, List.any_eq_true, Bool.or_eq_true, decide_eq_true_eq, beq_iff_eq] at hctl
  obtain ⟨b, hb, hc⟩ := hctl
  have := hall ⟨b.toNat, b.toNat_lt⟩
  simp only [UInt8.ofNat_toNat] at this
  exact notMem_host h (this hc) hb

/-- The path of a URL, up to the query and the fragment. -/
def pathText (e : Str) : Str := (cut 63 (cut 35 e).1).1

/-- The query of a URL. -/
def queryText (e : Str) : Str := (cut 63 (cut 35 e).1).2

theorem head_pathText {e : Str} (h : e.head? = some Str.slash) :
    (pathText e).head? = some Str.slash := by
  cases e with
  | nil => cases h
  | cons c r =>
      obtain rfl : c = Str.slash := Option.some.inj h
      rfl

/-- A text that is empty or starts with a slash. -/
def Rooted (e : Str) : Prop := e = [] ∨ e.head? = some Str.slash

theorem Rooted.pathText {e : Str} (h : Rooted e) : Rooted (pathText e) := by
  rcases h with rfl | h
  · exact Or.inl rfl
  · exact Or.inr (head_pathText h)

/-- **A URL below a base**: what follows the host is cut at the first `#`, then at the
first `?`. -/
theorem parse_base (base : Base) {e : Str} (h : Rooted e) :
    parse (base.text ++ e)
      = if containsCTL (cut 35 e).1 || (unescape (cut 35 e).2).isNone then none
        else (unescape (pathText e)).map fun path =>
          ⟨base.scheme, base.host, path, pathText e, queryText e⟩ := by
  obtain ⟨hcolon, hall, hne, hctl, hlower, hhash⟩ : 58 ∉ base.scheme
      ∧ base.scheme.all isAlnum = true ∧ base.scheme ≠ [] ∧ containsCTL base.scheme = false
      ∧ base.scheme.map Str.lowerByte = base.scheme ∧ 35 ∉ base.scheme := by
    rcases base.scheme_ok with hs | hs <;> rw [hs] <;> decide
  have hhost35 : 35 ∉ base.host := notMem_host base.host_ok (by decide)
  have hhost63 : 63 ∉ base.host := notMem_host base.host_ok (by decide)
  have hhost47 : Str.slash ∉ base.host := notMem_host base.host_ok (by decide)
  have htext : 35 ∉ base.text := by
    simp only [Base.text, List.mem_append, not_or]
    exact ⟨⟨hhash, by decide⟩, hhost35⟩
  have hctl' : containsCTL (base.text ++ (cut 35 e).1) = containsCTL (cut 35 e).1 := by
    have hsep : containsCTL (lit "://") = false := by decide
    simp only [Base.text, containsCTL_append, hctl, hsep, Bool.false_or,
      containsCTL_host base.host_ok]
  have hscheme : cut 58 (base.text ++ (cut 35 e).1)
      = (base.scheme, lit "//" ++ base.host ++ (cut 35 e).1) := by
    rw [← cut_cons_self hcolon]
    simp [Base.text, lit]
  have hslashes : 63 ∉ lit "//" ++ base.host := by
    simp only [List.mem_append, not_or]
    exact ⟨by decide, hhost63⟩
  have hroot := h.pathText
  have hsplit : (base.host ++ pathText e).takeWhile (· != Str.slash) = base.host
      ∧ (base.host ++ pathText e).dropWhile (· != Str.slash) = pathText e := by
    have hne' : ∀ b ∈ base.host, (b != Str.slash) = true := by
      intro b hb
      rw [bne_iff_ne]
      rintro rfl
      exact hhost47 hb
    rw [List.takeWhile_append_of_pos hne', List.dropWhile_append_of_pos hne']
    rcases hroot with hp | hp
    · simp [hp]
    · cases hpath : pathText e with
      | nil => rw [hpath] at hp; cases hp
      | cons c r =>
          rw [hpath] at hp
          obtain rfl : c = Str.slash := Option.some.inj hp
          simp
  have hprefix : (lit "//" ++ base.host ++ pathText e).hasPrefix (lit "//") = true := by
    rw [Str.hasPrefix_iff, List.append_assoc]
    exact List.prefix_append ..
  have hdrop : (lit "//" ++ base.host ++ pathText e).drop 2 = base.host ++ pathText e := by
    simp [lit]
  have hq : cut 63 (lit "//" ++ base.host ++ (cut 35 e).1)
      = (lit "//" ++ base.host ++ pathText e, queryText e) := by
    rw [cut_append hslashes]
    rfl
  simp only [parse, cut_append htext, hctl', hscheme, hq, hall, hprefix, hdrop, hsplit.1, hsplit.2,
    base.host_ok, hlower]
  simp [hne]

/-! ## Hosts with a port -/

theorem rtakeWhile_colon {port : Str} (h : 58 ∉ port) :
    (host ++ 58 :: port).rtakeWhile (· != 58) = port := by
  have hall : ∀ b ∈ port.reverse, (b != 58) = true := by
    intro b hb
    rw [bne_iff_ne]
    rintro rfl
    exact h (List.mem_reverse.mp hb)
  rw [List.rtakeWhile, List.reverse_append, List.reverse_cons, List.append_assoc,
    List.takeWhile_append_of_pos hall]
  simp

theorem rdropWhile_colon {port : Str} (h : 58 ∉ port) :
    (host ++ 58 :: port).rdropWhile (· != 58) = host ++ [58] := by
  have hall : ∀ b ∈ port.reverse, (b != 58) = true := by
    intro b hb
    rw [bne_iff_ne]
    rintro rfl
    exact h (List.mem_reverse.mp hb)
  rw [List.rdropWhile, List.reverse_append, List.reverse_cons, List.append_assoc,
    List.dropWhile_append_of_pos hall]
  simp

/-- A port number after a host that is no bracketed address. -/
theorem splitHostPort_colon (h : host.head? ≠ some 91) (port : Nat) :
    splitHostPort (host ++ 58 :: decimal port) = (host, decimal port) := by
  have hcolon : 58 ∉ decimal port := fun hm => absurd (decimal_digit hm).2 (by decide)
  have hall : (decimal port).all isDigit = true :=
    List.all_eq_true.mpr fun b hb => isDigit_iff.mpr (decimal_digit hb)
  have hmem : 58 ∈ host ++ 58 :: decimal port := by simp
  simp only [splitHostPort, rtakeWhile_colon hcolon, rdropWhile_colon hcolon]
  simp [hall, h]

/-- The characters of a DNS name. -/
def isDnsByte (c : UInt8) : Bool := isAlnum c || c == 45 || c == 46

theorem validHost_colon (hne : host ≠ []) (h : host.all isDnsByte) (port : Nat) :
    validHost (host ++ 58 :: decimal port) = true := by
  have hcolon : 58 ∉ decimal port := fun hm => absurd (decimal_digit hm).2 (by decide)
  have hdns : ∀ n : Fin 256, isDnsByte (UInt8.ofNat n) = true →
      (128 ≤ UInt8.ofNat n || isAlnum (UInt8.ofNat n)
        || (lit "-_.~!$&'()*+,;=:[]<>\"").contains (UInt8.ofNat n)) = true
        ∧ UInt8.ofNat n ≠ 91 := by decide +kernel
  have hbyte : ∀ c, isDnsByte c = true → (128 ≤ c || isAlnum c
      || (lit "-_.~!$&'()*+,;=:[]<>\"").contains c) = true ∧ c ≠ 91 := by
    intro c hc
    have := hdns ⟨c.toNat, c.toNat_lt⟩
    simp only [UInt8.ofNat_toNat] at this
    exact this hc
  have hdigit : ∀ c ∈ decimal port, isAlnum c = true := by
    intro c hc
    have := isDigit_iff.mpr (decimal_digit hc)
    rw [isAlnum, Bool.or_eq_true]
    exact Or.inr this
  have hhead : (host ++ 58 :: decimal port).head? ≠ some 91 := by
    obtain ⟨c, rest, rfl⟩ := List.exists_cons_of_ne_nil hne
    simp only [List.cons_append, List.head?_cons, ne_eq, Option.some.injEq]
    exact (hbyte c (List.all_eq_true.mp h c (List.mem_cons_self ..))).2
  have hport : colonPort (host ++ 58 :: decimal port) = 58 :: decimal port := by
    rw [colonPort, if_neg hhead, if_pos (by simp), rtakeWhile_colon hcolon]
  have hdigits : (decimal port).all isDigit = true :=
    List.all_eq_true.mpr fun b hb => isDigit_iff.mpr (decimal_digit hb)
  rw [validHost, hport, List.tail_cons, Bool.and_eq_true, Bool.and_eq_true, Bool.and_eq_true,
    Bool.or_eq_true, bne_iff_ne, bne_iff_ne]
  refine ⟨⟨⟨by simp, List.all_eq_true.mpr ?_⟩, Or.inl hhead⟩, hdigits⟩
  intro c hc
  rcases List.mem_append.mp hc with hc | hc
  · exact (hbyte c (List.all_eq_true.mp h c hc)).1
  · rcases List.mem_cons.mp hc with rfl | hc
    · decide
    · rw [hdigit c hc, Bool.or_true, Bool.true_or]

end Url

end Go
