import Kapture.Go.Header
import Kapture.Go.Trim
import Kapture.Hub.Schema
import Kapture.Spoke.TrafficReplay

/-!
# Which targets an allowlist admits

`HostAllowed` is a matter of texts: it lowers letters, trims, and compares suffixes. For the hosts
and patterns that the schema admits **it says what it is meant to say**: a pattern admits the host
that it is, and `*.d` admits the subdomains of `d`, neither `d` nor a host that ends like it by
chance.

The hub looks at a load test and the spoke at the replay of a shard. A list without patterns gets
lost on the way from one to the other, and **both give the same answer**, since it forbids nothing.
-/

namespace Kapture.Spoke

open Go Storage Hub

/-- The host is a subdomain of `d`, ignoring case. -/
def Subdomain (d host : Str) : Prop := ∃ x, x ≠ [] ∧ host.equalFoldAscii (x ++ lit "." ++ d) = true

/-- What a list of patterns is meant to admit. -/
def Admits (allowed : List Str) (host : Str) : Prop :=
  allowed = [] ∨ (∃ p ∈ allowed, p.hasPrefix (lit "*.") = false ∧ host.equalFoldAscii p = true)
    ∨ ∃ d, lit "*." ++ d ∈ allowed ∧ Subdomain d host

/-- A pattern that the schema admits. -/
def PatternAdmitted (p : Str) : Prop := hostPattern p = true ∨ p.take 2 = lit "*."
    ∧ hostPattern (p.drop 2) = true

/-! ## Hosts and patterns -/

/-- The bytes at the ends of a host are letters and digits. -/
theorem hostPattern_edges {s : Str} (h : hostPattern s = true) :
    (∃ b t, s = b :: t ∧ Url.isAlnum b = true) ∧ ∀ b ∈ s.getLast?, Url.isAlnum b = true := by
  simp only [hostPattern, edgePattern, Bool.and_eq_true, bne_iff_ne] at h
  obtain ⟨⟨⟨hne, -⟩, hhead⟩, hlast⟩ := h
  obtain ⟨b, t, rfl⟩ := List.exists_cons_of_ne_nil hne
  refine ⟨⟨b, t, rfl, hhead⟩, fun c hc => ?_⟩
  rw [hc] at hlast
  exact hlast

theorem alnum_visible :
    ∀ b : UInt8, Url.isAlnum b = true → 33 ≤ b ∧ b ≤ 126 := Header.forall_byte (by decide +kernel)

theorem alnum_lower :
    ∀ b : UInt8, Url.isAlnum b = true → Str.lowerByte b ≠ 42 ∧ Str.lowerByte b ≠ 46 :=
  Header.forall_byte (by decide +kernel)

theorem lower_dot :
    ∀ b : UInt8, Str.lowerByte b = 46 → b = 46 := Header.forall_byte (by decide +kernel)

variable {host : Str}

theorem trimDot_host (h : hostPattern host = true) : trimDot host = host := by
  refine if_neg fun hdot => ?_
  obtain ⟨t, ht⟩ := Str.hasSuffix_iff.mp hdot
  have hlast := (hostPattern_edges h).2 46 (by rw [← ht, List.getLast?_concat]; rfl)
  exact absurd hlast (by decide)

theorem trimSpace_pattern {p : Str} (h : PatternAdmitted p) : p.trimSpace = p := by
  have hvisible : ∀ b, Url.isAlnum b = true ∨ b = 42 → ∀ q ∈ Str.spaces, b ∉ q := by
    intro b hb q hq hbq
    refine Str.visible_notMem_space q hq b hbq ?_
    rcases hb with hb | rfl
    · exact alnum_visible b hb
    · decide
  rcases h with h | ⟨htake, hdrop⟩
  · obtain ⟨⟨b, t, rfl, hb⟩, hlast⟩ := hostPattern_edges h
    refine Str.trimSpace_of_edges ?_ fun c hc => hvisible c (.inl (hlast c hc))
    rintro c ⟨⟩
    exact hvisible b (.inl hb)
  · obtain ⟨⟨b, t, hbt, -⟩, hlast⟩ := hostPattern_edges hdrop
    have hp : p = lit "*." ++ p.drop 2 := by rw [← htake, List.take_append_drop]
    refine Str.trimSpace_of_edges ?_ fun c hc => hvisible c (.inl (hlast c ?_))
    · rw [hp]
      rintro c ⟨⟩
      exact hvisible 42 (.inr rfl)
    · rw [hp, hbt, List.getLast?_append_of_ne_nil _ (List.cons_ne_nil b t)] at hc
      rw [hbt]
      exact hc

/-! ## One pattern -/

theorem toLower_toLower (s : Str) : toLower (toLower s) = toLower s := by
  unfold toLower
  rw [List.map_map]
  exact List.map_congr_left fun b _ => Header.lowerByte_lowerByte b

/-- **A suffix after a dot is a subdomain.** -/
theorem hasSuffix_iff_subdomain {d : Str} (hhost : hostPattern host = true) :
    (toLower host).hasSuffix ([46] ++ toLower d) = true ↔ Subdomain d host := by
  rw [Str.hasSuffix_iff]
  constructor
  · rintro ⟨y, hy⟩
    refine ⟨y, ?_, ?_⟩
    · -- a host does not begin with a dot
      rintro rfl
      obtain ⟨⟨b, t, rfl, hb⟩, -⟩ := hostPattern_edges hhost
      exact (alnum_lower b hb).2 (List.cons.inj hy).1.symm
    · have hlower : y.map Str.lowerByte = y := by
        have hsame := toLower_toLower host
        rw [← hy] at hsame
        unfold toLower at hsame
        rw [List.map_append] at hsame
        exact (List.append_inj hsame (List.length_map ..)).1
      rw [Str.equalFoldAscii, beq_iff_eq, List.map_append, List.map_append, hlower,
        List.append_assoc]
      exact hy.symm
  · rintro ⟨x, -, hx⟩
    rw [Str.equalFoldAscii, beq_iff_eq, List.map_append, List.map_append, List.append_assoc] at hx
    exact ⟨x.map Str.lowerByte, hx.symm⟩

theorem matchesPattern_iff {p : Str} (hhost : hostPattern host = true) (hp : PatternAdmitted p) :
    matchesPattern (toLower host) p = true
      ↔ p.hasPrefix (lit "*.") = false ∧ host.equalFoldAscii p = true ∨ ∃ d, p = lit "*." ++ d
        ∧ Subdomain d host := by
  unfold matchesPattern
  rw [trimSpace_pattern hp]
  rcases hp with hexact | ⟨htake, -⟩
  · obtain ⟨⟨b, t, rfl, hb⟩, -⟩ := hostPattern_edges hexact
    have hstar : (toLower (b :: t)).hasPrefix (lit "*.") = false := by
      refine Bool.eq_false_iff.mpr fun hpre => (alnum_lower b hb).1 ?_
      obtain ⟨u, hu⟩ := Str.hasPrefix_iff.mp hpre
      exact (List.cons.inj hu).1.symm
    have hplain : Str.hasPrefix (b :: t) (lit "*.") = false := by
      refine Bool.eq_false_iff.mpr fun hpre => ?_
      obtain ⟨u, hu⟩ := Str.hasPrefix_iff.mp hpre
      rw [← (List.cons.inj hu).1] at hb
      exact absurd hb (by decide)
    have hne : toLower (b :: t) ≠ [] := List.cons_ne_nil _ _
    rw [if_neg hne, hstar, if_neg Bool.false_ne_true]
    constructor
    · exact fun h => .inl ⟨hplain, h⟩
    · rintro (⟨-, h⟩ | ⟨d, hd, -⟩)
      · exact h
      · rw [hd] at hplain
        exact absurd (Str.hasPrefix_iff.mpr (List.prefix_append _ _)) (Bool.eq_false_iff.mp hplain)
  · obtain ⟨d, rfl⟩ : ∃ d, p = lit "*." ++ d := ⟨p.drop 2, by rw [← htake, List.take_append_drop]⟩
    have hstar : (lit "*." ++ toLower d).hasPrefix (lit "*.") = true :=
      Str.hasPrefix_iff.mpr (List.prefix_append _ _)
    have hlower : toLower (lit "*." ++ d) = lit "*." ++ toLower d := List.map_append
    rw [hlower, if_neg (by simp [lit]), if_pos hstar]
    constructor
    · exact fun h => .inr ⟨d, rfl, (hasSuffix_iff_subdomain hhost).mp h⟩
    · rintro (⟨h, -⟩ | ⟨d', hd, hsub⟩)
      · rw [Str.hasPrefix_iff.mpr (List.prefix_append _ _)] at h
        cases h
      · rw [← List.append_cancel_left hd] at hsub
        exact (hasSuffix_iff_subdomain hhost).mpr hsub

/-! ## The list -/

theorem hostAllowed_iff {allowed : List Str} (hhost : hostPattern host = true)
    (hallowed : ∀ p ∈ allowed, PatternAdmitted p) :
    hostAllowed host allowed = true ↔ Admits allowed host := by
  unfold hostAllowed Admits
  rw [trimDot_host hhost, Bool.or_eq_true, List.isEmpty_iff, List.any_eq_true]
  refine or_congr_right ?_
  constructor
  · rintro ⟨p, hp, hmatch⟩
    rcases (matchesPattern_iff hhost (hallowed p hp)).mp hmatch with hexact | ⟨d, rfl, hsub⟩
    · exact .inl ⟨p, hp, hexact⟩
    · exact .inr ⟨d, hp, hsub⟩
  · rintro (⟨p, hp, hexact⟩ | ⟨d, hp, hsub⟩)
    · exact ⟨p, hp, (matchesPattern_iff hhost (hallowed p hp)).mpr (.inl hexact)⟩
    · exact ⟨_, hp, (matchesPattern_iff hhost (hallowed _ hp)).mpr (.inr ⟨d, rfl, hsub⟩)⟩

/-- A pattern `*.d` alone admits a host that ends in `d` exactly if a dot stands before it. -/
theorem hostAllowed_wildcard {d y : Str} (hhost : hostPattern host = true)
    (hd : hostPattern d = true) (hends : host.equalFoldAscii (y ++ d) = true) :
    hostAllowed host [lit "*." ++ d] = y.hasSuffix (lit ".") := by
  have hadmitted : ∀ p ∈ [lit "*." ++ d], PatternAdmitted p := by
    rintro p hp
    rw [List.mem_singleton.mp hp]
    exact .inr ⟨rfl, hd⟩
  rw [Bool.eq_iff_iff, hostAllowed_iff hhost hadmitted, Str.hasSuffix_iff]
  rw [Str.equalFoldAscii, beq_iff_eq, List.map_append] at hends
  constructor
  · rintro (hnil | ⟨p, hp, hplain, -⟩ | ⟨d', hd', x, -, hx⟩)
    · cases hnil
    · rw [List.mem_singleton.mp hp, Str.hasPrefix_iff.mpr (List.prefix_append _ _)] at hplain
      cases hplain
    · rw [List.append_cancel_left (List.mem_singleton.mp hd'), Str.equalFoldAscii, beq_iff_eq,
        hends, List.map_append, List.map_append] at hx
      have hy := List.append_cancel_right hx
      -- the byte that is lowered to a dot is a dot
      rcases List.eq_nil_or_concat y with rfl | ⟨z, b, rfl⟩
      · exact absurd hy.symm (by simp [lit])
      · rw [List.concat_eq_append, List.map_append] at hy
        have hb : Str.lowerByte b = 46 := (List.cons.inj (List.append_inj' hy rfl).2).1
        exact ⟨z, by rw [lower_dot b hb, List.concat_eq_append]; rfl⟩
  · rintro ⟨x, rfl⟩
    refine .inr (.inr ⟨d, List.mem_singleton_self _, x, ?_, ?_⟩)
    · rintro rfl
      obtain ⟨⟨b, t, rfl, hb⟩, -⟩ := hostPattern_edges hhost
      exact (alnum_lower b hb).2 (List.cons.inj hends).1
    · rw [Str.equalFoldAscii, beq_iff_eq, hends, ← List.map_append]

/-- A list without patterns, which the directive drops, denies no target. -/
theorem denied_replayFromDirective (lt : CaptureLoadTest) (shard : Int32) :
    (replayFromDirective (buildStartDirective lt shard) rfl).spec.denied
      = targetDenied lt.spec := by
  unfold TrafficReplaySpec.denied targetDenied
  cases hsafety : lt.spec.safety with
  | none => simp [replayFromDirective, buildStartDirective, hsafety]
  | some allowed =>
      cases allowed with
      | nil => simp [replayFromDirective, buildStartDirective, hsafety, hostAllowed]
      | cons p rest => simp [replayFromDirective, buildStartDirective, hsafety]

/-- **An allowlist means what it says**: it admits the hosts that it names and the subdomains of
those that it names with a wildcard; a wildcard admits neither the domain nor a host that only ends
in its text; and the spoke denies the target of a shard exactly if the hub denies that of its load
test. -/
theorem allowlist_meant (host : Str) (allowed : List Str) (hhost : hostPattern host = true)
    (hallowed : SafetyAdmitted allowed) :
    (hostAllowed host allowed = true ↔ Admits allowed host)
      ∧ (∀ d y, hostPattern d = true → host.equalFoldAscii (y ++ d) = true →
          hostAllowed host [lit "*." ++ d] = y.hasSuffix (lit "."))
      ∧ ∀ lt shard, (replayFromDirective (buildStartDirective lt shard) rfl).spec.denied
        = targetDenied lt.spec :=
  ⟨hostAllowed_iff hhost fun p hp => (hallowed.2 p hp).1,
    fun _ _ hd => hostAllowed_wildcard hhost hd,
    denied_replayFromDirective⟩

/-- The list with `*.staging.internal` admits `API.staging.internal`, and not
`mystaging.internal`. -/
theorem allowlist_staging :
    (∃ x, x ≠ []
      ∧ Str.equalFoldAscii (lit "API.staging.internal")
        (x ++ lit "." ++ lit "staging.internal") = true)
      ∧ Admits [lit "*.staging.internal"] (lit "API.staging.internal")
      ∧ hostAllowed (lit "mystaging.internal") [lit "*." ++ lit "staging.internal"]
        = Str.hasSuffix (lit "my") (lit ".") := by
  refine ⟨⟨lit "api", by decide, by decide⟩, ?_, ?_⟩
  · exact (allowlist_meant _ _ (by decide) (by decide)).1.mp (by decide)
  · exact (allowlist_meant _ [] (by decide) (by decide)).2.1 _ _ (by decide) (by decide)

end Kapture.Spoke
