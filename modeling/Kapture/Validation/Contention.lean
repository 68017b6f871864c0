import Kapture.Validation.Registry

/-!
# What is reported of contention

`checkResources` visits the resources in the order of a Go map, which is a different one each
time, and remembers the pairs of plugins it has reported across all resources. So **of two
plugins that are in each other's way at two resources, only one of the two is reported**, and
which one depends on the order. When every pair contends for one resource at most, the memory
only leaves out repetitions at that resource, and all is reported in every order.
-/

namespace Kapture.Validation

open Go Once

namespace Registry

variable {Config : Type} (r : Registry Config) (pipeline : List (PluginRef Config))

/-- One of two plugins claims a resource for itself, and the other one claims it too. -/
def Contend (resource p q : Str) : Prop :=
  p ≠ q ∧ ∃ access,
    (⟨p, .exclusive⟩ ∈ r.claims pipeline resource ∧ ⟨q, access⟩ ∈ r.claims pipeline resource) ∨
      (⟨q, .exclusive⟩ ∈ r.claims pipeline resource ∧ ⟨p, access⟩ ∈ r.claims pipeline resource)

/-- An error names a resource and two plugins. -/
def Reports (e : ValidationError) (resource p q : Str) : Prop :=
  e.category = .resource ∧ ∃ access,
    (e.plugin = p ∧ e.related = q ∧ e.message = .contention resource p q access) ∨
      (e.plugin = q ∧ e.related = p ∧ e.message = .contention resource q p access)

/-- Whatever two plugins contend for is reported, in every order. -/
def AllReported : Prop :=
  ∀ order, r.Iterates pipeline order → ∀ resource p q, r.Contend pipeline resource p q →
    ∃ e ∈ r.checkResources pipeline order, Reports e resource p q

/-- The same errors are returned in every order. -/
def Reproducible : Prop :=
  ∀ order order', r.Iterates pipeline order → r.Iterates pipeline order' →
    ∀ e, e ∈ r.checkResources pipeline order ↔ e ∈ r.checkResources pipeline order'

/-- No two plugins contend for two resources. -/
def OneResource : Prop :=
  ∀ p q resource resource', r.Contend pipeline resource p q → r.Contend pipeline resource' p q →
    resource = resource'

variable {r pipeline} {order : List Str} {p q resource : Str} {x : Contention}

/-! ## Pairs -/

theorem normalizePair_comm (a b : Str) : normalizePair a b = normalizePair b a := by
  unfold normalizePair
  split
  · rename_i hba
    rw [if_neg (List.lt_asymm hba)]
  · rename_i hba
    split
    · rfl
    · rename_i hab
      rw [List.le_antisymm (List.not_lt.mp hba) (List.not_lt.mp hab)]

theorem normalizePair_eq_iff {a b c d : Str} :
    normalizePair a b = normalizePair c d ↔ (a = c ∧ b = d) ∨ (a = d ∧ b = c) := by
  constructor
  · intro h
    unfold normalizePair at h
    split at h
    · split at h
      · cases h
        exact .inl ⟨rfl, rfl⟩
      · cases h
        exact .inr ⟨rfl, rfl⟩
    · split at h
      · cases h
        exact .inr ⟨rfl, rfl⟩
      · cases h
        exact .inl ⟨rfl, rfl⟩
  · rintro (⟨rfl, rfl⟩ | ⟨rfl, rfl⟩)
    · rfl
    · exact normalizePair_comm a b

/-! ## Candidates for a report -/

/-- The pair of plugins that a contention is remembered by. -/
def Contention.pair (x : Contention) : Str × Str := normalizePair x.plugin x.other

/-- The error that a contention is reported by. -/
def Contention.error (x : Contention) : ValidationError :=
  ⟨x.plugin, x.other, .resource, .contention x.resource x.plugin x.other x.access⟩

theorem mem_checkResources {e : ValidationError} : e ∈ r.checkResources pipeline order ↔
    ∃ x ∈ once Contention.pair [] (order.flatMap (r.contentions pipeline)), x.error = e :=
  List.mem_map

theorem Contention.reports_iff :
    Reports x.error resource p q ↔ x.resource = resource ∧ x.pair = normalizePair p q := by
  rw [Contention.pair, normalizePair_eq_iff]
  constructor
  · rintro ⟨-, access, ⟨rfl, rfl, hmsg⟩ | ⟨rfl, rfl, hmsg⟩⟩
    · exact ⟨(Message.contention.inj hmsg).1, .inl ⟨rfl, rfl⟩⟩
    · exact ⟨(Message.contention.inj hmsg).1, .inr ⟨rfl, rfl⟩⟩
  · rintro ⟨rfl, ⟨rfl, rfl⟩ | ⟨rfl, rfl⟩⟩
    · exact ⟨rfl, x.access, .inl ⟨rfl, rfl, rfl⟩⟩
    · exact ⟨rfl, x.access, .inr ⟨rfl, rfl, rfl⟩⟩

/-- What is found at a resource is contention for it. -/
theorem contend_of_mem (h : x ∈ r.contentions pipeline resource)
    (hpair : x.pair = normalizePair p q) : r.Contend pipeline resource p q := by
  obtain ⟨-, hne, ha, hb⟩ := mem_contentions.mp h
  rcases normalizePair_eq_iff.mp hpair with ⟨rfl, rfl⟩ | ⟨rfl, rfl⟩
  · exact ⟨hne, x.access, .inl ⟨ha, hb⟩⟩
  · exact ⟨Ne.symm hne, x.access, .inr ⟨ha, hb⟩⟩

/-- Contention for a resource is found there. -/
theorem exists_mem_contentions (h : r.Contend pipeline resource p q) :
    ∃ x ∈ r.contentions pipeline resource, x.resource = resource ∧ x.pair = normalizePair p q := by
  obtain ⟨hne, access, ⟨ha, hb⟩ | ⟨ha, hb⟩⟩ := h
  · exact ⟨⟨resource, p, q, access⟩, mem_contentions.mpr ⟨rfl, hne, ha, hb⟩, rfl, rfl⟩
  · exact ⟨⟨resource, q, p, access⟩, mem_contentions.mpr ⟨rfl, Ne.symm hne, ha, hb⟩, rfl,
      normalizePair_comm q p⟩

/-- A resource in contention is claimed, so it is visited. -/
theorem Iterates.mem_of_contend (h : r.Iterates pipeline order)
    (hc : r.Contend pipeline resource p q) : resource ∈ order := by
  obtain ⟨-, access, ⟨ha, -⟩ | ⟨ha, -⟩⟩ := hc
  · exact (h.mem resource).mpr (List.ne_nil_of_mem ha)
  · exact (h.mem resource).mpr (List.ne_nil_of_mem ha)

theorem mem_candidates (h : r.Iterates pipeline order) :
    x ∈ order.flatMap (r.contentions pipeline) ↔ x ∈ r.contentions pipeline x.resource := by
  rw [List.mem_flatMap]
  constructor
  · rintro ⟨resource, -, hx⟩
    rwa [(mem_contentions.mp hx).1]
  · intro hx
    exact ⟨x.resource, h.mem_of_contend (contend_of_mem hx rfl), hx⟩

/-- The resources may be visited in any order. -/
theorem Iterates.perm {order' : List Str} (h : r.Iterates pipeline order) (hp : order'.Perm order) :
    r.Iterates pipeline order' :=
  ⟨hp.nodup_iff.mpr h.nodup, fun resource => hp.mem_iff.trans (h.mem resource)⟩

/-! ## When nothing is left out -/

/-- **The first contention of a pair is found at its only resource**, whatever is visited before. -/
theorem find?_candidates (horder : r.Iterates pipeline order) (hone : r.OneResource pipeline)
    (hc : r.Contend pipeline resource p q) :
    (order.flatMap (r.contentions pipeline)).find? (·.pair = normalizePair p q)
      = (r.contentions pipeline resource).find? (·.pair = normalizePair p q) := by
  have hother : ∀ resource', resource' ≠ resource →
      (r.contentions pipeline resource').find? (·.pair = normalizePair p q) = none := by
    intro resource' hne
    refine List.find?_eq_none.mpr fun x hx hpair => hne ?_
    exact hone p q resource' resource (contend_of_mem hx (of_decide_eq_true hpair)) hc
  have hmem := horder.mem_of_contend hc
  clear horder
  induction order with
  | nil => cases hmem
  | cons first rest ih =>
      rw [List.flatMap_cons, List.find?_append]
      by_cases hfirst : first = resource
      · subst hfirst
        obtain ⟨x, hx, -, hpair⟩ := exists_mem_contentions hc
        have hsome : ((r.contentions pipeline first).find? (·.pair = normalizePair p q)).isSome :=
          List.find?_isSome.mpr ⟨x, hx, decide_eq_true hpair⟩
        exact Option.or_of_isSome hsome
      · rw [hother first hfirst, Option.none_or]
        exact ih ((List.mem_cons.mp hmem).resolve_left (Ne.symm hfirst))

theorem OneResource.allReported (h : r.OneResource pipeline) : r.AllReported pipeline := by
  intro order horder resource p q hc
  obtain ⟨x, hx, hres, hpair⟩ := exists_mem_contentions hc
  obtain ⟨y, hy, hyx⟩ := exists_mem_once Contention.pair
    ((mem_candidates horder).mpr (hres.symm ▸ hx))
  have hypair : y.pair = normalizePair p q := hyx.trans hpair
  refine ⟨y.error, mem_checkResources.mpr ⟨y, hy, rfl⟩, Contention.reports_iff.mpr ⟨?_, hypair⟩⟩
  -- what stands for the pair is contention for the same resource
  exact h p q _ _ (contend_of_mem ((mem_candidates horder).mp (mem_of_mem_once hy)) hypair) hc

theorem OneResource.reproducible (h : r.OneResource pipeline) : r.Reproducible pipeline := by
  have hsub : ∀ order order', r.Iterates pipeline order → r.Iterates pipeline order' →
      ∀ e, e ∈ r.checkResources pipeline order → e ∈ r.checkResources pipeline order' := by
    intro order order' horder horder' e he
    obtain ⟨x, hx, rfl⟩ := mem_checkResources.mp he
    have hc : r.Contend pipeline x.resource x.plugin x.other :=
      contend_of_mem ((mem_candidates horder).mp (mem_of_mem_once hx)) rfl
    refine mem_checkResources.mpr ⟨x, mem_once.mpr ⟨List.not_mem_nil, ?_⟩, rfl⟩
    have hfirst := (mem_once.mp hx).2
    rw [show x.pair = normalizePair x.plugin x.other from rfl] at hfirst ⊢
    rw [find?_candidates horder h hc] at hfirst
    rw [find?_candidates horder' h hc]
    exact hfirst
  exact fun order order' ho ho' e => ⟨hsub order order' ho ho' e, hsub order' order ho' ho e⟩

/-- A pair is reported once, so a second resource is not. -/
theorem AllReported.oneResource (h : r.AllReported pipeline) : r.OneResource pipeline := by
  intro p q resource resource' hc hc'
  obtain ⟨e, he, hrep⟩ := h _ iterates_resourceNames resource p q hc
  obtain ⟨e', he', hrep'⟩ := h _ iterates_resourceNames resource' p q hc'
  obtain ⟨x, hx, rfl⟩ := mem_checkResources.mp he
  obtain ⟨x', hx', rfl⟩ := mem_checkResources.mp he'
  obtain ⟨hres, hpair⟩ := Contention.reports_iff.mp hrep
  obtain ⟨hres', hpair'⟩ := Contention.reports_iff.mp hrep'
  obtain rfl : x = x' := eq_of_mem_once hx hx' (hpair.trans hpair'.symm)
  exact hres.symm.trans hres'

/-- **All contention is reported, and the same in every order, if and only if no two plugins contend
for two resources.** -/
theorem contention_reported_iff (r : Registry Config) (pipeline : List (PluginRef Config)) :
    r.AllReported pipeline ∧ r.Reproducible pipeline ↔ r.OneResource pipeline :=
  ⟨fun h => h.1.oneResource, fun h => ⟨h.allReported, h.reproducible⟩⟩

/-- Two plugins that both claim the headers and the body for themselves. -/
def rivals : Registry Unit where
  constraints := (AList.insert (lit "encrypt") { Constraints.empty Unit with
      resources := [⟨lit "body", .exclusive⟩, ⟨lit "headers", .exclusive⟩] } ∅).insert (lit "mask")
    { Constraints.empty Unit with
      resources := [⟨lit "body", .exclusive⟩, ⟨lit "headers", .shared⟩] }
  named := by decide +kernel

/-- **One order reports the headers only, and the other one the body only.** -/
theorem rivals_reported_once :
    rivals.Iterates maskThenEncrypt [lit "headers", lit "body"] ∧
      rivals.Iterates maskThenEncrypt [lit "body", lit "headers"] ∧
      rivals.Contend maskThenEncrypt (lit "headers") (lit "mask") (lit "encrypt") ∧
      rivals.Contend maskThenEncrypt (lit "body") (lit "mask") (lit "encrypt") ∧
      rivals.checkResources maskThenEncrypt [lit "headers", lit "body"] =
        [⟨lit "encrypt", lit "mask", .resource,
          .contention (lit "headers") (lit "encrypt") (lit "mask") .shared⟩] ∧
      rivals.checkResources maskThenEncrypt [lit "body", lit "headers"] =
        [⟨lit "mask", lit "encrypt", .resource,
          .contention (lit "body") (lit "mask") (lit "encrypt") .exclusive⟩] := by
  have hnames : rivals.resourceNames maskThenEncrypt = [lit "body", lit "headers"] := by
    decide +kernel
  have hbody : rivals.Iterates maskThenEncrypt [lit "body", lit "headers"] :=
    hnames ▸ iterates_resourceNames
  refine ⟨hbody.perm (List.Perm.swap ..), hbody, ⟨by decide +kernel, .shared, .inr ⟨?_, ?_⟩⟩,
    ⟨by decide +kernel, .exclusive, .inl ⟨?_, ?_⟩⟩, ?_, ?_⟩
  all_goals decide +kernel

end Registry

end Kapture.Validation
