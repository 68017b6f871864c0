import Mathlib.Data.List.AList
import Mathlib.Data.List.Dedup
import Kapture.Go.Str
import Kapture.Lib.Once

/-!
# Plugin pipelines

Plugins declare what they need of a pipeline: how their own configuration looks, which
plugins they cannot be with, which ones they come before or after, and which resources they
use. `ValidatePipeline` checks a pipeline in five passes, each of which may report several
errors. Three of them report a name or a pair of names only once. An error is still reported
whenever there is a reason for one, since what a pass leaves out has been reported before.

A plugin that is declared to be in conflict with itself can be in no pipeline at all.
-/

namespace Kapture.Validation

open Go Once

/-! ## Constraints -/

inductive ResourceAccess where
  | shared
  | exclusive
  /-- A number that is neither. -/
  | unknown
deriving DecidableEq, Repr

structure ResourceClaim where
  name : Str
  access : ResourceAccess
deriving DecidableEq, Repr

/-- What a plugin declares. A validator returns the text of an error, or nothing. -/
structure Constraints (Config : Type) where
  configValidator : Option (Config → Option Str)
  conflictsWith : List Str
  conflictReasons : AList fun _ : Str => Str
  mustRunBefore : List Str
  mustRunAfter : List Str
  resources : List ResourceClaim

def Constraints.empty (Config : Type) : Constraints Config := ⟨none, [], ∅, [], [], []⟩

structure PluginRef (Config : Type) where
  name : Str
  config : Config

inductive ErrorCategory where
  | config
  | conflict
  | order
  | resource
  | unknown
deriving DecidableEq, Repr

/-- A message, by what it says. -/
inductive Message where
  | notRegistered (plugin : Str)
  | text (s : Str)
  | mustAppearBefore (plugin other : Str) (i j : Nat)
  | mustAppearAfter (plugin other : Str) (i j : Nat)
  | contention (resource plugin other : Str) (access : ResourceAccess)
deriving DecidableEq, Repr

structure ValidationError where
  plugin : Str
  related : Str
  category : ErrorCategory
  message : Message
deriving DecidableEq, Repr

/-! ## The registry -/

structure Registry (Config : Type) where
  constraints : AList fun _ : Str => Constraints Config
  named : constraints.lookup [] = none

inductive RegisterError where
  | emptyName
  | alreadyRegistered (name : Str)
deriving DecidableEq, Repr

namespace Registry

variable {Config : Type}

def new : Registry Config := ⟨∅, rfl⟩

/-- `Register`. Without constraints the empty ones are taken. -/
def register (r : Registry Config) (name : Str) (c : Option (Constraints Config)) :
    Except RegisterError (Registry Config) :=
  if hname : name = [] then .error .emptyName
  else
    match r.constraints.lookup name with
    | some _ => .error (.alreadyRegistered name)
    | none => .ok
        { constraints := r.constraints.insert name (c.getD (.empty Config))
          named := (AList.lookup_insert_ne (Ne.symm hname)).trans r.named }

variable (r : Registry Config) (pipeline : List (PluginRef Config))

/-- The constraints of a plugin, if it is registered. -/
def find (name : Str) : Option (Constraints Config) := r.constraints.lookup name

/-! ## The five passes -/

/-- Where a plugin stands in the pipeline. -/
def positions (name : Str) : List Nat := (pipeline.zipIdx.filter (·.1.name = name)).map (·.2)

def normalizePair (a b : Str) : Str × Str := if b < a then (b, a) else (a, b)

def checkUnknown : List ValidationError :=
  ((once PluginRef.name [] pipeline).filter fun ref => (r.find ref.name).isNone).map fun ref =>
    ⟨ref.name, [], .unknown, .notRegistered ref.name⟩

def checkConfigs : List ValidationError :=
  pipeline.filterMap fun ref =>
    (r.find ref.name).bind fun c => c.configValidator.bind fun validator =>
      (validator ref.config).map fun text => ⟨ref.name, [], .config, .text text⟩

/-- A conflict, with its reason. -/
structure Conflict where
  plugin : Str
  other : Str
  reason : Str
deriving DecidableEq, Repr

/-- The conflicts that an entry of the pipeline has. -/
def conflictsOf (ref : PluginRef Config) : List Conflict :=
  match r.find ref.name with
  | none => []
  | some c => (c.conflictsWith.filter fun other => positions pipeline other ≠ []).map fun other =>
      ⟨ref.name, other, (c.conflictReasons.lookup other).getD (lit "plugins are incompatible")⟩

def checkConflicts : List ValidationError :=
  (once (fun x : Conflict => normalizePair x.plugin x.other) []
    (pipeline.flatMap (r.conflictsOf pipeline))).map
    fun x => ⟨x.plugin, x.other, .conflict, .text x.reason⟩

/-- What is wrong with an entry at `i` that must come before some plugins and after others. -/
def orderErrors (name : Str) (c : Constraints Config) (i : Nat) : List ValidationError :=
  (c.mustRunBefore.flatMap fun before =>
    ((positions pipeline before).filter (· ≤ i)).map fun j =>
      ⟨name, before, .order, .mustAppearBefore name before i j⟩) ++
  c.mustRunAfter.flatMap fun after =>
    ((positions pipeline after).filter (i ≤ ·)).map fun j =>
      ⟨name, after, .order, .mustAppearAfter name after i j⟩

def checkOrdering : List ValidationError :=
  pipeline.zipIdx.flatMap fun x =>
    match r.find x.1.name with
    | none => []
    | some c => orderErrors pipeline x.1.name c x.2

structure Claim where
  plugin : Str
  access : ResourceAccess
deriving DecidableEq, Repr

/-- The claims to a resource, in the order of the pipeline. -/
def claims (resource : Str) : List Claim :=
  pipeline.flatMap fun ref =>
    match r.find ref.name with
    | none => []
    | some c => (c.resources.filter (·.name = resource)).map fun rc => ⟨ref.name, rc.access⟩

/-- A plugin claims a resource for itself, and another one claims it too. -/
structure Contention where
  resource : Str
  plugin : Str
  other : Str
  access : ResourceAccess
deriving DecidableEq, Repr

/-- The two inner loops of `checkResources`. -/
def contentions (resource : Str) : List Contention :=
  (r.claims pipeline resource).zipIdx.flatMap fun a =>
    if a.1.access = .exclusive then
      (r.claims pipeline resource).zipIdx.filterMap fun b =>
        if a.2 = b.2 ∨ a.1.plugin = b.1.plugin then none
        else some ⟨resource, a.1.plugin, b.1.plugin, b.1.access⟩
    else []

/-- `checkResources`, which visits the resources in the order of a map. -/
def checkResources (order : List Str) : List ValidationError :=
  (once (fun x : Contention => normalizePair x.plugin x.other) []
    (order.flatMap (r.contentions pipeline))).map
    fun x => ⟨x.plugin, x.other, .resource, .contention x.resource x.plugin x.other x.access⟩

/-- An order in which the map of the claims may be visited. -/
structure Iterates (order : List Str) : Prop where
  nodup : order.Nodup
  mem : ∀ resource, resource ∈ order ↔ r.claims pipeline resource ≠ []

def validatePipeline (order : List Str) : List ValidationError :=
  r.checkUnknown pipeline ++ r.checkConfigs pipeline ++ r.checkConflicts pipeline
    ++ r.checkOrdering pipeline ++ r.checkResources pipeline order

/-- What the declarations ask of a pipeline. -/
structure Valid : Prop where
  registered : ∀ ref ∈ pipeline, (r.find ref.name).isSome
  configs : ∀ ref ∈ pipeline, ∀ c, r.find ref.name = some c →
    ∀ validator, c.configValidator = some validator →
    validator ref.config = none
  /-- No two plugins are in conflict, whichever of them declares it. -/
  compatible : ∀ a ∈ pipeline, ∀ b ∈ pipeline, a.name ≠ b.name → ∀ c, r.find a.name = some c →
    b.name ∉ c.conflictsWith
  before : ∀ (i j : Nat) (a b : PluginRef Config), pipeline[i]? = some a → pipeline[j]? = some b →
    ∀ c, r.find a.name = some c → b.name ∈ c.mustRunBefore → i < j
  after : ∀ (i j : Nat) (a b : PluginRef Config), pipeline[i]? = some a → pipeline[j]? = some b →
    ∀ c, r.find a.name = some c → b.name ∈ c.mustRunAfter → j < i
  exclusive : ∀ a ∈ pipeline, ∀ b ∈ pipeline, a.name ≠ b.name → ∀ ca cb, r.find a.name = some ca →
    r.find b.name = some cb → ∀ x ∈ ca.resources, ∀ y ∈ cb.resources, x.access = .exclusive →
      x.name ≠ y.name

/-- No plugin of the pipeline is in conflict with itself. -/
def SelfCompatible : Prop :=
  ∀ ref ∈ pipeline, ∀ c, r.find ref.name = some c → ref.name ∉ c.conflictsWith

variable {r pipeline} {name : Str}

/-! ## What each pass finds -/

theorem mem_positions {j : Nat} :
    j ∈ positions pipeline name ↔ ∃ ref, pipeline[j]? = some ref ∧ ref.name = name := by
  unfold positions
  constructor
  · intro h
    obtain ⟨⟨ref, k⟩, hmem, rfl⟩ := List.mem_map.mp h
    obtain ⟨hzip, hname⟩ := List.mem_filter.mp hmem
    exact ⟨ref, List.mk_mem_zipIdx_iff_getElem?.mp hzip, by simpa using hname⟩
  · rintro ⟨ref, hget, hname⟩
    refine List.mem_map.mpr ⟨(ref, j), List.mem_filter.mpr ⟨?_, by simpa using hname⟩, rfl⟩
    exact List.mk_mem_zipIdx_iff_getElem?.mpr hget

theorem positions_ne_nil : positions pipeline name ≠ [] ↔ ∃ ref ∈ pipeline, ref.name = name := by
  constructor
  · intro hne
    obtain ⟨j, hj⟩ := List.exists_mem_of_ne_nil _ hne
    obtain ⟨ref, hget, hname⟩ := mem_positions.mp hj
    exact ⟨ref, List.mem_of_getElem? hget, hname⟩
  · rintro ⟨ref, hmem, hname⟩
    obtain ⟨j, hj⟩ := List.mem_iff_getElem?.mp hmem
    exact List.ne_nil_of_mem (mem_positions.mpr ⟨ref, hj, hname⟩)

theorem checkUnknown_eq_nil :
    r.checkUnknown pipeline = [] ↔ ∀ ref ∈ pipeline, (r.find ref.name).isSome := by
  rw [checkUnknown, List.map_eq_nil_iff, List.filter_eq_nil_iff]
  constructor
  · intro h ref hmem
    obtain ⟨first, hfirst, hname⟩ := exists_mem_once PluginRef.name hmem
    have hfound := h first hfirst
    rw [← hname]
    rwa [Option.isNone_iff_eq_none, ← ne_eq, ← Option.isSome_iff_ne_none] at hfound
  · intro h ref hmem
    rw [Option.isNone_iff_eq_none, ← ne_eq, ← Option.isSome_iff_ne_none]
    exact h ref (mem_of_mem_once hmem)

theorem checkConfigs_eq_nil : r.checkConfigs pipeline = [] ↔
    ∀ ref ∈ pipeline, ∀ c, r.find ref.name = some c →
      ∀ validator, c.configValidator = some validator →
      validator ref.config = none := by
  rw [checkConfigs, List.filterMap_eq_nil_iff]
  refine forall₂_congr fun ref _ => ?_
  constructor
  · intro h c hc validator hv
    rw [hc, Option.bind_some, hv, Option.bind_some] at h
    exact Option.map_eq_none_iff.mp h
  · intro h
    cases hc : r.find ref.name with
    | none => rfl
    | some c =>
        cases hv : c.configValidator with
        | none => rw [Option.bind_some, hv, Option.bind_none]
        | some validator =>
            rw [Option.bind_some, hv, Option.bind_some, h c hc validator hv, Option.map_none]

theorem mem_conflictsOf {ref : PluginRef Config} {x : Conflict}
    (h : x ∈ r.conflictsOf pipeline ref) :
    ∃ c, r.find ref.name = some c ∧ x.plugin = ref.name ∧ x.other ∈ c.conflictsWith
      ∧ ∃ b ∈ pipeline, b.name = x.other := by
  unfold conflictsOf at h
  split at h
  · cases h
  · rename_i c hc
    obtain ⟨other, hother, rfl⟩ := List.mem_map.mp h
    obtain ⟨hdecl, hpos⟩ := List.mem_filter.mp hother
    exact ⟨c, hc, rfl, hdecl, positions_ne_nil.mp (of_decide_eq_true hpos)⟩

theorem exists_mem_conflictsOf {ref b : PluginRef Config} {c : Constraints Config}
    (hc : r.find ref.name = some c) (hb : b ∈ pipeline) (h : b.name ∈ c.conflictsWith) :
    ∃ x ∈ r.conflictsOf pipeline ref, x.plugin = ref.name ∧ x.other = b.name := by
  unfold conflictsOf
  rw [hc]
  have hpos : positions pipeline b.name ≠ [] := positions_ne_nil.mpr ⟨b, hb, rfl⟩
  exact ⟨_, List.mem_map_of_mem (List.mem_filter.mpr ⟨h, decide_eq_true hpos⟩), rfl, rfl⟩

theorem checkConflicts_eq_nil : r.checkConflicts pipeline = [] ↔
    ∀ a ∈ pipeline, ∀ b ∈ pipeline, ∀ c, r.find a.name = some c → b.name ∉ c.conflictsWith := by
  rw [checkConflicts, List.map_eq_nil_iff, once_eq_nil_iff, List.flatMap_eq_nil_iff]
  refine forall₂_congr fun a _ => ?_
  rw [List.eq_nil_iff_forall_not_mem]
  constructor
  · intro h b hb c hc hmem
    obtain ⟨x, hx, -, -⟩ := exists_mem_conflictsOf hc hb hmem
    exact h x hx
  · intro h x hx
    obtain ⟨c, hc, -, hdecl, b, hb, hname⟩ := mem_conflictsOf hx
    exact h b hb c hc (hname ▸ hdecl)

/-- The passes over the order, for one list of names and one way to be at the wrong place. -/
theorem misplaced_eq_nil {names : List Str} {wrong : Nat → Bool} {f : Str → Nat → ValidationError} :
    (names.flatMap fun name => ((positions pipeline name).filter wrong).map (f name)) = [] ↔
      ∀ (j : Nat) (b : PluginRef Config), pipeline[j]? = some b → b.name ∈ names →
        wrong j = false := by
  rw [List.flatMap_eq_nil_iff]
  constructor
  · intro h j b hb hmem
    have hall := List.filter_eq_nil_iff.mp (List.map_eq_nil_iff.mp (h b.name hmem)) j
    rw [Bool.not_eq_true] at hall
    exact hall (mem_positions.mpr ⟨b, hb, rfl⟩)
  · intro h name hmem
    rw [List.map_eq_nil_iff, List.filter_eq_nil_iff]
    intro j hj
    obtain ⟨b, hb, rfl⟩ := mem_positions.mp hj
    rw [h j b hb hmem]
    exact Bool.false_ne_true

theorem orderErrors_eq_nil {c : Constraints Config} {i : Nat} : orderErrors pipeline name c i = [] ↔
    ∀ (j : Nat) (b : PluginRef Config), pipeline[j]? = some b →
      (b.name ∈ c.mustRunBefore → i < j) ∧ (b.name ∈ c.mustRunAfter → j < i) := by
  rw [orderErrors, List.append_eq_nil_iff, misplaced_eq_nil, misplaced_eq_nil]
  simp only [decide_eq_false_iff_not, Nat.not_le]
  constructor
  · exact fun h j b hb => ⟨h.1 j b hb, h.2 j b hb⟩
  · exact fun h => ⟨fun j b hb => (h j b hb).1, fun j b hb => (h j b hb).2⟩

theorem checkOrdering_eq_nil : r.checkOrdering pipeline = [] ↔
    ∀ (i j : Nat) (a b : PluginRef Config), pipeline[i]? = some a → pipeline[j]? = some b →
      ∀ c, r.find a.name = some c → (b.name ∈ c.mustRunBefore → i < j)
        ∧ (b.name ∈ c.mustRunAfter → j < i) := by
  rw [checkOrdering, List.flatMap_eq_nil_iff]
  constructor
  · intro h i j a b ha hb c hc
    have hi := h (a, i) (List.mk_mem_zipIdx_iff_getElem?.mpr ha)
    rw [hc] at hi
    exact orderErrors_eq_nil.mp hi j b hb
  · rintro h ⟨a, i⟩ hmem
    cases hc : r.find a.name with
    | none => rfl
    | some c =>
        have ha := List.mk_mem_zipIdx_iff_getElem?.mp hmem
        exact orderErrors_eq_nil.mpr fun j b hb => h i j a b ha hb c hc

theorem mem_claims {resource : Str} {x : Claim} : x ∈ r.claims pipeline resource ↔
    ∃ ref ∈ pipeline, ref.name = x.plugin ∧ ∃ c, r.find x.plugin = some c
      ∧ ⟨resource, x.access⟩ ∈ c.resources := by
  unfold claims
  rw [List.mem_flatMap]
  constructor
  · rintro ⟨ref, href, hx⟩
    cases hc : r.find ref.name with
    | none =>
        rw [hc] at hx
        cases hx
    | some c =>
        rw [hc] at hx
        obtain ⟨⟨name, access⟩, hmem, rfl⟩ := List.mem_map.mp hx
        obtain ⟨hrc, hname⟩ := List.mem_filter.mp hmem
        obtain rfl : name = resource := of_decide_eq_true hname
        exact ⟨ref, href, rfl, c, hc, hrc⟩
  · rintro ⟨ref, href, hname, c, hc, hrc⟩
    refine ⟨ref, href, ?_⟩
    rw [hname, hc]
    exact List.mem_map.mpr ⟨_, List.mem_filter.mpr ⟨hrc, decide_eq_true rfl⟩, rfl⟩

/-- **What is in contention**: a claim to a resource alone, and a claim to it by another plugin. -/
theorem mem_contentions {resource : Str} {x : Contention} : x ∈ r.contentions pipeline resource ↔
    x.resource = resource ∧ x.plugin ≠ x.other ∧ ⟨x.plugin, .exclusive⟩ ∈ r.claims pipeline resource
      ∧ ⟨x.other, x.access⟩ ∈ r.claims pipeline resource := by
  unfold contentions
  rw [List.mem_flatMap]
  constructor
  · rintro ⟨⟨⟨p, access⟩, i⟩, ha, hx⟩
    split at hx
    · rename_i hexcl
      obtain rfl : access = .exclusive := hexcl
      obtain ⟨⟨b, j⟩, hb, hx⟩ := List.mem_filterMap.mp hx
      split at hx
      · cases hx
      · rename_i hdiff
        cases hx
        exact ⟨rfl, fun h => hdiff (.inr h), List.fst_mem_of_mem_zipIdx ha,
          List.fst_mem_of_mem_zipIdx hb⟩
    · cases hx
  · rintro ⟨rfl, hne, ha, hb⟩
    obtain ⟨i, hi⟩ := List.mem_iff_getElem?.mp ha
    obtain ⟨j, hj⟩ := List.mem_iff_getElem?.mp hb
    refine ⟨(⟨x.plugin, .exclusive⟩, i), List.mk_mem_zipIdx_iff_getElem?.mpr hi, ?_⟩
    rw [if_pos rfl]
    refine List.mem_filterMap.mpr ⟨(⟨x.other, x.access⟩, j),
      List.mk_mem_zipIdx_iff_getElem?.mpr hj, ?_⟩
    rw [if_neg]
    rintro (hij | hplugin)
    · -- two claims at one place are one claim
      obtain rfl : i = j := hij
      rw [hi] at hj
      exact hne (congrArg Claim.plugin (Option.some.inj hj))
    · exact hne hplugin

theorem checkResources_eq_nil {order : List Str} (horder : r.Iterates pipeline order) :
    r.checkResources pipeline order = [] ↔
      ∀ a ∈ pipeline, ∀ b ∈ pipeline, a.name ≠ b.name → ∀ ca cb, r.find a.name = some ca →
        r.find b.name = some cb → ∀ x ∈ ca.resources, ∀ y ∈ cb.resources, x.access = .exclusive →
          x.name ≠ y.name := by
  rw [checkResources, List.map_eq_nil_iff, once_eq_nil_iff, List.flatMap_eq_nil_iff]
  constructor
  · rintro h a ha b hb hne ca cb hca hcb ⟨name, access⟩ hx ⟨name', access'⟩ hy rfl rfl
    have hclaim : (⟨a.name, .exclusive⟩ : Claim) ∈ r.claims pipeline name :=
      mem_claims.mpr ⟨a, ha, rfl, ca, hca, hx⟩
    have hclaim' : (⟨b.name, access'⟩ : Claim) ∈ r.claims pipeline name :=
      mem_claims.mpr ⟨b, hb, rfl, cb, hcb, hy⟩
    have hnil := h name ((horder.mem name).mpr (List.ne_nil_of_mem hclaim))
    have hmem : (⟨name, a.name, b.name, access'⟩ : Contention) ∈ r.contentions pipeline name :=
      mem_contentions.mpr ⟨rfl, hne, hclaim, hclaim'⟩
    rw [hnil] at hmem
    cases hmem
  · intro h resource _
    refine List.eq_nil_iff_forall_not_mem.mpr fun x hx => ?_
    obtain ⟨-, hne, hclaim, hclaim'⟩ := mem_contentions.mp hx
    obtain ⟨a, ha, haname, ca, hca, hx⟩ := mem_claims.mp hclaim
    obtain ⟨b, hb, hbname, cb, hcb, hy⟩ := mem_claims.mp hclaim'
    have hab : a.name ≠ b.name := by
      rw [haname, hbname]
      exact hne
    exact h a ha b hb hab ca cb (haname ▸ hca) (hbname ▸ hcb) _ hx _ hy rfl rfl

/-- The resources that are claimed. -/
def resourceNames (r : Registry Config) (pipeline : List (PluginRef Config)) : List Str :=
  (pipeline.flatMap fun ref => ((r.find ref.name).map fun c => c.resources.map (·.name)).getD
    []).dedup

theorem iterates_resourceNames : r.Iterates pipeline (r.resourceNames pipeline) := by
  refine ⟨List.nodup_dedup _, fun resource => ?_⟩
  rw [resourceNames, List.mem_dedup, List.mem_flatMap]
  constructor
  · rintro ⟨ref, href, hmem⟩
    cases hc : r.find ref.name with
    | none =>
        rw [hc] at hmem
        cases hmem
    | some c =>
        rw [hc] at hmem
        obtain ⟨rc, hrc, rfl⟩ := List.mem_map.mp hmem
        exact List.ne_nil_of_mem (a := ⟨ref.name, rc.access⟩)
          (mem_claims.mpr ⟨ref, href, rfl, c, hc, hrc⟩)
  · intro hne
    obtain ⟨x, hx⟩ := List.exists_mem_of_ne_nil _ hne
    obtain ⟨ref, href, hname, c, hc, hrc⟩ := mem_claims.mp hx
    refine ⟨ref, href, ?_⟩
    rw [hname, hc]
    exact List.mem_map.mpr ⟨_, hrc, rfl⟩

/-! ## The result -/

/-- **No error is returned if and only if the pipeline is what the declarations ask for**, and no
plugin of it is in conflict with itself. -/
theorem validatePipeline_eq_nil_iff (r : Registry Config) (pipeline : List (PluginRef Config))
    (order : List Str) (horder : r.Iterates pipeline order) :
    r.validatePipeline pipeline order = [] ↔ r.Valid pipeline ∧ r.SelfCompatible pipeline := by
  rw [validatePipeline, List.append_eq_nil_iff, List.append_eq_nil_iff, List.append_eq_nil_iff,
    List.append_eq_nil_iff, checkUnknown_eq_nil, checkConfigs_eq_nil, checkConflicts_eq_nil,
    checkOrdering_eq_nil,
    checkResources_eq_nil horder]
  constructor
  · rintro ⟨⟨⟨⟨hreg, hconf⟩, hcompat⟩, horder⟩, hres⟩
    refine ⟨⟨hreg, hconf, fun a ha b hb _ => hcompat a ha b hb, ?_, ?_, hres⟩,
      fun a ha => hcompat a ha a ha⟩
    · exact fun i j a b ha hb c hc => (horder i j a b ha hb c hc).1
    · exact fun i j a b ha hb c hc => (horder i j a b ha hb c hc).2
  · rintro ⟨hvalid, hself⟩
    refine ⟨⟨⟨⟨hvalid.registered, hvalid.configs⟩, fun a ha b hb c hc hmem => ?_⟩, ?_⟩,
      hvalid.exclusive⟩
    · by_cases hab : a.name = b.name
      · rw [← hab] at hmem
        exact hself a ha c hc hmem
      · exact hvalid.compatible a ha b hb hab c hc hmem
    · exact fun i j a b ha hb c hc =>
        ⟨hvalid.before i j a b ha hb c hc, hvalid.after i j a b ha hb c hc⟩

/-- Two plugins that need a resource each, the first of which is to come before the second. -/
def maskAndEncrypt : Registry Unit where
  constraints := (AList.insert (lit "encrypt") { Constraints.empty Unit with
      mustRunAfter := [lit "mask"]
      resources := [⟨lit "body", .exclusive⟩] } ∅).insert (lit "mask")
    { Constraints.empty Unit with resources := [⟨lit "headers", .exclusive⟩] }
  named := by decide +kernel

def maskThenEncrypt : List (PluginRef Unit) := [⟨lit "mask", ()⟩, ⟨lit "encrypt", ()⟩]

theorem mask_then_encrypt_valid :
    maskAndEncrypt.Iterates maskThenEncrypt (maskAndEncrypt.resourceNames maskThenEncrypt) ∧
      maskAndEncrypt.Valid maskThenEncrypt ∧ maskAndEncrypt.SelfCompatible maskThenEncrypt :=
  ⟨iterates_resourceNames, (validatePipeline_eq_nil_iff maskAndEncrypt maskThenEncrypt
    (maskAndEncrypt.resourceNames maskThenEncrypt) iterates_resourceNames).mp (by decide +kernel)⟩

/-- A plugin that declares a conflict with itself. -/
def selfish : Registry Unit where
  constraints := AList.insert (lit "mask") { Constraints.empty Unit with
    conflictsWith := [lit "mask"] } ∅
  named := by decide +kernel

/-- **A pipeline of one plugin, with no two names in it, is reported.** -/
theorem selfish_reported :
    selfish.Iterates [⟨lit "mask", ()⟩] (selfish.resourceNames [⟨lit "mask", ()⟩]) ∧
    selfish.Valid [⟨lit "mask", ()⟩] ∧
      selfish.validatePipeline [⟨lit "mask", ()⟩] (selfish.resourceNames [⟨lit "mask", ()⟩])
        ≠ [] := by
  have hfind : ∀ c, selfish.find (lit "mask") = some c →
      c = { Constraints.empty Unit with conflictsWith := [lit "mask"] } := by
    intro c hc
    exact (Option.some.inj hc).symm
  refine ⟨iterates_resourceNames, ⟨?_, ?_, ?_, ?_, ?_, ?_⟩, by decide +kernel⟩
  · intro ref href
    rw [List.mem_singleton.mp href]
    rfl
  · intro ref href c hc validator hv
    rw [List.mem_singleton.mp href] at hc
    rw [hfind c hc] at hv
    cases hv
  · intro a ha b hb hne
    rw [List.mem_singleton.mp ha, List.mem_singleton.mp hb] at hne
    exact absurd rfl hne
  · intro i j a b ha _ c hc hmem
    rw [List.mem_singleton.mp (List.mem_of_getElem? ha)] at hc
    rw [hfind c hc] at hmem
    cases hmem
  · intro i j a b ha _ c hc hmem
    rw [List.mem_singleton.mp (List.mem_of_getElem? ha)] at hc
    rw [hfind c hc] at hmem
    cases hmem
  · intro a ha b hb hne
    rw [List.mem_singleton.mp ha, List.mem_singleton.mp hb] at hne
    exact absurd rfl hne

end Registry

end Kapture.Validation
