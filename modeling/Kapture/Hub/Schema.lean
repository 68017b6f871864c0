import Kapture.Go.Url
import Kapture.Hub.LoadTest

/-!
# What the schema admits

The API server checks a `CaptureLoadTest` against the schema of its CRD before anyone sees
it: bounds, patterns, and the rules between fields. These are the checks on the fields the
model has. Times come from RFC 3339 texts, which may have a fraction and an offset.
-/

namespace Kapture.Hub

open Go Storage Replay Worker

/-- The length of a text, in characters. -/
def textLength (s : Str) : Nat := s.countP fun b => !isCont b

/-- A pattern of the form `^[e]([m]*[e])?$`. -/
def edgePattern (edge middle : UInt8 → Bool) (s : Str) : Bool :=
  s != [] && s.all middle && s.head?.all edge && s.getLast?.all edge

/-- `^[a-zA-Z0-9]([a-zA-Z0-9\-\.]*[a-zA-Z0-9])?$`. -/
def hostPattern (s : Str) : Bool := edgePattern Url.isAlnum Url.isDnsByte s

/-- `^[a-z0-9]([a-z0-9-]*[a-z0-9])?$`. -/
def enginePattern (s : Str) : Bool :=
  let edge := fun c : UInt8 => 97 ≤ c && c ≤ 122 || isDigit c
  edgePattern edge (fun c => edge c || c == 45) s

/-- `^[0-9]+(\.[0-9]+)?$`. -/
def scalePattern (s : Str) : Bool :=
  let parts := s.splitOn 46
  parts.length ≤ 2 && parts.all fun p => p != [] && p.all isDigit

-- An optional number is looked at, not searched for among all numbers of its type.
instance (priority := 2000) decidableForallOption {α : Type} (o : Option α) (P : α → Prop)
    [DecidablePred P] : Decidable (∀ x ∈ o, P x) :=
  match o with
  | none => .isTrue fun _ h => nomatch h
  | some a => decidable_of_iff (P a) (by simp)

def TargetAdmitted (target : ReplayTarget) : Prop :=
  hostPattern target.host = true ∧ textLength target.host ≤ 253
    ∧ ∀ p ∈ target.port, 1 ≤ p ∧ p ≤ 65535

def RateAdmitted (rate : RateSpec) : Prop :=
  (rate.mode = .constant → rate.requestsPerSecond.isSome)
    ∧ (rate.mode ≠ .originalTiming → rate.timeScale = none)
    ∧ (∀ rps ∈ rate.requestsPerSecond, 1 ≤ rps)
    ∧ ∀ scale ∈ rate.timeScale, scalePattern scale = true

def FiltersAdmitted (f : ReplayFilters) : Prop :=
  (∀ s ∈ f.startTime, ∀ e ∈ f.endTime, s < e) ∧ f.methods.length ≤ 16
    ∧ (∀ m ∈ f.methods, 1 ≤ textLength m ∧ textLength m ≤ 32) ∧ ∀ n ∈ f.limit, 0 ≤ n

def DistributionAdmitted (d : LoadTestDistribution) : Prop :=
  d.cells.length ≤ 64 ∧ (∀ c ∈ d.cells, 1 ≤ textLength c ∧ textLength c ≤ 63)
    ∧ (∀ n ∈ d.maxSpokes, 1 ≤ n) ∧ (∀ n ∈ d.workersPerSpoke, 1 ≤ n)
    ∧ ∀ n ∈ d.concurrencyPerWorker, 1 ≤ n

def AbortAdmitted (a : LoadTestAbortPolicy) : Prop :=
  (∀ n ∈ a.errorPercent, 1 ≤ n ∧ n ≤ 100) ∧ ∀ n ∈ a.minSampleRequests, 1 ≤ n

def EngineAdmitted (e : ReplayEngineSpec) : Prop :=
  enginePattern e.name = true ∧ textLength e.name ≤ 63

def SafetyAdmitted (allowedHosts : List Str) : Prop :=
  allowedHosts.length ≤ 64 ∧ ∀ p ∈ allowedHosts,
    (hostPattern p = true ∨ p.take 2 = lit "*." ∧ hostPattern (p.drop 2) = true)
      ∧ textLength p ≤ 253

instance (target : ReplayTarget) : Decidable (TargetAdmitted target) :=
  inferInstanceAs (Decidable (_ ∧ _))

instance (rate : RateSpec) : Decidable (RateAdmitted rate) := inferInstanceAs (Decidable (_ ∧ _))

instance (f : ReplayFilters) : Decidable (FiltersAdmitted f) := inferInstanceAs (Decidable (_ ∧ _))

instance (d : LoadTestDistribution) : Decidable (DistributionAdmitted d) :=
  inferInstanceAs (Decidable (_ ∧ _))

instance (a : LoadTestAbortPolicy) : Decidable (AbortAdmitted a) :=
  inferInstanceAs (Decidable (_ ∧ _))

instance (e : ReplayEngineSpec) : Decidable (EngineAdmitted e) :=
  inferInstanceAs (Decidable (_ ∧ _))

instance (hosts : List Str) : Decidable (SafetyAdmitted hosts) :=
  inferInstanceAs (Decidable (_ ∧ _))

/-- A load test that the schema admits. -/
structure Admitted (spec : CaptureLoadTestSpec) : Prop where
  source : 1 ≤ textLength spec.sourceRef ∧ textLength spec.sourceRef ≤ 253
  target : TargetAdmitted spec.target
  rate : ∀ r ∈ spec.rate, RateAdmitted r
  filters : ∀ f ∈ spec.filters, FiltersAdmitted f
  distribution : ∀ d ∈ spec.distribution, DistributionAdmitted d
  abort : ∀ a ∈ spec.abort, AbortAdmitted a
  engine : ∀ e ∈ spec.engine, EngineAdmitted e
  safety : ∀ hosts ∈ spec.safety, SafetyAdmitted hosts

instance (spec : CaptureLoadTestSpec) : Decidable (Admitted spec) :=
  decidable_of_iff
    ((1 ≤ textLength spec.sourceRef ∧ textLength spec.sourceRef ≤ 253)
      ∧ TargetAdmitted spec.target ∧ (∀ r ∈ spec.rate, RateAdmitted r)
      ∧ (∀ f ∈ spec.filters, FiltersAdmitted f)
      ∧ (∀ d ∈ spec.distribution, DistributionAdmitted d) ∧ (∀ a ∈ spec.abort, AbortAdmitted a)
      ∧ (∀ e ∈ spec.engine, EngineAdmitted e) ∧ ∀ hosts ∈ spec.safety, SafetyAdmitted hosts)
    ⟨fun ⟨a, b, c, d, e, f, g, h⟩ => ⟨a, b, c, d, e, f, g, h⟩,
      fun ⟨a, b, c, d, e, f, g, h⟩ => ⟨a, b, c, d, e, f, g, h⟩⟩

theorem ne_nil_of_textLength {s : Str} (h : 1 ≤ textLength s) : s ≠ [] := by
  rintro rfl
  exact absurd h (by decide)

theorem hostPattern_spec {host : Str} (h : hostPattern host = true) :
    host ≠ [] ∧ host.all Url.isDnsByte = true := by
  simp only [hostPattern, edgePattern, Bool.and_eq_true, bne_iff_ne] at h
  exact ⟨h.1.1.1, h.1.1.2⟩

theorem scalePattern_ne_nil {s : Str} (h : scalePattern s = true) : s ≠ [] := by
  rintro rfl
  exact absurd h (by decide)

end Kapture.Hub
