import Kapture.Hub.Registry
import Kapture.Hub.Schema
import Kapture.Spoke.Reconcile

/-!
# The names of shards

A shard of a load test has three names: that of the `TrafficReplay` which a `START` makes, the key
under which the hub keeps its status, and the name of the `Job` of its worker. **The first two tell
every shard from every other.** The name of a load test may itself end like that of a shard, but a
number has no letters, so the last mark in a name is the one that was put there.

The names also get longer with every step, and so do the labels. The API server admits a name of 253
bytes for a load test, and for a label and for a `Job` only 63. **A shard whose load test and number
have more than 49 bytes together cannot be started**; nobody looks at that before its replay or its
job is refused.
-/

namespace Kapture.Spoke

open Go Storage Hub

/-! ## What Kubernetes admits -/

/-- A DNS label, as names of namespaces are. -/
def validNamespace (s : Str) : Bool := enginePattern s && s.length ≤ 63

/-- A DNS subdomain, as names of most objects are: labels between dots. -/
def validName (s : Str) : Bool := (s.splitOn 46).all enginePattern && s.length ≤ 253

def validKey (key : Key) : Bool := validNamespace key.ns && validName key.name

/-- The shard that a `START` is for. -/
def shardOf (d : ReplayDirective) : Int32 := (shardFromDirective d.shard).index

/-- A text up to its mark does not go on with the bytes of a number. -/
theorem eq_of_marked {n n' u : Str} {z : Int} (h : n ++ lit "-shard-" = n' ++ lit "-shard-" ++ u)
    (hmem : ∀ b ∈ u, b ∈ itoa z) : n = n' := by
  have hrev := congrArg List.reverse h
  rw [List.reverse_append, List.reverse_append] at hrev
  -- read from the end, `u` begins like `-drahs-`, and has no letters
  cases hlast : u.reverse with
  | nil =>
      rw [List.reverse_eq_nil_iff.mp hlast, List.append_nil] at h
      exact List.append_cancel_right h
  | cons b rest =>
      rw [hlast] at hrev
      have hsnd := congrArg (fun l : Str => l[1]?) hrev
      cases rest with
      | nil => simp [lit] at hsnd
      | cons c rest =>
          simp [lit] at hsnd
          have hc : c ∈ u := List.mem_reverse.mp (by rw [hlast]; simp)
          have hbyte := itoa_byte (hmem c hc)
          rw [← hsnd] at hbyte
          exact absurd hbyte (by decide)

/-- **The name of a shard tells its load test and its number.** -/
theorem replayShardName_inj {n n' : Str} {i i' : Int32}
    (h : replayShardName n i = replayShardName n' i') : n = n' ∧ i = i' := by
  have hname : n = n' := by
    rcases List.append_eq_append_iff.mp h with ⟨u, hu, hv⟩ | ⟨u, hu, hv⟩
    · exact (eq_of_marked hu fun b hb => by rw [hv]; exact List.mem_append_left _ hb).symm
    · exact eq_of_marked hu fun b hb => by rw [hv]; exact List.mem_append_left _ hb
  subst hname
  refine ⟨rfl, ?_⟩
  have hnumber := congrArg parseInt (List.append_cancel_left h)
  rw [parseInt_int32, parseInt_int32] at hnumber
  exact Int32.toInt_inj.mp (Option.some.inj hnumber)

/-- The summary is one of the replay that a directive has made, whatever has become of its
status. -/
def SummaryOf (d : ReplayDirective) (rs : ReplayStatusSummary) : Prop :=
  ∃ (h : d.spec.isSome) (status : TrafficReplayStatus),
    replaySummaryFromStatus { replayFromDirective d h with status := status } = some rs

theorem key_replayFromDirective (d : ReplayDirective) (h : d.spec.isSome) :
    (replayFromDirective d h).key
      = ⟨d.loadTest.ns, replayShardName d.loadTest.name (shardOf d)⟩ := by
  obtain ⟨spec, hspec⟩ := Option.isSome_iff_exists.mp h
  have hshard : d.shard = (d.spec.get h).shard := by simp [ReplayDirective.shard, hspec]
  rw [shardOf, hshard]
  rfl

theorem SummaryOf.names {d : ReplayDirective} {rs : ReplayStatusSummary} (h : SummaryOf d rs) :
    rs.loadTest = d.loadTest ∧ rs.replayName = replayShardName d.loadTest.name (shardOf d) := by
  obtain ⟨hspec, status, hrs⟩ := h
  have hname := congrArg Key.name (key_replayFromDirective d hspec)
  cases hrs
  exact ⟨rfl, hname⟩

/-- A `START` for a shard. -/
def startFor (name : String) (shard : Int32) : ReplayDirective where
  directiveId := []
  action := .start
  loadTest := ⟨lit "perf", lit name⟩
  spec := some ⟨lit "capture", lit "store", lit "staging.internal", 0, false, none,
    some ⟨shard, 8, false⟩, 0, none, [], [], []⟩
  incarnation := 0

/-- The labels that `BuildReplayJob` gives to a job and to its pods. -/
def replayJobLabels (tr : TrafficReplay) : List (Str × Str) :=
  [(lit "app.kubernetes.io/name", lit "replay-worker"),
    (lit "app.kubernetes.io/instance", tr.key.name), (lit "app.kubernetes.io/component",
      lit "replay-worker"), (lit "app.kubernetes.io/managed-by", lit "kapture")]
    ++ (tr.loadTestLabel.map fun v => (lit "capture.gateway.io/load-test", v)).toList
    ++ (tr.shardIndexLabel.map fun v => (lit "capture.gateway.io/shard-index", v)).toList

/-- The API server takes the replay: 253 bytes for its name, 63 for the value of a label. -/
def ReplayFits (tr : TrafficReplay) : Prop :=
  tr.key.name.length ≤ 253 ∧ (∀ v ∈ tr.loadTestLabel, v.length ≤ 63)
    ∧ ∀ v ∈ tr.shardIndexLabel, v.length ≤ 63

/-- It takes the job: 63 bytes for its name, which the job controller makes a label of. -/
def JobFits (tr : TrafficReplay) : Prop :=
  (replayJobKey tr.key).name.length ≤ 63 ∧ ∀ label ∈ replayJobLabels tr, label.2.length ≤ 63

instance (tr : TrafficReplay) : Decidable (ReplayFits tr) := inferInstanceAs (Decidable (_ ∧ _))

instance (tr : TrafficReplay) : Decidable (JobFits tr) := inferInstanceAs (Decidable (_ ∧ _))

/-- How many bytes the name of the load test and the number of a shard have. -/
def nameBytes (d : ReplayDirective) : Nat :=
  d.loadTest.name.length + (itoa (shardOf d).toInt).length

theorem length_decimalAux (fuel : Nat) (acc : Str) {n k : Nat} (h : n < 10 ^ k) (hk : 0 < k) :
    (decimalAux fuel n acc).length ≤ acc.length + k := by
  induction fuel generalizing n k acc with
  | zero => exact Nat.le_add_right _ _
  | succ fuel ih =>
      rw [decimalAux]
      split
      · rw [List.length_cons]
        omega
      · rename_i hn
        -- a number of two digits or more
        obtain ⟨k, rfl⟩ : ∃ j, k = j + 1 := ⟨k - 1, by omega⟩
        have hpos : 0 < k := by
          by_contra hzero
          obtain rfl : k = 0 := by omega
          omega
        have hdiv : n / 10 < 10 ^ k := Nat.div_lt_of_lt_mul (by rw [Nat.pow_succ] at h; omega)
        have hrec := ih (digit n :: acc) hdiv hpos
        rw [List.length_cons] at hrec
        omega

/-- The number of a shard has ten digits at most. -/
theorem length_itoa_shard {i : Int32} (h : 0 ≤ i) : (itoa i.toInt).length ≤ 10 := by
  have hnonneg : 0 ≤ i.toInt := by simpa using Int32.le_iff_toInt_le.mp h
  have hhi : i.toInt ≤ 2 ^ 31 - 1 := i.toInt_le
  have hlt : i.toInt.natAbs < 10 ^ 10 := by omega
  rw [itoa, if_neg (by omega), decimal]
  simpa using length_decimalAux (i.toInt.natAbs + 1) [] hlt (by decide)

theorem length_replayShardName (d : ReplayDirective) :
    (replayShardName d.loadTest.name (shardOf d)).length = nameBytes d + 7 := by
  have hmark : (lit "-shard-").length = 7 := by decide
  rw [replayShardName, List.length_append, List.length_append, hmark, nameBytes]
  omega

/-- **The replay of a shard and its job fit exactly if the load test and the number have 49 bytes or
less.** A load test of 39 bytes may have any number of shards. -/
theorem shard_fits_iff (d : ReplayDirective) (h : d.spec.isSome) :
    (ReplayFits (replayFromDirective d h) ∧ JobFits (replayFromDirective d h) ↔ nameBytes d ≤ 49)
      ∧ (d.loadTest.name.length ≤ 39 → 0 ≤ shardOf d →
        ReplayFits (replayFromDirective d h) ∧ JobFits (replayFromDirective d h)) := by
  have hname : (replayFromDirective d h).key.name.length = nameBytes d + 7 := by
    rw [key_replayFromDirective]
    exact length_replayShardName d
  have hjob : (replayJobKey (replayFromDirective d h).key).name.length = nameBytes d + 14 := by
    have hmark : (lit "-replay").length = 7 := by decide
    rw [replayJobKey, List.length_append, hmark, hname]
  have hindex : (replayFromDirective d h).shardIndexLabel = some (itoa (shardOf d).toInt) := by
    obtain ⟨spec, hspec⟩ := Option.isSome_iff_exists.mp h
    have hshard : d.shard = (d.spec.get h).shard := by simp [ReplayDirective.shard, hspec]
    rw [shardOf, hshard]
    rfl
  have hlabel : (replayFromDirective d h).loadTestLabel = some d.loadTest.name := rfl
  have hsum : nameBytes d = d.loadTest.name.length + (itoa (shardOf d).toInt).length := rfl
  have hfits : nameBytes d ≤ 49 → ReplayFits (replayFromDirective d h)
      ∧ JobFits (replayFromDirective d h) := by
    intro hbytes
    refine ⟨⟨by omega, ?_, ?_⟩, by omega, ?_⟩
    · rw [hlabel]
      rintro v ⟨⟩
      omega
    · rw [hindex]
      rintro v ⟨⟩
      omega
    · intro label hmem
      simp only [replayJobLabels, hindex, hlabel, Option.map_some, Option.toList_some,
        List.cons_append, List.nil_append, List.mem_cons, List.not_mem_nil, or_false] at hmem
      rcases hmem with rfl | rfl | rfl | rfl | rfl | rfl
      · decide
      · show (replayFromDirective d h).key.name.length ≤ 63
        omega
      · decide
      · decide
      · show d.loadTest.name.length ≤ 63
        omega
      · show (itoa (shardOf d).toInt).length ≤ 63
        omega
  refine ⟨⟨fun hboth => ?_, hfits⟩, fun hshort hnonneg => hfits ?_⟩
  · have := hboth.2.1
    omega
  · have := length_itoa_shard hnonneg
    omega

/-- A shard of `nightly` fits. -/
theorem shard_fits_nightly : (startFor "nightly" 3).spec.isSome = true
    ∧ ReplayFits (replayFromDirective (startFor "nightly" 3) rfl)
    ∧ JobFits (replayFromDirective (startFor "nightly" 3) rfl) :=
  ⟨rfl, (shard_fits_iff (startFor "nightly" 3) rfl).1.mpr (by decide)⟩

/-- **A load test with a long name cannot be started**: the API server takes its replay, and not the
job of its first shard. -/
theorem long_name_unstartable :
    validKey (startFor "checkout-regression-of-the-european-storefront-2025" 0).loadTest = true
      ∧ ReplayFits
        (replayFromDirective (startFor "checkout-regression-of-the-european-storefront-2025" 0) rfl)
      ∧ ¬ JobFits (replayFromDirective
        (startFor "checkout-regression-of-the-european-storefront-2025" 0) rfl) := by
  decide +kernel

end Kapture.Spoke
