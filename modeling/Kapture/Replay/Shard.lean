import Kapture.Go.Fnv
import Kapture.Storage.Request

/-!
# The shard function

`shardOf`, `ShardOwns` and `ShardIndexOf` of the replay engine. A Go `int` is an
`Int64` here, and the conversions between it and `uint64` are the language's own
bit casts, so the four paths that decide ownership can be compared for every
count and every index a caller can pass.
-/

namespace Kapture.Replay

open Go

/-- Assigns a request ID to a shard using FNV-1a. -/
def shardOf (requestID : Str) (shardCount : UInt64) : UInt64 :=
  Fnv.sum64a requestID % shardCount

/-- Whether the shard with the given index owns a request ID under a `count`-way
split. A count of at most one means no sharding. -/
def shardOwns (requestID : Str) (index count : Int64) : Bool :=
  if count ≤ 1 then true
  else shardOf requestID count.toUInt64 == index.toUInt64

/-- The owning shard of a request ID under a `count`-way split. -/
def shardIndexOf (requestID : Str) (count : Int64) : Int64 :=
  if count ≤ 1 then 0
  else (shardOf requestID count.toUInt64).toInt64

/-- The indexes of a `count`-way split. -/
def InShards (count i : Int64) : Prop := 0 ≤ i ∧ i < count

instance (count i : Int64) : Decidable (InShards count i) :=
  inferInstanceAs (Decidable (0 ≤ i ∧ i < count))

/-- A non-negative `int` converts to the `uint64` of the same value. -/
theorem toNat_toUInt64 {x : Int64} (h : 0 ≤ x) : (x.toUInt64.toNat : Int) = x.toInt := by
  have h0 : 0 ≤ x.toBitVec.toInt := by
    have := Int64.le_iff_toInt_le.mp h
    simpa using this
  have hm : x.toBitVec.msb = false := by
    rcases hb : x.toBitVec.msb with _ | _
    · rfl
    · exact absurd h0 (by have := BitVec.toInt_neg_of_msb_true hb; omega)
  exact (BitVec.toInt_eq_toNat_of_msb hm).symm

variable {count : Int64}

/-- A `uint64` below a positive `int` converts to an index below it. -/
theorem inShards_toInt64 {s : UInt64} (h : 1 < count) (hs : s < count.toUInt64) :
    InShards count s.toInt64 := by
  have hc : (count.toUInt64.toNat : Int) = count.toInt :=
    toNat_toUInt64 (Int64.le_of_lt (Int64.lt_trans (by decide) h))
  have hlt : s.toNat < count.toUInt64.toNat := UInt64.lt_iff_toNat_lt.mp hs
  have hmax : count.toInt < 2 ^ 63 := Int64.toInt_lt count
  have hm : s.toBitVec.msb = false := by
    rw [BitVec.msb_eq_decide]
    have : s.toBitVec.toNat = s.toNat := rfl
    simp only [decide_eq_false_iff_not, not_le]
    omega
  have hi : s.toInt64.toInt = s.toNat := BitVec.toInt_eq_toNat_of_msb hm
  refine ⟨Int64.le_iff_toInt_le.mpr ?_, Int64.lt_iff_toInt_lt.mpr ?_⟩
  · rw [hi]; simp
  · rw [hi]; omega

/-- A count above one converts to a `uint64` above one. -/
theorem one_lt_toUInt64 (h : 1 < count) : 1 < count.toUInt64 := by
  have hc : (count.toUInt64.toNat : Int) = count.toInt :=
    toNat_toUInt64 (Int64.le_of_lt (Int64.lt_trans (by decide) h))
  have h1 : 1 < count.toInt := by
    have := Int64.lt_iff_toInt_lt.mp h
    simpa using this
  rw [UInt64.lt_iff_toNat_lt]
  have : (1 : UInt64).toNat = 1 := rfl
  omega

/-- `shardOf` is below the count it reduces by. -/
theorem shardOf_lt (requestID : Str) (h : 1 < count) :
    shardOf requestID count.toUInt64 < count.toUInt64 :=
  UInt64.mod_lt _ (UInt64.lt_trans (by decide) (one_lt_toUInt64 h))

/-- **Every ID has an owner in range.** -/
theorem shardIndexOf_inShards (requestID : Str) (h : 1 ≤ count) :
    InShards count (shardIndexOf requestID count) := by
  unfold shardIndexOf
  split
  · rename_i hle
    have : count = 1 := Int64.le_antisymm hle h
    subst this
    decide
  · rename_i hgt
    exact inShards_toInt64 (Int64.not_le.mp hgt) (shardOf_lt requestID (Int64.not_le.mp hgt))

/-- **The two conversions agree**: comparing as `uint64` and as `int` is the same test. -/
theorem shardOf_eq_iff (requestID : Str) (index count : Int64) :
    shardOf requestID count.toUInt64 = index.toUInt64
      ↔ (shardOf requestID count.toUInt64).toInt64 = index := by
  constructor
  · intro h
    rw [h]
    rfl
  · intro h
    rw [← h]
    rfl

/-- **`ShardOwns` and `ShardIndexOf` name the same owner.** -/
theorem shardOwns_iff (requestID : Str) {index : Int64} (hi : InShards count index) :
    shardOwns requestID index count = true ↔ shardIndexOf requestID count = index := by
  unfold shardOwns shardIndexOf
  split
  · rename_i hle
    -- one shard: the only index in range is zero
    have h1 : index.toInt < 1 := by
      have h2 := Int64.lt_iff_toInt_lt.mp hi.2
      have h3 := Int64.le_iff_toInt_le.mp hle
      simp at h3
      omega
    have h0 : 0 ≤ index.toInt := by
      have := Int64.le_iff_toInt_le.mp hi.1
      simpa using this
    have hz : index.toInt = (0 : Int64).toInt := by simp; omega
    simp [Int64.toInt_inj.mp hz]
  · simp only [beq_iff_eq]
    exact shardOf_eq_iff requestID index count

end Kapture.Replay
