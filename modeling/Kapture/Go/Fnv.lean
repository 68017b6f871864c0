import Kapture.Go.Str

/-!
# FNV-1a

`hash/fnv`'s 64-bit FNV-1a: xor a byte in, multiply by the prime, modulo `2^64`.
-/

namespace Go.Fnv

/-- The offset basis. -/
def offset64 : UInt64 := 14695981039346656037

/-- The prime. -/
def prime64 : UInt64 := 1099511628211

/-- `h.Write(data)` followed by `h.Sum64()` on a fresh `fnv.New64a()`. -/
def sum64a (data : Str) : UInt64 :=
  data.foldl (fun h b => (h ^^^ b.toUInt64) * prime64) offset64

-- The published test vector for "a".
example : sum64a (lit "a") = 0xaf63dc4c8601ec8c := by decide

end Go.Fnv
