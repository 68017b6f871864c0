import Mathlib.Data.List.AList
import Kapture.Storage.Request

/-!
# Stores

A bucket or a mounted volume: objects by key. A key is written as a whole, and a
later write replaces an earlier one; nothing in this program deletes an object.
On a volume there are directories besides, which matter in one place only: a
listing fails if its directory does not exist.
-/

namespace Kapture.Storage

open Go

/-- The bytes of a stored object, as the decompressor sees them. -/
inductive Payload where
  /-- No bytes at all. -/
  | empty
  /-- Bytes that do not start with a gzip header. -/
  | notGzip (err : Error)
  /-- A gzip stream that decompresses to these bytes and then ends, or fails. -/
  | gzip (data : Str) (tail : Option Error)
deriving DecidableEq, Repr

/-- What is stored under a key. -/
inductive Object where
  /-- A compressed data object. -/
  | gz (payload : Payload)
  /-- Any other bytes. -/
  | raw (bytes : Str)
deriving DecidableEq, Repr

structure Store where
  objects : AList fun _ : Str => Object
  /-- The directories somebody made, on a volume. -/
  dirs : List Str

namespace Store

def empty : Store := ⟨∅, []⟩

def get (s : Store) (key : Str) : Option Object := s.objects.lookup key

def put (s : Store) (key : Str) (obj : Object) : Store :=
  { s with objects := s.objects.insert key obj }

def mkdirAll (s : Store) (dir : Str) : Store := { s with dirs := dir :: s.dirs }

/-- All keys, in no particular order. -/
def keys (s : Store) : List Str := s.objects.keys

theorem nodup_keys (s : Store) : s.keys.Nodup := s.objects.keys_nodup

theorem mem_keys_iff {s : Store} {key : Str} : key ∈ s.keys ↔ (s.get key).isSome := by
  rw [keys, get, ← AList.mem_keys, AList.lookup_isSome]

@[simp] theorem get_put_self (s : Store) (key : Str) (obj : Object) :
    (s.put key obj).get key = some obj :=
  AList.lookup_insert ..

theorem get_put_of_ne (s : Store) {key k : Str} (obj : Object) (h : k ≠ key) :
    (s.put key obj).get k = s.get k :=
  AList.lookup_insert_ne h

end Store

end Kapture.Storage
