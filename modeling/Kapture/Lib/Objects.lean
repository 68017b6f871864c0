import Mathlib.Data.List.AList

/-!
# Objects with versions

A store of objects under names, as an API server keeps it. Every write gives an object the
next version. A writer passes the version it has read, and the write is taken only if that
is still the latest one, so **what a writer writes over is what it has read** (`Known`). An
object that is being deleted stays until its finalizer is gone, whatever others do (`Changes`).
-/

namespace Objects

/-- What the store has to know about an object. -/
class Resource (κ : outParam Type) (α : Type) where
  key : α → κ
  version : α → Nat
  /-- The object at another version. -/
  stamp : α → Nat → α
  deleting : α → Bool
  finalizer : α → Bool
  key_stamp : ∀ x n, key (stamp x n) = key x
  version_stamp : ∀ x n, version (stamp x n) = n

/-- Objects, and the last version that was given. -/
structure Store (κ α : Type) where
  objects : AList fun _ : κ => α
  revision : Nat

namespace Store

variable {κ α : Type} [DecidableEq κ] [Resource κ α] (s : Store κ α)

def empty : Store κ α := ⟨∅, 0⟩

def find (key : κ) : Option α := s.objects.lookup key

/-- The object at the next version. -/
def stamped (x : α) : α := Resource.stamp x (s.revision + 1)

def put (x : α) : Store κ α := ⟨s.objects.insert (Resource.key x) (s.stamped x), s.revision + 1⟩

def remove (key : κ) : Store κ α := ⟨s.objects.erase key, s.revision + 1⟩

/-- Stores an object, or drops it if it was only waiting for its finalizer. -/
def store (x : α) : Store κ α :=
  if Resource.deleting x = true ∧ Resource.finalizer x = false then s.remove (Resource.key x)
  else s.put x

/-- The stored object, if the caller's is its latest version. -/
def latest (x : α) : Option α :=
  (s.find (Resource.key x)).filter fun cur => Resource.version cur == Resource.version x

variable {s} {x y : α} {key : κ}

@[simp] theorem find_put_self (s : Store κ α) (x : α) :
    (s.put x).find (Resource.key x) = some (s.stamped x) :=
  AList.lookup_insert ..

theorem find_put_eq (s : Store κ α) (h : Resource.key x = key) :
    (s.put x).find key = some (s.stamped x) := by
  rw [← h]
  exact find_put_self s x

theorem find_put_of_ne (s : Store κ α) (h : key ≠ Resource.key x) :
    (s.put x).find key = s.find key :=
  AList.lookup_insert_ne h

omit [Resource κ α] in
@[simp] theorem find_remove_self (s : Store κ α) (key : κ) : (s.remove key).find key = none :=
  AList.lookup_erase ..

omit [Resource κ α] in
theorem find_remove_of_ne (s : Store κ α) {k : κ} (h : k ≠ key) :
    (s.remove key).find k = s.find k :=
  AList.lookup_erase_ne h

/-- What is stored after an object was put. -/
theorem find_put (h : (s.put x).find key = some y) :
    (key = Resource.key x ∧ y = s.stamped x) ∨ (key ≠ Resource.key x ∧ s.find key = some y) := by
  by_cases hk : key = Resource.key x
  · subst hk
    rw [find_put_self] at h
    exact .inl ⟨rfl, (Option.some.inj h).symm⟩
  · exact .inr ⟨hk, by rwa [find_put_of_ne s hk] at h⟩

omit [Resource κ α] in
theorem find_remove {k : κ} (h : (s.remove key).find k = some y) : k ≠ key ∧ s.find k = some y := by
  by_cases hk : k = key
  · rw [hk, find_remove_self] at h
    cases h
  · exact ⟨hk, by rwa [find_remove_of_ne s hk] at h⟩

/-- What is stored after an object was stored. -/
theorem find_store (h : (s.store x).find key = some y) :
    (key = Resource.key x ∧ y = s.stamped x
      ∧ ¬ (Resource.deleting x = true ∧ Resource.finalizer x = false))
      ∨ (key ≠ Resource.key x ∧ s.find key = some y) := by
  unfold store at h
  split at h
  · exact .inr (find_remove h)
  · rename_i hkeep
    rcases find_put h with ⟨hk, hy⟩ | h'
    · exact .inl ⟨hk, hy, hkeep⟩
    · exact .inr h'

theorem find_store_of_ne (s : Store κ α) (h : key ≠ Resource.key x) :
    (s.store x).find key = s.find key := by
  unfold store
  split
  · exact find_remove_of_ne s h
  · exact find_put_of_ne s h

theorem find_store_keep (s : Store κ α) (h : Resource.key x = key)
    (hkeep : ¬ (Resource.deleting x = true ∧ Resource.finalizer x = false)) :
    (s.store x).find key = some (s.stamped x) := by
  rw [store, if_neg hkeep]
  exact find_put_eq s h

theorem find_store_drop (s : Store κ α) (h : Resource.key x = key) (hd : Resource.deleting x = true)
    (hf : Resource.finalizer x = false) : (s.store x).find key = none := by
  rw [store, if_pos ⟨hd, hf⟩, h]
  exact find_remove_self s key

theorem latest_some (h : s.latest x = some y) :
    s.find (Resource.key x) = some y ∧ Resource.version y = Resource.version x := by
  obtain ⟨h₁, h₂⟩ := Option.filter_eq_some_iff.mp h
  exact ⟨h₁, beq_iff_eq.mp h₂⟩

/-- Names and versions are in order. -/
structure Ok (s : Store κ α) : Prop where
  key : ∀ {key x}, s.find key = some x → Resource.key x = key
  version : ∀ {key x}, s.find key = some x → Resource.version x ≤ s.revision

theorem ok_empty : Ok (empty : Store κ α) := by
  refine ⟨fun h => ?_, fun h => ?_⟩
  · cases h
  · cases h

theorem Ok.put (h : Ok s) (x : α) : Ok (s.put x) := by
  refine ⟨fun hy => ?_, fun hy => ?_⟩
  · rcases find_put hy with ⟨rfl, rfl⟩ | ⟨_, hy'⟩
    · exact Resource.key_stamp x _
    · exact h.key hy'
  · rcases find_put hy with ⟨rfl, rfl⟩ | ⟨_, hy'⟩
    · exact Nat.le_of_eq (Resource.version_stamp x _)
    · exact Nat.le_succ_of_le (h.version hy')

theorem Ok.remove (h : Ok s) (key : κ) : Ok (s.remove key) :=
  ⟨fun hy => h.key (find_remove hy).2, fun hy => Nat.le_succ_of_le (h.version (find_remove hy).2)⟩

theorem Ok.store (h : Ok s) (x : α) : Ok (s.store x) := by
  unfold Store.store
  split
  · exact h.remove _
  · exact h.put x

/-- If nobody wrote it since, `x` is the stored object. -/
def Known (s : Store κ α) (x : α) : Prop :=
  Resource.version x ≤ s.revision ∧
    ∀ cur, s.find (Resource.key x) = some cur → Resource.version cur = Resource.version x → cur = x

theorem known_of_find (hs : Ok s) (h : s.find key = some x) : Known s x := by
  refine ⟨hs.version h, fun cur hcur _ => ?_⟩
  rw [hs.key h, h] at hcur
  exact (Option.some.inj hcur).symm

theorem Known.put (h : Known s x) (y : α) : Known (s.put y) x := by
  refine ⟨Nat.le_succ_of_le h.1, fun cur hcur hv => ?_⟩
  rcases find_put hcur with ⟨_, rfl⟩ | ⟨_, hcur'⟩
  · -- a new version is newer than any that was read
    rw [stamped, Resource.version_stamp] at hv
    have := h.1
    omega
  · exact h.2 cur hcur' hv

theorem Known.remove (h : Known s x) (key : κ) : Known (s.remove key) x :=
  ⟨Nat.le_succ_of_le h.1, fun cur hcur hv => h.2 cur (find_remove hcur).2 hv⟩

theorem Known.store (h : Known s x) (y : α) : Known (s.store y) x := by
  unfold Store.store
  split
  · exact h.remove _
  · exact h.put y

/-- **A write goes over the object that was read**, if it is taken. -/
theorem Known.latest (h : Known s x) (hkey : Resource.key y = Resource.key x)
    (hv : Resource.version y = Resource.version x) {cur : α} (hcur : s.latest y = some cur) :
    cur = x ∧ s.find (Resource.key x) = some x := by
  obtain ⟨hfind, hver⟩ := latest_some hcur
  rw [hkey] at hfind
  obtain rfl := h.2 cur hfind (hver.trans hv)
  exact ⟨rfl, hfind⟩

theorem revision_store (s : Store κ α) (x : α) : (s.store x).revision = s.revision + 1 := by
  unfold store
  split <;> rfl

/-! ## What others do -/

/-- What others do to the objects: they create one that `New` allows, or write one over another
as `Over` allows, which may be what its deletion waited for. -/
inductive Changes (s : Store κ α) (New : α → Prop) (Over : κ → α → α → Prop) : Store κ α →
    Prop where
  | same : s.Changes New Over s
  | created {x : α} (hnone : s.find (Resource.key x) = none) (hnew : New x) :
      s.Changes New Over (s.put x)
  | edited {key : κ} {x y : α} (hfind : s.find key = some x)
      (hkey : Ok s → Resource.key y = key) (hover : Over key x y) : s.Changes New Over (s.put y)
  | deleted {key : κ} {x y : α} (hfind : s.find key = some x)
      (hkey : Ok s → Resource.key y = key) (hover : Over key x y) : s.Changes New Over (s.store y)

namespace Changes

variable {New : α → Prop} {Over : κ → α → α → Prop} {t : Store κ α} (h : s.Changes New Over t)

include h

theorem ok (hs : Ok s) : Ok t := by
  cases h with
  | same => exact hs
  | created | edited => exact hs.put _
  | deleted => exact hs.store _

theorem known (hx : Known s x) : Known t x := by
  cases h with
  | same => exact hx
  | created | edited => exact hx.put _
  | deleted => exact hx.store _

theorem revision_le : s.revision ≤ t.revision := by
  cases h with
  | same => exact Nat.le_refl _
  | created | edited => exact Nat.le_succ _
  | deleted =>
      rw [revision_store]
      exact Nat.le_succ _

/-- Where an object comes from. -/
theorem find (hs : Ok s) (hy : t.find key = some y) :
    s.find key = some y ∨ (∃ x, New x ∧ y = s.stamped x) ∨
      ∃ x z, s.find key = some x ∧ Over key x z ∧ y = s.stamped z := by
  cases h with
  | same => exact .inl hy
  | created hnone hnew =>
      rcases find_put hy with ⟨-, rfl⟩ | ⟨-, hy⟩
      · exact .inr (.inl ⟨_, hnew, rfl⟩)
      · exact .inl hy
  | edited hfind hkey hover =>
      rcases find_put hy with ⟨hk, rfl⟩ | ⟨-, hy⟩
      · obtain rfl := hk.trans (hkey hs)
        exact .inr (.inr ⟨_, _, hfind, hover, rfl⟩)
      · exact .inl hy
  | deleted hfind hkey hover =>
      rcases find_store hy with ⟨hk, rfl, -⟩ | ⟨-, hy⟩
      · obtain rfl := hk.trans (hkey hs)
        exact .inr (.inr ⟨_, _, hfind, hover, rfl⟩)
      · exact .inl hy

/-- **An object with a finalizer stays.** -/
theorem keeps (hs : Ok s) (hfin : ∀ {z}, Over key x z → Resource.finalizer z = true)
    (hx : s.find key = some x) :
    ∃ y, t.find key = some y ∧ (y = x ∨ ∃ z, Over key x z ∧ y = s.stamped z) := by
  cases h with
  | same => exact ⟨x, hx, .inl rfl⟩
  | @created x' hnone _ =>
      have hne : key ≠ Resource.key x' := by
        rintro rfl
        rw [hx] at hnone
        cases hnone
      exact ⟨x, (find_put_of_ne s hne).trans hx, .inl rfl⟩
  | @edited k x' y hfind hkey hover =>
      by_cases hk : key = k
      · subst hk
        obtain rfl := Option.some.inj (hx.symm.trans hfind)
        exact ⟨_, find_put_eq s (hkey hs), .inr ⟨y, hover, rfl⟩⟩
      · exact ⟨x, (find_put_of_ne s (hkey hs ▸ hk)).trans hx, .inl rfl⟩
  | @deleted k x' y hfind hkey hover =>
      by_cases hk : key = k
      · subst hk
        obtain rfl := Option.some.inj (hx.symm.trans hfind)
        have hkeep : ¬ (Resource.deleting y = true ∧ Resource.finalizer y = false) := by
          rw [hfin hover]
          exact fun h => by cases h.2
        exact ⟨_, find_store_keep s (hkey hs) hkeep, .inr ⟨y, hover, rfl⟩⟩
      · exact ⟨x, (find_store_of_ne s (hkey hs ▸ hk)).trans hx, .inl rfl⟩

end Changes

end Store

/-! ## Calls -/

/-- The fate of a call. -/
inductive Outcome where
  | ok
  | refused
  /-- It took effect, and the caller was told that it failed. -/
  | lost
deriving DecidableEq, Repr

namespace Outcome

variable {σ β : Type} {o : Outcome} {s t after : σ}

/-- A read. -/
def read (o : Outcome) (x : Option β) : Except Unit (Option β) :=
  match o with
  | .ok => .ok x
  | _ => .error ()

/-- A call with an answer, which leaves `after` if it takes effect. -/
def answer (o : Outcome) (x : β) (s after : σ) : Option β × σ :=
  match o with
  | .refused => (none, s)
  | .lost => (none, after)
  | .ok => (some x, after)

theorem answer_cases {x : β} {r : Option β} (h : o.answer x s after = (r, t)) :
    (r = none ∧ t = s) ∨ (t = after ∧ ∀ y, r = some y → y = x) := by
  cases o with
  | refused =>
      cases h
      exact .inl ⟨rfl, rfl⟩
  | lost =>
      cases h
      exact .inr ⟨rfl, nofun⟩
  | ok =>
      cases h
      exact .inr ⟨rfl, fun _ h => (Option.some.inj h).symm⟩

/-- A call that only says whether it succeeded. -/
def perform (o : Outcome) (s after : σ) : Bool × σ :=
  match o with
  | .refused => (false, s)
  | .lost => (false, after)
  | .ok => (true, after)

theorem perform_cases {r : Bool} (h : o.perform s after = (r, t)) :
    (r = false ∧ t = s) ∨ t = after := by
  cases o with
  | refused =>
      cases h
      exact .inl ⟨rfl, rfl⟩
  | lost | ok =>
      cases h
      exact .inr rfl

end Outcome

end Objects
