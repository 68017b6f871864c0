import Kapture.Replay.Found
import Kapture.Storage.ExactlyOnce

/-!
# The manifest of a capture

`PutManifest` stores a manifest under a cleaned path. `LoadManifest` looks it up: on a volume
under the same path, in a bucket under the prefix of the capture, which ends in a slash, and
one more slash. No cleaned path has two slashes in a row, so **a bucket reader never finds a
manifest**.

On a volume the file is found. It may be that of another capture: IDs such as `shop/cart` and
`shop//cart` have one file, and the last one that was stored is in it.
-/

namespace Kapture.Replay

open Go Path Storage

/-- Manifests that are stored one after the other, and those of them that really were, by what
became of the uploads. -/
def putManifests (env : Env) (f : WriterFactory) : List (Str × Str) → World →
    List (Str × Str) × World
  | [], w => ([], w)
  | p :: rest, w =>
      let stored := if p.1 ≠ [] ∧ ((env.put w.puts).leaves (.raw p.2)).isSome then [p] else []
      let r := putManifests env f rest (putManifest env f p.1 p.2 w).2
      (stored ++ r.1, r.2)

/-- The last manifest that was stored for a capture. -/
def lastFor (captureID : Str) (stored : List (Str × Str)) : Option Str :=
  ((stored.filter (·.1 = captureID)).getLast?).map Prod.snd

/-- The last manifest that was stored under a key. -/
def lastAt (b : Backend) (key : Str) (stored : List (Str × Str)) : Option Str :=
  ((stored.filter (b.manifestName ·.1 = key)).getLast?).map Prod.snd

/-- **A reader gets the manifest that was stored last for its capture**, and none only if none
was stored. -/
def RoundTrip (b : Backend) (s : Store) (captureID : Str) (stored : List (Str × Str)) : Prop :=
  loadManifest b s captureID = (lastFor captureID stored).map .raw

/-- On a volume, no other capture with the same file stored another manifest since; in a
bucket, no manifest was stored. -/
def Retrievable (b : Backend) (captureID : Str) (stored : List (Str × Str)) : Prop :=
  if b.kind = .filesystem then lastAt b (b.manifestName captureID) stored = lastFor captureID stored
  else ∀ p ∈ stored, p.1 ≠ captureID

instance (b : Backend) (captureID : Str) (stored : List (Str × Str)) :
    Decidable (Retrievable b captureID stored) :=
  inferInstanceAs (Decidable (ite _ _ _))

/-! ## What is in the store -/

variable {env : Env} {f : WriterFactory} {b : Backend} {captureID : Str} {stored : List (Str × Str)}

theorem lastAt_cons (key : Str) (p : Str × Str) (stored : List (Str × Str)) :
    lastAt b key (p :: stored)
      = (lastAt b key stored).or (if b.manifestName p.1 = key then some p.2 else none) := by
  unfold lastAt
  by_cases hp : b.manifestName p.1 = key
  · rw [List.filter_cons_of_pos (by simpa using hp), if_pos hp, List.getLast?_cons]
    cases (stored.filter (b.manifestName ·.1 = key)).getLast? <;> rfl
  · rw [List.filter_cons_of_neg (by simpa using hp), if_neg hp, Option.or_none]

/-- One manifest. -/
theorem get_putManifest (hwhole : Untorn env) (id bytes : Str) (w : World) (key : Str) :
    (putManifest env f id bytes w).2.store.get key
      = ((lastAt f.backend key
          (if id ≠ [] ∧ ((env.put w.puts).leaves (.raw bytes)).isSome then [(id, bytes)]
            else [])).map
            Object.raw).or (w.store.get key) := by
  unfold putManifest
  by_cases hid : id = []
  · rw [if_pos hid, if_neg (fun h => h.1 hid)]
    rfl
  · rw [if_neg hid]
    obtain ⟨res, w', hup⟩ : ∃ res w', upload env f.backend id (f.backend.manifestName id)
        (.raw bytes) w
        = (res, w') := ⟨_, _, rfl⟩
    obtain ⟨-, -, hhere, helse, -, -⟩ := upload_ends hup
    rw [hup]
    have hleaves : (env.put w.puts).leaves (.raw bytes) = none
        ∨ (env.put w.puts).leaves (.raw bytes) = some (.raw bytes) := by
      cases hput : env.put w.puts with
      | stored => exact Or.inr rfl
      | failed madeDir left err =>
          cases left with
          | nothing => exact Or.inl rfl
          | whole => exact Or.inr rfl
          | part n => exact absurd hput (hwhole _ _ _ _)
    by_cases hkey : key = f.backend.manifestName id
    · subst hkey
      rw [hhere]
      rcases hleaves with hl | hl
      · simp [hl, lastAt]
      · simp [hl, hid, lastAt]
    · rw [helse key hkey]
      have hnone : lastAt f.backend key
          (if id ≠ [] ∧ ((env.put w.puts).leaves (.raw bytes)).isSome then [(id, bytes)]
            else []) = none := by
        split
        · rw [lastAt_cons, if_neg fun h => hkey h.symm]
          rfl
        · rfl
      rw [hnone]
      rfl

/-- **Under every key is the last manifest that was stored there.** -/
theorem get_putManifests (hwhole : Untorn env) (puts : List (Str × Str)) (w : World) (key : Str) :
    (putManifests env f puts w).2.store.get key
      = ((lastAt f.backend key (putManifests env f puts w).1).map Object.raw).or
        (w.store.get key) := by
  induction puts generalizing w with
  | nil => rfl
  | cons p rest ih =>
      rw [putManifests]
      rw [ih, get_putManifest hwhole]
      split
      · rw [List.singleton_append, lastAt_cons, lastAt_cons]
        cases lastAt f.backend key _ <;> rfl
      · rfl

/-- Only manifests of captures with an ID are stored. -/
theorem id_ne_nil_of_stored {puts : List (Str × Str)} {w : World} {p : Str × Str}
    (h : p ∈ (putManifests env f puts w).1) : p.1 ≠ [] := by
  induction puts generalizing w with
  | nil => cases h
  | cons q rest ih =>
      rw [putManifests] at h
      rcases List.mem_append.mp h with h | h
      · split at h
        · rename_i hq
          rw [List.mem_singleton.mp h]
          exact hq.1
        · cases h
      · exact ih h

/-! ## The keys -/

theorem normal_manifest : Normal manifestObjectName := by decide

theorem split_one {e : Str} (h : Str.slash ∉ e) : Str.split e = [e] := by
  have hall : ∀ x ∈ [e], Str.slash ∉ x := by simp [h]
  simpa [Str.join] using split_join hall (by simp)

/-- The key of a manifest, element by element. -/
theorem split_manifestName (hid : captureID ≠ []) :
    Str.split (b.manifestName captureID)
      = (if rooted (capturePath b captureID) then [[]] else [])
          ++ ((stack (capturePath b captureID)).reverse ++ [manifestObjectName]) := by
  have hes : ∀ e ∈ [manifestObjectName], Normal e := by simp [normal_manifest]
  have hname : b.manifestName captureID = joinPath [topOf b, captureID, manifestObjectName] := by
    unfold Backend.manifestName topOf
    split
    · rename_i hk
      rw [if_pos hk]
    · rename_i hk
      rw [if_neg hk]
  rw [hname, joinPath_capture hid (by simp), clean_append (capturePath_ne_nil hid) hes (by simp),
    split_dirPrefix hes (by simp)]

/-- **No manifest is stored where a bucket reader looks for one.** -/
theorem manifestName_ne (hk : b.kind ≠ .filesystem) (hid : captureID ≠ []) {id : Str}
    (hne : id ≠ []) :
    b.manifestName id ≠ buildObjectPrefix b.root captureID ++ [Str.slash]
      ++ manifestObjectName := by
  intro heq
  have hsplit := congrArg Str.split heq
  have hkey : buildObjectPrefix b.root captureID ++ [Str.slash] ++ manifestObjectName
      = capturePath b captureID ++ Str.slash :: ([] ++ Str.slash :: manifestObjectName) := by
    rw [buildObjectPrefix_eq hid hk]
    simp
  rw [hkey, split_append, split_append, split_one (by decide : Str.slash ∉ manifestObjectName),
    split_manifestName hne] at hsplit
  have hnil : Str.split [] = [[]] := rfl
  have hlist : (if rooted (capturePath b id) then [[]] else [])
      ++ (stack (capturePath b id)).reverse
      = Str.split (capturePath b captureID) ++ [[]] := by
    rw [hnil, ← List.append_assoc, ← List.append_assoc] at hsplit
    exact List.append_cancel_right hsplit
  -- an empty element can only be the first one
  have hfree : ([] : Str) ∉ (stack (capturePath b id)).reverse := by
    rw [List.mem_reverse]
    exact (stable_stack _).nil_notMem
  have hsplitne : Str.split (capturePath b captureID) ≠ [] := List.splitOn_ne_nil _ _
  obtain ⟨e, rest, hcons⟩ := List.exists_cons_of_ne_nil hsplitne
  cases hr : rooted (capturePath b id) with
  | true =>
      rw [hr, hcons] at hlist
      have htail : (stack (capturePath b id)).reverse = rest ++ [[]] := (List.cons.inj hlist).2
      exact hfree (by rw [htail]; simp)
  | false =>
      rw [hr] at hlist
      have hall : (stack (capturePath b id)).reverse = Str.split (capturePath b captureID)
          ++ [[]] := hlist
      exact hfree (by rw [hall]; simp)

theorem lastAt_eq_none {key : Str} (h : ∀ p ∈ stored, b.manifestName p.1 ≠ key) :
    lastAt b key stored = none := by
  have hnil : stored.filter (b.manifestName ·.1 = key) = [] := by
    rw [List.filter_eq_nil_iff]
    intro p hp
    simpa using h p hp
  rw [lastAt, hnil]
  rfl

theorem lastFor_eq_none : lastFor captureID stored = none ↔ ∀ p ∈ stored, p.1 ≠ captureID := by
  rw [lastFor, Option.map_eq_none_iff, List.getLast?_eq_none_iff, List.filter_eq_nil_iff]
  simp

theorem map_raw_inj {a b : Option Str} : a.map Object.raw = b.map Object.raw ↔ a = b := by
  refine ⟨fun h => ?_, fun h => by rw [h]⟩
  cases a with
  | none => cases b with
    | none => rfl
    | some y => cases h
  | some x => cases b with
    | none => cases h
    | some y =>
        cases h
        rfl

/-- **A manifest comes back exactly on a volume where no other capture has its file**: for every
backend, prefix, capture and list of manifests stored, and every pattern of outcomes. -/
theorem manifest_round_trip_iff (hwhole : Untorn env) (hid : captureID ≠ [])
    (puts : List (Str × Str)) {w : World}
    (hnone : loadManifest f.backend w.store captureID = none) :
    RoundTrip f.backend (putManifests env f puts w).2.store captureID (putManifests env f puts w).1
      ↔ Retrievable f.backend captureID (putManifests env f puts w).1 := by
  unfold RoundTrip Retrievable
  by_cases hk : f.backend.kind = .filesystem
  · have hkey : ∀ s : Store, loadManifest f.backend s captureID
        = s.get (f.backend.manifestName captureID) := by
      intro s
      rw [loadManifest, Backend.manifestName, hk]
    rw [if_pos hk, hkey, get_putManifests hwhole, ← hkey w.store, hnone, Option.or_none]
    exact map_raw_inj
  · have hkey : ∀ s : Store, loadManifest f.backend s captureID
        = s.get (buildObjectPrefix f.backend.root captureID ++ [Str.slash]
          ++ manifestObjectName) := by
      intro s
      rw [loadManifest]
      split
      · contradiction
      · rfl
    rw [if_neg hk, hkey, get_putManifests hwhole, ← hkey w.store, hnone, Option.or_none,
      lastAt_eq_none fun p hp => manifestName_ne hk hid (id_ne_nil_of_stored hp), ← lastFor_eq_none]
    exact map_raw_inj.trans eq_comm

/-! ## Two backends -/

/-- Uploads that succeed. -/
def storedEnv : Env := ⟨fun _ => 0, fun _ => .stored⟩

theorem untorn_storedEnv : Untorn storedEnv := fun _ _ _ _ h => nomatch h

/-- A writer into a volume. -/
def volumeFactory : WriterFactory := ⟨⟨.filesystem, lit "/data"⟩, lit "agent-0", 0, 0⟩

theorem manifest_round_trip_volume :
    RoundTrip volumeFactory.backend
      (putManifests storedEnv volumeFactory [(lit "shop/cart", lit "old"),
        (lit "shop/cart", lit "new")]
        emptyWorld).2.store (lit "shop/cart")
      (putManifests storedEnv volumeFactory [(lit "shop/cart", lit "old"),
        (lit "shop/cart", lit "new")]
        emptyWorld).1 :=
  (manifest_round_trip_iff untorn_storedEnv (by decide) _ (by decide +kernel)).mpr
    (by decide +kernel)

/-- **A manifest in a bucket is not found again.** -/
theorem bucket_manifest_lost :
    (putManifests storedEnv bucketFactory [(lit "shop/cart", lit "new")] emptyWorld).2.store.get
        (lit "data/shop/cart/manifest.json") = some (.raw (lit "new"))
      ∧ loadManifest bucketFactory.backend
          (putManifests storedEnv bucketFactory [(lit "shop/cart", lit "new")] emptyWorld).2.store
          (lit "shop/cart") = none
      ∧ ¬ RoundTrip bucketFactory.backend
          (putManifests storedEnv bucketFactory [(lit "shop/cart", lit "new")] emptyWorld).2.store
          (lit "shop/cart")
            (putManifests storedEnv bucketFactory [(lit "shop/cart", lit "new")] emptyWorld).1 := by
  refine ⟨by decide +kernel, by decide +kernel, fun h => ?_⟩
  rw [RoundTrip] at h
  revert h
  decide +kernel

end Kapture.Replay
