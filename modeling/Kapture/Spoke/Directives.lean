import Kapture.Spoke.Reconcile

/-!
# Directives on a spoke

`ReplayDirectiveHandler.Handle` applies what the hub sends: a `START` creates the
`TrafficReplay` of a shard, and a `STOP` deletes those of a load test. A `START` that
finds a replay of the shard's name leaves it alone, **whatever it is**; and a replay
whose controller has seen it has a finalizer, so that a `STOP` only marks it.
-/

namespace Kapture.Spoke

open Go Storage Hub Objects

/-- How the calls of one `Handle` come out. -/
structure Answers where
  get : Outcome
  create : Outcome
  /-- `DeleteAllOf` fails when it has got to these. -/
  deleteAllOf : Option (List Key)
  now : Time
deriving DecidableEq, Repr

inductive HandleError where
  | invalid (text : Str)
  /-- What a call returned. -/
  | api
deriving DecidableEq, Repr

/-- Of a load test: what `DeleteAllOf` selects. -/
def TrafficReplay.inLoadTest (tr : TrafficReplay) (loadTest : Key) : Bool :=
  tr.key.ns == loadTest.ns && tr.loadTestLabel == some loadTest.name

section Handle

-- What the API server stores of a spec it is given: it fills in defaults, and its times
-- are whole seconds.
variable (stored : TrafficReplaySpec → TrafficReplaySpec)

/-- The replay that `Create` stores. -/
def TrafficReplay.created (tr : TrafficReplay) (now : Time) : TrafficReplay :=
  { tr with spec := stored tr.spec, creationTimestamp := now }

/-- The call of `Create`. -/
def createReplay (tr : TrafficReplay) (a : Answers) (s : Store Key TrafficReplay) :
    Option HandleError × Store Key TrafficReplay :=
  match a.create with
  | .ok => (none, s.put (tr.created stored a.now))
  | .refused => (some .api, s)
  | .lost => (some .api, s.put (tr.created stored a.now))

/-- `handleStart`, from the replay on. -/
def startShard (tr : TrafficReplay) (a : Answers) (s : Store Key TrafficReplay) :
    Option HandleError × Store Key TrafficReplay :=
  match a.get, s.find tr.key with
  | .ok, none => createReplay stored tr a s
  | .ok, some _ => (none, s)
  | _, _ => (some .api, s)

/-- The error of a directive that lacks something. -/
def invalidDirective (d : ReplayDirective) (what : Str) : HandleError :=
  .invalid (lit "replay directive " ++ d.directiveId ++ what)

/-- Whether a directive says which load test it is about. -/
def named (d : ReplayDirective) : Bool := d.loadTest.name ≠ [] && d.loadTest.ns ≠ []

def handleStart (d : ReplayDirective) (a : Answers) (s : Store Key TrafficReplay) :
    Option HandleError × Store Key TrafficReplay :=
  if h : d.spec.isSome then
    if named d then startShard stored (replayFromDirective d h) a s
    else (some (invalidDirective d (lit " missing load test identity")), s)
  else (some (invalidDirective d (lit " has no spec")), s)

/-- One replay of `DeleteAllOf`: it is marked, and goes if it has no finalizer. -/
def deleteOne (loadTest : Key) (s : Store Key TrafficReplay)
    (key : Key) : Store Key TrafficReplay :=
  match s.find key with
  | none => s
  | some tr => if tr.inLoadTest loadTest then s.store { tr with deleting := true } else s

def deleteAll (loadTest : Key) (keys : List Key) (s : Store Key TrafficReplay) :
    Store Key TrafficReplay :=
  keys.foldl (deleteOne loadTest) s

def handleStop (d : ReplayDirective) (a : Answers) (s : Store Key TrafficReplay) :
    Option HandleError × Store Key TrafficReplay :=
  if named d then
    match a.deleteAllOf with
    | none => (none, deleteAll d.loadTest s.objects.keys s)
    | some keys => (some .api, deleteAll d.loadTest keys s)
  else (some (invalidDirective d (lit " missing load test identity")), s)

def handle (d : ReplayDirective) (a : Answers) (s : Store Key TrafficReplay) :
    Option HandleError × Store Key TrafficReplay :=
  match d.action with
  | .start => handleStart stored d a s
  | .stop => handleStop d a s
  | .unspecified => (none, s)

/-! ## What a directive asks for -/

/-- A replay is the shard of a directive: it is of its load test and has its spec. -/
def IsShard (d : ReplayDirective) (h : d.spec.isSome) (tr : TrafficReplay) : Prop :=
  tr.loadTestLabel = some d.loadTest.name ∧ tr.spec = stored (replayFromDirective d h).spec

/-- **A directive was applied**: it went from `s` to the second part of `r`, and the first
part is what `Handle` returned. -/
structure Applied (d : ReplayDirective) (s : Store Key TrafficReplay)
    (r : Option HandleError × Store Key TrafficReplay) : Prop where
  start : r.1 = none → d.action = .start → ∃ h tr,
    r.2.find (replayFromDirective d h).key = some tr ∧ IsShard stored d h tr
  again : r.1 = none → d.action = .start → ∀ a, (handle stored d a r.2).2 = r.2
  stop : r.1 = none → d.action = .stop → ∀ key tr, r.2.find key = some tr →
    tr.inLoadTest d.loadTest = false
  others : r.1 = none → d.action = .stop → ∀ key tr, tr.inLoadTest d.loadTest = false →
    (r.2.find key = some tr ↔ s.find key = some tr)

/-- **What a directive relies on**: a replay that has the name of the shard to be started is
that shard, and the replays to be stopped have no finalizer. -/
structure Undisturbed (d : ReplayDirective) (a : Answers) (s : Store Key TrafficReplay) : Prop where
  start : d.action = .start → named d = true → a.get = .ok → ∀ h tr,
    s.find (replayFromDirective d h).key = some tr → IsShard stored d h tr
  stop : d.action = .stop → named d = true → a.deleteAllOf = none → ∀ key tr,
    s.find key = some tr → tr.inLoadTest d.loadTest = true → tr.finalizer = false

end Handle

/-! ## `START` -/

section Start

variable {stored : TrafficReplaySpec → TrafficReplaySpec} {d : ReplayDirective} {a : Answers}
  {s : Store Key TrafficReplay}

/-- **A `START` that succeeds** finds a replay, or creates one. -/
theorem handleStart_ok (hok : (handleStart stored d a s).1 = none) :
    ∃ h : d.spec.isSome, named d = true ∧ a.get = .ok ∧
      ((∃ tr, s.find (replayFromDirective d h).key = some tr ∧ (handleStart stored d a s).2 = s) ∨
        (s.find (replayFromDirective d h).key = none ∧
          (handleStart stored d a s).2
            = s.put ((replayFromDirective d h).created stored a.now))) := by
  unfold handleStart at hok ⊢
  split
  · rename_i h
    rw [dif_pos h] at hok
    split
    · rename_i hnamed
      rw [if_pos hnamed] at hok
      refine ⟨h, hnamed, ?_⟩
      unfold startShard at hok ⊢
      split at hok
      · rename_i hget hfind
        simp only [hget, hfind]
        refine ⟨trivial, .inr ⟨trivial, ?_⟩⟩
        unfold createReplay at hok ⊢
        split at hok
        · rfl
        · cases hok
        · cases hok
      · rename_i tr hget hfind
        simp only [hget, hfind]
        exact ⟨trivial, .inl ⟨tr, rfl, trivial⟩⟩
      · cases hok
    · rename_i hnamed
      rw [if_neg hnamed] at hok
      cases hok
  · rename_i h
    rw [dif_neg h] at hok
    cases hok

/-- A `START` changes nothing where there is a replay of the name. -/
theorem handleStart_found {tr : TrafficReplay} (h : d.spec.isSome)
    (hfind : s.find (replayFromDirective d h).key = some tr) :
    (handleStart stored d a s).2 = s := by
  unfold handleStart
  rw [dif_pos h]
  split
  · unfold startShard
    rw [hfind]
    split
    · rename_i heq
      cases heq
    · rfl
    · rfl
  · rfl

theorem handleStart_get {h : d.spec.isSome} {tr : TrafficReplay} (hnamed : named d = true)
    (hget : a.get = .ok) (hfind : s.find (replayFromDirective d h).key = some tr) :
    handleStart stored d a s = (none, s) := by
  unfold handleStart startShard
  rw [dif_pos h, if_pos hnamed, hget, hfind]

end Start

/-! ## `STOP` -/

section Stop

variable {loadTest : Key} {s : Store Key TrafficReplay} {k key : Key} {tr : TrafficReplay}

theorem ok_deleteOne (hs : s.Ok) (key : Key) : (deleteOne loadTest s key).Ok := by
  unfold deleteOne
  split
  · exact hs
  · split
    · exact hs.store _
    · exact hs

theorem find_deleteOne_of_ne (hs : s.Ok) (hk : k ≠ key) :
    (deleteOne loadTest s key).find k = s.find k := by
  unfold deleteOne
  split
  · rfl
  · rename_i tr hfind
    split
    · refine Store.find_store_of_ne s (x := { tr with deleting := true }) ?_
      have hkey : tr.key = key := hs.key hfind
      exact fun h => hk (h.trans hkey)
    · rfl

/-- A replay that is not of the load test stays as it is. -/
theorem find_deleteOne_other (hs : s.Ok) (hfind : s.find k = some tr)
    (hother : tr.inLoadTest loadTest = false) : (deleteOne loadTest s key).find k = some tr := by
  by_cases hk : k = key
  · subst hk
    unfold deleteOne
    rw [hfind]
    dsimp only
    rw [if_neg (by rw [hother]; decide), hfind]
  · rw [find_deleteOne_of_ne hs hk, hfind]

theorem find_deleteOne_none (hs : s.Ok) (hfind : s.find k = none) :
    (deleteOne loadTest s key).find k = none := by
  by_cases hk : k = key
  · subst hk
    unfold deleteOne
    rw [hfind]
    exact hfind
  · rw [find_deleteOne_of_ne hs hk, hfind]

theorem deleteOne_of_in (hfind : s.find key = some tr) (hin : tr.inLoadTest loadTest = true) :
    deleteOne loadTest s key = s.store { tr with deleting := true } := by
  unfold deleteOne
  rw [hfind]
  exact if_pos hin

/-- A replay with a finalizer is still there. -/
def Held (loadTest : Key) (k : Key) (s : Store Key TrafficReplay) : Prop :=
  ∃ tr, s.find k = some tr ∧ tr.inLoadTest loadTest = true ∧ tr.finalizer = true

/-- Nothing of the load test is there but what is being deleted. -/
def Marked (loadTest : Key) (k : Key) (s : Store Key TrafficReplay) : Prop :=
  ∀ tr, s.find k = some tr → tr.inLoadTest loadTest = true → tr.deleting = true
    ∧ tr.finalizer = true

theorem Held.deleteOne (hs : s.Ok) (h : Held loadTest k s) :
    Held loadTest k (deleteOne loadTest s key) := by
  obtain ⟨tr, hfind, hin, hfin⟩ := h
  by_cases hk : k = key
  · subst hk
    have hkey : tr.key = k := hs.key hfind
    refine ⟨s.stamped { tr with deleting := true }, ?_, hin, hfin⟩
    rw [deleteOne_of_in hfind hin]
    refine Store.find_store_keep s (x := { tr with deleting := true }) hkey fun h => ?_
    exact absurd (hfin.symm.trans h.2) (by decide)
  · exact ⟨tr, by rw [find_deleteOne_of_ne hs hk, hfind], hin, hfin⟩

/-- A replay is marked where `DeleteAllOf` gets to it. -/
theorem marked_deleteOne (hs : s.Ok) (k : Key) : Marked loadTest k (deleteOne loadTest s k) := by
  intro tr' htr' hin'
  unfold Spoke.deleteOne at htr'
  split at htr'
  · rename_i hfind
    rw [hfind] at htr'
    cases htr'
  · rename_i tr hfind
    split at htr'
    · have hkey : tr.key = k := hs.key hfind
      rcases Store.find_store htr' with ⟨_, rfl, hkeep⟩ | ⟨hne, _⟩
      · rcases Bool.eq_false_or_eq_true tr.finalizer with hfin | hfin
        · exact ⟨rfl, hfin⟩
        · exact absurd ⟨rfl, hfin⟩ hkeep
      · exact absurd hkey.symm hne
    · rename_i hin
      rw [hfind] at htr'
      cases htr'
      exact absurd hin' hin

theorem Marked.deleteOne (hs : s.Ok) (h : Marked loadTest k s) :
    Marked loadTest k (deleteOne loadTest s key) := by
  by_cases hk : k = key
  · exact hk ▸ marked_deleteOne hs k
  · intro tr htr
    rw [find_deleteOne_of_ne hs hk] at htr
    exact h tr htr

/-- What is under a name is what was there, apart from its mark and its version. -/
def Left (loadTest : Key) (k : Key) (old : TrafficReplay) (s : Store Key TrafficReplay) : Prop :=
  ∀ tr, s.find k = some tr → tr.finalizer = old.finalizer ∧
    tr.inLoadTest loadTest = old.inLoadTest loadTest

theorem Left.deleteOne (hs : s.Ok) {old : TrafficReplay} (h : Left loadTest k old s) :
    Left loadTest k old (deleteOne loadTest s key) := by
  intro tr' htr'
  unfold Spoke.deleteOne at htr'
  split at htr'
  · exact h tr' htr'
  · rename_i tr hfind
    split at htr'
    · rcases Store.find_store htr' with ⟨hk, rfl, _⟩ | ⟨_, htr⟩
      · have hkey : tr.key = key := hs.key hfind
        have hk : k = key := hk.trans hkey
        exact h tr (hk ▸ hfind)
      · exact h tr' htr
    · exact h tr' htr'

/-- What each step keeps, the loop keeps. -/
theorem deleteAll_induct {P : Store Key TrafficReplay → Prop}
    (hstep : ∀ s key, s.Ok → P s → P (deleteOne loadTest s key)) (keys : List Key) (hs : s.Ok)
    (h : P s) : P (deleteAll loadTest keys s) := by
  induction keys generalizing s with
  | nil => exact h
  | cons key rest ih => exact ih (ok_deleteOne hs key) (hstep s key hs h)

theorem marked_deleteAll (hs : s.Ok) {keys : List Key} (hk : k ∈ keys) :
    Marked loadTest k (deleteAll loadTest keys s) := by
  induction keys generalizing s with
  | nil => cases hk
  | cons key rest ih =>
      rcases List.mem_cons.mp hk with rfl | hrest
      · exact deleteAll_induct (P := Marked loadTest k) (fun _ _ hs h => h.deleteOne hs) rest
          (ok_deleteOne hs k) (marked_deleteOne hs k)
      · exact ih (ok_deleteOne hs key) hrest

theorem handleStop_ok {d : ReplayDirective} {a : Answers} (hok : (handleStop d a s).1 = none) :
    named d = true ∧ a.deleteAllOf = none ∧
      (handleStop d a s).2 = deleteAll d.loadTest s.objects.keys s := by
  unfold handleStop at hok ⊢
  split
  · rename_i hnamed
    rw [if_pos hnamed] at hok
    split at hok
    · rename_i hdel
      rw [hdel]
      exact ⟨hnamed, rfl, rfl⟩
    · cases hok
  · rename_i hnamed
    rw [if_neg hnamed] at hok
    cases hok

theorem find_deleteAll (hs : s.Ok) {keys : List Key}
    (h : (deleteAll loadTest keys s).find k = some tr) :
    ∃ old, s.find k = some old ∧ tr.finalizer = old.finalizer ∧
      tr.inLoadTest loadTest = old.inLoadTest loadTest := by
  cases hfind : s.find k with
  | none =>
      have hnone : (deleteAll loadTest keys s).find k = none :=
        deleteAll_induct (P := fun s => s.find k = none)
          (fun _ _ hs h => find_deleteOne_none hs h) keys hs hfind
      rw [hnone] at h
      cases h
  | some old =>
      have hleft : Left loadTest k old s := by
        intro tr htr
        rw [hfind] at htr
        cases htr
        exact ⟨rfl, rfl⟩
      exact ⟨old, rfl, deleteAll_induct (P := Left loadTest k old) (fun _ _ hs h => h.deleteOne hs)
        keys hs hleft tr h⟩

theorem find_deleteAll_other (hs : s.Ok) (keys : List Key) (hfind : s.find k = some tr)
    (hother : tr.inLoadTest loadTest = false) : (deleteAll loadTest keys s).find k = some tr :=
  deleteAll_induct (P := fun s => s.find k = some tr)
    (fun _ _ hs h => find_deleteOne_other hs h hother) keys hs hfind

theorem mem_keys_of_find (h : s.find k = some tr) : k ∈ s.objects.keys := by
  have hsome : (s.objects.lookup k).isSome := by
    rw [show s.objects.lookup k = some tr from h]
    rfl
  exact AList.lookup_isSome.mp hsome

/-- **What a `STOP` leaves of its load test** has a finalizer, and is being deleted. -/
theorem marked_deleteAll_keys (hs : s.Ok) (k : Key) :
    Marked loadTest k (deleteAll loadTest s.objects.keys s) := by
  intro tr htr
  obtain ⟨old, hold, _⟩ := find_deleteAll hs htr
  exact marked_deleteAll hs (mem_keys_of_find hold) tr htr

end Stop

/-! ## The result -/

section Result

variable {stored : TrafficReplaySpec → TrafficReplaySpec} {d : ReplayDirective} {a : Answers}
  {s : Store Key TrafficReplay}

theorem handle_start (h : d.action = .start) : handle stored d a s = handleStart stored d a s := by
  rw [handle, h]

theorem handle_stop (h : d.action = .stop) : handle stored d a s = handleStop d a s := by
  rw [handle, h]

/-- After a `START` that succeeds there is a replay of the shard's name. -/
theorem start_found (hact : d.action = .start) (hok : (handle stored d a s).1 = none) :
    ∃ h tr, (handle stored d a s).2.find (replayFromDirective d h).key = some tr ∧
      (IsShard stored d h tr ∨
        named d = true ∧ a.get = .ok ∧ s.find (replayFromDirective d h).key = some tr) := by
  rw [handle_start hact] at hok ⊢
  obtain ⟨h, hnamed, hget, ⟨tr, hfind, hs'⟩ | ⟨_, hs'⟩⟩ := handleStart_ok hok
  · rw [hs']
    exact ⟨h, tr, hfind, .inr ⟨hnamed, hget, hfind⟩⟩
  · rw [hs']
    exact ⟨h, _, Store.find_put_self s ((replayFromDirective d h).created stored a.now),
      .inl ⟨rfl, rfl⟩⟩

theorem Undisturbed.applied (hs : s.Ok) (h : Undisturbed stored d a s) :
    Applied stored d s (handle stored d a s) where
  start := by
    intro hok hact
    obtain ⟨hspec, tr, hfind, hshard | ⟨hnamed, hget, hold⟩⟩ := start_found hact hok
    · exact ⟨hspec, tr, hfind, hshard⟩
    · exact ⟨hspec, tr, hfind, h.start hact hnamed hget hspec tr hold⟩
  again := by
    intro hok hact a'
    obtain ⟨hspec, tr, hfind, _⟩ := start_found hact hok
    rw [handle_start hact (a := a')]
    exact handleStart_found hspec hfind
  stop := by
    intro hok hact key tr htr
    rw [handle_stop hact] at hok htr
    obtain ⟨hnamed, hdel, hs'⟩ := handleStop_ok hok
    rw [hs'] at htr
    rcases Bool.eq_false_or_eq_true (tr.inLoadTest d.loadTest) with hin | hin
    · obtain ⟨old, hold, hfin, hsame⟩ := find_deleteAll hs htr
      have hfree := h.stop hact hnamed hdel key old hold (hsame ▸ hin)
      have hmarked := (marked_deleteAll_keys hs key tr htr hin).2
      rw [hfin, hfree] at hmarked
      cases hmarked
    · exact hin
  others := by
    intro hok hact key tr hother
    rw [handle_stop hact] at hok ⊢
    obtain ⟨_, _, hs'⟩ := handleStop_ok hok
    rw [hs']
    refine ⟨fun htr => ?_, fun hfind => find_deleteAll_other hs _ hfind hother⟩
    obtain ⟨old, hold, _, hsame⟩ := find_deleteAll hs htr
    have hkept := find_deleteAll_other hs s.objects.keys hold (hsame.symm.trans hother)
    rw [htr] at hkept
    exact hkept ▸ hold

theorem Applied.undisturbed (hs : s.Ok) (h : Applied stored d s (handle stored d a s)) :
    Undisturbed stored d a s where
  start := by
    intro hact hnamed hget hspec tr hfind
    have hr : handle stored d a s = (none, s) :=
      (handle_start hact).trans (handleStart_get hnamed hget hfind)
    obtain ⟨_, tr', hfind', hshard⟩ := h.start (by rw [hr]) hact
    rw [hr] at hfind'
    obtain rfl : tr' = tr := Option.some.inj (hfind'.symm.trans hfind)
    exact hshard
  stop := by
    intro hact hnamed hdel key tr hfind hin
    have hr : handle stored d a s = (none, deleteAll d.loadTest s.objects.keys s) := by
      rw [handle_stop hact, handleStop, if_pos hnamed, hdel]
    rcases Bool.eq_false_or_eq_true tr.finalizer with hfin | hfin
    · obtain ⟨tr', hfind', hin', _⟩ := deleteAll_induct (P := Held d.loadTest key)
        (fun _ _ hs h => h.deleteOne hs) s.objects.keys hs ⟨tr, hfind, hin, hfin⟩
      have hgone := h.stop (by rw [hr]) hact key tr' (by rw [hr]; exact hfind')
      rw [hin'] at hgone
      cases hgone
    · exact hfin

/-- **A directive is applied if and only if what it relies on holds.** A `STOP` that
succeeds marks what it does not remove. -/
theorem directive_applied_iff (hs : s.Ok) :
    (Applied stored d s (handle stored d a s) ↔ Undisturbed stored d a s) ∧
      (d.action = .stop → (handle stored d a s).1 = none → ∀ key tr,
        (handle stored d a s).2.find key = some tr → tr.inLoadTest d.loadTest = true →
          tr.deleting = true) := by
  refine ⟨⟨fun h => h.undisturbed hs, fun h => h.applied hs⟩, ?_⟩
  intro hact hok key tr htr hin
  rw [handle_stop hact] at hok htr
  rw [(handleStop_ok hok).2.2] at htr
  exact (marked_deleteAll_keys hs key tr htr hin).1

end Result

/-- The directives for the one shard of a load test. -/
def nightly : CaptureLoadTest := ⟨smallKey, 1, 0, false, true, smallTest, .empty⟩

def nightlyStart : ReplayDirective := buildStartDirective nightly 0

def nightlyStop : ReplayDirective := stopDirective nightly

/-- All calls succeed. -/
def allWell : Answers := ⟨.ok, .ok, none, 0⟩

/-- The replay of the shard, with its finalizer or without. -/
def nightlyReplay (finalizer : Bool) : TrafficReplay :=
  { replayFromDirective nightlyStart rfl with finalizer := finalizer }

/-- A replay of a user that has the name of the shard. -/
def usersReplay : TrafficReplay :=
  { nightlyReplay true with
    loadTestLabel := none
    shardIndexLabel := none
    spec := { (nightlyReplay true).spec with loadTestRef := none, shard := none } }

theorem directive_applied_nightly :
    Applied id nightlyStart .empty (handle id nightlyStart allWell .empty) ∧
      Applied id nightlyStop (Store.empty.put (nightlyReplay false))
        (handle id nightlyStop allWell (Store.empty.put (nightlyReplay false))) := by
  refine ⟨(directive_applied_iff Store.ok_empty).1.mpr ⟨?_, ?_⟩,
    (directive_applied_iff (Store.ok_empty.put _)).1.mpr ⟨?_, ?_⟩⟩
  · intro _ _ _ _ _ hfind
    cases hfind
  · intro hact
    cases hact
  · intro hact
    cases hact
  · intro _ _ _ key tr hfind _
    rcases Store.find_put hfind with ⟨_, rfl⟩ | ⟨_, hfind⟩
    · rfl
    · cases hfind

/-- A `START` takes a user's replay for its shard, and a `STOP` leaves a replay that its
controller has seen. -/
theorem directive_not_applied :
    (∃ s : Store Key TrafficReplay, s.Ok ∧ (handle id nightlyStart allWell s).1 = none ∧
      ∀ h tr, (handle id nightlyStart allWell s).2.find (replayFromDirective nightlyStart h).key
        = some tr → tr.loadTestLabel = none ∧ tr.spec ≠ (replayFromDirective nightlyStart h).spec) ∧
    (∃ s : Store Key TrafficReplay, s.Ok ∧ (handle id nightlyStop allWell s).1 = none ∧
      ∃ key tr, (handle id nightlyStop allWell s).2.find key = some tr ∧
        tr.inLoadTest nightlyStop.loadTest = true) := by
  refine ⟨⟨Store.empty.put usersReplay, Store.ok_empty.put _, by decide +kernel, ?_⟩,
    ⟨Store.empty.put (nightlyReplay true), Store.ok_empty.put _, by decide +kernel,
      (nightlyReplay true).key, _, rfl, by decide +kernel⟩⟩
  intro h tr hfind
  obtain rfl : Store.empty.stamped usersReplay = tr := Option.some.inj hfind
  refine ⟨rfl, fun heq => ?_⟩
  have href := congrArg TrafficReplaySpec.loadTestRef heq
  cases href

end Kapture.Spoke
