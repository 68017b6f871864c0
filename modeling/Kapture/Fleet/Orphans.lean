import Kapture.Hub.CaptureHub
import Kapture.Hub.Isolation
import Kapture.Lib.Steps
import Kapture.Spoke.Directives
import Kapture.Spoke.ShardNames

/-!
# Orphan collection

A spoke deletes the shards of load tests that the hub no longer has. It learns from the
answers to its heartbeats which ones there are. The list in an answer was read by a
reconcile of the `CaptureHub`, some time ago: the server keeps it, with the mark that it is
complete, **for as long as no later reconcile gets that far**. A load test that was created
meanwhile is not in it.

What protects its shards is their age. They are younger than the load test, which is
younger than the list; so nothing goes wrong while the list is younger than the age from
which `Collect` deletes. For that to hold, a load test must not find shards of an earlier
one of its name. Creation times are whole seconds, rounded down, so the age of a list
counts from the beginning of its second.

There is one clock. A `Collect` call decides at once what to delete and then deletes one
replay after the other, by name, whatever has come under that name since.
-/

namespace Kapture.Spoke

open Go Storage Hub Objects

/-! ## `Collect` -/

structure OrphanShardGC where
  minAge : Duration
deriving DecidableEq, Repr

/-- Two minutes. -/
def defaultOrphanMinAge : Duration := 120000000000

/-- The age from which a shard is deleted. -/
def OrphanShardGC.age (g : OrphanShardGC) : Duration :=
  if g.minAge ≤ 0 then defaultOrphanMinAge else g.minAge

/-- The load test that a replay refers to. -/
def TrafficReplay.loadTest (tr : TrafficReplay) : Option Key :=
  tr.spec.loadTestRef.map fun name => ⟨tr.key.ns, name⟩

/-- A key of the map in `Collect`. -/
def activeKey (key : Key) : Str := key.ns ++ lit "/" ++ key.name

/-- Whether `Collect` deletes a replay. -/
def OrphanShardGC.deletes (g : OrphanShardGC) (active : List Key) (now : Time)
    (tr : TrafficReplay) : Bool :=
  match tr.loadTest with
  | none => false
  | some key =>
      !(active.map activeKey).contains (activeKey key)
        && !decide (now - tr.creationTimestamp < g.age)

/-- What `Collect` goes on to delete, of the replays it has listed. -/
def OrphanShardGC.orphans (g : OrphanShardGC) (active : List Key) (now : Time)
    (s : Store Key TrafficReplay) :
    List Key :=
  ((s.objects.entries.map fun e => e.2).filter (g.deletes active now)).map (·.key)

/-- `Delete` by name: what is there is marked, and goes if it has no finalizer. -/
def deleteNamed (key : Key) (s : Store Key TrafficReplay) : Store Key TrafficReplay :=
  match s.find key with
  | none => s
  | some tr => s.store { tr with deleting := true }

/-! ## The hub and its spokes -/

/-- A heartbeat response on its way to the spoke. What follows is history: when its list was
read, and which load tests existed when it was produced. -/
structure ListAnswer where
  spokeID : Str
  resp : HeartbeatResponse
  read : Time
  existing : List Key
deriving DecidableEq, Repr

/-- A `Collect` call at work: the replays it has still to delete, and which load tests existed
when its response was produced. -/
structure Collection where
  spokeID : Str
  todo : List Key
  existing : List Key
deriving DecidableEq, Repr

/-- How far a reconcile of the `CaptureHub` has come that has ensured the server. -/
inductive HubPass where
  | ensured
  /-- It has listed the load tests, at a time, or has failed to. -/
  | listed (keys : Option (List Key × Time))
deriving DecidableEq, Repr

structure OrphanState (C P : Type) where
  clock : Time
  /-- The load tests of the hub. -/
  loadTests : List Key
  hub : HubReconciler C P
  pass : Option HubPass
  /-- When the list of the server was read. -/
  read : Time
  answers : List ListAnswer
  /-- Directives that were sent to spokes. -/
  inbox : List (Str × ReplayDirective)
  clusters : AList fun _ : Str => Store Key TrafficReplay
  collections : List Collection
  /-- What the `Collect` calls have deleted, and the load tests that existed when the
  response was produced. -/
  deleted : List (TrafficReplay × List Key)

inductive OrphanAct where
  | tick (d : Nat)
  | create (key : Key)
  /-- A load test goes, with its finalizer. -/
  | remove (key : Key)
  /-- A reconcile of the `CaptureHub` lists the hubs and ensures the server. -/
  | ensure (hubs : Option (List CaptureHub)) (env : HubEnv)
  /-- It lists the load tests. -/
  | list (ok : Bool)
  /-- It publishes what it has listed. -/
  | publish
  | call (peer : Peer) (call : Hub.Call)
  /-- A reconcile of a load test queues a directive. -/
  | queue (spokeID : Str) (d : ReplayDirective)
  /-- A stream sends a directive, or loses it. -/
  | deliver (spokeID : Str) (sent : Bool)
  | handle (i : Nat) (a : Answers)
  /-- The controller of a replay writes its finalizer or its status. -/
  | control (spokeID : Str) (key : Key) (finalizer : Bool) (status : TrafficReplayStatus)
  /-- A spoke gets a response and lists its replays. -/
  | collect (i : Nat) (listed : Bool)
  /-- A `Collect` call deletes its next replay, or fails to. -/
  | delete (i : Nat) (ok : Bool)

/-- The time with whole seconds, as the API server writes it. -/
def wholeSecond (t : Time) : Time := t - t % Rfc3339.second

namespace OrphanState

variable {C P : Type}

def start (hub : HubReconciler C P) : OrphanState C P := ⟨0, [], hub, none, 0, [], [], ∅, [], []⟩

/-- The replays of a spoke. -/
def cluster (s : OrphanState C P) (id : Str) : Store Key TrafficReplay :=
  (s.clusters.lookup id).getD .empty

def setCluster (s : OrphanState C P) (id : Str) (c : Store Key TrafficReplay) : OrphanState C P :=
  { s with clusters := s.clusters.insert id c }

/-- The registry of the server that runs. -/
def setRegistry (s : OrphanState C P) (registry : Server) : OrphanState C P :=
  { s with hub := { s.hub with server := s.hub.server.map ({ · with registry := registry }) } }

/-- `Reconcile` of the `CaptureHub`, up to `updateStatus`. -/
def ensure (crypto : Crypto C P) (s : OrphanState C P) (hubs : Option (List CaptureHub))
    (env : HubEnv) :
    OrphanState C P :=
  match hubs with
  | none => s
  | some items =>
      match authoritativeHub items with
      | none => { s with hub := s.hub.stopServer }
      | some hub =>
          match s.hub.ensureServer crypto env hub with
          | (.error _, r) => { s with hub := r }
          | (.ok (), r) => { s with hub := r, pass := some .ensured }

/-- `updateStatus` up to its list of the load tests. -/
def list (s : OrphanState C P) (ok : Bool) : OrphanState C P :=
  if s.hub.server.isSome then
    { s with pass := some (.listed (if ok then some (s.loadTests, s.clock) else none)) }
  else { s with pass := none }

/-- The call of `SetActiveLoadTests`. -/
def publish (s : OrphanState C P) (listed : Option (List Key × Time)) : OrphanState C P :=
  match s.hub.server with
  | none => { s with pass := none }
  | some srv =>
      match listed with
      | none => { s.setRegistry (srv.registry.setActiveLoadTests [] false) with pass := none }
      | some (keys, t) =>
          { s.setRegistry (srv.registry.setActiveLoadTests keys true) with pass := none, read := t }

/-- The answer to a heartbeat goes back to the spoke. -/
def answer (s : OrphanState C P) (call : Hub.Call) : Except StatusError Reply → List ListAnswer
  | .ok (.beat resp) => [⟨call.actsFor.getD [], resp, s.read, s.loadTests⟩]
  | _ => []

def serve (s : OrphanState C P) (peer : Peer) (call : Hub.Call) : OrphanState C P :=
  match s.hub.server with
  | none => s
  | some srv =>
      { s.setRegistry (srv.registry.serve peer s.clock call).2 with
        answers := s.answers ++ s.answer call (srv.registry.serve peer s.clock call).1 }

def queue (s : OrphanState C P) (spokeID : Str) (d : ReplayDirective) : OrphanState C P :=
  match s.hub.server with
  | none => s
  | some srv => s.setRegistry (srv.registry.queueDirective spokeID ⟨none, some d⟩).2

/-- A stream of a spoke takes the next directive. -/
def deliver (s : OrphanState C P) (spokeID : Str) (sent : Bool) : Option (OrphanState C P) :=
  match s.hub.server with
  | none => none
  | some srv =>
      match (srv.registry.spokes.lookup spokeID).bind srv.registry.takeDirective with
      | none => none
      | some (d, registry) =>
          some { s.setRegistry registry with
            inbox := s.inbox ++ (if sent then d.replayDirective.toList.map (spokeID, ·) else []) }

/-- A `Collect` call begins: it lists the replays and decides. -/
def collect (g : OrphanShardGC) (s : OrphanState C P) (i : Nat) (x : ListAnswer)
    (listed : Bool) : OrphanState C P :=
  { s with
    answers := s.answers.eraseIdx i
    collections := s.collections ++
      if x.resp.activeLoadTestsComplete && listed then
        [⟨x.spokeID, g.orphans x.resp.activeLoadTests s.clock (s.cluster x.spokeID), x.existing⟩]
      else [] }

/-- A `Collect` call deletes one of its replays. -/
def delete (s : OrphanState C P) (i : Nat) (c : Collection) (key : Key) (rest : List Key)
    (ok : Bool) :
    OrphanState C P :=
  let next := { s with collections := s.collections.set i { c with todo := rest } }
  if ok then
    { next.setCluster c.spokeID (deleteNamed key (s.cluster c.spokeID)) with
      deleted := s.deleted ++ ((s.cluster c.spokeID).find key).toList.map (·, c.existing) }
  else next

variable (crypto : Crypto C P) (stored : TrafficReplaySpec → TrafficReplaySpec) (g : OrphanShardGC)

def act : OrphanAct → OrphanState C P → Option (OrphanState C P)
  | .tick d, s => some { s with clock := s.clock + d }
  | .create key, s =>
      if key ∈ s.loadTests then none else some { s with loadTests := s.loadTests ++ [key] }
  | .remove key, s => some { s with loadTests := s.loadTests.erase key }
  | .ensure hubs env, s => if s.pass.isSome then none else some (s.ensure crypto hubs env)
  | .list ok, s => if s.pass = some .ensured then some (s.list ok) else none
  | .publish, s =>
      match s.pass with
      | some (.listed x) => some (s.publish x)
      | _ => none
  | .call peer call, s => some (s.serve peer call)
  | .queue spokeID d, s => if d.loadTest ∈ s.loadTests then some (s.queue spokeID d) else none
  | .deliver spokeID sent, s => s.deliver spokeID sent
  | .handle i a, s => (s.inbox[i]?).map fun x =>
      { s.setCluster x.1
        (Spoke.handle stored x.2 { a with now := wholeSecond s.clock } (s.cluster x.1)).2 with
        inbox := s.inbox.eraseIdx i }
  | .control spokeID key finalizer status, s => ((s.cluster spokeID).find key).map fun tr =>
      s.setCluster spokeID ((s.cluster spokeID).store { tr with
        finalizer := finalizer, status := status })
  | .collect i listed, s => (s.answers[i]?).map fun x => s.collect g i x listed
  | .delete i ok, s =>
      match s.collections[i]? with
      | some c =>
          match c.todo with
          | key :: rest => some (s.delete i c key rest ok)
          | [] => none
      | none => none

/-- **No `Collect` call has deleted a shard of a load test that existed** when the response was
produced that it acted on. -/
def OnlyOrphans (s : OrphanState C P) : Prop :=
  ∀ x ∈ s.deleted, ∀ key ∈ x.1.loadTest, key ∉ x.2

/-- A load test is created when no shards of one of its name are left. A `Collect` call gets a
list in which no load test is missing, or that is younger than the shards it may delete. -/
def ListsFresh : OrphanAct → OrphanState C P → Prop
  | .create key, s => ∀ c ∈ s.clusters.entries, ∀ o ∈ c.2.objects.entries, o.2.loadTest ≠ some key
  | .collect i _, s => ∀ x ∈ s.answers[i]?,
      x.existing ⊆ x.resp.activeLoadTests ∨ s.clock - wholeSecond x.read < g.age
  | _, _ => True

instance (s : OrphanState C P) : Decidable s.OnlyOrphans := inferInstanceAs (Decidable (∀ _ ∈ _, _))

instance : ∀ (a : OrphanAct) (s : OrphanState C P), Decidable (ListsFresh g a s)
  | .create _, _ => inferInstanceAs (Decidable (∀ _ ∈ _, _))
  | .collect _ _, _ => inferInstanceAs (Decidable (∀ _ ∈ _, _))
  | .tick _, _ | .remove _, _ | .ensure _ _, _ | .list _, _ | .publish, _ | .call _ _, _
  | .queue _ _, _
  | .deliver _ _, _ | .handle _ _, _ | .control _ _ _ _, _ | .delete _ _, _ =>
      inferInstanceAs (Decidable True)

end OrphanState

/-! ## What becomes of replays -/

/-- A replay after some writes: its name, its load test and its age are as before. -/
structure TrafficReplay.SameShard (tr old : TrafficReplay) : Prop where
  key : tr.key = old.key
  loadTest : tr.loadTest = old.loadTest
  created : tr.creationTimestamp = old.creationTimestamp

/-- A replay that bears the name of a shard of its load test. -/
def TrafficReplay.Named (tr : TrafficReplay) : Prop :=
  ∀ k ∈ tr.loadTest, ∃ i, tr.key = ⟨k.ns, replayShardName k.name i⟩

/-- The replays after some writes: each was there before, or was created for a directive at
time `t`. -/
structure Grown (t : Time) (c c' : Store Key TrafficReplay) : Prop where
  ok : c.Ok → c'.Ok
  find : ∀ {key tr}, c'.find key = some tr →
    (∃ old, c.find key = some old ∧ tr.SameShard old) ∨ (tr.creationTimestamp = t ∧ tr.Named)

section Grown

variable {t : Time} {c c' c'' : Store Key TrafficReplay} {tr old : TrafficReplay} {key : Key}

theorem Grown.refl (t : Time) (c : Store Key TrafficReplay) : Grown t c c :=
  ⟨fun h => h, fun h => .inl ⟨_, h, rfl, rfl, rfl⟩⟩

theorem Grown.trans (h : Grown t c c') (h' : Grown t c' c'') : Grown t c c'' := by
  refine ⟨fun hok => h'.ok (h.ok hok), fun hfind => ?_⟩
  rcases h'.find hfind with ⟨mid, hmid, hsame⟩ | hborn
  · rcases h.find hmid with ⟨old, hold, hsame'⟩ | ⟨hcreated, hnamed⟩
    · exact .inl ⟨old, hold, hsame.key.trans hsame'.key, hsame.loadTest.trans hsame'.loadTest,
        hsame.created.trans hsame'.created⟩
    · refine .inr ⟨hsame.created.trans hcreated, fun k hk => ?_⟩
      rw [hsame.loadTest] at hk
      rw [hsame.key]
      exact hnamed k hk
  · exact .inr hborn

/-- A write over a replay. -/
theorem grown_store (hfind : c.find key = some old) (hkey : old.key = key) (h : tr.SameShard old) :
    Grown t c (c.store tr) := by
  refine ⟨fun hok => hok.store tr, fun {k y} hy => ?_⟩
  rcases Store.find_store hy with ⟨hk, rfl, -⟩ | ⟨-, hy⟩
  · have hk : k = key := hk.trans (h.key.trans hkey)
    exact .inl ⟨old, hk ▸ hfind, h.key, h.loadTest, h.created⟩
  · exact .inl ⟨y, hy, rfl, rfl, rfl⟩

theorem grown_put (hcreated : tr.creationTimestamp = t) (hnamed : tr.Named) :
    Grown t c (c.put tr) := by
  refine ⟨fun hok => hok.put tr, fun {k y} hy => ?_⟩
  rcases Store.find_put hy with ⟨-, rfl⟩ | ⟨-, hy⟩
  · exact .inr ⟨hcreated, hnamed⟩
  · exact .inl ⟨y, hy, rfl, rfl, rfl⟩

theorem grown_deleteNamed (hok : c.Ok) (key : Key) : Grown t c (deleteNamed key c) := by
  unfold deleteNamed
  split
  · exact .refl t c
  · rename_i tr hfind
    exact grown_store hfind (hok.key hfind) ⟨rfl, rfl, rfl⟩

theorem grown_deleteAll (hok : c.Ok) (loadTest : Key) (keys : List Key) :
    Grown t c (deleteAll loadTest keys c) := by
  refine deleteAll_induct (P := Grown t c) (fun c' key hok' h => h.trans ?_) keys hok (.refl t c)
  unfold deleteOne
  split
  · exact .refl t c'
  · rename_i tr hfind
    split
    · exact grown_store hfind (hok'.key hfind) ⟨rfl, rfl, rfl⟩
    · exact .refl t c'

variable {stored : TrafficReplaySpec → TrafficReplaySpec}

/-- What a `START` creates bears the name of a shard. -/
theorem named_created (hstored : ∀ spec, (stored spec).loadTestRef = spec.loadTestRef)
    (d : ReplayDirective) (h : d.spec.isSome) (t : Time) :
    ((replayFromDirective d h).created stored t).Named := by
  intro k hk
  unfold TrafficReplay.loadTest TrafficReplay.created at hk
  rw [hstored] at hk
  cases hk
  exact ⟨_, rfl⟩

theorem grown_startShard {a : Answers} (hcreated : a.now = t)
    (hnamed : (tr.created stored t).Named) : Grown t c (startShard stored tr a c).2 := by
  have hput : Grown t c (c.put (tr.created stored a.now)) := by
    rw [hcreated]
    exact grown_put rfl hnamed
  unfold startShard createReplay
  split
  · split
    · exact hput
    · exact .refl t c
    · exact hput
  · exact .refl t c
  · exact .refl t c

theorem grown_handle (hstored : ∀ spec, (stored spec).loadTestRef = spec.loadTestRef) (hok : c.Ok)
    (d : ReplayDirective) {a : Answers} (hcreated : a.now = t) :
    Grown t c (handle stored d a c).2 := by
  unfold handle
  split
  · unfold handleStart
    split
    · rename_i hspec
      split
      · exact grown_startShard hcreated (named_created hstored d hspec t)
      · exact .refl t c
    · exact .refl t c
  · unfold handleStop
    split
    · split
      · exact grown_deleteAll hok _ _
      · exact grown_deleteAll hok _ _
    · exact .refl t c
  · exact .refl t c

end Grown

/-! ## The list of the server -/

/-- The list that the heartbeats of a server are answered with, if it is complete. -/
def publishedBy (r : Server) : Option (List Key) :=
  if r.activeLoadTestsComplete then some r.activeLoadTests else none

section Published

variable {C P : Type} {resp : HeartbeatResponse}

def published (hub : HubReconciler C P) : Option (List Key) :=
  hub.server.bind fun srv => publishedBy srv.registry

theorem publishedBy_writeEntry {ρ : Type} (r : Server) (peer : Peer) (id : Str)
    (check : Except StatusError Unit) (f : SpokeEntry → SpokeEntry) (resp : ρ) :
    publishedBy (r.writeEntry peer id check f resp).2 = publishedBy r := by
  unfold Server.writeEntry
  repeat' split
  all_goals rfl

theorem publishedBy_retire (r : Server) (id : Str) : publishedBy (r.retire id) = publishedBy r := by
  unfold Server.retire
  split <;> rfl

/-- No call of a spoke changes it. -/
theorem publishedBy_serve (r : Server) (peer : Peer) (now : Time) (call : Hub.Call) :
    publishedBy (r.serve peer now call).2 = publishedBy r := by
  cases call with
  | registerSpoke req =>
      rw [Server.serve, reply, Server.registerSpoke]
      split
      · rfl
      · exact publishedBy_retire r req.spokeID
  | deregisterSpoke id =>
      rw [Server.serve, reply, Server.deregisterSpoke]
      split
      · rfl
      · split
        · rfl
        · exact publishedBy_retire r id
  | heartbeat req => exact publishedBy_writeEntry r peer _ _ _ _
  | reportCaptureStatus id statuses => exact publishedBy_writeEntry r peer _ _ _ _
  | reportReplayStatus id statuses => exact publishedBy_writeEntry r peer _ _ _ _
  | _ => rfl

theorem publishedBy_offer (r : Server) (e : Nat) (d : WatchDirectivesResponse) :
    publishedBy (r.offer e d).2 = publishedBy r := by
  unfold Server.offer
  split <;> rfl

theorem publishedBy_queueDirective (r : Server) (id : Str) (d : WatchDirectivesResponse) :
    publishedBy (r.queueDirective id d).2 = publishedBy r := by
  unfold Server.queueDirective
  split
  · rfl
  · rename_i e _
    have hoffer := publishedBy_offer r e d
    split
    · rename_i heq
      rwa [heq] at hoffer
    · rename_i heq
      rwa [heq] at hoffer

theorem publishedBy_takeDirective {r r' : Server} {e : Nat} {d : WatchDirectivesResponse}
    (h : r.takeDirective e = some (d, r')) : publishedBy r' = publishedBy r := by
  unfold Server.takeDirective at h
  split at h
  · cases h
    rfl
  · cases h

theorem map_ne_beat {α : Type} {f : α → Reply} (hf : ∀ x, f x ≠ .beat resp)
    (x : Except StatusError α) : x.map f ≠ .ok (.beat resp) := by
  intro h
  cases x with
  | error e => cases h
  | ok x => exact hf x (Except.ok.inj h)

/-- A heartbeat is answered with it. -/
theorem beat_published {r : Server} {peer : Peer} {now : Time} {call : Hub.Call}
    (h : (r.serve peer now call).1 = .ok (.beat resp))
    (hcomplete : resp.activeLoadTestsComplete = true) :
    publishedBy r = some resp.activeLoadTests := by
  cases call with
  | heartbeat req =>
      rw [Server.serve, reply, Server.heartbeat, Server.writeEntry] at h
      split at h
      · cases h
      · split at h
        · cases h
        · cases h
          exact if_pos hcomplete
  | registerSpoke req => exact absurd h (map_ne_beat (fun _ h => by cases h) _)
  | deregisterSpoke id => exact absurd h (map_ne_beat (fun _ h => by cases h) _)
  | watchDirectives id => exact absurd h (map_ne_beat (fun _ h => by cases h) _)
  | reportCaptureStatus id l => exact absurd h (map_ne_beat (fun _ h => by cases h) _)
  | reportReplayStatus id l => exact absurd h (map_ne_beat (fun _ h => by cases h) _)
  | getCaptureStatus name ns id => exact absurd h (map_ne_beat (fun _ h => by cases h) _)
  | _ => cases h

/-- **`ensureServer` keeps the list, or starts or leaves a server without one.** -/
theorem published_ensureServer (crypto : Crypto C P) (env : HubEnv) (r : HubReconciler C P)
    (hub : CaptureHub) :
    published (r.ensureServer crypto env hub).2 = published r
      ∨ published (r.ensureServer crypto env hub).2 = none := by
  have hnew : ∀ n, publishedBy (Server.new.setDirectiveBufferSize n) = none := by
    intro n
    unfold Server.setDirectiveBufferSize
    split <;> rfl
  unfold HubReconciler.ensureServer
  split
  · exact .inl rfl
  · split
    · split
      · split <;> exact .inl rfl
      · exact .inl rfl
    · dsimp only
      split
      · split
        · exact .inr rfl
        · exact .inr (hnew _)
      · exact .inr (hnew _)

end Published

/-! ## The invariant -/

namespace OrphanState

variable {C P : Type} {s s' : OrphanState C P} {t : Time} {ks l : List Key}
  {c : Store Key TrafficReplay}

/-- **Shards of load tests `ks` that are not in the list `l` are not older than time `t`**, at
which the list was read. -/
structure Young (s : OrphanState C P) (ks l : List Key) (t : Time) : Prop where
  past : t ≤ s.clock
  shards : ∀ k ∈ ks, k ∉ l → ∀ id key tr, (s.cluster id).find key = some tr → tr.loadTest = some k →
    wholeSecond t ≤ tr.creationTimestamp

/-- Time goes by, and replays come and go. -/
structure Later (s s' : OrphanState C P) : Prop where
  clock : s.clock ≤ s'.clock
  grown : ∀ id, Grown (wholeSecond s.clock) (s.cluster id) (s'.cluster id)

theorem wholeSecond_mono {t t' : Int} (h : t ≤ t') : wholeSecond t ≤ wholeSecond t' := by
  change t - t % 1000000000 ≤ t' - t' % 1000000000
  omega

theorem later_of_clusters (hclock : s.clock ≤ s'.clock) (h : s'.clusters = s.clusters) :
    Later s s' := by
  refine ⟨hclock, fun id => ?_⟩
  rw [cluster, cluster, h]
  exact .refl _ _

theorem cluster_setCluster (s : OrphanState C P) (id id' : Str) (c : Store Key TrafficReplay) :
    (s.setCluster id c).cluster id' = if id' = id then c else s.cluster id' := by
  unfold cluster setCluster
  by_cases h : id' = id
  · rw [if_pos h, h, AList.lookup_insert, Option.getD_some]
  · rw [if_neg h, AList.lookup_insert_ne h]

/-- One cluster changes. -/
theorem later_setCluster {id : Str} (hclock : s'.clock = s.clock)
    (h : s'.clusters = (s.setCluster id c).clusters)
    (hgrown : Grown (wholeSecond s.clock) (s.cluster id) c) : Later s s' := by
  refine ⟨le_of_eq hclock.symm, fun id' => ?_⟩
  have hcluster : s'.cluster id' = if id' = id then c else s.cluster id' := by
    rw [← cluster_setCluster, cluster, cluster, h]
  rw [hcluster]
  split
  · rename_i heq
    rw [heq]
    exact hgrown
  · exact .refl _ _

theorem Young.later (h : s.Young ks l t) (hl : Later s s') : s'.Young ks l t := by
  refine ⟨le_trans h.past hl.clock, fun k hk hnot id key tr hfind href => ?_⟩
  rcases (hl.grown id).find hfind with ⟨old, hold, hsame⟩ | ⟨hcreated, -⟩
  · rw [hsame.created]
    exact h.shards k hk hnot id key old hold (hsame.loadTest.symm.trans href)
  · rw [hcreated]
    exact wholeSecond_mono h.past

theorem Young.subset {ks' : List Key} (h : s.Young ks l t) (hsub : ks' ⊆ ks) : s.Young ks' l t :=
  ⟨h.past, fun k hk => h.shards k (hsub hk)⟩

/-- What is listed now is all there is. -/
theorem young_now (s : OrphanState C P) : s.Young s.loadTests s.loadTests s.clock :=
  ⟨le_refl _, fun _ hk hnot => absurd hk hnot⟩

structure Inv (s : OrphanState C P) : Prop where
  ok : ∀ id, (s.cluster id).Ok
  named : ∀ id key tr, (s.cluster id).find key = some tr → tr.Named
  /-- The list of the server. -/
  server : ∀ l, published s.hub = some l → s.Young s.loadTests l s.read
  /-- The list of a reconcile. -/
  pass : ∀ l t, s.pass = some (.listed (some (l, t))) → s.Young s.loadTests l t
  /-- The lists on their way to spokes. -/
  answers : ∀ x ∈ s.answers, x.resp.activeLoadTestsComplete = true →
    s.Young x.existing x.resp.activeLoadTests x.read
  collections : ∀ c ∈ s.collections, ∀ key ∈ c.todo, ∃ k i, key = ⟨k.ns, replayShardName k.name i⟩
    ∧ k ∉ c.existing
  deleted : s.OnlyOrphans

theorem inv_start {hub : HubReconciler C P} (h : published hub = none) : (start hub).Inv where
  ok _ := Store.ok_empty
  named _ _ _ hfind := by cases hfind
  server l hl := by
    rw [start] at hl
    rw [h] at hl
    cases hl
  pass _ _ hl := by cases hl
  answers _ hx := by cases hx
  collections _ hc := by cases hc
  deleted _ hx := by cases hx

/-- What a step has to show: that its lists are young before it. -/
theorem Inv.step (h : s.Inv) (hl : Later s s')
    (hserver : ∀ l, published s'.hub = some l → s.Young s'.loadTests l s'.read)
    (hpass : ∀ l t, s'.pass = some (.listed (some (l, t))) → s.Young s'.loadTests l t)
    (hanswers : ∀ x ∈ s'.answers, x.resp.activeLoadTestsComplete = true →
      s.Young x.existing x.resp.activeLoadTests x.read)
    (hcollections : ∀ c ∈ s'.collections, ∀ key ∈ c.todo,
      ∃ k i, key = ⟨k.ns, replayShardName k.name i⟩ ∧ k ∉ c.existing)
    (hdeleted : s'.OnlyOrphans) : s'.Inv where
  ok id := (hl.grown id).ok (h.ok id)
  named id key tr hfind := by
    rcases (hl.grown id).find hfind with ⟨old, hold, hsame⟩ | ⟨-, hnamed⟩
    · intro k hk
      rw [hsame.loadTest] at hk
      rw [hsame.key]
      exact h.named id key old hold k hk
    · exact hnamed
  server l hl' := (hserver l hl').later hl
  pass l t hp := (hpass l t hp).later hl
  answers x hx hcomplete := (hanswers x hx hcomplete).later hl
  collections := hcollections
  deleted := hdeleted

/-- Nothing happens to the replays, and no time passes. -/
theorem Later.same (h : s'.clusters = s.clusters) (hclock : s'.clock = s.clock) : Later s s' :=
  later_of_clusters (le_of_eq hclock.symm) h

/-! ## Steps -/

/-- A load test that finds no shards of its name. -/
theorem Inv.create (h : s.Inv) {key : Key}
    (hnew : ∀ c ∈ s.clusters.entries, ∀ o ∈ c.2.objects.entries, o.2.loadTest ≠ some key) :
    { s with loadTests := s.loadTests ++ [key] }.Inv := by
  have hnone : ∀ id k tr, (s.cluster id).find k = some tr → tr.loadTest ≠ some key := by
    intro id k tr hfind
    unfold cluster at hfind
    cases hc : s.clusters.lookup id with
    | none =>
        rw [hc, Option.getD_none] at hfind
        cases hfind
    | some c =>
        rw [hc, Option.getD_some] at hfind
        exact hnew ⟨id, c⟩ (AList.mem_lookup_iff.mp hc) ⟨k, tr⟩ (AList.mem_lookup_iff.mp hfind)
  have hyoung : ∀ {l t}, s.Young s.loadTests l t → s.Young (s.loadTests ++ [key]) l t := by
    intro l t hy
    refine ⟨hy.past, fun k hk hnot id name tr hfind href => ?_⟩
    rcases List.mem_append.mp hk with hk | hk
    · exact hy.shards k hk hnot id name tr hfind href
    · rw [List.mem_singleton.mp hk] at href
      exact absurd href (hnone id name tr hfind)
  exact h.step (.same rfl rfl) (fun l hl => hyoung (h.server l hl))
    (fun l t hl => hyoung (h.pass l t hl)) h.answers
    h.collections h.deleted

theorem Inv.remove (h : s.Inv) (key : Key) : { s with loadTests := s.loadTests.erase key }.Inv :=
  h.step (.same rfl rfl) (fun l hl => (h.server l hl).subset List.erase_subset)
    (fun l t hl => (h.pass l t hl).subset List.erase_subset) h.answers h.collections h.deleted

theorem Inv.ensure (h : s.Inv) (crypto : Crypto C P) (hubs : Option (List CaptureHub))
    (env : HubEnv) : (s.ensure crypto hubs env).Inv := by
  unfold OrphanState.ensure
  split
  · exact h
  · split
    · exact h.step (.same rfl rfl) nofun h.pass h.answers h.collections h.deleted
    · rename_i hub _
      have hserver : ∀ l, published (s.hub.ensureServer crypto env hub).2 = some l →
          published s.hub = some l := by
        intro l hl
        rcases published_ensureServer crypto env s.hub hub with hpub | hpub
        · rw [← hpub, hl]
        · rw [hpub] at hl
          cases hl
      split
      · rename_i r heq
        rw [heq] at hserver
        exact h.step (.same rfl rfl) (fun l hl => h.server l (hserver l hl)) h.pass h.answers
          h.collections h.deleted
      · rename_i r heq
        rw [heq] at hserver
        exact h.step (.same rfl rfl) (fun l hl => h.server l (hserver l hl)) nofun h.answers
          h.collections h.deleted

theorem published_setRegistry {srv : GRPCServer} (hsrv : s.hub.server = some srv) (r : Server) :
    published (s.setRegistry r).hub = publishedBy r := by
  unfold published setRegistry
  rw [hsrv]
  rfl

/-- A step in which the registry changes and its list does not. -/
theorem Inv.registry (h : s.Inv) {srv : GRPCServer} {r : Server} (hsrv : s.hub.server = some srv)
    (hr : publishedBy r = publishedBy srv.registry) : (s.setRegistry r).Inv := by
  refine h.step (.same rfl rfl) (fun l hl => h.server l ?_) h.pass h.answers h.collections h.deleted
  rw [published_setRegistry hsrv, hr] at hl
  rw [published, hsrv]
  exact hl

theorem Inv.list (h : s.Inv) (ok : Bool) : (s.list ok).Inv := by
  unfold OrphanState.list
  split
  · refine h.step (.same rfl rfl) h.server (fun l t hp => ?_) h.answers h.collections h.deleted
    cases ok with
    | false => cases hp
    | true =>
        cases hp
        exact young_now s
  · exact h.step (.same rfl rfl) h.server nofun h.answers h.collections h.deleted

theorem Inv.publish (h : s.Inv) {x : Option (List Key × Time)} (hpass : s.pass = some (.listed x)) :
    (s.publish x).Inv := by
  unfold OrphanState.publish
  split
  · exact h.step (.same rfl rfl) h.server nofun h.answers h.collections h.deleted
  · rename_i srv hsrv
    split
    · refine h.step (.same rfl rfl) (fun l hl => ?_) nofun h.answers h.collections h.deleted
      have hl := (published_setRegistry hsrv _).symm.trans hl
      cases hl
    · rename_i keys t
      refine h.step (.same rfl rfl) (fun l hl => ?_) nofun h.answers h.collections h.deleted
      have hl := (published_setRegistry hsrv _).symm.trans hl
      cases hl
      exact h.pass _ t hpass

/-- **A heartbeat is answered with a list that is young.** -/
theorem Inv.serve (h : s.Inv) (peer : Peer) (call : Hub.Call) : (s.serve peer call).Inv := by
  unfold OrphanState.serve
  split
  · exact h
  · rename_i srv hsrv
    have hsame := publishedBy_serve srv.registry peer s.clock call
    refine h.step (.same rfl rfl) (fun l hl => h.server l ?_) h.pass (fun x hx hcomplete => ?_)
      h.collections h.deleted
    · have hl := (published_setRegistry hsrv _).symm.trans hl
      rw [hsame] at hl
      rw [published, hsrv]
      exact hl
    · rcases List.mem_append.mp hx with hx | hx
      · exact h.answers x hx hcomplete
      · unfold OrphanState.answer at hx
        split at hx
        · rename_i resp hreply
          cases List.mem_singleton.mp hx
          refine h.server _ ?_
          rw [published, hsrv]
          exact beat_published hreply hcomplete
        · cases hx

theorem Inv.queue (h : s.Inv) (spokeID : Str) (d : ReplayDirective) : (s.queue spokeID d).Inv := by
  unfold OrphanState.queue
  split
  · exact h
  · rename_i srv hsrv
    exact h.registry hsrv (publishedBy_queueDirective ..)

theorem Inv.deliver (h : s.Inv) {spokeID : Str} {sent : Bool}
    (hs : s.deliver spokeID sent = some s') : s'.Inv := by
  unfold OrphanState.deliver at hs
  split at hs
  · cases hs
  · rename_i srv hsrv
    split at hs
    · cases hs
    · rename_i d r htake
      cases hs
      obtain ⟨e, -, htake⟩ := Option.bind_eq_some_iff.mp htake
      have hr := h.registry hsrv (publishedBy_takeDirective htake)
      exact hr.step (.same rfl rfl) hr.server hr.pass hr.answers hr.collections hr.deleted

/-- A step in which one cluster changes. -/
theorem Inv.cluster (h : s.Inv) {id : Str} (hgrown : Grown (wholeSecond s.clock) (s.cluster id) c) :
    (s.setCluster id c).Inv :=
  h.step (later_setCluster rfl rfl hgrown) h.server h.pass h.answers h.collections h.deleted

/-- **What `Collect` decides to delete is of no load test that existed.** -/
theorem Inv.not_existing (h : s.Inv) {g : OrphanShardGC} {x : ListAnswer} (hx : x ∈ s.answers)
    (hcomplete : x.resp.activeLoadTestsComplete = true)
    (hok : x.existing ⊆ x.resp.activeLoadTests ∨ s.clock - wholeSecond x.read < g.age)
    {name : Key} {tr : TrafficReplay} (hfind : (s.cluster x.spokeID).find name = some tr)
    {k : Key} (href : tr.loadTest = some k)
    (hdel : g.deletes x.resp.activeLoadTests s.clock tr = true) : k ∉ x.existing := by
  intro hexists
  unfold OrphanShardGC.deletes at hdel
  rw [href] at hdel
  obtain ⟨hnot, hold⟩ := (Bool.and_eq_true _ _).mp hdel
  have hnot : k ∉ x.resp.activeLoadTests := by
    intro hmem
    rw [Bool.not_eq_true', ← Bool.not_eq_true, List.contains_iff_mem] at hnot
    exact hnot (List.mem_map_of_mem hmem)
  rcases hok with hok | hok
  · exact hnot (hok hexists)
  · -- the shard is younger than the list, so it is too young
    have hyoung := (h.answers x hx hcomplete).shards k hexists hnot x.spokeID name tr hfind href
    rw [Bool.not_eq_true', decide_eq_false_iff_not] at hold
    exact hold (lt_of_le_of_lt (sub_le_sub_left hyoung _) hok)

theorem Inv.collect (h : s.Inv) {g : OrphanShardGC} {i : Nat} {x : ListAnswer}
    (hx : s.answers[i]? = some x)
    (hok : x.existing ⊆ x.resp.activeLoadTests ∨ s.clock - wholeSecond x.read < g.age)
    (listed : Bool) : (s.collect g i x listed).Inv := by
  refine h.step (.same rfl rfl) h.server h.pass
    (fun y hy => h.answers y (List.mem_of_mem_eraseIdx hy)) ?_ h.deleted
  intro c hc key hkey
  rcases List.mem_append.mp hc with hc | hc
  · exact h.collections c hc key hkey
  · split at hc
    · rename_i hcomplete
      cases List.mem_singleton.mp hc
      obtain ⟨tr, htr, rfl⟩ := List.mem_map.mp hkey
      obtain ⟨htr, hdel⟩ := List.mem_filter.mp htr
      obtain ⟨⟨name, tr'⟩, hmem, rfl⟩ := List.mem_map.mp htr
      have hfind : (s.cluster x.spokeID).find name = some tr' := AList.mem_lookup_iff.mpr hmem
      cases href : tr'.loadTest with
      | none =>
          unfold OrphanShardGC.deletes at hdel
          rw [href] at hdel
          cases hdel
      | some k =>
          obtain ⟨i, hname⟩ := h.named x.spokeID name tr' hfind k href
          exact ⟨k, i, hname,
            h.not_existing (List.mem_of_getElem? hx) ((Bool.and_eq_true _ _).mp hcomplete).1 hok
            hfind href hdel⟩
    · cases hc

/-- **What is deleted under a name has the load test of what was found there.** -/
theorem Inv.delete (h : s.Inv) {i : Nat} {c : Collection} {key : Key} {rest : List Key}
    (hc : s.collections[i]? = some c) (htodo : c.todo = key :: rest) (ok : Bool) :
    (s.delete i c key rest ok).Inv := by
  have hcmem := List.mem_of_getElem? hc
  have hcollections : ∀ c' ∈ s.collections.set i { c with todo := rest }, ∀ key' ∈ c'.todo,
      ∃ k i, key' = ⟨k.ns, replayShardName k.name i⟩ ∧ k ∉ c'.existing := by
    intro c' hc' key' hkey'
    rcases List.mem_or_eq_of_mem_set hc' with hc' | rfl
    · exact h.collections c' hc' key' hkey'
    · refine h.collections c hcmem key' ?_
      rw [htodo]
      exact List.mem_cons_of_mem _ hkey'
  unfold OrphanState.delete
  split
  · refine h.step (later_setCluster rfl rfl (grown_deleteNamed (h.ok c.spokeID) key)) h.server
      h.pass h.answers
      hcollections fun x hx k hk => ?_
    rcases List.mem_append.mp hx with hx | hx
    · exact h.deleted x hx k hk
    · obtain ⟨tr, htr, rfl⟩ := List.mem_map.mp hx
      have hfind := Option.mem_toList.mp htr
      obtain ⟨k', i', hkey, hnot⟩ := h.collections c hcmem key (htodo ▸ List.mem_cons_self)
      obtain ⟨i'', hname⟩ := h.named c.spokeID key tr hfind k hk
      have hkey' : tr.key = key := (h.ok c.spokeID).key hfind
      rw [hkey', hkey] at hname
      obtain ⟨hns, hname⟩ := Key.mk.inj hname
      have heq : k = k' := by
        rw [show k = ⟨k.ns, k.name⟩ from rfl, ← hns, ← (replayShardName_inj hname).1]
      exact heq ▸ hnot
  · exact h.step (.same rfl rfl) h.server h.pass h.answers hcollections h.deleted

/-! ## The result -/

section Result

variable {crypto : Crypto C P} {stored : TrafficReplaySpec → TrafficReplaySpec} {g : OrphanShardGC}

theorem Inv.act (hstored : ∀ spec, (stored spec).loadTestRef = spec.loadTestRef) (h : s.Inv)
    {a : OrphanAct} (hok : ListsFresh g a s) (hs : OrphanState.act crypto stored g a s = some s') :
    s'.Inv := by
  cases a with
  | tick d =>
      cases hs
      refine h.step (later_of_clusters ?_ rfl) h.server h.pass h.answers h.collections h.deleted
      exact Int.le_add_of_nonneg_right (Int.natCast_nonneg d)
  | create key =>
      rw [OrphanState.act] at hs
      split at hs
      · cases hs
      · cases hs
        exact h.create hok
  | remove key =>
      cases hs
      exact h.remove key
  | ensure hubs env =>
      rw [OrphanState.act] at hs
      split at hs
      · cases hs
      · cases hs
        exact h.ensure crypto hubs env
  | list ok =>
      obtain ⟨-, rfl⟩ := Option.ite_some_none_eq_some.mp hs
      exact h.list ok
  | publish =>
      rw [OrphanState.act] at hs
      split at hs
      · rename_i x hpass
        cases hs
        exact h.publish hpass
      · cases hs
  | call peer call =>
      cases hs
      exact h.serve peer call
  | queue spokeID d =>
      obtain ⟨-, rfl⟩ := Option.ite_some_none_eq_some.mp hs
      exact h.queue spokeID d
  | deliver spokeID sent => exact h.deliver hs
  | handle i a =>
      obtain ⟨x, -, rfl⟩ := Option.map_eq_some_iff.mp hs
      have hgrown :=
        grown_handle (a := { a with now := wholeSecond s.clock }) hstored (h.ok x.1) x.2 rfl
      exact h.step (later_setCluster rfl rfl hgrown) h.server h.pass h.answers h.collections
        h.deleted
  | control spokeID key finalizer status =>
      obtain ⟨tr, htr, rfl⟩ := Option.map_eq_some_iff.mp hs
      exact h.cluster (grown_store htr ((h.ok spokeID).key htr) ⟨rfl, rfl, rfl⟩)
  | collect i listed =>
      obtain ⟨x, hx, rfl⟩ := Option.map_eq_some_iff.mp hs
      exact h.collect hx (hok x hx) listed
  | delete i ok =>
      rw [OrphanState.act] at hs
      split at hs
      · rename_i c hc
        split at hs
        · rename_i key rest htodo
          cases hs
          exact h.delete hc htodo ok
        · cases hs
      · cases hs

/-- **In every run in which load tests find no shards of earlier ones, and the lists that reach
the spokes are fresh, `Collect` deletes no shard of a load test that existed.** The API server
keeps the load test of a replay. -/
theorem collects_only_orphans (hstored : ∀ spec, (stored spec).loadTestRef = spec.loadTestRef)
    {hub : HubReconciler C P} (hhub : hub.server = none)
    (h : Steps.Reach (act crypto stored g) (ListsFresh g) (start hub) s) : s.OnlyOrphans := by
  have hstart : (start hub).Inv := inv_start (by rw [published, hhub, Option.bind_none])
  exact (h.holds hstart fun _ _ _ hok hact hs => hs.act hstored hok hact).deleted

end Result

/-! ### A load test that is too new for the list -/

def stoppedHub : HubReconciler Unit Unit := ⟨0, none, [], false, [], none⟩

/-- A hub that asks for TLS, and a cluster that has its secret or not. -/
def tlsHub : CaptureHub := ⟨lit "main", 7, lit ":9443", some ⟨lit "hub-tls", none⟩, false⟩

def secretEnv : HubEnv :=
  ⟨fun _ _ => .ok (some [(tlsCertKey, lit "cert"), (tlsKeyKey, lit "key")]), []⟩

def noSecretEnv : HubEnv := ⟨fun _ _ => .error (.new "not found"), []⟩

/-- A reconcile of the hub that succeeds. -/
def publishActs : List OrphanAct := [.ensure (some [tlsHub]) secretEnv, .list true, .publish]

/-- A load test is created and its shard started. -/
def shardActs : List OrphanAct :=
  [.create smallKey, .queue (lit "west") nightlyStart, .deliver (lit "west") true,
    .handle 0 allWell]

/-- A heartbeat after three minutes, and the `Collect` call that follows. -/
def collectActs : List OrphanAct :=
  [.call none (.heartbeat ⟨lit "west", 0, [], []⟩), .collect 0 true, .delete 0 true]

def westActs : List OrphanAct :=
  publishActs ++ [.call none (.registerSpoke ⟨lit "west", lit "cluster", [], lit "blue"⟩)]

/-- The load test goes without a `STOP`, and its shard is an orphan. -/
theorem collects_orphan :
    ∃ s, Steps.Reach (act HubReconciler.laxCrypto id ⟨0⟩) (ListsFresh ⟨0⟩) (start stoppedHub) s
    ∧ s.deleted.length = 1 ∧ s.OnlyOrphans := by
  obtain ⟨s, hs, hlen⟩ :=
    Steps.exists_run (act HubReconciler.laxCrypto id ⟨0⟩) (ListsFresh ⟨0⟩) (start stoppedHub)
      (westActs ++ shardActs ++ [.remove smallKey, .tick 180000000000] ++ publishActs
        ++ collectActs)
      (fun s => s.deleted.length = 1) (by decide +kernel)
  exact ⟨s, hs, hlen, collects_only_orphans (fun _ => rfl) rfl hs⟩

/-- **The secret of the hub is gone, so that its reconciles fail, and the load test of the shard
is not in the list.** -/
theorem collects_live_shard :
    ∃ s, Steps.Reach (act HubReconciler.laxCrypto id ⟨0⟩) (fun _ _ => True) (start stoppedHub) s
    ∧ ¬ s.OnlyOrphans := by
  exact Steps.exists_run (act HubReconciler.laxCrypto id ⟨0⟩) (fun _ _ => True) (start stoppedHub)
    (westActs ++ shardActs ++ [.tick 180000000000, .ensure (some [tlsHub]) noSecretEnv]
      ++ collectActs)
    (fun s => ¬ s.OnlyOrphans) (by decide +kernel)

end OrphanState

end Kapture.Spoke
