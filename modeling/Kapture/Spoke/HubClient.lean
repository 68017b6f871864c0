import Kapture.Hub.Isolation

/-!
# A spoke and its hub

A spoke process registers when it starts, and then runs two loops: one sends a heartbeat now and
then, the other keeps a stream for directives open. **Neither of them registers.** A hub that was
restarted knows no spoke; it answers both with `NotFound`, the loops log that and go on as before,
and so the spoke stays unknown for as long as its process runs.

So the exchanges of the two loops heal nothing. What they need is there already or is never there:
after them the hub knows the spoke and its shards, and can queue directives for it, exactly if the
spoke was registered before.
-/

namespace Kapture.Spoke

open Go Hub

/-- `HubClient`, with the credentials of its connection. -/
structure HubClient where
  peer : Peer
  spokeName : Str
  clusterID : Str
  cell : Str
  /-- Empty before `Register`. -/
  spokeID : Str
deriving DecidableEq, Repr

/-- `Register`: the interval of the heartbeats. -/
def HubClient.register (c : HubClient) (now : Time)
    (s : Server) : Option (Int32 × HubClient × Server) :=
  match s.serve c.peer now (.registerSpoke ⟨c.spokeName, c.clusterID, [], c.cell⟩) with
  | (.ok (.registered resp), s') =>
      if resp.accepted then
        some (resp.heartbeatIntervalSeconds, { c with spokeID := c.spokeName }, s')
      else none
  | _ => none

/-- A process that has registered with some hub and runs its loops, with what it has in its
cluster. -/
structure Process where
  client : HubClient
  captures : List CaptureStatusSummary
  shards : List ReplayStatusSummary
  /-- The shards are distinct resources. -/
  distinct : (shards.map replayKey).Nodup
  started : ∃ c now s interval s', HubClient.register c now s = some (interval, client, s')

/-- What the loops do. -/
inductive HubExchange where
  /-- `sendHeartbeat` -/
  | heartbeat (now : Time)
  /-- A turn of `watchDirectivesLoop`. -/
  | watch (now : Time)
deriving DecidableEq, Repr

def HubExchange.isHeartbeat : HubExchange → Bool
  | .heartbeat _ => true
  | .watch _ => false

namespace Process

variable (p : Process)

/-- One exchange with a hub, and its answer. -/
def exchange (s : Server) : HubExchange → Except StatusError Reply × Server
  | .heartbeat now => s.serve p.client.peer now
      (.heartbeat ⟨p.client.spokeID, Int32.ofNat p.captures.length, p.captures, p.shards⟩)
  | .watch now => s.serve p.client.peer now (.watchDirectives p.client.spokeID)

variable {p} {s : Server}

/-- The credentials with which it has registered are good for its ID. -/
theorem checkCaller_client (p : Process) : checkCaller p.client.peer p.client.spokeID = .ok () := by
  obtain ⟨c, now, s, interval, s', h⟩ := p.started
  unfold HubClient.register at h
  split at h
  · rename_i resp s'' hserve
    split at h
    · obtain ⟨-, heq⟩ := Prod.mk.inj (Option.some.inj h)
      rw [← (Prod.mk.inj heq).1]
      have hreply := congrArg Prod.fst hserve
      simp only [Server.serve, reply, Server.registerSpoke] at hreply
      split at hreply
      · cases hreply
      · rename_i hcheck
        exact hcheck
    · cases h
  · cases h

/-! ## What an exchange does -/

theorem heartbeat_known {e : Nat} (now : Time) (h : s.spokes.lookup p.client.spokeID = some e) :
    (p.exchange s (.heartbeat now)).2 = s.modify e (·.beat now
      ⟨p.client.spokeID, Int32.ofNat p.captures.length, p.captures, p.shards⟩) := by
  simp only [exchange, Server.serve, reply, Server.heartbeat, Server.writeEntry,
    p.checkCaller_client, h]

end Process

/-! ## What a heartbeat says -/

theorem lookup_foldl_of_notMem (l : List ReplayStatusSummary)
    (m : AList fun _ : Str => ReplayStatusSummary) {k : Str} (h : k ∉ l.map replayKey) :
    (l.foldl (fun m rs => m.insert (replayKey rs) rs) m).lookup k = m.lookup k := by
  induction l generalizing m with
  | nil => rfl
  | cons rs l ih =>
      rw [List.map_cons, List.mem_cons, not_or] at h
      rw [List.foldl_cons, ih _ h.2, AList.lookup_insert_ne h.1]

variable {rs : ReplayStatusSummary}

/-- Every shard of a heartbeat is in the entry after it. -/
theorem lookup_foldl_of_mem (l : List ReplayStatusSummary)
    (m : AList fun _ : Str => ReplayStatusSummary) (hnodup : (l.map replayKey).Nodup) (h : rs ∈ l) :
    (l.foldl (fun m rs => m.insert (replayKey rs) rs) m).lookup (replayKey rs) = some rs := by
  induction l generalizing m with
  | nil => cases h
  | cons first l ih =>
      rw [List.map_cons, List.nodup_cons] at hnodup
      rw [List.foldl_cons]
      rcases List.mem_cons.mp h with rfl | h
      · rw [lookup_foldl_of_notMem l _ hnodup.1, AList.lookup_insert]
      · exact ih _ hnodup.2 h

namespace Process

variable {p : Process}

/-- The hub knows the spoke, with or without room for a directive, and knows the shards if there was
a heartbeat. -/
structure Told (p : Process) (beaten room : Bool) (s : Server) (entry : SpokeEntry) : Prop where
  found : s.entry p.client.spokeID = some entry
  room : entry.room = room
  shards : beaten = true → ∀ rs ∈ p.shards, entry.replays.lookup (replayKey rs) = some rs

variable {s : Server} {entry : SpokeEntry} {beaten room : Bool}

theorem Told.exchange (h : p.Told beaten room s entry) (x : HubExchange) :
    ∃ entry', p.Told (beaten || x.isHeartbeat) room (p.exchange s x).2 entry' := by
  cases x with
  | watch now =>
      refine ⟨entry, h.found, h.room, fun hb => h.shards ?_⟩
      rwa [HubExchange.isHeartbeat, Bool.or_false] at hb
  | heartbeat now =>
      obtain ⟨e, he, -⟩ := Option.bind_eq_some_iff.mp h.found
      refine ⟨entry.beat now ⟨p.client.spokeID, Int32.ofNat p.captures.length, p.captures,
        p.shards⟩, ?_, h.room, fun _ rs hrs => ?_⟩
      · rw [heartbeat_known now he, Server.entry_modify _ he, h.found]
        rfl
      · exact lookup_foldl_of_mem p.shards _ p.distinct hrs

/-- A directive is queued if there is room. -/
theorem Told.queueDirective (h : p.Told beaten room s entry) (d : WatchDirectivesResponse) :
    (s.queueDirective p.client.spokeID d).1 = .ok () ↔ room = true := by
  obtain ⟨e, he, hget⟩ := Option.bind_eq_some_iff.mp h.found
  have hid : p.client.spokeID ≠ [] := by
    intro hnil
    have hcheck := p.checkCaller_client
    rw [checkCaller, if_pos hnil] at hcheck
    cases hcheck
  have hfind : s.findSpoke p.client.spokeID = .ok e := by
    simp only [Server.findSpoke, if_neg hid, he]
  have hoffer : (s.offer e d).1 = room := by
    rw [Server.offer, hget, Option.any_some, h.room]
    cases room <;> rfl
  unfold Server.queueDirective
  rw [hfind, ← hoffer]
  dsimp only
  split
  · rename_i heq
    rw [heq]
    exact ⟨fun _ => rfl, fun _ => rfl⟩
  · rename_i heq
    rw [heq]
    exact ⟨nofun, nofun⟩

end Process

/-! ## A spoke with one shard -/

def westClient : HubClient := ⟨none, lit "west", lit "cluster", lit "blue", lit "west"⟩

def westShard : ReplayStatusSummary :=
  ⟨⟨lit "shop", lit "nightly"⟩, lit "nightly-shard-0", 0, 1, .running, 0, 0, 0, 0, 0⟩

theorem westClient_started :
    ∃ c now s interval s', HubClient.register c now s = some (interval, westClient, s') :=
  ⟨{ westClient with spokeID := [] }, 0, Server.new, _, _, rfl⟩

def westProcess : Process :=
  ⟨westClient, [], [westShard], List.nodup_singleton _, westClient_started⟩

end Kapture.Spoke
