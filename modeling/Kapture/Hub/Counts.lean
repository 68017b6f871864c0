import Mathlib.Data.List.Dedup
import Kapture.Hub.Isolation
import Kapture.Lib.Steps
import Kapture.Lib.Tally

/-!
# Two views of what is active

For the status of a `CaptureHub` the server counts active captures and replays in three ways:
per spoke, per cell, and in total. Replays are counted from the map of the entry each time. So
are the captures of a cell and the total, but for a spoke the server shows a number that it
keeps beside the map. `ReportCaptureStatus` sets it to the size of the map; `Heartbeat` sets it
to what the spoke says, and puts the summaries it brings into the map.

So the views agree in every run in which **a heartbeat says as many captures as the spoke has
reported since it registered**, those it brings included (`views_agree`). The map never forgets a
capture, so a spoke with a capture that was deleted says less.
-/

namespace Kapture.Hub

open Go Storage

structure SpokeStatusSnapshot where
  name : Str
  cell : Str
  lastHeartbeat : Time
  activeCaptures : Int32
  activeReplays : Int32
deriving DecidableEq, Repr

/-- The number of captures in the map of an entry. -/
def SpokeEntry.captureCount (entry : SpokeEntry) : Int32 :=
  Int32.ofNat entry.captures.entries.length

/-- The captures that are in the map or in some of the summaries, each once. -/
def SpokeEntry.reported (entry : SpokeEntry) (summaries : List CaptureStatusSummary) : List Str :=
  (entry.captures.keys ++ summaries.map fun cs =>
    captureKey cs.captureNamespace cs.captureName).dedup

theorem mem_keys_insertAll {ν : Type} (key : ν → Str) {k : Str} (xs : List ν)
    (m : AList fun _ : Str => ν) :
    k ∈ (xs.foldl (fun m x => m.insert (key x) x) m).keys ↔ k ∈ m.keys ++ xs.map key := by
  induction xs generalizing m with
  | nil => rw [List.foldl_nil, List.map_nil, List.append_nil]
  | cons x xs ih =>
      rw [List.foldl_cons, ih, List.mem_append, ← AList.mem_keys, AList.mem_insert, AList.mem_keys,
        List.map_cons, List.mem_append, List.mem_cons]
      tauto

/-- **After the summaries the map has each capture that was reported, once.** -/
theorem SpokeEntry.captureCount_putCaptures (entry : SpokeEntry)
    (summaries : List CaptureStatusSummary) :
    (entry.putCaptures summaries).captureCount = Int32.ofNat (entry.reported summaries).length := by
  have hperm : (entry.putCaptures summaries).captures.keys.Perm (entry.reported summaries) := by
    refine (List.perm_ext_iff_of_nodup (AList.keys_nodup _) (List.nodup_dedup _)).mpr fun k => ?_
    rw [List.mem_dedup]
    exact mem_keys_insertAll _ summaries entry.captures
  rw [captureCount, ← hperm.length_eq, AList.keys, List.keys, List.length_map]

namespace Server

def activeCaptureCount (s : Server) : Int32 := (s.registered.map fun x => x.2.captureCount).sum

/-- `ActiveReplayCount`. -/
def replayCount (s : Server) : Int32 :=
  (s.registered.map fun x => activeReplayCount x.2.replays).sum

def spokeStatuses (s : Server) : List SpokeStatusSnapshot :=
  s.registered.map fun x => ⟨x.2.info.clusterName, x.2.info.cell, x.2.lastHeartbeat,
    x.2.info.activeCaptures, activeReplayCount x.2.replays⟩

/-- `CellStatuses`, the loop of `ListCells`. -/
def cellStatuses (s : Server) (now : Time) : List CellInfo := s.listCells now

/-- **The views agree**: the spokes of each cell add up to the cell, and the cells to the total. -/
structure ViewsAgree (s : Server) (now : Time) : Prop where
  captures : ∀ c ∈ s.cellStatuses now,
    ((s.spokeStatuses.filter (·.cell = c.name)).map (·.activeCaptures)).sum = c.activeCaptures
  totalCaptures : ((s.cellStatuses now).map (·.activeCaptures)).sum = s.activeCaptureCount
  replays : ∀ c ∈ s.cellStatuses now,
    ((s.spokeStatuses.filter (·.cell = c.name)).map (·.activeReplays)).sum = c.activeReplays
  totalReplays : ((s.cellStatuses now).map (·.activeReplays)).sum = s.replayCount

/-! ## Sums by cell -/

/-- The names of the cells. -/
def cellNames (s : Server) : List Str := Str.sort (s.registered.map (·.2.info.cell)).dedup

theorem nodup_cellNames (s : Server) : s.cellNames.Nodup :=
  (List.perm_insertionSort _ _).nodup_iff.mpr (List.nodup_dedup _)

variable {s : Server}

theorem mem_cellNames {x : Str × SpokeEntry} (h : x ∈ s.registered) : x.2.info.cell ∈ s.cellNames :=
  Str.mem_sort.mpr (List.mem_dedup.mpr (List.mem_map_of_mem h))

/-! ## The number beside the map -/

/-- For every spoke the number is the size of the map. -/
def Tallied (s : Server) : Prop :=
  ∀ id entry, s.entry id = some entry → entry.info.activeCaptures = entry.captureCount

theorem entry_of_mem_registered {x : Str × SpokeEntry} (h : x ∈ s.registered) :
    s.entry x.1 = some x.2 := by
  obtain ⟨id, -, hid⟩ := List.mem_filterMap.mp h
  obtain ⟨entry, hentry, rfl⟩ := Option.map_eq_some_iff.mp hid
  exact hentry

/-- **With the right numbers the views agree.** -/
theorem Tallied.viewsAgree (h : s.Tallied) (now : Time) : s.ViewsAgree now := by
  have hcells : s.cellStatuses now = s.cellNames.map fun cell =>
      ⟨cell, Int32.ofNat
        (((s.registered.map (·.2)).filter (·.info.cell = cell)).countP (connected · now)),
        Int32.ofNat ((s.registered.map (·.2)).filter (·.info.cell = cell)).length,
        (((s.registered.map (·.2)).filter (·.info.cell = cell)).map (·.captureCount)).sum,
        (((s.registered.map (·.2)).filter (·.info.cell = cell)).map fun e =>
          activeReplayCount e.replays).sum⟩ := rfl
  have hmem : ∀ e ∈ s.registered.map (·.2), e.info.cell ∈ s.cellNames := by
    intro e he
    obtain ⟨x, hx, rfl⟩ := List.mem_map.mp he
    exact mem_cellNames hx
  have hspokes : ∀ cell, s.spokeStatuses.filter (·.cell = cell)
      = ((s.registered.map (·.2)).filter (·.info.cell = cell)).map fun e =>
          ⟨e.info.clusterName, e.info.cell, e.lastHeartbeat, e.info.activeCaptures,
            activeReplayCount e.replays⟩ := by
    intro cell
    rw [spokeStatuses, List.filter_map, List.filter_map, List.map_map]
    rfl
  have htotal : ∀ g : SpokeEntry → Int32,
      (s.cellNames.map fun cell =>
        (((s.registered.map (·.2)).filter (·.info.cell = cell)).map g).sum).sum
        = (s.registered.map fun x => g x.2).sum := by
    intro g
    rw [Tally.sum_groups (·.info.cell) g s.nodup_cellNames _ hmem, List.map_map]
    rfl
  refine ⟨fun c hc => ?_, ?_, fun c hc => ?_, ?_⟩
  · rw [hcells] at hc
    obtain ⟨cell, -, rfl⟩ := List.mem_map.mp hc
    rw [hspokes, List.map_map]
    refine congrArg List.sum (List.map_congr_left fun e he => ?_)
    obtain ⟨x, hx, rfl⟩ := List.mem_map.mp (List.mem_of_mem_filter he)
    exact h x.1 x.2 (entry_of_mem_registered hx)
  · rw [hcells, List.map_map]
    exact htotal (·.captureCount)
  · rw [hcells] at hc
    obtain ⟨cell, -, rfl⟩ := List.mem_map.mp hc
    rw [hspokes, List.map_map]
    rfl
  · rw [hcells, List.map_map]
    exact htotal fun e => activeReplayCount e.replays

/-- A heartbeat that is taken says as many captures as are in the map of its spoke or in its own
summaries, each counted once. -/
def Counted (peer : Peer) (s : Server) : Call → Prop
  | .heartbeat req =>
      checkCaller peer req.spokeID = .ok () → ∀ entry, s.entry req.spokeID = some entry →
      req.activeCaptures = Int32.ofNat (entry.reported req.captureSummaries).length
  | _ => True

theorem entry_enter (s : Server) (id : Str) (entry : SpokeEntry) :
    (s.enter id entry).entry id = some entry := by
  have hl : (s.enter id entry).spokes.lookup id = some s.entries.length := AList.lookup_insert _
  rw [entry_eq hl]
  exact List.getElem?_concat_length

theorem tallied_writeEntry {ρ : Type} (h : s.Tallied) (peer : Peer) (id : Str)
    (check : Except StatusError Unit) {f : SpokeEntry → SpokeEntry} (resp : ρ)
    (hf : checkCaller peer id = .ok () → ∀ entry, s.entry id = some entry →
      (f entry).info.activeCaptures = (f entry).captureCount) :
    (s.writeEntry peer id check f resp).2.Tallied := by
  unfold writeEntry
  split
  · exact h
  · rename_i hcaller
    split
    · exact h
    · split
      · exact h
      · rename_i e he
        intro id' entry' hentry'
        by_cases hid : id' = id
        · rw [hid, entry_modify f he] at hentry'
          obtain ⟨entry, hentry, rfl⟩ := Option.map_eq_some_iff.mp hentry'
          exact hf hcaller entry hentry
        · rw [(same_modify_of_ne s f he hid).entry] at hentry'
          exact h id' entry' hentry'

/-- **A call keeps the numbers right**, if a heartbeat says the right one. -/
theorem Tallied.serve (h : s.Tallied) (peer : Peer) (now : Time) {call : Call}
    (hcall : s.Counted peer call) : (s.serve peer now call).2.Tallied := by
  cases call with
  | registerSpoke req =>
      rw [Server.serve, reply, registerSpoke]
      split
      · exact h
      · intro id entry hentry
        by_cases hid : id = req.spokeID
        · dsimp only at hentry
          rw [hid, entry_enter] at hentry
          cases hentry
          rfl
        · rw [((same_retire s hid).trans (same_enter _ _ hid)).entry] at hentry
          exact h id entry hentry
  | heartbeat req =>
      rw [Server.serve, reply, heartbeat]
      refine tallied_writeEntry h peer _ _ _ fun hcaller entry hentry => ?_
      exact (hcall hcaller entry hentry).trans (entry.captureCount_putCaptures _).symm
  | deregisterSpoke spokeID =>
      rw [Server.serve, reply, deregisterSpoke]
      split
      · exact h
      · split
        · exact h
        · intro id entry hentry
          by_cases hid : id = spokeID
          · have hl : ((s.retire spokeID).drop spokeID).spokes.lookup spokeID = none :=
              AList.lookup_erase _ _
            rw [hid, entry_none hl] at hentry
            cases hentry
          · rw [((same_retire s hid).trans (same_drop _ hid)).entry] at hentry
            exact h id entry hentry
  | reportCaptureStatus spokeID statuses =>
      rw [Server.serve, reply, reportCaptureStatus]
      exact tallied_writeEntry h peer _ _ _ fun _ entry _ => rfl
  | reportReplayStatus spokeID statuses =>
      rw [Server.serve, reply, reportReplayStatus]
      exact tallied_writeEntry h peer _ _ _ fun _ entry hentry => h spokeID entry hentry
  | _ => exact h

end Server

/-- A call with its caller and the time. -/
structure Served where
  peer : Peer
  now : Time
  call : Call

def Served.act (c : Served) (s : Server) : Option Server := some (s.serve c.peer c.now c.call).2

/-- **The views agree in every run in which the heartbeats count right**: for every sequence of
calls by whomever, with whatever contents. -/
theorem views_agree {n : Int} {s : Server}
    (h : Steps.Reach Served.act (fun c s => s.Counted c.peer c.call)
      (Server.new.setDirectiveBufferSize n) s)
    (now : Time) : s.ViewsAgree now := by
  refine Server.Tallied.viewsAgree (h.holds ?_ ?_) now
  · intro id entry hentry
    have hl : (Server.new.setDirectiveBufferSize n).spokes.lookup id = none := by
      unfold Server.setDirectiveBufferSize
      split
      · rfl
      · rfl
    rw [Server.entry_none hl] at hentry
    cases hentry
  · intro c s s' hok hact hs
    cases hact
    exact hs.serve c.peer c.now hok

/-! ## One spoke -/

/-- A spoke registers and sends a heartbeat with a number and the summaries of its captures. -/
def oneSpoke (active : Int32) (summaries : List CaptureStatusSummary) : Server :=
  ((Server.new.serve none 0 (.registerSpoke ⟨lit "east", lit "eu-1", [], lit "blue"⟩)).2.serve none
    1 (.heartbeat ⟨lit "east", active, summaries, []⟩)).2

theorem views_agree_one_capture :
    (oneSpoke 1 [⟨lit "cart", lit "shop", .active, 7, 700, 1, 1⟩]).ViewsAgree 2 := by
  have hreg : Steps.Reach Served.act (fun c s => s.Counted c.peer c.call)
      (Server.new.setDirectiveBufferSize 0)
      (Server.new.serve none 0 (.registerSpoke ⟨lit "east", lit "eu-1", [], lit "blue"⟩)).2 :=
    .step (a := ⟨none, 0, .registerSpoke ⟨lit "east", lit "eu-1", [], lit "blue"⟩⟩) .start
      trivial rfl
  refine views_agree (n := 0)
    (.step (a := ⟨none, 1,
      .heartbeat ⟨lit "east", 1, [⟨lit "cart", lit "shop", .active, 7, 700, 1, 1⟩], []⟩⟩) hreg
        (fun _ entry hentry => ?_) rfl) 2
  cases hentry
  decide +kernel

/-- **A heartbeat that says more than it brings** is believed for the spoke and not for its cell. -/
theorem heartbeat_overstates :
    (oneSpoke 5 []).spokeStatuses.map (fun x => (x.cell, x.activeCaptures)) = [(lit "blue", 5)]
      ∧ ((oneSpoke 5 []).cellStatuses 2).map (fun c => (c.name, c.activeCaptures))
        = [(lit "blue", 0)]
      ∧ ¬ (oneSpoke 5 []).ViewsAgree 2 := by
  have hspoke : (oneSpoke 5 []).spokeStatuses.map (fun x => (x.cell, x.activeCaptures))
      = [(lit "blue", 5)] := by
    decide +kernel
  have hcell : ((oneSpoke 5 []).cellStatuses 2).map (fun c => (c.name, c.activeCaptures))
      = [(lit "blue", 0)] := by
    decide +kernel
  refine ⟨hspoke, hcell, fun h => ?_⟩
  have hsum := h.captures
  revert hsum
  decide +kernel

end Kapture.Hub
