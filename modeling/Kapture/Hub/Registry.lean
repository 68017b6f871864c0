import Kapture.Hub.LoadTest

/-!
# The registry

The gRPC server of the hub keeps what it knows about the spokes in memory: a map from
spoke IDs to entries. An entry is shared. A stream that watches for directives and a
call that queues one look their entry up once and go on with it, also when the ID has
been registered again and has another entry by then. So entries are numbered, and the
map leads to numbers. **No entry belongs to two IDs**, which is a field of `Server`.

Go visits a map in no particular order. Here it is the order of the list behind it, and
an answer that lists the entries of a map stands for any permutation of itself.
-/

namespace Kapture.Hub

open Go Storage

/-! ## Messages -/

/-- `hubv1.CapturePhase`. -/
inductive CapturePhase where
  | unspecified
  | pending
  | active
  | completed
  | failed
deriving DecidableEq, Repr

/-- `hubv1.CaptureStatusSummary`. -/
structure CaptureStatusSummary where
  captureName : Str
  captureNamespace : Str
  phase : CapturePhase
  capturedRequests : Int64
  bytesWritten : Int64
  readyReplicas : Int32
  desiredReplicas : Int32
deriving DecidableEq, Repr

/-- `hubv1.DirectiveAction`. -/
inductive DirectiveAction where
  | unspecified
  | start
  | stop
  | update
deriving DecidableEq, Repr

/-- `hubv1.CaptureDirective`, without the spec that nobody reads. -/
structure CaptureDirective where
  directiveId : Str
  action : DirectiveAction
  captureName : Str
  captureNamespace : Str
deriving DecidableEq, Repr

structure WatchDirectivesResponse where
  directive : Option CaptureDirective
  replayDirective : Option ReplayDirective
deriving DecidableEq, Repr

structure RegisterSpokeRequest where
  spokeID : Str
  clusterName : Str
  capabilities : List Str
  cell : Str
deriving DecidableEq, Repr

structure RegisterSpokeResponse where
  accepted : Bool
  message : Str
  heartbeatIntervalSeconds : Int32
deriving DecidableEq, Repr

structure HeartbeatRequest where
  spokeID : Str
  activeCaptures : Int32
  captureSummaries : List CaptureStatusSummary
  replaySummaries : List ReplayStatusSummary
deriving DecidableEq, Repr

structure HeartbeatResponse where
  acknowledged : Bool
  activeLoadTests : List Key
  activeLoadTestsComplete : Bool
deriving DecidableEq, Repr

/-- The status of a failed call, with the data of its message. -/
inductive StatusError where
  | spokeIDRequired
  | statusRequired
  | captureRequired
  | identityMismatch (spokeID : Str) (identities : List Str)
  | notRegistered (spokeID : Str)
  | captureNotFound (capture : Str) (spokeID : Option Str)
  | bufferFull (spokeID : Str)
  | shuttingDown
  | deregistered (spokeID : Str)
  /-- The context of the stream is done. -/
  | canceled
deriving DecidableEq, Repr

/-- `codes.Code`. -/
inductive Code where
  | invalidArgument
  | permissionDenied
  | notFound
  | resourceExhausted
  | unavailable
  | aborted
  | canceled
deriving DecidableEq, Repr

def StatusError.code : StatusError → Code
  | .spokeIDRequired | .statusRequired | .captureRequired => .invalidArgument
  | .identityMismatch .. => .permissionDenied
  | .notRegistered _ | .captureNotFound .. => .notFound
  | .bufferFull _ => .resourceExhausted
  | .shuttingDown => .unavailable
  | .deregistered _ => .aborted
  | .canceled => .canceled

/-! ## Who calls -/

structure Certificate where
  commonName : Str
  dnsNames : List Str
deriving DecidableEq, Repr

/-- What the transport knows about a caller. -/
inductive AuthInfo where
  /-- TLS, with the chains of the client's certificate that were verified. -/
  | tls (verifiedChains : List (List Certificate))
  | other
deriving DecidableEq, Repr

/-- The peer of a call, if its context has one. -/
abbrev Peer := Option (Option AuthInfo)

def peerCertIdentities : Peer → Option (List Str)
  | some (some (.tls ((leaf :: _) :: _))) =>
      some ((if leaf.commonName ≠ [] then [leaf.commonName] else []) ++ leaf.dnsNames)
  | _ => none

def verifySpokeIdentity (peer : Peer) (spokeID : Str) : Except StatusError Unit :=
  match peerCertIdentities peer with
  | none => .ok ()
  | some identities =>
      if spokeID ∈ identities then .ok () else .error (.identityMismatch spokeID identities)

/-- How every call begins that acts for a spoke. -/
def checkCaller (peer : Peer) (spokeID : Str) : Except StatusError Unit :=
  if spokeID = [] then .error .spokeIDRequired else verifySpokeIdentity peer spokeID

/-! ## Entries -/

inductive SpokeState where
  | unspecified
  | connected
  | disconnected
deriving DecidableEq, Repr

structure SpokeInfo where
  spokeID : Str
  clusterName : Str
  activeCaptures : Int32
  lastHeartbeat : Time
  capabilities : List Str
  state : SpokeState
  cell : Str
  activeReplays : Int32
deriving DecidableEq, Repr

structure SpokeEntry where
  info : SpokeInfo
  lastHeartbeat : Time
  captures : AList fun _ : Str => CaptureStatusSummary
  replays : AList fun _ : Str => ReplayStatusSummary
  /-- The buffered directives, oldest first. -/
  directives : List WatchDirectivesResponse
  /-- How many directives the channel takes. -/
  capacity : Nat
  /-- Whether the entry has been retired. -/
  done : Bool

def captureKey (ns name : Str) : Str := ns ++ lit "/" ++ name

def replayKey (rs : ReplayStatusSummary) : Str :=
  rs.loadTest.ns ++ lit "/" ++ rs.loadTest.name ++ lit "/" ++ rs.replayName

/-- Whether a shard is still to be counted as active. -/
def ReplayPhase.ended : ReplayPhase → Bool
  | .completed | .failed => true
  | _ => false

def activeReplayCount (replays : AList fun _ : Str => ReplayStatusSummary) : Int32 :=
  Int32.ofNat (replays.entries.countP fun e => !e.2.phase.ended)

namespace SpokeEntry

/-- The entry of a spoke that registers. -/
def fresh (req : RegisterSpokeRequest) (now : Time) (capacity : Nat) : SpokeEntry where
  info := ⟨req.spokeID, req.clusterName, 0, now, req.capabilities, .connected, req.cell, 0⟩
  lastHeartbeat := now
  captures := ∅
  replays := ∅
  directives := []
  capacity := capacity
  done := false

def putCaptures (entry : SpokeEntry) (statuses : List CaptureStatusSummary) : SpokeEntry :=
  { entry with
    captures := statuses.foldl
      (fun m cs => m.insert (captureKey cs.captureNamespace cs.captureName) cs) entry.captures }

/-- Takes in what a spoke says about its shards. -/
def putReplays (entry : SpokeEntry) (statuses : List ReplayStatusSummary) : SpokeEntry :=
  let replays := statuses.foldl (fun m rs => m.insert (replayKey rs) rs) entry.replays
  { entry with
    replays := replays
    info := { entry.info with activeReplays := activeReplayCount replays } }

/-- What a heartbeat does to an entry. -/
def beat (entry : SpokeEntry) (now : Time) (req : HeartbeatRequest) : SpokeEntry :=
  let seen := { entry with
    lastHeartbeat := now
    info := { entry.info with
      lastHeartbeat := now
      activeCaptures := req.activeCaptures
      state := .connected } }
  (seen.putCaptures req.captureSummaries).putReplays req.replaySummaries

/-- What `ReportCaptureStatus` does to an entry. -/
def reportCaptures (entry : SpokeEntry) (statuses : List CaptureStatusSummary) : SpokeEntry :=
  let entry := entry.putCaptures statuses
  { entry with
    info := { entry.info with activeCaptures := Int32.ofNat entry.captures.entries.length } }

/-- Forgets the shards of a load test. -/
def clearReplays (entry : SpokeEntry) (key : Key) : SpokeEntry :=
  let replays : AList fun _ : Str => ReplayStatusSummary :=
    ⟨entry.replays.entries.filter fun e => e.2.loadTest ≠ key,
      entry.replays.nodupKeys.sublist List.filter_sublist⟩
  { entry with
    replays := replays
    info := { entry.info with activeReplays := activeReplayCount replays } }

def room (entry : SpokeEntry) : Bool := entry.directives.length < entry.capacity

end SpokeEntry

/-! ## The server -/

def defaultHeartbeatInterval : Int32 := 30

/-- `SpokeTimeout`: 90 seconds. -/
def spokeTimeout : Duration := 90000000000

def defaultDirectiveBufferSize : Nat := 32

structure Server where
  spokes : AList fun _ : Str => Nat
  entries : List SpokeEntry
  activeLoadTests : List Key
  activeLoadTestsComplete : Bool
  directiveBufferSize : Nat
  /-- Whether the server has been stopped. -/
  shutdown : Bool
  inRange : ∀ {id e}, spokes.lookup id = some e → e < entries.length
  distinct : ∀ {id id' e}, spokes.lookup id = some e → spokes.lookup id' = some e → id = id'

namespace Server

/-- `NewServer`. -/
def new : Server where
  spokes := ∅
  entries := []
  activeLoadTests := []
  activeLoadTestsComplete := false
  directiveBufferSize := 0
  shutdown := false
  inRange h := by cases h
  distinct h := by cases h

def setDirectiveBufferSize (s : Server) (n : Int) : Server :=
  if 0 < n then { s with directiveBufferSize := n.toNat } else s

/-- `directiveBufferSizeLocked`. -/
def bufferSize (s : Server) : Nat :=
  if 0 < s.directiveBufferSize then s.directiveBufferSize else defaultDirectiveBufferSize

/-- The entry of a spoke ID. -/
def entry (s : Server) (id : Str) : Option SpokeEntry :=
  (s.spokes.lookup id).bind fun e => s.entries[e]?

/-- The registered spokes. -/
def registered (s : Server) : List (Str × SpokeEntry) :=
  s.spokes.keys.filterMap fun id => (s.entry id).map fun entry => (id, entry)

/-- Writes into an entry. -/
def modify (s : Server) (e : Nat) (f : SpokeEntry → SpokeEntry) : Server :=
  { s with
    entries := s.entries.modify e f
    inRange := fun h => by rw [List.length_modify]; exact s.inRange h }

/-- Closes the entry that an ID has, if it has one. -/
def retire (s : Server) (id : Str) : Server :=
  match s.spokes.lookup id with
  | none => s
  | some e => s.modify e ({ · with done := true })

theorem spokes_retire (s : Server) (id : Str) : (s.retire id).spokes = s.spokes := by
  unfold retire
  split <;> rfl

variable {e : Nat} {id id' : Str} {s s' : Server} {d : WatchDirectivesResponse}
  {m : AList fun _ : Str => Nat}

/-- The ID of a new entry, or one that has an entry already. -/
theorem lookup_insert_cases {n : Nat} {k : Str} (h : (m.insert id n).lookup k = some e) :
    (k = id ∧ e = n) ∨ (k ≠ id ∧ m.lookup k = some e) := by
  by_cases hk : k = id
  · subst hk
    rw [AList.lookup_insert] at h
    exact .inl ⟨rfl, (Option.some.inj h).symm⟩
  · rw [AList.lookup_insert_ne hk] at h
    exact .inr ⟨hk, h⟩

/-- Gives an ID a new entry. -/
def enter (s : Server) (id : Str) (entry : SpokeEntry) : Server :=
  { s with
    spokes := s.spokes.insert id s.entries.length
    entries := s.entries ++ [entry]
    inRange := fun h => by
      rw [List.length_append, List.length_singleton]
      rcases lookup_insert_cases h with ⟨-, rfl⟩ | ⟨-, h⟩
      · exact Nat.lt_succ_self _
      · exact Nat.lt_succ_of_lt (s.inRange h)
    distinct := fun h h' => by
      -- the new number is beyond those of the others
      rcases lookup_insert_cases h with ⟨rfl, rfl⟩ | ⟨-, hold⟩
      · rcases lookup_insert_cases h' with ⟨rfl, -⟩ | ⟨-, hold'⟩
        · rfl
        · exact absurd (s.inRange hold') (Nat.lt_irrefl _)
      · rcases lookup_insert_cases h' with ⟨rfl, rfl⟩ | ⟨-, hold'⟩
        · exact absurd (s.inRange hold) (Nat.lt_irrefl _)
        · exact s.distinct hold hold' }

theorem lookup_of_erase {k : Str} (h : (m.erase id).lookup k = some e) :
    k ≠ id ∧ m.lookup k = some e := by
  by_cases hk : k = id
  · rw [hk, AList.lookup_erase] at h
    cases h
  · rw [AList.lookup_erase_ne hk] at h
    exact ⟨hk, h⟩

/-- Takes its entry from an ID. -/
def drop (s : Server) (id : Str) : Server :=
  { s with
    spokes := s.spokes.erase id
    inRange := fun h => s.inRange (lookup_of_erase h).2
    distinct := fun h h' => s.distinct (lookup_of_erase h).2 (lookup_of_erase h').2 }

/-! ## What happens to one ID

Everything below writes into one entry, or gives or takes one ID its entry. -/

/-- Nothing has happened to an ID. -/
structure Same (s s' : Server) (id : Str) : Prop where
  lookup : s'.spokes.lookup id = s.spokes.lookup id
  entry : s'.entry id = s.entry id

theorem Same.refl (s : Server) (id : Str) : Same s s id := ⟨rfl, rfl⟩

theorem Same.trans {t u : Server} (h : Same s t id) (h' : Same t u id) : Same s u id :=
  ⟨h'.lookup.trans h.lookup, h'.entry.trans h.entry⟩

theorem entry_eq (h : s.spokes.lookup id = some e) : s.entry id = s.entries[e]? := by
  rw [Server.entry, h, Option.bind_some]

theorem entry_none (h : s.spokes.lookup id = none) : s.entry id = none := by
  rw [Server.entry, h, Option.bind_none]

/-- The entry of an ID that is written into. -/
theorem entry_modify (f : SpokeEntry → SpokeEntry) (h : s.spokes.lookup id = some e) :
    (s.modify e f).entry id = (s.entry id).map f := by
  have h' : (s.modify e f).spokes.lookup id = some e := h
  rw [entry_eq h', entry_eq h]
  exact List.getElem?_modify_eq f e s.entries

theorem same_modify (s : Server) (f : SpokeEntry → SpokeEntry) (h : s.spokes.lookup id ≠ some e) :
    Same s (s.modify e f) id := by
  refine ⟨rfl, ?_⟩
  cases hid : s.spokes.lookup id with
  | none => rw [entry_none hid, entry_none (s := s.modify e f) hid]
  | some e' =>
      have hne : e ≠ e' := fun heq => h (heq ▸ hid)
      rw [entry_eq hid, entry_eq (s := s.modify e f) hid]
      exact List.getElem?_modify_ne f s.entries hne

theorem same_modify_of_ne (s : Server) (f : SpokeEntry → SpokeEntry)
    (he : s.spokes.lookup id' = some e) (h : id ≠ id') : Same s (s.modify e f) id :=
  same_modify s f fun hid => h (s.distinct hid he)

theorem same_retire (s : Server) (h : id ≠ id') : Same s (s.retire id') id := by
  unfold retire
  split
  · exact Same.refl s id
  · rename_i e he
    exact same_modify_of_ne s _ he h

theorem same_enter (s : Server) (entry : SpokeEntry) (h : id ≠ id') :
    Same s (s.enter id' entry) id := by
  have hl : (s.enter id' entry).spokes.lookup id = s.spokes.lookup id :=
    AList.lookup_insert_ne h
  refine ⟨hl, ?_⟩
  cases hid : s.spokes.lookup id with
  | none => rw [entry_none hid, entry_none (hl.trans hid)]
  | some e =>
      rw [entry_eq hid, entry_eq (hl.trans hid)]
      exact List.getElem?_append_left (s.inRange hid)

theorem same_drop (s : Server) (h : id ≠ id') : Same s (s.drop id') id := by
  have hl : (s.drop id').spokes.lookup id = s.spokes.lookup id := AList.lookup_erase_ne h
  exact ⟨hl, congrArg (Option.bind · _) hl⟩

/-! ## Buffers -/

/-- The buffered directives of an entry. -/
def directives (s : Server) (e : Nat) : List WatchDirectivesResponse :=
  ((s.entries[e]?).map (·.directives)).getD []

/-- Nothing has been queued or taken. New entries have empty buffers. -/
structure Quiet (s s' : Server) : Prop where
  length : s.entries.length ≤ s'.entries.length
  directives : ∀ e, s'.directives e = s.directives e

theorem Quiet.refl (s : Server) : Quiet s s := ⟨le_refl _, fun _ => rfl⟩

theorem Quiet.trans {t u : Server} (h : Quiet s t) (h' : Quiet t u) : Quiet s u :=
  ⟨h.length.trans h'.length, fun e => (h'.directives e).trans (h.directives e)⟩

theorem directives_modify_ne (s : Server) (f : SpokeEntry → SpokeEntry) {e' : Nat} (h : e' ≠ e) :
    (s.modify e' f).directives e = s.directives e :=
  congrArg (fun x => (Option.map _ x).getD []) (List.getElem?_modify_ne f s.entries h)

theorem directives_modify_self (s : Server) (f : SpokeEntry → SpokeEntry) (e : Nat) :
    (s.modify e f).directives e
      = ((s.entries[e]?).map fun entry => (f entry).directives).getD [] := by
  have h : (s.modify e f).entries[e]? = (s.entries[e]?).map f :=
    List.getElem?_modify_eq f e s.entries
  rw [directives, h, Option.map_map]
  rfl

/-- A write that leaves the buffer alone. -/
theorem quiet_modify (s : Server) (e : Nat) {f : SpokeEntry → SpokeEntry}
    (hf : ∀ entry, (f entry).directives = entry.directives) : Quiet s (s.modify e f) := by
  refine ⟨ge_of_eq (List.length_modify f s.entries e), fun e' => ?_⟩
  by_cases he : e = e'
  · subst he
    rw [directives_modify_self]
    simp only [hf]
    rfl
  · exact directives_modify_ne s f he

theorem quiet_retire (s : Server) (id : Str) : Quiet s (s.retire id) := by
  unfold retire
  split
  · exact .refl s
  · exact quiet_modify s _ fun _ => rfl

theorem quiet_enter (s : Server) (id : Str) {entry : SpokeEntry} (h : entry.directives = []) :
    Quiet s (s.enter id entry) := by
  have hentries : (s.enter id entry).entries = s.entries ++ [entry] := rfl
  refine ⟨by rw [hentries, List.length_append]; exact Nat.le_add_right _ _, fun e => ?_⟩
  unfold directives
  rw [hentries]
  rcases Nat.lt_trichotomy e s.entries.length with he | rfl | he
  · rw [List.getElem?_append_left he]
  · rw [List.getElem?_concat_length, List.getElem?_eq_none (le_refl _), Option.map_some, h]
    rfl
  · rw [List.getElem?_eq_none (by rw [List.length_append]; exact he),
      List.getElem?_eq_none (Nat.le_of_lt he)]

theorem quiet_drop (s : Server) (id : Str) : Quiet s (s.drop id) := ⟨le_refl _, fun _ => rfl⟩

/-! ## The calls that act for a spoke -/

def registerSpoke (s : Server) (peer : Peer) (now : Time) (req : RegisterSpokeRequest) :
    Except StatusError RegisterSpokeResponse × Server :=
  match checkCaller peer req.spokeID with
  | .error e => (.error e, s)
  | .ok () => (.ok ⟨true, lit "spoke registered", defaultHeartbeatInterval⟩,
      (s.retire req.spokeID).enter req.spokeID (.fresh req now s.bufferSize))

/-- A call that writes into the entry of a spoke, after the checks. -/
def writeEntry {ρ : Type} (s : Server) (peer : Peer) (spokeID : Str)
    (check : Except StatusError Unit) (f : SpokeEntry → SpokeEntry) (resp : ρ) :
    Except StatusError ρ × Server :=
  match checkCaller peer spokeID with
  | .error e => (.error e, s)
  | .ok () =>
      match check with
      | .error e => (.error e, s)
      | .ok () =>
          match s.spokes.lookup spokeID with
          | none => (.error (.notRegistered spokeID), s)
          | some e => (.ok resp, s.modify e f)

def heartbeat (s : Server) (peer : Peer) (now : Time) (req : HeartbeatRequest) :
    Except StatusError HeartbeatResponse × Server :=
  s.writeEntry peer req.spokeID (.ok ()) (·.beat now req)
    ⟨true, s.activeLoadTests, s.activeLoadTestsComplete⟩

/-- The check of the reports that there is something to report. -/
def someStatus {α : Type} (statuses : List α) : Except StatusError Unit :=
  if statuses.isEmpty then .error .statusRequired else .ok ()

def reportCaptureStatus (s : Server) (peer : Peer) (spokeID : Str)
    (statuses : List CaptureStatusSummary) : Except StatusError Unit × Server :=
  s.writeEntry peer spokeID (someStatus statuses) (·.reportCaptures statuses) ()

def reportReplayStatus (s : Server) (peer : Peer) (spokeID : Str)
    (statuses : List ReplayStatusSummary) : Except StatusError Unit × Server :=
  s.writeEntry peer spokeID (someStatus statuses) (·.putReplays statuses) ()

def deregisterSpoke (s : Server) (peer : Peer) (spokeID : Str) :
    Except StatusError Unit × Server :=
  match checkCaller peer spokeID with
  | .error e => (.error e, s)
  | .ok () =>
      match s.spokes.lookup spokeID with
      | none => (.error (.notRegistered spokeID), s)
      | some _ => (.ok (), (s.retire spokeID).drop spokeID)

/-- The beginning of `WatchDirectives`: the entry whose directives are streamed. -/
def watchDirectives (s : Server) (peer : Peer) (spokeID : Str) : Except StatusError Nat :=
  match checkCaller peer spokeID with
  | .error e => .error e
  | .ok () =>
      match s.spokes.lookup spokeID with
      | none => .error (.notRegistered spokeID)
      | some e => .ok e

/-- Receives from the channel of an entry. -/
def takeDirective (s : Server) (e : Nat) : Option (WatchDirectivesResponse × Server) :=
  match (s.entries[e]?).map (·.directives) with
  | some (d :: rest) => some (d, s.modify e ({ · with directives := rest }))
  | _ => none

/-! ## Queueing -/

/-- The first half of `queueDirective`: it looks the spoke up. -/
def findSpoke (s : Server) (spokeID : Str) : Except StatusError Nat :=
  if spokeID = [] then .error .spokeIDRequired
  else
    match s.spokes.lookup spokeID with
    | none => .error (.notRegistered spokeID)
    | some e => .ok e

/-- The second half: it offers the directive to the entry it found. -/
def offer (s : Server) (e : Nat) (d : WatchDirectivesResponse) : Bool × Server :=
  if (s.entries[e]?).any (·.room) then
    (true, s.modify e fun entry => { entry with directives := entry.directives ++ [d] })
  else (false, s)

/-- `queueDirective`, when nothing comes between its halves. -/
def queueDirective (s : Server) (spokeID : Str) (d : WatchDirectivesResponse) :
    Except StatusError Unit × Server :=
  match s.findSpoke spokeID with
  | .error err => (.error err, s)
  | .ok e =>
      match s.offer e d with
      | (true, s') => (.ok (), s')
      | (false, s') => (.error (.bufferFull spokeID), s')

theorem takeDirective_some (h : s.takeDirective e = some (d, s')) :
    ∃ rest, s.directives e = d :: rest ∧ s'.directives e = rest
      ∧ (∀ e', e ≠ e' → s'.directives e' = s.directives e')
      ∧ s'.spokes = s.spokes ∧ s'.entries.length = s.entries.length := by
  unfold takeDirective at h
  split at h
  · rename_i d' rest hd
    cases h
    refine ⟨rest, ?_, ?_, fun e' he => directives_modify_ne s _ he, rfl,
      List.length_modify _ s.entries e⟩
    · rw [directives, hd, Option.getD_some]
    · rw [directives_modify_self]
      obtain ⟨entry, hentry, -⟩ := Option.map_eq_some_iff.mp hd
      rw [hentry]
      rfl
  · cases h

/-- An accepted directive is the last in its buffer. -/
theorem offer_true (h : s.offer e d = (true, s')) :
    s'.directives e = s.directives e ++ [d] ∧ (∀ e', e ≠ e' → s'.directives e' = s.directives e')
      ∧ s'.spokes = s.spokes ∧ s'.entries.length = s.entries.length := by
  unfold offer at h
  split at h
  · rename_i hroom
    cases h
    refine ⟨?_, fun e' he => directives_modify_ne s _ he, rfl, List.length_modify _ s.entries e⟩
    obtain ⟨entry, hentry, -⟩ := (Option.any_eq_true _ _).mp hroom
    rw [directives_modify_self, directives, hentry]
    rfl
  · cases h

theorem offer_false (h : s.offer e d = (false, s')) : s' = s := by
  unfold offer at h
  split at h
  · cases h
  · cases h
    rfl

/-! ## For the controllers -/

def connected (entry : SpokeEntry) (now : Time) : Bool := now - entry.lastHeartbeat ≤ spokeTimeout

/-- `SelectSpokes`. The IDs are distinct, so sorting them sorts the selections. -/
def selectSpokes (s : Server) (cells : List Str) (max : Int) (now : Time) :
    List SpokeSelection :=
  let eligible := s.registered.filter fun (_, entry) =>
    connected entry now && (cells.isEmpty || cells.contains entry.info.cell)
  let selected := (Str.sort (eligible.map (·.1))).filterMap fun id =>
    (s.entry id).map fun entry => ⟨id, entry.info.cell⟩
  if 0 < max ∧ max < selected.length then selected.take max.toNat else selected

def replayStatuses (s : Server) (key : Key) : List ReplayStatusSnapshot :=
  s.registered.flatMap fun (id, entry) =>
    (entry.replays.entries.filter fun e => e.2.loadTest = key).map fun e =>
      ⟨id, entry.info.cell, e.2⟩

def clearReplayStatuses (s : Server) (key : Key) : Server :=
  (s.spokes.keys.filterMap s.spokes.lookup).foldl (fun s e => s.modify e (·.clearReplays key)) s

def setActiveLoadTests (s : Server) (keys : List Key) (complete : Bool) : Server :=
  { s with activeLoadTests := keys, activeLoadTestsComplete := complete }

theorem spokes_clearReplayStatuses (s : Server) (key : Key) :
    (s.clearReplayStatuses key).spokes = s.spokes ∧ Quiet s (s.clearReplayStatuses key) := by
  unfold clearReplayStatuses
  generalize s.spokes.keys.filterMap s.spokes.lookup = es
  suffices h : ∀ t, t.spokes = s.spokes → Quiet s t →
      (es.foldl (fun s e => s.modify e (·.clearReplays key)) t).spokes = s.spokes
        ∧ Quiet s (es.foldl (fun s e => s.modify e (·.clearReplays key)) t) from
    h s rfl (.refl s)
  induction es with
  | nil => exact fun t ht hq => ⟨ht, hq⟩
  | cons e rest ih => exact fun t ht hq => ih _ ht (hq.trans (quiet_modify t e fun _ => rfl))

/-- `Stop`, as far as streams and calls see it. -/
def stop (s : Server) : Server := { s with shutdown := true }

/-! ## Queries -/

structure CaptureInfo where
  captureName : Str
  captureNamespace : Str
  spokeID : Str
  phase : CapturePhase
  capturedRequests : Int64
  bytesWritten : Int64
deriving DecidableEq, Repr

def captureInfoFromSummary (cs : CaptureStatusSummary) (spokeID : Str) : CaptureInfo :=
  ⟨cs.captureName, cs.captureNamespace, spokeID, cs.phase, cs.capturedRequests, cs.bytesWritten⟩

/-- A filter of a query; the empty text selects everything. -/
def selects (wanted actual : Str) : Bool := wanted.isEmpty || actual == wanted

def listCaptures (s : Server) (spokeID ns cell : Str) : List CaptureInfo :=
  (s.registered.filter fun (id, entry) => selects spokeID id
    && selects cell entry.info.cell).flatMap
    fun (id, entry) =>
      (entry.captures.entries.filter fun e => selects ns e.2.captureNamespace).map fun e =>
        captureInfoFromSummary e.2 id

def getCaptureStatus (s : Server) (name ns spokeID : Str) : Except StatusError CaptureInfo :=
  if name = [] ∨ ns = [] then .error .captureRequired
  else
    let key := captureKey ns name
    if spokeID ≠ [] then
      match s.entry spokeID with
      | none => .error (.notRegistered spokeID)
      | some entry =>
          match entry.captures.lookup key with
          | none => .error (.captureNotFound key (some spokeID))
          | some cs => .ok (captureInfoFromSummary cs spokeID)
    else
      match s.registered.findSome? fun (id, entry) =>
          (entry.captures.lookup key).map fun cs => captureInfoFromSummary cs id with
      | none => .error (.captureNotFound key none)
      | some info => .ok info

/-- The state of a spoke whose last heartbeat is too old is not the one it reported. -/
def listSpokes (s : Server) (cell : Str) (now : Time) : List SpokeInfo :=
  (s.registered.filter fun (_, entry) => selects cell entry.info.cell).map fun (_, entry) =>
    if connected entry now then entry.info else { entry.info with state := .disconnected }

structure CellInfo where
  name : Str
  connectedSpokes : Int32
  totalSpokes : Int32
  activeCaptures : Int32
  activeReplays : Int32
deriving DecidableEq, Repr

def listCells (s : Server) (now : Time) : List CellInfo :=
  (Str.sort (s.registered.map (·.2.info.cell)).dedup).map fun cell =>
    let members := (s.registered.map (·.2)).filter (·.info.cell = cell)
    { name := cell
      connectedSpokes := Int32.ofNat (members.countP (connected · now))
      totalSpokes := Int32.ofNat members.length
      activeCaptures := (members.map fun e => Int32.ofNat e.captures.entries.length).sum
      activeReplays := (members.map fun e => activeReplayCount e.replays).sum }

def listReplays (s : Server) (loadTestName loadTestNamespace cell : Str) :
    List ReplayStatusSnapshot :=
  (s.registered.filter fun (_, entry) => selects cell entry.info.cell).flatMap fun (id, entry) =>
    (entry.replays.entries.filter fun e => selects loadTestName e.2.loadTest.name
      && selects loadTestNamespace e.2.loadTest.ns).map fun e => ⟨id, entry.info.cell, e.2⟩

end Server

end Kapture.Hub
