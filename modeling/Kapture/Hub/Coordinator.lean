import Kapture.Hub.Reconcile
import Kapture.Lib.Objects

/-!
# The coordinator

The reconciles of load tests beside everybody who edits, creates and deletes them, and
a gRPC server that comes and goes. The hub reconciles one load test at a time. What the
registry of the server answers (which spokes there are, what they reported, whether a
buffer has room) is left open: a choice of the step. So what holds here holds for any
fleet of spokes.

The API server takes a write only from a caller that has seen the latest version of the
object, and it may fail, or take the write and fail to say so. It does not take a status
with 2³¹ shard indexes, which is far beyond its limit on the size of an object.

The coordinator keeps a log, newest event first. The program does not read it.
-/

namespace Kapture.Hub

open Go Storage Conc Objects

/-! ## The API server -/

instance : Resource Key CaptureLoadTest where
  key := CaptureLoadTest.key
  version := CaptureLoadTest.resourceVersion
  stamp lt n := { lt with resourceVersion := n }
  deleting := CaptureLoadTest.deleting
  finalizer := CaptureLoadTest.finalizer
  key_stamp _ _ := rfl
  version_stamp _ _ := rfl

abbrev Api := Objects.Store Key CaptureLoadTest

/-! ## The state -/

inductive Event where
  | began (key : Key)
  /-- A reconcile read this. -/
  | read (lt : CaptureLoadTest)
  /-- A status was written; the object as it is then. -/
  | stored (lt : CaptureLoadTest)
  /-- The finalizer was removed from this. -/
  | finalized (lt : CaptureLoadTest)
  /-- The end of a `SendReplayDirective`, and whether its server was the running one. -/
  | sent (spokeID : Str) (d : ReplayDirective) (result : SendResult) (running : Bool)
  | ended (key : Key) (result : Result)
deriving DecidableEq, Repr

structure Coord where
  api : Api
  /-- The gRPC server that runs. -/
  server : Option Nat
  /-- How many there have been. -/
  servers : Nat
  log : List Event

namespace Coord

def start : Coord := ⟨.empty, none, 0, []⟩

def note (s : Coord) (e : Event) : Coord := { s with log := e :: s.log }

/-- Whether `srv` is the server that runs. -/
def runs (s : Coord) (srv : Nat) : Bool := s.server == some srv

end Coord

/-- What others do to it. -/
inductive Act where
  | create (key : Key) (spec : CaptureLoadTestSpec)
  | edit (key : Key) (spec : CaptureLoadTestSpec)
  | delete (key : Key)
  | startServer
  | stopServer
deriving DecidableEq, Repr

def Coord.act : Act → Coord → Option Coord
  | .create key spec, s =>
      match s.api.find key with
      | some _ => none
      | none => some { s with
          api := s.api.put ⟨key, s.api.revision + 1, 0, false, false, spec, .empty⟩ }
  | .edit key spec, s =>
      match s.api.find key with
      | none => none
      | some lt => some { s with api := s.api.put { lt with spec := spec } }
  | .delete key, s =>
      match s.api.find key with
      | none => none
      | some lt => some { s with api := s.api.store { lt with deleting := true } }
  | .startServer, s => some { s with server := some s.servers, servers := s.servers + 1 }
  | .stopServer, s => some { s with server := none }

/-- The outcome of an operation, as far as it is open. -/
inductive Choice where
  | api (o : Outcome)
  | spokes (l : List SpokeSelection)
  | statuses (l : List ReplayStatusSnapshot)
  | entry (e : Option Nat)
  | room (b : Bool)
  | time (t : Time)
  | none
deriving DecidableEq, Repr

/-- The limit on the size of an object. -/
def Fits (status : CaptureLoadTestStatus) : Prop :=
  (allShards status.assignments).length < 2 ^ 31

instance (status : CaptureLoadTestStatus) : Decidable (Fits status) :=
  inferInstanceAs (Decidable (_ < _))

namespace Coord

/-- `Update`: the metadata and the spec. -/
def update (o : Outcome) (lt : CaptureLoadTest) (s : Coord) : Option CaptureLoadTest × Coord :=
  match s.api.latest lt with
  | none => (none, s)
  | some cur =>
      let new := { cur with finalizer := lt.finalizer, spec := lt.spec }
      let s' := { s with
        api := s.api.store new
        log := if lt.finalizer then s.log else .finalized cur :: s.log }
      o.answer (s.api.stamped new) s s'

/-- `Status().Update`. -/
def updateStatus (o : Outcome) (lt : CaptureLoadTest) (s : Coord) :
    Option CaptureLoadTest × Coord :=
  if Fits lt.status then
    match s.api.latest lt with
    | none => (none, s)
    | some cur =>
        let new := { cur with status := lt.status }
        let s' := { s with api := s.api.put new, log := .stored (s.api.stamped new) :: s.log }
        o.answer (s.api.stamped new) s s'
  else (none, s)

def get (key : Key) (o : Outcome) (s : Coord) : Except Unit (Option CaptureLoadTest) × Coord :=
  match o, s.api.find key with
  | .ok, some lt => (.ok (some lt), s.note (.read lt))
  | .ok, none => (.ok none, s)
  | _, _ => (.error (), s)

def exec : (op : HubOp) → Choice → Coord → Option (op.Ans × Coord)
  | .get key, .api o, s => some (s.get key o)
  | .server, .none, s => some (s.server, s)
  | .update lt, .api o, s => some (s.update o lt)
  | .updateStatus lt, .api o, s => some (s.updateStatus o lt)
  | .selectSpokes .., .spokes l, s => some (l, s)
  | .replayStatuses .., .statuses l, s => some (l, s)
  | .findSpoke srv spokeID d, .entry none, s =>
      some (none, s.note (.sent spokeID d .notFound (s.runs srv)))
  | .findSpoke .., .entry (some e), s => some (some e, s)
  | .offer srv _ spokeID d, .room b, s =>
      some (b, s.note (.sent spokeID d (if b then .accepted else .resourceExhausted) (s.runs srv)))
  | .clearReplayStatuses .., .none, s => some ((), s)
  | .now, .time t, s => some (t, s)
  | .judge .., .time t, s => some (t, s)
  | _, _, _ => none

end Coord

/-- The coordinator. A crash of the hub takes the gRPC server with it. -/
def coordinator : Machine Coord HubOp HubOp.Ans Result Key Act Choice where
  exec := Coord.exec
  act := Coord.act
  prog := reconcile
  enter key s := s.note (.began key)
  leave key r s := s.note (.ended key r)
  crash s := { s with server := none }

/-- A step of the coordinator, for conditions on its runs. -/
abbrev CoordLabel := Label HubOp Key Act Choice

/-- What the coordinator reaches when its steps meet `ok`. -/
abbrev Reaches (ok : CoordLabel → Coord → Prop) := coordinator.Reach ok Coord.start

/-! ## Runs to try it with -/

abbrev CoordMove := Machine.Move Key Act Choice

theorem exists_run (check : CoordLabel → Coord → Bool) (mvs : List CoordMove) (P : Coord → Bool)
    (h : (coordinator.run check mvs ⟨Coord.start, none⟩).any (fun c => P c.state) = true) :
    ∃ c, Reaches (fun l s => check l s = true) c ∧ P c.state = true :=
  Machine.exists_of_run (fun _ _ h => h) h

theorem exists_free_run (mvs : List CoordMove) (P : Coord → Bool)
    (h : (coordinator.run (fun _ _ => true) mvs ⟨Coord.start, none⟩).any
      (fun c => P c.state) = true) :
    ∃ c, Reaches Machine.always c ∧ P c.state = true :=
  Machine.exists_of_run (fun _ _ _ => trivial) h

/-- A load test of one worker per spoke, to be aborted after a minute or when every
second request fails. -/
def smallTest : CaptureLoadTestSpec where
  sourceRef := lit "capture"
  storageRef := lit "store"
  target := ⟨lit "staging.internal", none, none⟩
  rate := none
  filters := none
  distribution := none
  abort := some ⟨some 60000000000, some 50, some 10⟩
  engine := none
  safety := some [lit "*.internal"]

def smallKey : Key := ⟨lit "perf", lit "nightly"⟩

/-- A reconcile's first steps, on a load test that it reads. -/
def readPass : List CoordMove := [.enter smallKey, .op (.api .ok), .op .none]

/-- The first reconcile of a load test up to its assignments. -/
def assignPass (spokes : List SpokeSelection) : List CoordMove :=
  readPass ++ [.op (.api .ok), .op (.spokes spokes), .op (.time 0), .op (.api .ok)]

/-- A directive that finds its spoke, and room or not. -/
def sendMoves (room : Bool) : List CoordMove := [.op (.entry (some 0)), .op (.room room)]

/-- The end of a reconcile that does not abort, at a time. -/
def concludeMoves (t : Time) : List CoordMove :=
  [.op (.time t), .op (.time t), .op (.api .ok), .leave]

/-- A run on one spoke: it is distributed and its shard started. -/
def startedRun : List CoordMove :=
  [.act .startServer, .act (.create smallKey smallTest)]
    ++ assignPass [⟨lit "east", []⟩] ++ [.op (.statuses [])] ++ sendMoves true ++ concludeMoves 5

end Kapture.Hub
