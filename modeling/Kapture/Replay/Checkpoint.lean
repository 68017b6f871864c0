import Kapture.Lib.Steps
import Kapture.Replay.Engine

/-!
# Checkpoints

`Checkpointer`: a replay records its progress with `Update`, a loop writes the record to a file at
every tick, and `Stop` writes it a last time. The file is replaced in six steps: the record is
encoded, a file beside it is created, written, synced and closed, and renamed over the old one. Any
of them may fail, and updates go on between them.

**A reader of the file never sees half a record**: what is renamed was written whole, and the file
beside it has another extension than every checkpoint (`intact_act`).

**A flush takes the dirty flag down before it writes, and nothing puts it up again when the write
fails.** The `Stop` that follows finds nothing to do and returns nil, with the last update in memory
only. It is not lost if another update came after the copy was taken, since that one put the flag up
(`Heeded`). The other update that is lost comes while `Stop` writes, after its copy.
-/

namespace Kapture.Replay

open Go Rfc3339

/-- `replay.CheckpointEngineParams`. -/
structure CheckpointEngineParams where
  rateMode : RateMode
  ratePerSecond : Rat
  timeScale : Rat
  concurrency : Int64
  storageType : Str
deriving DecidableEq, Repr

/-- `replay.Checkpoint`. -/
structure Checkpoint where
  replayID : Str
  captureID : Str
  lastObjectKey : Str
  lastRequestID : Str
  requestsSent : Int64
  requestsErrored : Int64
  requestsFiltered : Int64
  bytesProcessed : Int64
  startTime : Time
  lastUpdate : Time
  elapsedDuration : Duration
  engineParams : CheckpointEngineParams
deriving DecidableEq, Repr

/-- Its texts are UTF-8: JSON replaces every other byte. -/
def Checkpoint.Legible (cp : Checkpoint) : Prop :=
  ValidUtf8 cp.replayID ∧ ValidUtf8 cp.captureID ∧ ValidUtf8 cp.lastObjectKey
    ∧ ValidUtf8 cp.lastRequestID
    ∧ ValidUtf8 cp.engineParams.storageType

instance (cp : Checkpoint) : Decidable cp.Legible := inferInstanceAs (Decidable (_ ∧ _))

/-- `encoding/json` at `Checkpoint`. Encoding fails for a year of five digits. -/
structure CheckpointCodec where
  marshalIndent : Checkpoint → Except Error Str
  unmarshal : Str → Except Error Checkpoint
  roundTrip : ∀ cp data, cp.Legible → marshalIndent cp = .ok data → unmarshal data = .ok cp

/-- The codec that knows the checkpoints of a table, each with its text. -/
def CheckpointCodec.ofTable (table : List (Checkpoint × Str))
    (htext : ∀ e ∈ table, table.find? (fun e' => e'.2 = e.2) = some e) : CheckpointCodec where
  marshalIndent cp :=
    match table.find? fun e => e.1 = cp with
    | some e => .ok e.2
    | none => .error (.new "json: unsupported value")
  unmarshal data :=
    match table.find? fun e => e.2 = data with
    | some e => .ok e.1
    | none => .error (.new "unexpected end of JSON input")
  roundTrip := by
    intro cp data _ h
    split at h
    · rename_i e he
      cases h
      have hcp : e.1 = cp := by simpa using List.find?_some he
      rw [htext e (List.mem_of_find?_eq_some he), ← hcp]
    · cases h

/-! ## Replacing the file -/

def checkpointPath (dir replayID : Str) : Str :=
  Path.joinPath [dir, lit "replay-" ++ replayID ++ lit ".checkpoint.json"]

def tmpPath (dir replayID : Str) : Str := checkpointPath dir replayID ++ lit ".tmp"

theorem checkpointPath_ne_tmpPath (dir id id' : Str) : checkpointPath dir id ≠ tmpPath dir id' := by
  intro h
  have hjson : lit ".checkpoint.json" <:+ tmpPath dir id' :=
    h ▸ Path.suffix_joinPath dir (lit "replay-" ++ id) (b := 110) (by decide) (by decide)
      (by decide)
  have htmp : lit ".tmp" <:+ tmpPath dir id' := List.suffix_append ..
  exact absurd (List.suffix_of_suffix_length_le htmp hjson (by decide)) (by decide)

/-- The contents of the files, by path. -/
abbrev Files := Str → Option Str

/-- The operations on files that `writeCheckpoint` makes, in their order. -/
inductive FileOp where
  | create
  | write
  | sync
  | close
  | rename
deriving DecidableEq, Repr

/-- How an operation ends. One that fails may have taken effect, a write with its first bytes. -/
inductive Outcome where
  | ok
  | failed (err : Error) (done : Nat)
deriving DecidableEq, Repr

def Outcome.took : Outcome → Bool
  | .ok => true
  | .failed _ done => done != 0

/-- The bytes that were written. -/
def Outcome.written (data : Str) : Outcome → Str
  | .ok => data
  | .failed _ done => data.take done

namespace FileOp

def context : FileOp → String
  | create => "create checkpoint tmp"
  | write => "write checkpoint tmp"
  | sync => "fsync checkpoint tmp"
  | close => "close checkpoint tmp"
  | rename => "rename checkpoint"

def next : FileOp → Option FileOp
  | create => some write
  | write => some sync
  | sync => some close
  | close => some rename
  | rename => none

/-- What the operation does to the files. Renaming is atomic. -/
def effect (path tmp data : Str) (o : Outcome) (files : Files) : FileOp → Files
  | create => if o.took then Function.update files tmp (some []) else files
  | write => Function.update files tmp (some (o.written data))
  | sync => files
  | close => files
  | rename =>
      if o.took then Function.update (Function.update files path (files tmp)) tmp none else files

/-- The data was written before this operation. -/
def afterWrite : FileOp → Bool
  | create => false
  | write => false
  | sync => true
  | close => true
  | rename => true

end FileOp

/-- A `writeCheckpoint` that is under way. -/
inductive Writing where
  | marshal (cp : Checkpoint)
  | file (op : FileOp) (cp : Checkpoint) (data : Str)
deriving DecidableEq, Repr

namespace Writing

/-- The copy it writes. -/
def cp : Writing → Checkpoint
  | marshal cp => cp
  | file _ cp _ => cp

/-- The next step of `writeCheckpoint`: the one after it or the error it returns, and the files. -/
def step (J : CheckpointCodec) (dir : Str) (o : Outcome) (files : Files) :
    Writing → (Writing ⊕ Option Error) × Files
  | marshal cp =>
      match J.marshalIndent cp with
      | .error err => (.inr (some (err.wrap "marshal checkpoint")), files)
      | .ok data => (.inl (file .create cp data), files)
  | file op cp data =>
      let files' :=
        op.effect (checkpointPath dir cp.replayID) (tmpPath dir cp.replayID) data o files
      match o, op.next with
      | .failed err _, _ => (.inr (some (err.wrap op.context)), files')
      | .ok, some op' => (.inl (file op' cp data), files')
      | .ok, none => (.inr none, files')

/-- The next step fails. -/
def Fails (J : CheckpointCodec) (o : Outcome) : Writing → Prop
  | marshal cp => (J.marshalIndent cp).isOk = false
  | file _ _ _ => o ≠ .ok

instance (J : CheckpointCodec) (o : Outcome) : ∀ w : Writing, Decidable (w.Fails J o)
  | marshal _ => inferInstanceAs (Decidable (_ = _))
  | file _ _ _ => inferInstanceAs (Decidable (_ ≠ _))

/-- Its text is that of the copy, and the file beside the checkpoint has it once it was written. -/
def Sound (J : CheckpointCodec) (dir : Str) (files : Files) : Writing → Prop
  | marshal _ => True
  | file op cp data => J.marshalIndent cp = .ok data ∧
      (op.afterWrite = true → files (tmpPath dir cp.replayID) = some data)

end Writing

/-! ## What a step does to the checkpoints -/

/-- The file holds the checkpoint. -/
def Holds (J : CheckpointCodec) (files : Files) (path : Str) (cp : Checkpoint) : Prop :=
  ∃ data, files path = some data ∧ J.unmarshal data = .ok cp

variable {J : CheckpointCodec} {dir id id' data : Str} {o : Outcome} {files files' : Files}

/-- Only a rename touches a checkpoint, its own, and it puts the file beside it there. -/
theorem FileOp.effect_checkpointPath (op : FileOp) :
    op.effect (checkpointPath dir id) (tmpPath dir id) data o files (checkpointPath dir id')
        = files (checkpointPath dir id')
      ∨ op = .rename ∧ checkpointPath dir id = checkpointPath dir id'
        ∧ op.effect (checkpointPath dir id) (tmpPath dir id) data o files (checkpointPath dir id')
          = files (tmpPath dir id) := by
  have hne := checkpointPath_ne_tmpPath dir id' id
  cases op with
  | create =>
      refine .inl ?_
      unfold effect
      split
      · exact Function.update_of_ne hne ..
      · rfl
  | write => exact .inl (Function.update_of_ne hne ..)
  | sync => exact .inl rfl
  | close => exact .inl rfl
  | rename =>
      simp only [effect]
      split
      · rw [Function.update_of_ne hne]
        by_cases hid : checkpointPath dir id' = checkpointPath dir id
        · rw [hid, Function.update_self]
          exact .inr ⟨trivial, rfl, rfl⟩
        · exact .inl (Function.update_of_ne hid ..)
      · exact .inl rfl

theorem FileOp.effect_rename_ok :
    rename.effect (checkpointPath dir id) (tmpPath dir id) data .ok files (checkpointPath dir id)
      = files (tmpPath dir id) := by
  have hne := checkpointPath_ne_tmpPath dir id id
  rw [effect, if_pos (by rfl), Function.update_of_ne hne, Function.update_self]

theorem FileOp.effect_tmpPath {op op' : FileOp} {path tmp : Str} (hnext : op.next = some op')
    (hafter : op'.afterWrite = true) (h : op.afterWrite = true → files tmp = some data) :
    op.effect path tmp data .ok files tmp = some data := by
  cases op with
  | create =>
      cases hnext
      cases hafter
  | write => exact Function.update_self ..
  | sync => exact h rfl
  | close => exact h rfl
  | rename => cases hnext

namespace Writing

variable {w w' : Writing} {err : Option Error}

/-- A step after which there is another one succeeds, and changes no checkpoint. -/
theorem step_more (hw : w.Sound J dir files) (h : w.step J dir o files = (.inl w', files')) :
    w'.cp = w.cp ∧ w'.Sound J dir files'
      ∧ ∀ id, files' (checkpointPath dir id) = files (checkpointPath dir id) := by
  cases w with
  | marshal cp =>
      simp only [step] at h
      split at h
      · cases h
      · rename_i data hdata
        cases h
        exact ⟨rfl, ⟨hdata, fun h => nomatch h⟩, fun _ => rfl⟩
  | file op cp data =>
      simp only [step] at h
      split at h
      · cases h
      · rename_i op' hnext
        cases h
        refine ⟨rfl, ⟨hw.1, fun hafter => FileOp.effect_tmpPath hnext hafter hw.2⟩, fun id => ?_⟩
        rcases op.effect_checkpointPath with hsame | ⟨hop, _, _⟩
        · exact hsame
        · rw [hop] at hnext
          cases hnext
      · cases h

/-- The last step leaves every checkpoint as it is, but for its own, where it may put the copy.
Without an error it has put it there. -/
theorem step_done (hw : w.Sound J dir files) (hl : w.cp.Legible)
    (h : w.step J dir o files = (.inr err, files')) :
    (∀ id, files' (checkpointPath dir id) = files (checkpointPath dir id)
        ∨ checkpointPath dir w.cp.replayID = checkpointPath dir id
          ∧ Holds J files' (checkpointPath dir id) w.cp)
      ∧ (err = none → Holds J files' (checkpointPath dir w.cp.replayID) w.cp)
      ∧ (err ≠ none → w.Fails J o) := by
  cases w with
  | marshal cp =>
      simp only [step] at h
      split at h
      · rename_i e he
        cases h
        refine ⟨fun id => .inl rfl, nofun, fun _ => ?_⟩
        show (J.marshalIndent cp).isOk = false
        rw [he]
        rfl
      · cases h
  | file op cp data =>
      have hread : J.unmarshal data = .ok cp := J.roundTrip cp data hl hw.1
      have hkept : ∀ id, op.effect (checkpointPath dir cp.replayID) (tmpPath dir cp.replayID)
          data o files
            (checkpointPath dir id) = files (checkpointPath dir id)
          ∨ checkpointPath dir cp.replayID = checkpointPath dir id
            ∧ Holds J (op.effect (checkpointPath dir cp.replayID) (tmpPath dir cp.replayID) data
              o files)
              (checkpointPath dir id) cp := by
        intro id
        rcases op.effect_checkpointPath with hsame | ⟨hop, hpath, hmoved⟩
        · exact .inl hsame
        · exact .inr ⟨hpath, data, hmoved.trans (hw.2 (by rw [hop]; rfl)), hread⟩
      simp only [step] at h
      split at h
      · cases h
        exact ⟨hkept, nofun, fun _ => nofun⟩
      · cases h
      · rename_i hnext
        cases h
        cases op with
        | rename =>
            refine ⟨hkept, fun _ => ?_, fun hne => absurd rfl hne⟩
            exact ⟨data, FileOp.effect_rename_ok.trans (hw.2 rfl), hread⟩
        | _ => cases hnext

end Writing

/-! ## The checkpointer -/

/-- Between `Start` and the return of `Stop`. -/
inductive Stage where
  | idle
  | running
  /-- `Stop` waits for the loop to end. -/
  | stopping
  /-- `Stop` writes. -/
  | final
  /-- The error that `Stop` returned, or nil. -/
  | returned (err : Option Error)
deriving DecidableEq, Repr

def Stage.hasReturned : Stage → Bool
  | returned _ => true
  | _ => false

/-- `replay.Checkpointer`. At most one write is under way, the loop's or that of `Stop`. -/
structure Checkpointer where
  dir : Str
  current : Option Checkpoint
  dirty : Bool
  stage : Stage
  writing : Option Writing
  files : Files
  /-- The checkpoint as of the last `Update` before `Stop` returned. -/
  last : Option Checkpoint
  /-- Every checkpoint that was current, here or in an earlier process. -/
  shown : List Checkpoint

inductive CheckpointAct where
  | start (initial : Option Checkpoint)
  | update (fn : Checkpoint → Checkpoint) (now : Time)
  | tick
  | stop
  /-- The loop has returned, and `Stop` flushes. -/
  | finish
  /-- The write that is under way takes its next step. -/
  | step (o : Outcome)

namespace Checkpointer

/-- `NewCheckpointer`, in a directory that may have files. -/
def new (dir : Str) (files : Files) (earlier : List Checkpoint) : Checkpointer :=
  ⟨dir, none, false, .idle, none, files, none, earlier⟩

/-- `Load`, of a file that can be read. -/
def load (J : CheckpointCodec) (s : Checkpointer)
    (replayID : Str) : Except Error (Option Checkpoint) :=
  match s.files (checkpointPath s.dir replayID) with
  | none => .ok none
  | some data =>
      match J.unmarshal data with
      | .error err => .error (err.wrap "unmarshal checkpoint")
      | .ok cp => .ok (some cp)

/-- The first part of `flush`, under the lock: it takes the copy. -/
def flush (s : Checkpointer) : Checkpointer :=
  match s.current with
  | none => s
  | some cp => if s.dirty then { s with dirty := false, writing := some (.marshal cp) } else s

def act (J : CheckpointCodec) (a : CheckpointAct) (s : Checkpointer) : Option Checkpointer :=
  match a with
  | .start initial =>
      if s.stage = .idle ∨ s.stage.hasReturned then
        some { s with
          current := initial, stage := .running, last := none, shown := initial.toList ++ s.shown }
      else none
  | .update fn now =>
      match s.current with
      | none => some s
      | some cp =>
          let cp' := { fn cp with lastUpdate := now }
          some { s with current := some cp', dirty := true, shown := cp' :: s.shown,
                        last := if s.stage.hasReturned then s.last else some cp' }
  | .tick =>
      if (s.stage = .running ∨ s.stage = .stopping) ∧ s.writing = none then
        some s.flush
      else none
  | .stop =>
      -- without a `Start` it returns nil at once
      if s.stage = .idle then some s
      else if s.stage = .running then some { s with stage := .stopping }
      else none
  | .finish =>
      if s.stage = .stopping ∧ s.writing = none then
        some { s.flush with stage := if s.flush.writing = none then .returned none else .final }
      else none
  | .step o => s.writing.map fun w =>
      match w.step J s.dir o s.files with
      | (.inl w', files) => { s with writing := some w', files }
      | (.inr err, files) =>
          -- the loop logs the error
          { s with writing := none, files, stage := if s.stage = .final then .returned err
            else s.stage }

/-- **`Load` gives a whole checkpoint that was current, or none**; its ID is the one that was asked
for, or has the same path. -/
def Whole (J : CheckpointCodec) (s : Checkpointer) : Prop :=
  ∀ id, s.load J id = .ok none ∨ ∃ cp ∈ s.shown, s.load J id = .ok (some cp)
    ∧ checkpointPath s.dir cp.replayID = checkpointPath s.dir id

/-- **Once `Stop` has returned nil, `Load` gives the checkpoint as of the last `Update`.** -/
def Durable (J : CheckpointCodec) (s : Checkpointer) : Prop :=
  s.stage = .returned none → ∀ cp ∈ s.last, s.load J cp.replayID = .ok (some cp)

/-- What is recorded can be written as JSON. -/
def Recordable : CheckpointAct → Checkpointer → Prop
  | .start initial, _ => ∀ cp ∈ initial, cp.Legible
  | .update fn _, s => ∀ cp ∈ s.current, (fn cp).Legible
  | _, _ => True

/-- No update comes while `Stop` writes. A step of a write of the loop fails only if an update has
come since the copy. -/
def Heeded (J : CheckpointCodec) (a : CheckpointAct) (s : Checkpointer) : Prop :=
  Recordable a s ∧
    match a with
    | .update _ _ => s.stage ≠ .final
    | .step o => s.stage = .final ∨ s.dirty = true ∨ ∀ w ∈ s.writing, ¬ w.Fails J o
    | _ => True

instance : ∀ (a : CheckpointAct) (s : Checkpointer), Decidable (Recordable a s)
  | .start initial, _ => inferInstanceAs (Decidable (∀ cp ∈ initial, cp.Legible))
  | .update fn _, s => inferInstanceAs (Decidable (∀ cp ∈ s.current, (fn cp).Legible))
  | .tick, _ => .isTrue trivial
  | .stop, _ => .isTrue trivial
  | .finish, _ => .isTrue trivial
  | .step _, _ => .isTrue trivial

instance (J : CheckpointCodec) : ∀ (a : CheckpointAct) (s : Checkpointer), Decidable (Heeded J a s)
  | .start _, _ => inferInstanceAs (Decidable (_ ∧ True))
  | .update _ _, s => inferInstanceAs (Decidable (_ ∧ s.stage ≠ .final))
  | .tick, _ => inferInstanceAs (Decidable (_ ∧ True))
  | .stop, _ => inferInstanceAs (Decidable (_ ∧ True))
  | .finish, _ => inferInstanceAs (Decidable (_ ∧ True))
  | .step o, s => inferInstanceAs (Decidable (_ ∧
      (s.stage = .final ∨ s.dirty = true ∨ ∀ w ∈ s.writing, ¬ w.Fails J o)))

/-! ## Nothing partial -/

variable {s s' : Checkpointer} {a : CheckpointAct} {cp : Checkpoint}

theorem load_of_holds (h : Holds J s.files (checkpointPath s.dir id) cp) :
    s.load J id = .ok (some cp) := by
  obtain ⟨data, hfile, hread⟩ := h
  rw [load, hfile]
  dsimp only
  rw [hread]

theorem load_congr (hdir : s'.dir = s.dir)
    (hfile : s'.files (checkpointPath s.dir id) = s.files (checkpointPath s.dir id)) :
    s'.load J id = s.load J id := by
  rw [load, load, hdir, hfile]

/-- What is loaded, what is current and what is being written was all current once. -/
structure Intact (J : CheckpointCodec) (s : Checkpointer) : Prop where
  whole : s.Whole J
  current : ∀ cp ∈ s.current, cp ∈ s.shown ∧ cp.Legible
  writing : ∀ w ∈ s.writing, w.cp ∈ s.shown ∧ w.cp.Legible ∧ w.Sound J s.dir s.files

/-- Each file is the old one or a checkpoint of that path that was current. -/
theorem Whole.of_files (h : s.Whole J) (hdir : s'.dir = s.dir)
    (hshown : ∀ cp ∈ s.shown, cp ∈ s'.shown)
    (hfiles : ∀ id, s'.files (checkpointPath s.dir id) = s.files (checkpointPath s.dir id)
      ∨ ∃ cp ∈ s.shown, checkpointPath s.dir cp.replayID = checkpointPath s.dir id
        ∧ Holds J s'.files (checkpointPath s.dir id) cp) : s'.Whole J := by
  intro id
  rcases hfiles id with hsame | ⟨cp, hcp, hpath, hput⟩
  · rw [load_congr hdir hsame, hdir]
    rcases h id with hnone | ⟨cp, hcp, hload⟩
    · exact .inl hnone
    · exact .inr ⟨cp, hshown cp hcp, hload⟩
  · rw [← hdir] at hput hpath
    exact .inr ⟨cp, hshown cp hcp, load_of_holds hput, hpath⟩

/-- A flush does nothing, or takes a copy of a checkpoint that was updated. -/
theorem flush_cases (s : Checkpointer) :
    (s.dirty = false ∨ s.current = none) ∧ s.flush = s
      ∨ ∃ cp, s.current = some cp ∧ s.dirty = true ∧
        s.flush = { s with dirty := false, writing := some (.marshal cp) } := by
  unfold flush
  split
  · exact .inl ⟨.inr ‹_›, rfl⟩
  · rename_i cp hcp
    split
    · exact .inr ⟨cp, hcp, ‹_›, rfl⟩
    · rename_i hdirty
      exact .inl ⟨.inl (Bool.eq_false_of_not_eq_true hdirty), rfl⟩

theorem intact_flush (hi : s.Intact J) : s.flush.Intact J := by
  rcases s.flush_cases with ⟨_, hflush⟩ | ⟨cp, hcp, _, hflush⟩
  · rw [hflush]
    exact hi
  · rw [hflush]
    obtain ⟨hshown, hl⟩ := hi.current cp hcp
    refine ⟨hi.whole, hi.current, fun w hw => ?_⟩
    cases hw
    exact ⟨hshown, hl, trivial⟩

/-- **A step keeps the checkpoints whole, whatever fails.** -/
theorem intact_act (hi : s.Intact J) (hok : Recordable a s) (h : s.act J a = some s') :
    s'.Intact J := by
  cases a with
  | start initial =>
      obtain ⟨-, rfl⟩ := Option.ite_some_none_eq_some.mp h
      refine ⟨hi.whole.of_files rfl (fun cp hcp => List.mem_append_right _ hcp) fun _ => .inl rfl,
        fun cp hcp => ?_, fun w hw => ?_⟩
      · exact ⟨List.mem_append_left _ (Option.mem_toList.mpr hcp), hok cp hcp⟩
      · obtain ⟨hshown, hrest⟩ := hi.writing w hw
        exact ⟨List.mem_append_right _ hshown, hrest⟩
  | update fn now =>
      simp only [act] at h
      split at h
      · cases h
        exact hi
      · rename_i cp hcp
        cases h
        refine ⟨hi.whole.of_files rfl (fun cp hcp => List.mem_cons_of_mem _ hcp) fun _ => .inl rfl,
          fun cp' hcp' => ?_, fun w hw => ?_⟩
        · cases hcp'
          exact ⟨List.mem_cons_self .., hok cp hcp⟩
        · obtain ⟨hshown, hrest⟩ := hi.writing w hw
          exact ⟨List.mem_cons_of_mem _ hshown, hrest⟩
  | tick =>
      obtain ⟨-, rfl⟩ := Option.ite_some_none_eq_some.mp h
      exact intact_flush hi
  | stop =>
      simp only [act] at h
      split at h
      · cases h
        exact hi
      · obtain ⟨-, rfl⟩ := Option.ite_some_none_eq_some.mp h
        exact ⟨hi.whole, hi.current, hi.writing⟩
  | finish =>
      obtain ⟨-, rfl⟩ := Option.ite_some_none_eq_some.mp h
      exact ⟨(intact_flush hi).whole, (intact_flush hi).current, (intact_flush hi).writing⟩
  | step o =>
      obtain ⟨w, hw, h⟩ := Option.map_eq_some_iff.mp h
      obtain ⟨hshown, hl, hsound⟩ := hi.writing w hw
      split at h
      · rename_i w' files hstep
        subst h
        obtain ⟨hcp, hsound', hsame⟩ := Writing.step_more hsound hstep
        refine ⟨hi.whole.of_files rfl (fun _ h => h) fun id => .inl (hsame id), hi.current,
          fun v hv => ?_⟩
        cases hv
        rw [hcp]
        exact ⟨hshown, hl, hsound'⟩
      · rename_i err files hstep
        subst h
        refine ⟨hi.whole.of_files rfl (fun _ h => h) fun id => ?_, hi.current,
          fun _ hv => nomatch hv⟩
        rcases (Writing.step_done hsound hl hstep).1 id with hsame | hput
        · exact .inl hsame
        · exact .inr ⟨w.cp, hshown, hput⟩

/-! ## Nothing lost -/

/-- Where the last update is: it is marked, being written, or in the file. -/
structure Saved (J : CheckpointCodec) (s : Checkpointer) : Prop where
  quiet : s.stage = .idle ∨ s.stage.hasReturned = true → s.writing = none
  final : s.stage = .final → s.dirty = false
  last : s.stage.hasReturned = false → ∀ cp ∈ s.last, s.current = some cp
  copy : s.dirty = false → ∀ w ∈ s.writing, s.current = some w.cp
  saved : s.stage.hasReturned = false → s.dirty = false → s.writing = none →
    ∀ cp ∈ s.last, s.load J cp.replayID = .ok (some cp)
  durable : s.Durable J

theorem saved_start {initial : Option Checkpoint} (hs : s.Saved J)
    (h : s.act J (.start initial) = some s') : s'.Saved J := by
  obtain ⟨hstage, rfl⟩ := Option.ite_some_none_eq_some.mp h
  have hquiet := hs.quiet hstage
  refine ⟨fun _ => hquiet, nofun, (fun _ _ hcp => nomatch hcp), fun _ w hw => ?_,
    (fun _ _ _ _ hcp => nomatch hcp), nofun⟩
  rw [show s.writing = none from hquiet] at hw
  cases hw

theorem saved_update {fn : Checkpoint → Checkpoint} {now : Time} (hs : s.Saved J)
    (hstage : s.stage ≠ .final) (h : s.act J (.update fn now) = some s') : s'.Saved J := by
  simp only [act] at h
  split at h
  · cases h
    exact hs
  · cases h
    refine ⟨hs.quiet, fun h => absurd h hstage, fun hr cp' hcp' => ?_, nofun, fun _ => nofun,
      fun hr => ?_⟩
    · dsimp only at hr hcp' ⊢
      rw [if_neg (by simp [hr])] at hcp'
      exact hcp'
    · -- what comes after the return does not count
      have hret : s.stage.hasReturned = true := by
        rw [show s.stage = .returned none from hr]
        rfl
      have hlast := hs.durable hr
      intro cp' hcp'
      rw [if_pos hret] at hcp'
      exact hlast cp' hcp'

theorem saved_tick (hs : s.Saved J) (h : s.act J .tick = some s') : s'.Saved J := by
  obtain ⟨hguard, rfl⟩ := Option.ite_some_none_eq_some.mp h
  rcases s.flush_cases with ⟨_, hflush⟩ | ⟨cp, hcp, _, hflush⟩
  · rw [hflush]
    exact hs
  · rw [hflush]
    have hbusy : ¬ (s.stage = .idle ∨ s.stage.hasReturned = true) := by
      rcases hguard.1 with hstage | hstage
      · rw [hstage]
        decide
      · rw [hstage]
        decide
    refine ⟨fun h => absurd h hbusy, fun _ => rfl, hs.last, fun _ w hw => ?_, nofun, hs.durable⟩
    cases hw
    exact hcp

theorem saved_stop (hs : s.Saved J) (h : s.act J .stop = some s') : s'.Saved J := by
  simp only [act] at h
  split at h
  · cases h
    exact hs
  · obtain ⟨hstage, rfl⟩ := Option.ite_some_none_eq_some.mp h
    have hret : s.stage.hasReturned = false := by
      rw [hstage]
      rfl
    exact ⟨nofun, nofun, fun _ => hs.last hret, hs.copy, fun _ => hs.saved hret, nofun⟩

theorem saved_finish (hs : s.Saved J) (h : s.act J .finish = some s') : s'.Saved J := by
  obtain ⟨hguard, rfl⟩ := Option.ite_some_none_eq_some.mp h
  have hret : s.stage.hasReturned = false := by
    rw [hguard.1]
    rfl
  rcases s.flush_cases with ⟨hnone, hflush⟩ | ⟨cp, hcp, _, hflush⟩
  · rw [hflush, if_pos hguard.2]
    refine ⟨fun _ => hguard.2, nofun, nofun, hs.copy, nofun, fun _ cp hcp => ?_⟩
    rcases hnone with hclean | hnone
    · exact hs.saved hret hclean hguard.2 cp hcp
    · have := hs.last hret cp hcp
      rw [hnone] at this
      cases this
  · rw [hflush, if_neg nofun]
    refine ⟨nofun, fun _ => rfl, fun _ => hs.last hret, fun _ w hw => ?_,
      (fun _ _ hw => nomatch hw),
      nofun⟩
    cases hw
    exact hcp

theorem saved_step (hi : s.Intact J) (hs : s.Saved J)
    (hok : s.stage = .final ∨ s.dirty = true ∨ ∀ w ∈ s.writing, ¬ w.Fails J o)
    (h : s.act J (.step o) = some s') : s'.Saved J := by
  obtain ⟨w, hw, h⟩ := Option.map_eq_some_iff.mp h
  obtain ⟨_, hl, hsound⟩ := hi.writing w hw
  have hbusy : ¬ (s.stage = .idle ∨ s.stage.hasReturned = true) := by
    intro hquiet
    rw [hs.quiet hquiet] at hw
    cases hw
  have hret : s.stage.hasReturned = false := Bool.eq_false_of_not_eq_true fun h => hbusy (.inr h)
  have hdur : ∀ e, s.stage ≠ .returned e := by
    intro e he
    rw [he] at hret
    cases hret
  split at h
  · rename_i w' files hstep
    subst h
    obtain ⟨hcp, _, hsame⟩ := Writing.step_more hsound hstep
    refine ⟨fun h => absurd h hbusy, hs.final, hs.last, fun hclean v hv => ?_,
      (fun _ _ hw => nomatch hw),
      fun h => absurd h (hdur none)⟩
    cases hv
    rw [hcp]
    exact hs.copy hclean w hw
  · rename_i err files hstep
    subst h
    obtain ⟨_, hput, hfails⟩ := Writing.step_done hsound hl hstep
    -- a copy that is still the current checkpoint, and was written
    have hload : err = none → s.dirty = false → ∀ cp ∈ s.last, ∀ stage,
        ({ s with writing := none, files, stage } : Checkpointer).load J cp.replayID
          = .ok (some cp) := by
      intro herr hclean cp hcp stage
      have hsame : some cp = some w.cp := (hs.last hret cp hcp).symm.trans (hs.copy hclean w hw)
      cases hsame
      exact load_of_holds (hput herr)
    by_cases hstage : s.stage = .final
    · rw [if_pos hstage]
      refine ⟨fun _ => rfl, nofun, nofun, (fun _ _ hw => nomatch hw), nofun, fun herr cp hcp => ?_⟩
      cases herr
      exact hload rfl (hs.final hstage) cp hcp _
    · rw [if_neg hstage]
      refine ⟨fun _ => rfl, hs.final, hs.last, (fun _ _ hw => nomatch hw),
        fun _ hclean _ cp hcp => ?_,
        fun h => absurd h (hdur none)⟩
      have herr : err = none := by
        rcases hok with hfinal | hdirty | hgood
        · exact absurd hfinal hstage
        · rw [show s.dirty = false from hclean] at hdirty
          cases hdirty
        · by_contra hne
          exact hgood w hw (hfails hne)
      exact hload herr hclean cp hcp _

/-- **A step that is heeded loses no update.** -/
theorem saved_act (hi : s.Intact J) (hs : s.Saved J) (hok : Heeded J a s)
    (h : s.act J a = some s') : s'.Saved J := by
  cases a with
  | start initial => exact saved_start hs h
  | update fn now => exact saved_update hs hok.2 h
  | tick => exact saved_tick hs h
  | stop => exact saved_stop hs h
  | finish => exact saved_finish hs h
  | step o => exact saved_step hi hs hok.2 h

theorem saved_new {earlier : List Checkpoint} : (new dir files earlier).Saved J :=
  ⟨fun _ => rfl, nofun, (fun _ _ hcp => nomatch hcp), (fun _ _ hw => nomatch hw),
    (fun _ _ _ _ hcp => nomatch hcp), nofun⟩

section

variable {earlier : List Checkpoint} (hfiles : (new dir files earlier).Whole J)

include hfiles

theorem intact_new : (new dir files earlier).Intact J :=
  ⟨hfiles, nofun, fun _ hw => nomatch hw⟩

/-- **`Load` never gives a part of a checkpoint, whatever fails. And while updates do not come
during the last write, and a write fails only after another update, a `Stop` that returns nil has
saved the last one.** -/
theorem checkpoint_kept :
    (∀ s, Steps.Reach (act J) Recordable (new dir files earlier) s → s.Whole J)
      ∧ ∀ s, Steps.Reach (act J) (Heeded J) (new dir files earlier) s → s.Durable J := by
  refine ⟨fun s h => ?_, fun s h => ?_⟩
  · have hi : s.Intact J :=
      h.holds (intact_new hfiles) fun a s s' hok hact hi => intact_act hi hok hact
    exact hi.whole
  · have hboth : s.Intact J ∧ s.Saved J := by
      refine h.holds (I := fun s => s.Intact J ∧ s.Saved J) ⟨intact_new hfiles, saved_new⟩ ?_
      rintro a s s' hok hact ⟨hi, hs⟩
      exact ⟨intact_act hi hok.1 hact, saved_act hi hs hok hact⟩
    exact hboth.2.durable

end

/-- A nightly replay that has got to an object. -/
def nightly (key : Str) (now : Time) : Checkpoint :=
  ⟨lit "nightly", lit "checkout", key, [], 0, 0, 0, 0, 0, now, 0, ⟨.unlimited, 0, 1, 8, lit "s3"⟩⟩

/-- What `json.MarshalIndent` writes of it. -/
def nightlyText (key : Str) (now : Time) : Str :=
  lit "\x7b\n  \"replayId\": \"nightly\",\n  \"captureId\": \"checkout\",\n  \"lastObjectKey\": \""
    ++ key
    ++ lit "\",\n  \"lastRequestId\": \"\",\n  \"requestsSent\": 0,\n  \"requestsErrored\": 0,\n"
    ++ lit "  \"requestsFiltered\": 0,\n  \"bytesProcessed\": 0,\n  \"startTime\": \""
    ++ Rfc3339.format 0
    ++ lit "\",\n  \"lastUpdate\": \"" ++ Rfc3339.format now
    ++ lit "\",\n  \"elapsedDuration\": 0,\n  \"engineParams\": \x7b\n    \"rateMode\": 2,\n"
    ++ lit "    \"timeScale\": 1,\n    \"concurrency\": 8,\n"
    ++ lit "    \"storageType\": \"s3\"\n  \x7d\n\x7d"

def nightlyCodec : CheckpointCodec :=
  .ofTable [(nightly (lit "a") second, nightlyText (lit "a") second),
      (nightly (lit "b") (2 * second), nightlyText (lit "b") (2 * second))]
    (by decide +kernel)

def diskFull : Outcome := .failed (.new "no space left on device") 0

def updateObjectKey (key : Str) (cp : Checkpoint) : Checkpoint := { cp with lastObjectKey := key }

theorem nightly_kept :
    ∃ s, Steps.Reach (act nightlyCodec) (Heeded nightlyCodec)
      (new (lit "/ckpt") (fun _ => none) []) s
      ∧ s.stage = .returned none ∧ s.last = some (nightly (lit "b") (2 * second))
      ∧ s.load nightlyCodec (lit "nightly") = .ok (some (nightly (lit "b") (2 * second))) := by
  -- the first file cannot be created, but the second object was reached in the meantime
  obtain ⟨s, hreach, hstage, hlast⟩ :=
    Steps.exists_run (act nightlyCodec) (Heeded nightlyCodec) (new (lit "/ckpt") (fun _ => none) [])
      [.start (some (nightly [] 0)), .update (updateObjectKey (lit "a")) second, .tick, .step .ok,
        .update (updateObjectKey (lit "b")) (2 * second), .step diskFull, .stop, .finish,
        .step .ok, .step .ok, .step .ok, .step .ok, .step .ok, .step .ok]
      (fun s => s.stage = .returned none ∧ s.last = some (nightly (lit "b") (2 * second)))
      (by decide +kernel)
  exact ⟨s, hreach, hstage, hlast, (checkpoint_kept fun _ => .inl rfl).2 s hreach hstage _ hlast⟩

/-- **The disk is full for one tick**, and the object that was reached is on record nowhere when
`Stop` returns nil. -/
theorem nightly_lost :
    ∃ s, Steps.Reach (act nightlyCodec) Recordable (new (lit "/ckpt") (fun _ => none) []) s
      ∧ s.stage = .returned none ∧ s.last = some (nightly (lit "a") second)
      ∧ s.load nightlyCodec (lit "nightly") = .ok none :=
  Steps.exists_run (act nightlyCodec) Recordable (new (lit "/ckpt") (fun _ => none) [])
    [.start (some (nightly [] 0)), .update (updateObjectKey (lit "a")) second, .tick, .step .ok,
      .step diskFull, .stop, .finish]
    (fun s => s.stage = .returned none ∧ s.last = some (nightly (lit "a") second)
      ∧ s.load nightlyCodec (lit "nightly") = .ok none) (by decide +kernel)

end Checkpointer

end Kapture.Replay
