import Kapture.Agent.Accounting
import Kapture.Lib.Slots

/-!
# The pending count

The `BufferedWriter` counts the writes since its last flush, and its ticker flushes only if there
are any. The storage writer under it has its own idea of what is left to upload: the lines in its
buffer. Any number of `Write` and `Flush` calls may be under way, and between two of their steps
others go on.

**The count goes to zero before the flush**, and a write whose upload fails is not counted at all.
So a failed upload may leave lines in the buffer that nobody comes back for: the count is zero, and
the ticker passes by until the next write. What saves them is a count that was raised in the
meantime, or a call that has still to count its write or to flush (`Covered`). While that is so
whenever an upload fails, the lines in the buffer are never forgotten.
-/

namespace Kapture.Agent

open Go Storage

/-- How far a call has come. -/
inductive CallStage where
  /-- It is about to write to the storage writer. -/
  | writing (req : CapturedRequest)
  | counting
  /-- It is about to set the count to zero. -/
  | resetting
  /-- It is about to flush the storage writer. -/
  | flushing
  | returned
deriving DecidableEq, Repr

/-- The call will count a write, or flush. -/
def CallStage.owes : CallStage → Bool
  | .counting => true
  | .resetting => true
  | .flushing => true
  | _ => false

/-- The call of the storage writer that comes next. -/
def CallStage.next : CallStage → Option Call
  | .writing req => some (.write req)
  | .flushing => some .flush
  | _ => none

structure BufferedWriter where
  batchSize : Nat
  pending : Nat
  wr : BufferedObjectWriter
  w : World
  /-- The first is the flush of the ticker, the others are calls. -/
  calls : List CallStage

inductive BufferedAct where
  | write (req : CapturedRequest)
  | flush
  | tick
  /-- A call takes its next step. -/
  | step (i : Nat)
deriving DecidableEq, Repr

namespace BufferedWriter

section

variable (env : Storage.Env) (f : WriterFactory) (J : Codec)

/-- `NewBufferedWriter`. -/
def new (batchSize : Int) (wr : BufferedObjectWriter) (w : World) : BufferedWriter :=
  ⟨if batchSize ≤ 0 then 100 else batchSize.toNat, 0, wr, w, [.returned]⟩

/-- One step of `Write` or `Flush`: each of them holds a lock for all of its time. -/
def advance (s : BufferedWriter) : CallStage → CallStage × BufferedWriter
  | .writing req =>
      let r := Storage.write env f J req s.wr s.w
      (if r.1.isOk then .counting else .returned, { s with wr := r.2.1, w := r.2.2 })
  | .counting =>
      (if s.batchSize ≤ s.pending + 1 then .resetting else .returned, { s with
        pending := s.pending + 1 })
  | .resetting => (.flushing, { s with pending := 0 })
  | .flushing =>
      let r := Storage.flush env f s.wr s.w
      (.returned, { s with wr := r.2.1, w := r.2.2 })
  | .returned => (.returned, s)

def act (a : BufferedAct) (s : BufferedWriter) : Option BufferedWriter :=
  match a with
  | .write req => some { s with calls := s.calls ++ [.writing req] }
  | .flush => some { s with calls := s.calls ++ [.resetting] }
  | .tick =>
      -- the loop flushes and only then waits for the next tick
      if s.calls[0]? = some .returned ∧ 0 < s.pending then some { s with
        calls := s.calls.set 0 .resetting } else none
  | .step i => s.calls[i]?.map fun stage =>
      { (s.advance env f J stage).2 with calls := s.calls.set i (s.advance env f J stage).1 }

/-- No call is under way. -/
def Idle (s : BufferedWriter) : Prop := ∀ stage ∈ s.calls, stage = .returned

/-- **Lines that are left in the buffer are counted**, so the next tick flushes. -/
def Remembered (s : BufferedWriter) : Prop := s.Idle → s.wr.buffer ≠ [] → 0 < s.pending

/-- The call uploads the buffer, and the upload fails. -/
def Fails (s : BufferedWriter) (c : Call) : Prop :=
  (c.uploadsAt env J s.wr s.w).isSome = true ∧ env.put s.w.puts ≠ .stored

/-- If the step of a call uploads the buffer and that fails, there is a count, or another call that
will count a write or flush. -/
def Covered : BufferedAct → BufferedWriter → Prop
  | .step i, s => ∀ c ∈ (s.calls[i]?.bind CallStage.next), s.Fails env J c →
      0 < s.pending ∨ (s.calls.set i .returned).any CallStage.owes = true
  | _, _ => True

end

/-! ## What the storage writer does -/

variable {env : Storage.Env} {f : WriterFactory} {J : Codec} {s s' : BufferedWriter}
  {wr : BufferedObjectWriter}
  {w : World} {res : Except Error Unit}

variable {w' : World} {wr' : BufferedObjectWriter}

theorem write_ends {req : CapturedRequest}
    (h : Storage.write env f J req s.wr s.w = (res, wr', w')) :
    wr'.buffer = [] ∨ res = .ok () ∨ wr'.buffer = s.wr.buffer ∨ s.Fails env J (.write req) := by
  rcases exec_cases (c := .write req) h with ⟨-, hok | rfl, -⟩ | ⟨time, hat, -, hup⟩
  · exact .inr (.inl hok)
  · exact .inr (.inr (.inl rfl))
  · rcases hup.ends with ⟨-, -, -, hb⟩ | ⟨madeDir, left, err, -, hput, -⟩
    · exact .inl hb
    · refine .inr (.inr (.inr ⟨by rw [hat]; rfl, ?_⟩))
      rw [hput]
      intro hstored
      cases hstored

theorem flush_ends (hopen : s.wr.closed = false)
    (h : Storage.flush env f s.wr s.w = (res, wr', w')) :
    wr'.buffer = [] ∨ s.Fails env J .flush := by
  rcases exec_cases (J := J) (c := .flush) h with ⟨hat, -, hidle⟩ | ⟨time, hat, -, hup⟩
  · refine .inl ?_
    change (if s.wr.closed || s.wr.buffer.isEmpty then none else some _) = none at hat
    rw [hopen, Bool.false_or] at hat
    split at hat
    · rename_i hempty
      rw [hidle.buffer, List.isEmpty_iff.mp hempty]
      rfl
    · cases hat
  · rcases hup.ends with ⟨-, -, -, hb⟩ | ⟨madeDir, left, err, -, hput, -⟩
    · exact .inl hb
    · refine .inr ⟨by rw [hat]; rfl, ?_⟩
      rw [hput]
      intro hstored
      cases hstored

/-! ## The invariant -/

/-- **Lines in the buffer are counted, or somebody will see to them.** -/
structure Kept (s : BufferedWriter) : Prop where
  opened : s.wr.closed = false
  seen : s.wr.buffer ≠ [] → 0 < s.pending ∨ s.calls.any CallStage.owes = true

theorem Kept.remembered (h : Kept s) : s.Remembered := by
  intro hidle hne
  rcases h.seen hne with hpos | howes
  · exact hpos
  · obtain ⟨stage, hmem, howes⟩ := List.any_eq_true.mp howes
    rw [hidle stage hmem] at howes
    cases howes

theorem owes_set {calls : List CallStage} {i : Nat} {old : CallStage} (hget : calls[i]? = some old)
    (hold : old.owes = false) (h : calls.any CallStage.owes = true) (new : CallStage) :
    (calls.set i new).any CallStage.owes = true := by
  obtain ⟨stage, hmem, howes⟩ := List.any_eq_true.mp h
  rcases Slots.mem_set_or new hget hmem with rfl | hmem
  · rw [hold] at howes
    cases howes
  · exact List.any_eq_true.mpr ⟨stage, hmem, howes⟩

/-- A step of a call keeps it. -/
theorem Kept.step {i : Nat} {stage : CallStage} (h : Kept s) (hget : s.calls[i]? = some stage)
    (hok : Covered env J (.step i) s) :
    Kept { (s.advance env f J stage).2 with
      calls := s.calls.set i (s.advance env f J stage).1 } := by
  rw [Covered, hget, Option.bind_some] at hok
  cases stage with
  | writing req =>
      obtain ⟨res, wr', w', hw⟩ : ∃ res wr' w', Storage.write env f J req s.wr s.w
          = (res, wr', w') := ⟨_, _, _, rfl⟩
      simp only [advance, hw]
      refine ⟨(own_write hw).2.2.trans h.opened, fun hne => ?_⟩
      cases res with
      | ok _ => exact .inr (List.any_eq_true.mpr ⟨.counting, Slots.mem_set hget, rfl⟩)
      | error err =>
          rcases write_ends hw with hnil | hres | hsame | hfails
          · exact absurd hnil hne
          · cases hres
          · rw [hsame] at hne
            exact (h.seen hne).imp_right fun howes => owes_set hget rfl howes _
          · exact hok _ rfl hfails
  | counting => exact ⟨h.opened, fun _ => .inl (Nat.succ_pos _)⟩
  | resetting =>
      exact ⟨h.opened, fun _ => .inr (List.any_eq_true.mpr ⟨.flushing, Slots.mem_set hget, rfl⟩)⟩
  | flushing =>
      obtain ⟨res, wr', w', hf⟩ : ∃ res wr' w', Storage.flush env f s.wr s.w = (res, wr', w') :=
        ⟨_, _, _, rfl⟩
      simp only [advance, hf]
      refine ⟨(own_flush hf).2.2.trans h.opened, fun hne => ?_⟩
      rcases flush_ends h.opened hf with hnil | hfails
      · exact absurd hnil hne
      · exact hok _ rfl hfails
  | returned =>
      exact ⟨h.opened, fun hne => (h.seen hne).imp_right fun howes => owes_set hget rfl howes _⟩

theorem kept_act {a : BufferedAct} (hok : Covered env J a s) (hact : act env f J a s = some s')
    (h : Kept s) : Kept s' := by
  have happend : ∀ stage, Kept { s with calls := s.calls ++ [stage] } := by
    refine fun stage => ⟨h.opened, fun hne => (h.seen hne).imp_right fun howes => ?_⟩
    rw [List.any_append, howes, Bool.true_or]
  cases a with
  | write req =>
      cases hact
      exact happend _
  | flush =>
      cases hact
      exact happend _
  | tick =>
      obtain ⟨htick, rfl⟩ := Option.ite_some_none_eq_some.mp hact
      exact ⟨h.opened, fun hne => (h.seen hne).imp_right fun howes => owes_set htick.1 rfl howes _⟩
  | step i =>
      obtain ⟨stage, hget, rfl⟩ := Option.map_eq_some_iff.mp hact
      exact h.step hget hok

/-- **In every run in which each failed upload is covered, the lines in the buffer are counted
whenever no call is under way.** -/
theorem pending_remembered (captureID : Str) (w₀ : World) (batchSize : Int)
    (hnew : newWriter env f captureID w₀ = (.ok wr, w))
    (h : Steps.Reach (act env f J) (Covered env J) (new batchSize wr w) s) : s.Remembered := by
  have hstart : Kept (new batchSize wr w) := by
    unfold newWriter at hnew
    split at hnew
    · cases hnew
    · cases hnew
      exact ⟨rfl, fun hne => absurd rfl hne⟩
  exact (h.holds hstart fun a s s' hok hact hs => kept_act hok hact hs).remembered

/-! ## An outage -/

instance (s : BufferedWriter) (c : Call) : Decidable (s.Fails env J c) :=
  inferInstanceAs
    (Decidable ((c.uploadsAt env J s.wr s.w).isSome = true ∧ env.put s.w.puts ≠ .stored))

instance decidableCovered (env : Storage.Env) (J : Codec) :
    (a : BufferedAct) → (s : BufferedWriter) → Decidable (Covered env J a s)
  | .step i, s =>
      inferInstanceAs (Decidable (∀ c ∈ (s.calls[i]?.bind CallStage.next), s.Fails env J c →
      0 < s.pending ∨ (s.calls.set i .returned).any CallStage.owes = true))
  | .write _, _ => .isTrue trivial
  | .flush, _ => .isTrue trivial
  | .tick, _ => .isTrue trivial

instance (s : BufferedWriter) : Decidable s.Idle :=
  inferInstanceAs (Decidable (∀ stage ∈ s.calls, stage = .returned))

/-- The upload of a flush fails, and a request that was written in the meantime is counted. -/
theorem pending_remembered_after_failure :
    newWriter Ledger.outageEnv bucketFactory (lit "shop/cart") emptyWorld
      = (.ok Ledger.outageWriter, emptyWorld.tick)
      ∧ ∃ s, Steps.Reach (act Ledger.outageEnv bucketFactory getCodec)
        (Covered Ledger.outageEnv getCodec)
          (new 2 Ledger.outageWriter emptyWorld.tick) s
        ∧ s.Idle ∧ s.wr.buffer ≠ [] ∧ s.w.puts = 1 ∧ s.Remembered := by
  refine ⟨rfl, ?_⟩
  obtain ⟨s, hreach, hidle, hne, hputs⟩ :=
    Steps.exists_run (act Ledger.outageEnv bucketFactory getCodec)
      (Covered Ledger.outageEnv getCodec) (new 2 Ledger.outageWriter emptyWorld.tick)
      [.write Storage.getRequest, .step 1, .step 1, .tick, .step 0, .write Storage.getRequest,
        .step 2, .step 2, .step 0]
      (fun s => s.Idle ∧ s.wr.buffer ≠ [] ∧ s.w.puts = 1) (by decide +kernel)
  exact ⟨s, hreach, hidle, hne, hputs, pending_remembered (lit "shop/cart") emptyWorld 2 rfl hreach⟩

/-- **The upload of the ticker's flush fails, and the line in the buffer is forgotten.** -/
theorem pending_forgotten :
    newWriter Ledger.outageEnv bucketFactory (lit "shop/cart") emptyWorld
      = (.ok Ledger.outageWriter, emptyWorld.tick)
      ∧ ∃ s, Steps.Reach (act Ledger.outageEnv bucketFactory getCodec) (fun _ _ => True)
          (new 2 Ledger.outageWriter emptyWorld.tick) s
        ∧ s.Idle ∧ s.wr.buffer = jsonLine getCodec Storage.getRequest ∧ s.pending = 0
        ∧ ¬ s.Remembered := by
  refine ⟨rfl, ?_⟩
  obtain ⟨s, hreach, hidle, hbuf, hzero⟩ :=
    Steps.exists_run (act Ledger.outageEnv bucketFactory getCodec)
      (fun _ _ => True) (new 2 Ledger.outageWriter emptyWorld.tick)
      [.write Storage.getRequest, .step 1, .step 1, .tick, .step 0, .step 0]
      (fun s => s.Idle ∧ s.wr.buffer = jsonLine getCodec Storage.getRequest
        ∧ s.pending = 0) (by decide +kernel)
  refine ⟨s, hreach, hidle, hbuf, hzero, fun hrem => ?_⟩
  have hne : s.wr.buffer ≠ [] := by
    rw [hbuf]
    decide +kernel
  have hpos := hrem hidle hne
  omega

end BufferedWriter

end Kapture.Agent
