import Kapture.Storage.Session

/-!
# Calls on a writer

A session of a writer is a list of calls of `Write`, `Flush` and `Close`, in any order, on
one world. A `Tape` is the writer and the world together with a record of what happened: the
requests that are in the buffer, the uploads that were tried, and the requests that the
writer said it took. Nothing in the code reads the record.

A call tries at most one upload. Whether it does, and under what name, is settled by the
state before the call (`Call.uploadsAt`), and `exec_cases` is **all that a call can do**.
-/

namespace Kapture.Storage

open Go

inductive Call where
  | write (req : CapturedRequest)
  | flush
  | close
deriving DecidableEq, Repr

/-- An upload that was tried. -/
structure Attempt where
  /-- The time in the name of its object. -/
  time : Time
  /-- The number in the name of its object. -/
  seq : Nat
  /-- The requests in its object. -/
  reqs : List CapturedRequest
  outcome : PutOutcome
deriving DecidableEq, Repr

/-- The name of the object. -/
def Attempt.name (f : WriterFactory) (captureID : Str) (a : Attempt) : Str :=
  f.backend.objectName captureID f.agentPod a.time a.seq

/-- Whether an upload, reported as failed or not, left an object. -/
def Attempt.kept (a : Attempt) : Bool := (a.outcome.leaves (.raw [])).isSome

/-- A writer, its world, and what happened. -/
structure Tape where
  wr : BufferedObjectWriter
  w : World
  /-- The requests in the buffer. -/
  pending : List CapturedRequest
  /-- The uploads, in the order they were tried. -/
  attempts : List Attempt
  /-- The requests that went into the buffer. -/
  taken : List CapturedRequest
  /-- The requests whose `Write` returned nil. -/
  accepted : List CapturedRequest

section Definitions

variable (env : Env) (f : WriterFactory) (J : Codec)

def Call.exec : Call → BufferedObjectWriter → World →
    Except Error Unit × BufferedObjectWriter × World
  | .write req => Storage.write env f J req
  | .flush => Storage.flush env f
  | .close => Storage.close env f

/-- The requests that a call puts into the buffer. -/
def Call.takes (c : Call) (wr : BufferedObjectWriter) : List CapturedRequest :=
  match c with
  | .write req =>
      match J.marshal req with
      | .error _ => []
      | .ok _ => if wr.closed then [] else [req]
  | _ => []

/-- The time in the name of the object that a call uploads, if it uploads one. -/
def Call.uploadsAt (c : Call) (wr : BufferedObjectWriter) (w : World) : Option Time :=
  match c with
  | .write req =>
      match J.marshal req with
      | .error _ => none
      | .ok line =>
          if wr.closed then none
          else if wr.maxBufferBytes ≤ (wr.append line).buffer.length then some (env.now w.clock)
          else if wr.flushInterval ≤ (env.now w.clock).sub wr.lastFlush then
            some (env.now (w.clock + 1))
          else none
  | _ => if wr.closed || wr.buffer.isEmpty then none else some (env.now w.clock)

/-- The upload that a call tries. -/
def Tape.tries (t : Tape) (c : Call) : Option Attempt :=
  (c.uploadsAt env J t.wr t.w).map fun time =>
    ⟨time, t.wr.sequence + 1, t.pending ++ c.takes J t.wr, env.put t.w.puts⟩

def Tape.step (t : Tape) (c : Call) : Tape :=
  let r := c.exec env f J t.wr t.w
  { wr := r.2.1
    w := r.2.2
    pending := if (t.tries env J c).any (·.outcome = .stored) then []
      else t.pending ++ c.takes J t.wr
    attempts := t.attempts ++ (t.tries env J c).toList
    taken := t.taken ++ c.takes J t.wr
    accepted := if r.1.isOk then t.accepted ++ c.takes J t.wr else t.accepted }

def Tape.run (t : Tape) (calls : List Call) : Tape := calls.foldl (Tape.step env f J) t

/-- A new session. -/
def Tape.start (wr : BufferedObjectWriter) (w : World) : Tape := ⟨wr, w, [], [], [], []⟩

/-- Every call meets a condition on the state before it. -/
def Tape.Meets (ok : Tape → Call → Prop) : Tape → List Call → Prop
  | _, [] => True
  | t, c :: rest => ok t c ∧ (t.step env f J c).Meets ok rest

instance decidableMeets {ok : Tape → Call → Prop} [∀ t c, Decidable (ok t c)] :
    (t : Tape) → (calls : List Call) → Decidable (t.Meets env f J ok calls)
  | _, [] => .isTrue trivial
  | t, c :: rest =>
      have : Decidable ((t.step env f J c).Meets env f J ok rest) :=
        decidableMeets (t.step env f J c) rest
      inferInstanceAs (Decidable (ok t c ∧ (t.step env f J c).Meets env f J ok rest))

end Definitions

/-! ## What a call can do -/

variable {env : Env} {f : WriterFactory} {J : Codec} {wr wr' : BufferedObjectWriter} {w w' : World}
  {res : Except Error Unit} {c : Call}

/-- A call that uploads nothing. -/
structure Idle (J : Codec) (c : Call) (wr wr' : BufferedObjectWriter) (w w' : World) : Prop where
  store : ∀ k, w'.store.get k = w.store.get k
  captureID : wr'.captureID = wr.captureID
  sequence : wr'.sequence = wr.sequence
  buffer : wr'.buffer = wr.buffer ++ encode J (c.takes J wr)
  closed : wr'.closed = true → wr.closed = true ∧ c.takes J wr = [] ∨ wr'.buffer = []

/-- A call that uploads the buffer, at `time`. -/
structure Uploads (env : Env) (f : WriterFactory) (J : Codec) (c : Call) (time : Time)
    (res : Except Error Unit) (wr wr' : BufferedObjectWriter) (w w' : World) : Prop where
  nonempty : wr.buffer ++ encode J (c.takes J wr) ≠ []
  captureID : wr'.captureID = wr.captureID
  puts : w'.puts = w.puts + 1
  here : w'.store.get (f.backend.objectName wr.captureID f.agentPod time (wr.sequence + 1))
    = ((env.put w.puts).leaves (.gz (.gzip (wr.buffer ++ encode J (c.takes J wr)) none))).or
        (w.store.get (f.backend.objectName wr.captureID f.agentPod time (wr.sequence + 1)))
  elsewhere : ∀ k, k ≠ f.backend.objectName wr.captureID f.agentPod time (wr.sequence + 1) →
    w'.store.get k = w.store.get k
  ends : res = .ok () ∧ env.put w.puts = .stored ∧ wr'.sequence = wr.sequence + 1 ∧ wr'.buffer = []
    ∨ ∃ madeDir left err, res = .error err ∧ env.put w.puts = .failed madeDir left err
        ∧ wr'.sequence = wr.sequence ∧ wr'.buffer = wr.buffer ++ encode J (c.takes J wr)
        ∧ wr'.closed = false

/-- An upload by `flushLocked`, at the next look at the clock. -/
theorem uploads_flushLocked {u : BufferedObjectWriter} {v : World} (hclosed : wr.closed = false)
    (hid : u.captureID = wr.captureID) (hseq : u.sequence = wr.sequence) (hc : u.closed = wr.closed)
    (hb : u.buffer = wr.buffer ++ encode J (c.takes J wr)) (hne : u.buffer ≠ [])
    (hstore : v.store = w.store) (hputs : v.puts = w.puts)
    (h : flushLocked env f u v = (res, wr', w')) :
    Uploads env f J c (env.now v.clock) res wr wr' w w' := by
  rcases flushLocked_cases h with ⟨hnil, _⟩ | ⟨-, x, hu, hres⟩
  · exact absurd hnil hne
  · obtain ⟨-, hp, hhere, helse, -, hends⟩ := upload_ends hu
    have hkept : wr'.captureID = wr.captureID ∧ w'.puts = w.puts + 1
        ∧ ∀ k, w'.store.get k = x.store.get k := by
      rcases hres with ⟨err, -, rfl, rfl⟩ | ⟨-, rfl, rfl⟩
      · exact ⟨hid, by rw [hp, ← hputs]; rfl, fun k => rfl⟩
      · exact ⟨hid, by rw [World.tick, hp, ← hputs]; rfl, fun k => rfl⟩
    rw [hid, hseq, hb] at hhere
    rw [hid, hseq] at helse
    change _ = ((env.put v.puts).leaves _).or (v.store.get _) at hhere
    rw [hputs, hstore] at hhere
    refine ⟨hb ▸ hne, hkept.1, hkept.2.1, (hkept.2.2 _).trans hhere, fun k hk => ?_, ?_⟩
    · rw [hkept.2.2, helse k hk]
      exact congrArg (Store.get · k) hstore
    · rcases hends with ⟨hok, hput, -⟩ | ⟨madeDir, left, err, herr, hput, -⟩
      · rcases hres with ⟨err, herr, -, -⟩ | ⟨-, rfl, -⟩
        · rw [hok] at herr
          cases herr
        · exact Or.inl ⟨hok, hputs ▸ hput, congrArg (· + 1) hseq, rfl⟩
      · rcases hres with ⟨err', -, rfl, -⟩ | ⟨hok, -, -⟩
        · exact Or.inr ⟨madeDir, left, err, herr, hputs ▸ hput, hseq, hb, hc.trans hclosed⟩
        · rw [herr] at hok
          cases hok

theorem takes_close : Call.close.takes J wr = [] := rfl

/-- A call that does nothing to the writer but set a flag or a time. -/
theorem idle_of_takes_nil (ht : c.takes J wr = []) (hstore : w'.store = w.store)
    (hid : wr'.captureID = wr.captureID) (hseq : wr'.sequence = wr.sequence)
    (hb : wr'.buffer = wr.buffer) (hc : wr'.closed = true → wr.closed = true ∨ wr'.buffer = []) :
    Idle J c wr wr' w w' := by
  refine ⟨fun k => by rw [hstore], hid, hseq, by rw [ht, hb, encode]; simp, fun h => ?_⟩
  exact (hc h).imp (fun hcl => ⟨hcl, ht⟩) id

variable {req : CapturedRequest}

theorem exec_write_cases (h : write env f J req wr w = (res, wr', w')) :
    (Call.write req).uploadsAt env J wr w = none ∧ (res = .ok () ∨ wr' = wr)
        ∧ Idle J (.write req) wr wr' w w'
      ∨ ∃ time, (Call.write req).uploadsAt env J wr w = some time ∧ wr.closed = false
          ∧ Uploads env f J (.write req) time res wr wr' w w' := by
  rcases write_cases h with ⟨-, rfl, rfl, hno⟩ | ⟨line, hm, hopen, hcases⟩
  · have hnone : (Call.write req).takes J wr' = []
        ∧ (Call.write req).uploadsAt env J wr' w' = none := by
      cases hm : J.marshal req with
      | error err => simp [Call.takes, Call.uploadsAt, hm]
      | ok line => simp [Call.takes, Call.uploadsAt, hm, hno line hm]
    exact Or.inl ⟨hnone.2, Or.inr rfl, idle_of_takes_nil hnone.1 rfl rfl rfl rfl Or.inl⟩
  · have hat : (Call.write req).uploadsAt env J wr w = if wr.Full line then some (env.now w.clock)
        else if wr.Due env w then some (env.now (w.clock + 1)) else none := by
      simp only [Call.uploadsAt, hm, hopen, Bool.false_eq_true, if_false]
    have ht : (Call.write req).takes J wr = [req] := by simp [Call.takes, hm, hopen]
    have hline : encode J ((Call.write req).takes J wr) = line ++ [10] := by
      simp [ht, encode, jsonLine, hm]
    have hb : (wr.append line).buffer = wr.buffer ++ encode J ((Call.write req).takes J wr) := by
      rw [hline]
      rfl
    have hne : (wr.append line).buffer ≠ [] := by
      rw [hb, hline]
      simp
    rcases hcases with ⟨hok, rfl, rfl, hfull, hdue⟩ | ⟨u, ⟨hfull, rfl⟩ | ⟨hfull, hdue, rfl⟩, hf⟩
    · rw [if_neg hfull, if_neg hdue] at hat
      refine Or.inl ⟨hat, Or.inl hok, fun k => rfl, rfl, rfl, hb, fun hcl => ?_⟩
      exact absurd hcl (Bool.eq_false_iff.mp hopen)
    · rw [if_pos hfull] at hat
      exact Or.inr ⟨_, hat, hopen,
        uploads_flushLocked (u := wr.append line) hopen rfl rfl rfl hb hne rfl rfl hf⟩
    · -- the flush looks at the clock once more
      rw [if_neg hfull, if_pos hdue] at hat
      exact Or.inr ⟨_, hat, hopen, uploads_flushLocked (u := wr.append line) (v := w.tick) hopen
        rfl rfl rfl hb hne rfl rfl hf⟩

/-- `Flush` and `Close` of an open writer flush it. -/
theorem exec_flushLocked_cases (ht : c.takes J wr = []) (hopen : wr.closed = false)
    (hat : c.uploadsAt env J wr w = if wr.closed || wr.buffer.isEmpty then none
      else some (env.now w.clock))
    {u : BufferedObjectWriter} (h : flushLocked env f wr w = (res, u, w')) :
    c.uploadsAt env J wr w = none ∧ wr.buffer = [] ∧ res = .ok () ∧ Idle J c wr u w w'
      ∨ ∃ time, c.uploadsAt env J wr w = some time ∧ Uploads env f J c time res wr u w w' := by
  have hb : wr.buffer = wr.buffer ++ encode J (c.takes J wr) := by rw [ht, encode]; simp
  by_cases hnil : wr.buffer = []
  · rcases flushLocked_cases h with ⟨-, hok, rfl, rfl⟩ | ⟨hne, -⟩
    · refine Or.inl
        ⟨by simp [hat, hnil], hnil, hok, idle_of_takes_nil ht rfl rfl rfl rfl fun hcl => ?_⟩
      exact Or.inl hcl
    · exact absurd hnil hne
  · have hat' : c.uploadsAt env J wr w = some (env.now w.clock) := by
      simp [hat, hopen, hnil]
    exact Or.inr ⟨_, hat', uploads_flushLocked hopen rfl rfl rfl hb hnil rfl rfl h⟩

/-- **All that a call can do.** -/
theorem exec_cases (h : c.exec env f J wr w = (res, wr', w')) :
    c.uploadsAt env J wr w = none ∧ (res = .ok () ∨ wr' = wr) ∧ Idle J c wr wr' w w'
      ∨ ∃ time, c.uploadsAt env J wr w = some time ∧ wr.closed = false
          ∧ Uploads env f J c time res wr wr' w w' := by
  cases c with
  | write req => exact exec_write_cases h
  | flush =>
      change Storage.flush env f wr w = _ at h
      unfold Storage.flush at h
      by_cases hc : wr.closed = true
      · rw [if_pos hc] at h
        cases h
        exact Or.inl
          ⟨by simp [Call.uploadsAt, hc], Or.inr rfl, idle_of_takes_nil rfl rfl rfl rfl rfl Or.inl⟩
      · rw [if_neg hc] at h
        have hopen : wr.closed = false := Bool.eq_false_iff.mpr hc
        rcases exec_flushLocked_cases (c := .flush) (J := J) rfl hopen rfl h with
          ⟨hat, -, hok, hidle⟩ | ⟨time, hat, hup⟩
        · exact Or.inl ⟨hat, Or.inl hok, hidle⟩
        · exact Or.inr ⟨time, hat, hopen, hup⟩
  | close =>
      rcases close_cases h with ⟨hc, -, rfl, rfl⟩ | ⟨hopen, u, hf, rfl⟩
      · exact Or.inl
          ⟨by simp [Call.uploadsAt, hc], Or.inr rfl, idle_of_takes_nil rfl rfl rfl rfl rfl Or.inl⟩
      · rcases exec_flushLocked_cases (c := .close) (J := J) rfl hopen rfl hf with
          ⟨hat, hnil, hok, hidle⟩ | ⟨time, hat, hup⟩
        · have hub : u.buffer = [] := by
            rw [hidle.buffer, hnil, takes_close, encode]
            rfl
          refine Or.inl ⟨hat, Or.inl hok, hidle.store, ?_, ?_, ?_, fun _ => Or.inr ?_⟩
          · split <;> exact hidle.captureID
          · split <;> exact hidle.sequence
          · split <;> exact hidle.buffer
          · split <;> exact hub
        · refine Or.inr ⟨time, hat, hopen, hup.nonempty, ?_, hup.puts, hup.here, hup.elsewhere, ?_⟩
          · split <;> exact hup.captureID
          · rcases hup.ends with ⟨rfl, hput, hseq, hb⟩ | ⟨d, left, err, rfl, hput, hseq, hb, hcl⟩
            · exact Or.inl ⟨rfl, hput, hseq, hb⟩
            · exact Or.inr ⟨d, left, err, rfl, hput, hseq, hb, hcl⟩

/-! ## What a call does to the tape -/

variable {t : Tape}

theorem step_idle (hx : c.exec env f J t.wr t.w = (res, wr', w'))
    (hat : c.uploadsAt env J t.wr t.w = none) :
    t.step env f J c = ⟨wr', w', t.pending ++ c.takes J t.wr, t.attempts, t.taken ++ c.takes J t.wr,
      if res.isOk then t.accepted ++ c.takes J t.wr else t.accepted⟩ := by
  simp [Tape.step, Tape.tries, hx, hat]

theorem step_uploads {time : Time} (hx : c.exec env f J t.wr t.w = (res, wr', w'))
    (hat : c.uploadsAt env J t.wr t.w = some time) :
    t.step env f J c = ⟨wr', w',
      if env.put t.w.puts = .stored then [] else t.pending ++ c.takes J t.wr,
      t.attempts ++ [⟨time, t.wr.sequence + 1, t.pending ++ c.takes J t.wr, env.put t.w.puts⟩],
      t.taken ++ c.takes J t.wr,
      if res.isOk then t.accepted ++ c.takes J t.wr else t.accepted⟩ := by
  simp [Tape.step, Tape.tries, hx, hat]

theorem tries_eq_none (hat : c.uploadsAt env J t.wr t.w = none) : t.tries env J c = none := by
  rw [Tape.tries, hat]
  rfl

theorem tries_eq_some {time : Time} (hat : c.uploadsAt env J t.wr t.w = some time) :
    t.tries env J c
      = some ⟨time, t.wr.sequence + 1, t.pending ++ c.takes J t.wr, env.put t.w.puts⟩ := by
  rw [Tape.tries, hat]
  rfl

end Kapture.Storage
