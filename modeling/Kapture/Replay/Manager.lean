import Mathlib.Data.List.AList
import Kapture.Go.Str
import Kapture.Lib.Slots
import Kapture.Lib.Steps

/-!
# The engine manager

A `Manager` keeps one process for each engine that is in use. `Acquire` launches it, `Reload`
replaces it and has the old one drained in the background, `Close` closes them all. A change of a
plugin's binary sets a timer, which reloads the engine when it fires.

A mutex guards the map of engines, and is held while a process is launched. But a process runs
whether or not the mutex is held. A new one is **in the hands of the call that launches it** until
it is in the map, or is closed because its name is not the expected one; and one that is replaced is
in the hands of `Reload` from the moment the mutex is released until the goroutine that drains it is
started. With these two places the account is complete, at every moment of every run
(`processes_accounted`).
-/

namespace Kapture.Replay

open Go

/-- A process of an engine. -/
structure EngineProcess where
  /-- Which launch it came from. -/
  launch : Nat
  /-- `Info.Name`: what it says it is. -/
  name : Str
deriving DecidableEq, Repr

abbrev EngineMap := AList fun _ : Str => EngineProcess

inductive ManagerOp where
  | acquire (name : Str)
  | reload (name : Str)
deriving DecidableEq, Repr

def ManagerOp.name : ManagerOp → Str
  | .acquire name => name
  | .reload name => name

/-- How far a call has come. The states in which it holds the mutex know the map that it found. -/
inductive OpState where
  | called
  | locked (before : EngineMap)
  /-- In `Launch`, which has started the process. -/
  | launching (before : EngineMap) (p : EngineProcess)
  /-- `Launch` has returned. -/
  | launched (before : EngineMap) (p : EngineProcess)
  /-- `Reload` has released the mutex, and has the old process. -/
  | replaced (old : EngineProcess)
  | succeeded
  /-- It returned an error, and left this map. -/
  | failed (before after : EngineMap)

structure ManagerCall where
  op : ManagerOp
  state : OpState

/-- The processes in the hands of a call. -/
def ManagerCall.hands (c : ManagerCall) : List EngineProcess :=
  match c.state with
  | .launching _ p => [p]
  | .launched _ p => [p]
  | .replaced old => [old]
  | _ => []

/-- The map that a call found which holds the mutex. -/
def ManagerCall.found (c : ManagerCall) : Option EngineMap :=
  match c.state with
  | .locked before => some before
  | .launching before _ => some before
  | .launched before _ => some before
  | _ => none

inductive TimerState where
  | waiting
  | stopped
  /-- Its function runs. -/
  | fired
  | done
deriving DecidableEq, Repr

/-- A timer of `scheduleReload`. -/
structure ReloadTimer where
  name : Str
  state : TimerState
deriving DecidableEq, Repr

structure Manager where
  engines : EngineMap
  /-- The call that holds the mutex between two steps. -/
  holder : Option Nat
  calls : List ManagerCall
  /-- What the goroutines of `Reload` drain. -/
  drains : List EngineProcess
  /-- What each call of `Close` has still to close. -/
  closing : List (List EngineProcess)
  timers : List ReloadTimer
  pending : AList fun _ : Str => Nat
  /-- The processes that run, of those that were launched. -/
  running : List EngineProcess
  launches : Nat
  /-- No `Acquire` has taken the mutex since `Close` took the engines. -/
  cleared : Bool

inductive ManagerAct where
  | call (op : ManagerOp)
  | lock (i : Nat)
  /-- There is no binary, or `Launch` fails without a process. -/
  | refuse (i : Nat)
  /-- `Launch` starts a process. -/
  | start (i : Nat) (name : Str)
  /-- `Launch` fails, and kills the process. -/
  | abort (i : Nat)
  | ready (i : Nat)
  /-- The call checks the name, and enters the process or closes it. -/
  | enter (i : Nat)
  /-- `Reload` starts the goroutine that drains the old process. -/
  | handOver (i : Nat)
  /-- The goroutine has closed its process. -/
  | drained (k : Nat)
  | close
  /-- `Close` has closed one of its processes. -/
  | closeOne (j : Nat) (p : EngineProcess)
  | schedule (name : Str)
  | fire (k : Nat)
  /-- The function of a timer removes it from `pending`, and calls `Reload`. -/
  | reloadNow (k : Nat)
  /-- A process ends by itself. -/
  | die (p : EngineProcess)

namespace Manager

def new : Manager := ⟨∅, none, [], [], [], [], ∅, [], 0, false⟩

/-- The processes of a map. -/
def processes (m : EngineMap) : List EngineProcess := m.entries.map Sigma.snd

/-- A process ends. -/
def ends (s : Manager) (p : EngineProcess) : Manager :=
  { s with running := s.running.filter (· ≠ p) }

def setCall (s : Manager) (i : Nat) (c : ManagerCall) : Manager :=
  { s with calls := s.calls.set i c }

/-- A call returns an error, and releases the mutex. -/
def failCall (s : Manager) (i : Nat) (op : ManagerOp) (before : EngineMap) : Manager :=
  { s.setCall i ⟨op, .failed before s.engines⟩ with holder := none }

def lock (s : Manager) (i : Nat) : Option Manager :=
  match s.holder, s.calls[i]? with
  | none, some ⟨.acquire name, .called⟩ =>
      if (s.engines.lookup name).isSome then
        some { s.setCall i ⟨.acquire name, .succeeded⟩ with cleared := false }
      else some { s.setCall i ⟨.acquire name, .locked s.engines⟩ with
        holder := some i, cleared := false }
  | none, some ⟨.reload name, .called⟩ =>
      if (s.engines.lookup name).isSome then
        some { s.setCall i ⟨.reload name, .locked s.engines⟩ with holder := some i }
      else some (s.setCall i ⟨.reload name, .succeeded⟩)
  | _, _ => none

def refuse (s : Manager) (i : Nat) : Option Manager :=
  match s.calls[i]? with
  | some ⟨op, .locked before⟩ => some (s.failCall i op before)
  | _ => none

def startLaunch (s : Manager) (i : Nat) (name : Str) : Option Manager :=
  match s.calls[i]? with
  | some ⟨op, .locked before⟩ =>
      some { s.setCall i ⟨op, .launching before ⟨s.launches, name⟩⟩ with
        running := s.running ++ [⟨s.launches, name⟩]
        launches := s.launches + 1 }
  | _ => none

def abort (s : Manager) (i : Nat) : Option Manager :=
  match s.calls[i]? with
  | some ⟨op, .launching before p⟩ => some ((s.ends p).failCall i op before)
  | _ => none

def ready (s : Manager) (i : Nat) : Option Manager :=
  match s.calls[i]? with
  | some ⟨op, .launching before p⟩ => some (s.setCall i ⟨op, .launched before p⟩)
  | _ => none

/-- A process of another name is closed. -/
def enter (s : Manager) (i : Nat) : Option Manager :=
  match s.calls[i]? with
  | some ⟨op, .launched before p⟩ =>
      if p.name ≠ op.name then some ((s.ends p).failCall i op before)
      else
        match op, before.lookup op.name with
        | .acquire name, _ =>
            some { s.setCall i ⟨.acquire name, .succeeded⟩ with
              engines := s.engines.insert name p, holder := none }
        | .reload name, some old =>
            some { s.setCall i ⟨.reload name, .replaced old⟩ with
              engines := s.engines.insert name p, holder := none }
        | .reload _, none => none
  | _ => none

def handOver (s : Manager) (i : Nat) : Option Manager :=
  match s.calls[i]? with
  | some ⟨op, .replaced old⟩ =>
      some { s.setCall i ⟨op, .succeeded⟩ with drains := s.drains ++ [old] }
  | _ => none

def drained (s : Manager) (k : Nat) : Option Manager :=
  match s.drains[k]? with
  | some p => some { s.ends p with drains := s.drains.eraseIdx k }
  | none => none

/-- Stops a timer, unless its function runs already. -/
def stopTimer (timers : List ReloadTimer) (k : Nat) : List ReloadTimer :=
  timers.modify k fun t => if t.state = .waiting then { t with state := .stopped } else t

/-- `Close`, up to the point where it has the engines. -/
def close (s : Manager) : Option Manager :=
  if s.holder = none then
    some { s with
      timers := (s.pending.entries.map Sigma.snd).foldl stopTimer s.timers
      engines := ∅
      closing := s.closing ++ [processes s.engines]
      cleared := true }
  else none

def closeOne (s : Manager) (j : Nat) (p : EngineProcess) : Option Manager :=
  match s.closing[j]? with
  | some l =>
      if p ∈ l then some { s.ends p with closing := s.closing.set j (l.filter (· ≠ p)) } else none
  | none => none

def schedule (s : Manager) (name : Str) : Option Manager :=
  if s.holder = none then
    some { s with
      timers := (match s.pending.lookup name with
        | some k => stopTimer s.timers k
        | none => s.timers) ++ [⟨name, .waiting⟩]
      pending := s.pending.insert name s.timers.length }
  else none

def fire (s : Manager) (k : Nat) : Option Manager :=
  match s.timers[k]? with
  | some ⟨name, .waiting⟩ => some { s with timers := s.timers.set k ⟨name, .fired⟩ }
  | _ => none

def reloadNow (s : Manager) (k : Nat) : Option Manager :=
  match s.holder, s.timers[k]? with
  | none, some ⟨name, .fired⟩ =>
      some { s with
        timers := s.timers.set k ⟨name, .done⟩
        pending := s.pending.erase name
        calls := s.calls ++ [⟨.reload name, .called⟩] }
  | _, _ => none

def act (a : ManagerAct) (s : Manager) : Option Manager :=
  match a with
  | .call op => some { s with calls := s.calls ++ [⟨op, .called⟩] }
  | .lock i => s.lock i
  | .refuse i => s.refuse i
  | .start i name => s.startLaunch i name
  | .abort i => s.abort i
  | .ready i => s.ready i
  | .enter i => s.enter i
  | .handOver i => s.handOver i
  | .drained k => s.drained k
  | .close => s.close
  | .closeOne j p => s.closeOne j p
  | .schedule name => s.schedule name
  | .fire k => s.fire k
  | .reloadNow k => s.reloadNow k
  | .die p => some (s.ends p)

/-! ## Where a process is -/

/-- It is the entry of its own name, or a goroutine drains it, or `Close` closes it. -/
def Kept (s : Manager) (p : EngineProcess) : Prop :=
  s.engines.lookup p.name = some p ∨ p ∈ s.drains ∨ ∃ l ∈ s.closing, p ∈ l

/-- Or a call of `Acquire` or `Reload` that has not returned has it in its hands. -/
def Placed (s : Manager) (p : EngineProcess) : Prop := s.Kept p ∨ ∃ c ∈ s.calls, p ∈ c.hands

structure Sound (s : Manager) : Prop where
  entry : ∀ name p, s.engines.lookup name = some p → p.name = name
  placed : ∀ p ∈ s.running, s.Placed p
  /-- Only the call that holds the mutex is past it, and nobody else changes the map. -/
  mutex : ∀ i c m, s.calls[i]? = some c → c.found = some m → s.holder = some i ∧ m = s.engines
  /-- `Acquire` launches only what is not there. -/
  vacant : ∀ c ∈ s.calls, ∀ m name, c.found = some m → c.op = .acquire name → m.lookup name = none
    ∧ s.cleared = false
  failed : ∀ c ∈ s.calls, ∀ before after, c.state = .failed before after → before = after
  cleared : s.cleared = true → s.engines = ∅

theorem sound_new : new.Sound where
  entry _ _ h := by cases h
  placed _ h := absurd h List.not_mem_nil
  mutex _ _ _ h := by cases h
  vacant _ h := absurd h List.not_mem_nil
  failed _ h := absurd h List.not_mem_nil
  cleared _ := rfl

variable {s s' : Manager} {i : Nat} {old new : ManagerCall} {m : EngineMap} {p : EngineProcess}
  {op : ManagerOp}

/-- A call moves on, and perhaps a process changes places. -/
theorem Sound.placed_set (h : s.Sound) (hi : s.calls[i]? = some old)
    (hcalls : s'.calls = s.calls.set i new) (hrun : ∀ q ∈ s'.running, q ∈ s.running ∨ s'.Placed q)
    (hkept : ∀ q, s.Kept q → s'.Placed q) (hhands : ∀ q ∈ s'.running, q ∈ old.hands → s'.Placed q) :
    ∀ q ∈ s'.running, s'.Placed q := by
  intro q hq
  rcases hrun q hq with hq' | hplaced
  · rcases h.placed q hq' with hk | ⟨c, hc, hqc⟩
    · exact hkept q hk
    · rcases Slots.mem_set_or new hi hc with rfl | hc'
      · exact hhands q hq hqc
      · exact Or.inr ⟨c, hcalls ▸ hc', hqc⟩
  · exact hplaced

/-- A call with nothing in its hands moves on. -/
theorem Sound.placed_idle (h : s.Sound) (hi : s.calls[i]? = some old) (hold : old.hands = [])
    (hcalls : s'.calls = s.calls.set i new) (hrun : s'.running = s.running)
    (hkept : ∀ q, s.Kept q → s'.Kept q) : ∀ q ∈ s'.running, s'.Placed q := by
  refine h.placed_set hi hcalls (fun q hq => Or.inl (hrun ▸ hq))
    (fun q hk => Or.inl (hkept q hk)) ?_
  exact fun q _ hq => absurd (hold ▸ hq) List.not_mem_nil

/-- The mutex, when a call moves on that no other call keeps from it. -/
theorem mutex_set (halone : ∀ j c m, s.calls[j]? = some c → c.found = some m → j = i)
    (hcalls : s'.calls = s.calls.set i new)
    (hnew : ∀ m, new.found = some m → s'.holder = some i ∧ m = s'.engines) :
    ∀ j c m, s'.calls[j]? = some c → c.found = some m → s'.holder = some j ∧ m = s'.engines := by
  intro j c m hj hm
  rw [hcalls] at hj
  rcases Slots.of_getElem?_set hj with ⟨rfl, rfl⟩ | ⟨hne, hj'⟩
  · exact hnew m hm
  · exact absurd (halone j c m hj' hm) hne

/-- Nobody is past the mutex while it is free. -/
theorem Sound.alone_of_free (h : s.Sound) (hfree : s.holder = none) :
    ∀ j c m, s.calls[j]? = some c → c.found = some m → j = i := by
  intro j c m hj hm
  have hhold := (h.mutex j c m hj hm).1
  rw [hfree] at hhold
  cases hhold

/-- Nobody else is past the mutex while a call holds it. -/
theorem Sound.alone_of_found (h : s.Sound) (hi : s.calls[i]? = some old) (hm : old.found = some m) :
    ∀ j c m', s.calls[j]? = some c → c.found = some m' → j = i := by
  intro j c m' hj hm'
  have hhold := (h.mutex j c m' hj hm').1
  rw [(h.mutex i old m hi hm).1] at hhold
  exact (Option.some.inj hhold).symm

theorem ne_of_mem_ends {q : EngineProcess} (h : q ∈ (s.ends p).running) :
    q ∈ s.running ∧ q ≠ p := by
  have hmem := List.mem_filter.mp h
  exact ⟨hmem.1, of_decide_eq_true hmem.2⟩

/-- A call that holds the mutex goes on, without a change to the map. -/
theorem Sound.setCall {st st' : OpState} (h : s.Sound) (hi : s.calls[i]? = some ⟨op, st⟩)
    (hm : ManagerCall.found ⟨op, st⟩ = some m) (hm' : ManagerCall.found ⟨op, st'⟩ = some m)
    (hcalls : s'.calls = s.calls.set i ⟨op, st'⟩) (hengines : s'.engines = s.engines)
    (hholder : s'.holder = s.holder) (hcleared : s'.cleared = s.cleared)
    (hplaced : ∀ q ∈ s'.running, s'.Placed q) : s'.Sound where
  entry := by
    rw [hengines]
    exact h.entry
  placed := hplaced
  mutex := by
    refine mutex_set (h.alone_of_found hi hm) hcalls fun m₁ hm₁ => ?_
    rw [hm'] at hm₁
    cases hm₁
    rw [hholder, hengines]
    exact h.mutex i _ m hi hm
  vacant := by
    rw [hcalls, hcleared]
    refine Slots.forall_set h.vacant fun m₁ name hm₁ hop => ?_
    rw [hm'] at hm₁
    cases hm₁
    exact h.vacant _ (List.mem_of_getElem? hi) m name hm hop
  failed := by
    rw [hcalls]
    refine Slots.forall_set h.failed fun before after hf => ?_
    change st' = _ at hf
    rw [hf] at hm'
    cases hm'
  cleared := by
    rw [hengines, hcleared]
    exact h.cleared

/-- A call fails, and releases the mutex. -/
theorem Sound.failCall {st : OpState} (h : s.Sound) (hi : s.calls[i]? = some ⟨op, st⟩)
    (hm : ManagerCall.found ⟨op, st⟩ = some m)
    (hhands : ∀ q ∈ ManagerCall.hands ⟨op, st⟩, q ∉ s.running) : (s.failCall i op m).Sound where
  entry := h.entry
  placed := by
    refine h.placed_set hi rfl (fun q hq => Or.inl hq) (fun q hk => Or.inl hk) fun q hrun hq => ?_
    exact absurd hrun (hhands q hq)
  mutex := mutex_set (h.alone_of_found hi hm) rfl nofun
  vacant := Slots.forall_set h.vacant nofun
  failed := by
    refine Slots.forall_set h.failed fun before after hf => ?_
    cases hf
    exact (h.mutex i _ m hi hm).2
  cleared := h.cleared

theorem Sound.ends (h : s.Sound) (p : EngineProcess) : (s.ends p).Sound :=
  { h with placed := fun q hq => h.placed q (ne_of_mem_ends hq).1 }

theorem Sound.lock (h : s.Sound) (hs : s.lock i = some s') : s'.Sound := by
  unfold Manager.lock at hs
  split at hs
  · rename_i name hfree hi
    split at hs
    · cases hs
      refine ⟨h.entry, h.placed_idle hi rfl rfl rfl fun q hk => hk,
        mutex_set (h.alone_of_free hfree) rfl nofun, ?_, Slots.forall_set h.failed nofun, nofun⟩
      exact Slots.forall_set (fun c hc m n hm hop => ⟨(h.vacant c hc m n hm hop).1, rfl⟩) nofun
    · rename_i hnone
      cases hs
      refine ⟨h.entry, h.placed_idle hi rfl rfl rfl fun q hk => hk, ?_, ?_,
        Slots.forall_set h.failed nofun, nofun⟩
      · refine mutex_set (h.alone_of_free hfree) rfl fun m hm => ?_
        cases hm
        exact ⟨rfl, rfl⟩
      · refine Slots.forall_set (fun c hc m n hm hop => ⟨(h.vacant c hc m n hm hop).1, rfl⟩)
          fun m n hm hop => ?_
        cases hm
        cases hop
        exact ⟨Option.not_isSome_iff_eq_none.mp hnone, rfl⟩
  · rename_i name hfree hi
    split at hs
    · cases hs
      refine ⟨h.entry, h.placed_idle hi rfl rfl rfl fun q hk => hk, ?_,
        Slots.forall_set h.vacant nofun, Slots.forall_set h.failed nofun, h.cleared⟩
      refine mutex_set (h.alone_of_free hfree) rfl fun m hm => ?_
      cases hm
      exact ⟨rfl, rfl⟩
    · cases hs
      exact ⟨h.entry, h.placed_idle hi rfl rfl rfl fun q hk => hk,
        mutex_set (h.alone_of_free hfree) rfl nofun, Slots.forall_set h.vacant nofun,
        Slots.forall_set h.failed nofun, h.cleared⟩
  · cases hs

theorem Sound.startLaunch {name : Str} (h : s.Sound) (hs : s.startLaunch i name = some s') :
    s'.Sound := by
  unfold Manager.startLaunch at hs
  split at hs
  · rename_i op before hi
    cases hs
    refine h.setCall hi rfl rfl rfl rfl rfl rfl ?_
    refine h.placed_set hi rfl (fun q hq => ?_) (fun q hk => Or.inl hk) fun q _ hq =>
      absurd hq List.not_mem_nil
    rcases List.mem_append.mp hq with hq | hq
    · exact Or.inl hq
    · obtain rfl := List.mem_singleton.mp hq
      exact Or.inr (Or.inr ⟨_, Slots.mem_set hi, List.mem_singleton.mpr rfl⟩)
  · cases hs

theorem Sound.abort (h : s.Sound) (hs : s.abort i = some s') : s'.Sound := by
  unfold Manager.abort at hs
  split at hs
  · rename_i op before p hi
    cases hs
    refine (h.ends p).failCall hi rfl fun q hq hrun => ?_
    exact (ne_of_mem_ends hrun).2 (List.mem_singleton.mp hq)
  · cases hs

theorem Sound.ready (h : s.Sound) (hs : s.ready i = some s') : s'.Sound := by
  unfold Manager.ready at hs
  split at hs
  · rename_i op before p hi
    cases hs
    refine h.setCall hi rfl rfl rfl rfl rfl rfl ?_
    refine h.placed_set hi rfl (fun q hq => Or.inl hq) (fun q hk => Or.inl hk) fun q _ hq => ?_
    exact Or.inr ⟨_, Slots.mem_set hi, hq⟩
  · cases hs

/-- What is in the map stays there when a process is entered, unless it has the same name. -/
theorem kept_insert {q : EngineProcess} (hk : s.Kept q) :
    ({ s with engines := s.engines.insert p.name p } : Manager).Kept q
      ∨ s.engines.lookup p.name = some q := by
  rcases hk with hk | hk
  · by_cases hname : q.name = p.name
    · rw [hname] at hk
      exact Or.inr hk
    · refine Or.inl (Or.inl ?_)
      exact (AList.lookup_insert_ne hname).trans hk
  · exact Or.inl (Or.inr hk)

theorem entry_insert (h : s.Sound) (name : Str) (q : EngineProcess)
    (hq : (s.engines.insert p.name p).lookup name = some q) : q.name = name := by
  by_cases hname : name = p.name
  · subst hname
    rw [AList.lookup_insert] at hq
    cases hq
    rfl
  · rw [AList.lookup_insert_ne hname] at hq
    exact h.entry name q hq

/-- A launched process is entered, and the call takes the process that it replaces. -/
theorem Sound.entered {st : OpState} (h : s.Sound) (hi : s.calls[i]? = some ⟨op, .launched m p⟩)
    (hnone : ManagerCall.found ⟨op, st⟩ = none) (hst : ∀ before after, st ≠ .failed before after)
    (hold : ∀ q, s.engines.lookup p.name = some q → q ∈ ManagerCall.hands ⟨op, st⟩)
    (hcleared : s.cleared = false) :
    ({ s.setCall i ⟨op, st⟩ with engines := s.engines.insert p.name p, holder := none } :
      Manager).Sound where
  entry := entry_insert h
  placed := by
    refine h.placed_set hi rfl (fun q hq => Or.inl hq) (fun q hk => ?_) fun q _ hq => ?_
    · rcases kept_insert (p := p) hk with hk' | hq
      · exact Or.inl hk'
      · exact Or.inr ⟨_, Slots.mem_set hi, hold q hq⟩
    · obtain rfl := List.mem_singleton.mp hq
      exact Or.inl (Or.inl (AList.lookup_insert _))
  mutex := mutex_set (h.alone_of_found hi rfl) rfl fun _ hm => absurd (hnone.symm.trans hm) nofun
  vacant := Slots.forall_set h.vacant fun _ _ hm => absurd (hnone.symm.trans hm) nofun
  failed := Slots.forall_set h.failed fun _ _ hf => absurd hf (hst _ _)
  cleared := fun hc => absurd (hcleared.symm.trans hc) nofun

theorem Sound.enter (h : s.Sound) (hs : s.enter i = some s') : s'.Sound := by
  unfold Manager.enter at hs
  split at hs
  · rename_i op before p hi
    have hfound : ManagerCall.found ⟨op, .launched before p⟩ = some before := rfl
    have hbefore := (h.mutex i _ before hi hfound).2
    split at hs
    · cases hs
      refine (h.ends p).failCall hi rfl fun q hq hrun => ?_
      exact (ne_of_mem_ends hrun).2 (List.mem_singleton.mp hq)
    · rename_i hsame
      have hname : p.name = op.name := not_not.mp hsame
      split at hs
      · rename_i name
        cases hs
        obtain ⟨hvacant, hcleared⟩ := h.vacant _ (List.mem_of_getElem? hi) before name hfound rfl
        subst hname
        subst hbefore
        exact h.entered hi rfl nofun (fun q hq => absurd (hvacant.symm.trans hq) nofun) hcleared
      · rename_i name old hold
        cases hs
        subst hname
        subst hbefore
        refine h.entered hi rfl nofun (fun q hq => ?_) (Bool.eq_false_iff.mpr fun hc => ?_)
        · exact List.mem_singleton.mpr (Option.some.inj (hq.symm.trans hold))
        · rw [h.cleared hc] at hold
          cases hold
      · cases hs
  · cases hs

theorem Sound.handOver (h : s.Sound) (hs : s.handOver i = some s') : s'.Sound := by
  unfold Manager.handOver at hs
  split at hs
  · rename_i op old hi
    cases hs
    refine ⟨h.entry, ?_, ?_, Slots.forall_set h.vacant nofun, Slots.forall_set h.failed nofun,
      h.cleared⟩
    · refine h.placed_set hi rfl (fun q hq => Or.inl hq) (fun q hk => Or.inl ?_) fun q _ hq =>
        Or.inl ?_
      · rcases hk with hk | hk | hk
        · exact Or.inl hk
        · exact Or.inr (Or.inl (List.mem_append_left _ hk))
        · exact Or.inr (Or.inr hk)
      · exact Or.inr (Or.inl (List.mem_append_right _ hq))
    · intro j c m hj hm
      rcases Slots.of_getElem?_set hj with ⟨-, rfl⟩ | ⟨-, hj'⟩
      · cases hm
      · exact h.mutex j c m hj' hm
  · cases hs

theorem Sound.drained {k : Nat} (h : s.Sound) (hs : s.drained k = some s') : s'.Sound := by
  unfold Manager.drained at hs
  split at hs
  · rename_i p hk
    cases hs
    refine { h with placed := fun q hq => ?_ }
    obtain ⟨hrun, hne⟩ := ne_of_mem_ends (s := s) hq
    rcases h.placed q hrun with (hk' | hk' | hk') | hc
    · exact Or.inl (Or.inl hk')
    · refine Or.inl (Or.inr (Or.inl ?_))
      obtain ⟨j, hj⟩ := List.mem_iff_getElem?.mp hk'
      refine List.mem_eraseIdx_iff_getElem?.mpr ⟨j, fun hjk => ?_, hj⟩
      subst hjk
      rw [hk] at hj
      exact hne (Option.some.inj hj).symm
    · exact Or.inl (Or.inr (Or.inr hk'))
    · exact Or.inr hc
  · cases hs

theorem mem_processes {name : Str} (h : m.lookup name = some p) : p ∈ processes m :=
  List.mem_map.mpr ⟨⟨name, p⟩, AList.mem_lookup_iff.mp h, rfl⟩

theorem Sound.close (h : s.Sound) (hs : s.close = some s') : s'.Sound := by
  obtain ⟨hfree, rfl⟩ := Option.ite_some_none_eq_some.mp hs
  have hnobody : ∀ c ∈ s.calls, ∀ m, c.found ≠ some m := by
    intro c hc m hm
    obtain ⟨j, hj⟩ := List.mem_iff_getElem?.mp hc
    have hhold := (h.mutex j c m hj hm).1
    rw [hfree] at hhold
    cases hhold
  refine ⟨nofun, fun q hq => ?_, ?_, ?_, h.failed, fun _ => rfl⟩
  · rcases h.placed q hq with (hk | hk | ⟨l, hl, hk⟩) | hc
    · refine Or.inl (Or.inr (Or.inr ⟨_, List.mem_append_right _ (List.mem_singleton.mpr rfl), ?_⟩))
      exact mem_processes hk
    · exact Or.inl (Or.inr (Or.inl hk))
    · exact Or.inl (Or.inr (Or.inr ⟨l, List.mem_append_left _ hl, hk⟩))
    · exact Or.inr hc
  · exact fun j c m hj hm => absurd hm (hnobody c (List.mem_of_getElem? hj) m)
  · exact fun c hc m name hm _ => absurd hm (hnobody c hc m)

theorem Sound.closeOne {j : Nat} (h : s.Sound) (hs : s.closeOne j p = some s') : s'.Sound := by
  unfold Manager.closeOne at hs
  split at hs
  · rename_i l hl
    obtain ⟨-, rfl⟩ := Option.ite_some_none_eq_some.mp hs
    refine { h with placed := fun q hq => ?_ }
    obtain ⟨hrun, hne⟩ := ne_of_mem_ends (s := s) hq
    rcases h.placed q hrun with (hk | hk | ⟨l', hl', hk⟩) | hc
    · exact Or.inl (Or.inl hk)
    · exact Or.inl (Or.inr (Or.inl hk))
    · refine Or.inl (Or.inr (Or.inr ?_))
      rcases Slots.mem_set_or (l.filter (· ≠ p)) hl hl' with rfl | hmem
      · exact ⟨_, Slots.mem_set hl, List.mem_filter.mpr ⟨hk, decide_eq_true hne⟩⟩
      · exact ⟨l', hmem, hk⟩
    · exact Or.inr hc
  · cases hs

/-- A new call changes nothing yet. -/
theorem Sound.addCall (h : s.Sound) (hengines : s'.engines = s.engines)
    (hholder : s'.holder = s.holder) (hcalls : s'.calls = s.calls ++ [⟨op, .called⟩])
    (hkept : ∀ q, s.Kept q → s'.Kept q) (hrun : s'.running = s.running)
    (hcleared : s'.cleared = s.cleared) : s'.Sound where
  entry := by
    rw [hengines]
    exact h.entry
  placed := by
    intro q hq
    rcases h.placed q (hrun ▸ hq) with hk | ⟨c, hc, hqc⟩
    · exact Or.inl (hkept q hk)
    · exact Or.inr ⟨c, hcalls ▸ List.mem_append_left _ hc, hqc⟩
  mutex := by
    intro j c m hj hm
    rw [hcalls] at hj
    rw [hholder, hengines]
    by_cases hlt : j < s.calls.length
    · rw [List.getElem?_append_left hlt] at hj
      exact h.mutex j c m hj hm
    · rw [List.getElem?_append_right (Nat.le_of_not_lt hlt)] at hj
      obtain rfl := List.mem_singleton.mp (List.mem_of_getElem? hj)
      cases hm
  vacant := by
    rw [hcalls, hcleared]
    exact Slots.forall_append h.vacant nofun
  failed := by
    rw [hcalls]
    exact Slots.forall_append h.failed nofun
  cleared := by
    rw [hengines, hcleared]
    exact h.cleared

/-- **Every step keeps the account.** -/
theorem sound_act {a : ManagerAct} (h : s.Sound) (hs : act a s = some s') : s'.Sound := by
  cases a with
  | call op =>
      cases hs
      exact h.addCall rfl rfl rfl (fun q hk => hk) rfl rfl
  | lock i => exact h.lock hs
  | refuse i =>
      change s.refuse i = some s' at hs
      unfold Manager.refuse at hs
      split at hs
      · rename_i op before hi
        cases hs
        exact h.failCall hi rfl nofun
      · cases hs
  | start i name => exact h.startLaunch hs
  | abort i => exact h.abort hs
  | ready i => exact h.ready hs
  | enter i => exact h.enter hs
  | handOver i => exact h.handOver hs
  | drained k => exact h.drained hs
  | close => exact h.close hs
  | closeOne j p => exact h.closeOne hs
  | schedule name =>
      obtain ⟨-, rfl⟩ := Option.ite_some_none_eq_some.mp hs
      exact { h with }
  | fire k =>
      change s.fire k = some s' at hs
      unfold Manager.fire at hs
      split at hs
      · cases hs
        exact { h with }
      · cases hs
  | reloadNow k =>
      change s.reloadNow k = some s' at hs
      unfold Manager.reloadNow at hs
      split at hs
      · cases hs
        exact h.addCall rfl rfl rfl (fun q hk => hk) rfl rfl
      · cases hs
  | die p =>
      cases hs
      exact h.ends p

/-! ## The result -/

/-- What holds of the processes and the map. -/
structure Accounted (s : Manager) : Prop where
  placed : ∀ p ∈ s.running, s.Placed p
  entry : ∀ name p, s.engines.lookup name = some p → p.name = name
  failed : ∀ c ∈ s.calls, ∀ before after, c.state = .failed before after → before = after
  empty : s.cleared = true → s.engines = ∅

/-- **At every moment of every run, a process that runs is the entry of its own name, or a goroutine
drains it, or `Close` closes it, or a call has it in its hands**; a call that fails leaves the map
as it found it, and until the next `Acquire` the map is empty after `Close`. -/
theorem processes_accounted (h : Steps.Reach act (fun _ _ => True) Manager.new s) :
    s.Accounted := by
  have hsound : s.Sound := h.holds sound_new fun a t t' _ ht hs => sound_act hs ht
  exact ⟨hsound.placed, hsound.entry, hsound.failed, hsound.cleared⟩

/-! ## A reload -/

/-- The `k`-th process of the engine k6. -/
def k6Process (k : Nat) : EngineProcess := ⟨k, lit "k6"⟩

/-- `Acquire`, then `Reload`, up to the point where the mutex is released. -/
def reloadActs : List ManagerAct :=
  [.call (.acquire (lit "k6")), .lock 0, .start 0 (lit "k6"), .ready 0, .enter 0,
    .call (.reload (lit "k6")), .lock 1, .start 1 (lit "k6"), .ready 1, .enter 1]

/-- A process of another name is closed, and the map is as it was. -/
theorem processes_accounted_misnamed : ∃ s, Steps.Reach act (fun _ _ => True) Manager.new s
    ∧ s.engines.lookup (lit "k6") = some (k6Process 1) ∧ s.drains = [k6Process 0]
    ∧ s.running = [k6Process 0, k6Process 1] ∧ s.Accounted := by
  obtain ⟨s, hreach, hentry, hdrains, hrunning⟩ :=
    Steps.exists_run act (fun _ _ => True) Manager.new
      (reloadActs ++ [.handOver 1, .call (.reload (lit "k6")), .lock 2, .start 2 (lit "ghz"),
        .ready 2, .enter 2])
      (fun s => s.engines.lookup (lit "k6") = some (k6Process 1) ∧ s.drains = [k6Process 0]
        ∧ s.running = [k6Process 0, k6Process 1]) (by decide +kernel)
  exact ⟨s, hreach, hentry, hdrains, hrunning, processes_accounted hreach⟩

/-- **When `Reload` has released the mutex, the process that it replaced runs, and is in none of
the three places until the goroutine is started.** -/
theorem replaced_in_no_place : ∃ s, Steps.Reach act (fun _ _ => True) Manager.new s
    ∧ s.holder = none ∧ k6Process 0 ∈ s.running ∧ ¬ s.Kept (k6Process 0) := by
  obtain ⟨s, hreach, hholder, hrun, hentry, hdrains, hclosing⟩ :=
    Steps.exists_run act (fun _ _ => True) Manager.new
      reloadActs
      (fun s => s.holder = none ∧ k6Process 0 ∈ s.running
        ∧ s.engines.lookup (lit "k6") = some (k6Process 1)
        ∧ s.drains = [] ∧ s.closing = []) (by decide +kernel)
  refine ⟨s, hreach, hholder, hrun, fun hk => ?_⟩
  rcases hk with hk | hk | ⟨l, hl, -⟩
  · change s.engines.lookup (lit "k6") = _ at hk
    rw [hentry] at hk
    cases hk
  · rw [hdrains] at hk
    cases hk
  · rw [hclosing] at hl
    cases hl

end Manager

end Kapture.Replay
