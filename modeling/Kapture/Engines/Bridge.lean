import Kapture.Engines.Builtin

/-!
# The bridge between a host and its engine

In a plugin, `Execute` of the server stands between a gRPC stream and the engine. One loop receives
items from the host and puts them into the feed, another takes events and sends them to the host;
the engine takes from the one channel and puts into the other, as it likes. When the engine returns,
the events are closed, and **the call returns only when both loops have**.

But the receive loop goes on to put items into a feed that nobody reads any more. It gets through
when what is left fits into the buffer of the feed: **an engine that leaves at most so many items
unread never gets the bridge stuck**, whatever it does and whenever it returns. An engine that fails
early in a long capture does: the loop waits for room, the host waits for the call to end, and both
wait until somebody cancels the run.

The engine is anything that takes items, emits events and returns. `E` is the type of its events.
-/

namespace Kapture.Engines

open Go Replay

/-- Where the receive loop is. -/
inductive ReceiveLoop where
  | receiving
  /-- It has an item for the feed. -/
  | pushing (item : FeedItem)
  /-- It has returned, with `recvErr`. -/
  | exited (err : Option Error)
deriving DecidableEq, Repr

/-- The items that the loop has. -/
def ReceiveLoop.holds : ReceiveLoop → Nat
  | .pushing _ => 1
  | _ => 0

/-- Where the send loop is. -/
inductive SendLoop (E : Type) where
  | waiting
  | sending (event : E)
  | exited
deriving DecidableEq, Repr

/-- A call of `Execute`, seen from both ends. -/
structure BridgeRun (E : Type) where
  /-- The context of the stream is done. -/
  cancelled : Bool
  /-- What the host has not sent yet. -/
  rest : List FeedItem
  /-- The host has closed its half of the stream. -/
  halfClosed : Bool
  /-- What is on its way to the plugin, as far as flow control lets it. -/
  up : Chan FeedItem
  receive : ReceiveLoop
  feed : Chan FeedItem
  /-- What the engine has returned, if it has. -/
  engine : Option (Option Error)
  events : Chan E
  send : SendLoop E
  sendErr : Option Error
  /-- What is on its way to the host. -/
  down : Chan E
  /-- What the call has returned, if it has. -/
  returned : Option (Option Error)

inductive BridgeAct (E : Type) where
  | hostSend
  | hostClose
  /-- `Send` fails on the host because the call has ended. -/
  | hostStop
  | hostRecv
  | recvItem
  | recvEnd
  | recvFail (err : Error)
  | push
  /-- The receive loop finds the context done while it has an item. -/
  | quit
  | take
  | sendEvent
  | sendFail (err : Error)
  | sendEnd
  | closeEvents
  | ret
  | engineTake
  | engineEmit (event : E)
  | engineReturn (err : Option Error)
  | cancel
deriving Repr

/-- The steps that are neither the engine's nor a cancellation. -/
def BridgeAct.own {E : Type} : BridgeAct E → Bool
  | .engineTake | .engineEmit _ | .engineReturn _ | .cancel => false
  | _ => true

namespace BridgeRun

variable {E : Type}

/-- The call begins, with so much room on the stream in either direction. -/
def start (window : Nat) (items : List FeedItem) : BridgeRun E where
  cancelled := false
  rest := items
  halfClosed := false
  up := .make _ window
  receive := .receiving
  feed := .make _ feedBuffer
  engine := none
  events := .make _ feedBuffer
  send := .waiting
  sendErr := none
  down := .make _ window
  returned := none

/-! ### The host -/

def hostSend (s : BridgeRun E) : Option (BridgeRun E) :=
  match s.rest with
  | item :: rest =>
      if s.halfClosed || s.returned.isSome then none else (s.up.send item).map fun c => { s with
        rest := rest, up := c }
  | [] => none

def hostClose (s : BridgeRun E) : Option (BridgeRun E) :=
  if s.rest = [] ∧ s.halfClosed = false then some { s with halfClosed := true } else none

def hostStop (s : BridgeRun E) : Option (BridgeRun E) :=
  if (s.returned.isSome ∨ s.cancelled) ∧ s.halfClosed = false then some { s with
    rest := [], halfClosed := true } else none

/-! ### The receive loop -/

/-- The loop returns, and closes the feed. -/
def exitReceive (s : BridgeRun E) (err : Option Error) : BridgeRun E :=
  { s with receive := .exited err, feed := s.feed.close }

def recvItem (s : BridgeRun E) : Option (BridgeRun E) :=
  if s.receive = .receiving then s.up.recv.map fun p => { s with
    receive := .pushing p.1, up := p.2 } else none

def recvEnd (s : BridgeRun E) : Option (BridgeRun E) :=
  if s.receive = .receiving ∧ s.up.buf = [] ∧ s.halfClosed then some (s.exitReceive none) else none

def recvFail (err : Error) (s : BridgeRun E) : Option (BridgeRun E) :=
  if s.receive = .receiving ∧ s.cancelled then some (s.exitReceive (some err)) else none

def push (s : BridgeRun E) : Option (BridgeRun E) :=
  match s.receive with
  | .pushing item => (s.feed.send item).map fun c => { s with receive := .receiving, feed := c }
  | _ => none

def quit (s : BridgeRun E) : Option (BridgeRun E) :=
  match s.receive with
  | .pushing _ => if s.cancelled then some (s.exitReceive none) else none
  | _ => none

/-! ### The send loop -/

/-- An event is taken; after a failure it is dropped. -/
def take (s : BridgeRun E) : Option (BridgeRun E) :=
  match s.send with
  | .waiting => s.events.recv.map fun p => { s with
      events := p.2
      send := if s.sendErr.isSome then .waiting else .sending p.1 }
  | _ => none

def sendEvent (s : BridgeRun E) : Option (BridgeRun E) :=
  match s.send with
  | .sending event => (s.down.send event).map fun c => { s with send := .waiting, down := c }
  | _ => none

def sendFail (err : Error) (s : BridgeRun E) : Option (BridgeRun E) :=
  match s.send with
  | .sending _ =>
      if s.cancelled then some { s with send := .waiting, sendErr := some err } else none
  | _ => none

def sendEnd (s : BridgeRun E) : Option (BridgeRun E) :=
  match s.send with
  | .waiting =>
      if s.events.buf = [] ∧ s.events.closed then some { s with send := .exited } else none
  | _ => none

/-! ### The call -/

def closeEvents (s : BridgeRun E) : Option (BridgeRun E) :=
  if s.engine.isSome ∧ s.events.closed = false then some { s with events := s.events.close }
  else none

/-- Both loops have returned: the engine's error, or that of the send loop, or that of the receive
loop. -/
def ret (s : BridgeRun E) : Option (BridgeRun E) :=
  match s.engine, s.send, s.receive with
  | some execErr, .exited, .exited recvErr =>
      if s.returned.isNone then some { s with returned := some (execErr.or (s.sendErr.or recvErr)) }
      else none
  | _, _, _ => none

/-- One step of whoever takes one. -/
def act (a : BridgeAct E) (s : BridgeRun E) : Option (BridgeRun E) :=
  match a with
  | .hostSend => s.hostSend
  | .hostClose => s.hostClose
  | .hostStop => s.hostStop
  | .hostRecv => s.down.recv.map fun p => { s with down := p.2 }
  | .recvItem => s.recvItem
  | .recvEnd => s.recvEnd
  | .recvFail err => s.recvFail err
  | .push => s.push
  | .quit => s.quit
  | .take => s.take
  | .sendEvent => s.sendEvent
  | .sendFail err => s.sendFail err
  | .sendEnd => s.sendEnd
  | .closeEvents => s.closeEvents
  | .ret => s.ret
  | .engineTake => if s.engine.isNone then s.feed.recv.map fun p => { s with feed := p.2 } else none
  | .engineEmit event =>
      if s.engine.isNone then (s.events.send event).map fun c => { s with events := c } else none
  | .engineReturn err => if s.engine.isNone then some { s with engine := some err } else none
  | .cancel => some { s with cancelled := true }

/-! ## When it gets stuck -/

/-- The engine has returned and the call has not, nobody has cancelled it, and neither the bridge
nor the host can take a step. -/
structure Stuck (s : BridgeRun E) : Prop where
  engine : s.engine.isSome = true
  live : s.cancelled = false
  unreturned : s.returned = none
  blocked : ∀ a, BridgeAct.own a = true → s.act a = none

/-- The items that the engine has not read. -/
def unread (s : BridgeRun E) : Nat :=
  s.feed.buf.length + s.receive.holds + s.up.buf.length + s.rest.length

/-- The engine returns only when what it leaves unread fits into the feed. -/
def Thorough : BridgeAct E → BridgeRun E → Prop
  | .engineReturn _, s => s.unread ≤ feedBuffer
  | _, _ => True

instance (a : BridgeAct E) (s : BridgeRun E) : Decidable (Thorough a s) := by
  unfold Thorough
  split <;> infer_instance

variable {window : Nat} {s s' : BridgeRun E}

/-- The sizes of the buffers, and what an engine that has returned left unread. -/
structure Sized (window : Nat) (s : BridgeRun E) : Prop where
  up : s.up.cap = window
  down : s.down.cap = window
  feed : s.feed.cap = feedBuffer
  unread : s.engine.isSome = true → s.unread ≤ feedBuffer

/-- A step after which nothing more is unread. -/
theorem Sized.of_le (h : s.Sized window) (hup : s'.up.cap = s.up.cap)
    (hdown : s'.down.cap = s.down.cap) (hfeed : s'.feed.cap = s.feed.cap)
    (hengine : s'.engine = s.engine) (hunread : s'.unread ≤ s.unread) : s'.Sized window where
  up := hup.trans h.up
  down := hdown.trans h.down
  feed := hfeed.trans h.feed
  unread hsome := Nat.le_trans hunread (h.unread (hengine ▸ hsome))

theorem Sized.exitReceive (h : s.Sized window) (err : Option Error) :
    (s.exitReceive err).Sized window := by
  refine h.of_le rfl rfl rfl rfl ?_
  simp only [BridgeRun.unread, BridgeRun.exitReceive, ReceiveLoop.holds, Chan.close]
  omega

theorem Sized.act (h : s.Sized window) {a : BridgeAct E} (hok : Thorough a s)
    (hs : s.act a = some s') : s'.Sized window := by
  cases a with
  | hostSend =>
      simp only [BridgeRun.act, BridgeRun.hostSend] at hs
      split at hs
      · rename_i item rest hrest
        split at hs
        · cases hs
        · obtain ⟨c, hc, rfl⟩ := Option.map_eq_some_iff.mp hs
          obtain ⟨-, -, hbuf, -, hcap⟩ := Chan.send_some hc
          refine h.of_le hcap rfl rfl rfl ?_
          simp only [BridgeRun.unread, hbuf, hrest, List.length_append, List.length_cons,
            List.length_nil]
          omega
      · cases hs
  | hostClose =>
      simp only [BridgeRun.act, hostClose] at hs
      split at hs <;> cases hs
      exact h.of_le rfl rfl rfl rfl (Nat.le_refl _)
  | hostStop =>
      simp only [BridgeRun.act, hostStop] at hs
      split at hs <;> cases hs
      refine h.of_le rfl rfl rfl rfl ?_
      simp only [BridgeRun.unread, List.length_nil]
      omega
  | hostRecv =>
      obtain ⟨⟨event, c⟩, hc, rfl⟩ := Option.map_eq_some_iff.mp hs
      obtain ⟨-, -, -, -, hcap⟩ := Chan.recv_some hc
      exact h.of_le rfl hcap rfl rfl (Nat.le_refl _)
  | recvItem =>
      simp only [BridgeRun.act, recvItem] at hs
      split at hs
      · rename_i hrecv
        obtain ⟨⟨item, c⟩, hc, rfl⟩ := Option.map_eq_some_iff.mp hs
        obtain ⟨-, -, hbuf, -, hcap⟩ := Chan.recv_some hc
        refine h.of_le hcap rfl rfl rfl ?_
        simp only [BridgeRun.unread, hrecv, hbuf, ReceiveLoop.holds, List.length_cons]
        omega
      · cases hs
  | recvEnd =>
      simp only [BridgeRun.act, recvEnd] at hs
      split at hs <;> cases hs
      exact h.exitReceive _
  | recvFail err =>
      simp only [BridgeRun.act, recvFail] at hs
      split at hs <;> cases hs
      exact h.exitReceive _
  | push =>
      simp only [BridgeRun.act, push] at hs
      split at hs
      · rename_i item hrecv
        obtain ⟨c, hc, rfl⟩ := Option.map_eq_some_iff.mp hs
        obtain ⟨-, -, hbuf, -, hcap⟩ := Chan.send_some hc
        refine h.of_le rfl rfl hcap rfl ?_
        simp only [BridgeRun.unread, hrecv, hbuf, ReceiveLoop.holds, List.length_append,
          List.length_cons, List.length_nil]
        omega
      · cases hs
  | quit =>
      simp only [BridgeRun.act, quit] at hs
      split at hs
      · split at hs <;> cases hs
        exact h.exitReceive _
      · cases hs
  | take =>
      simp only [BridgeRun.act, take] at hs
      split at hs
      · obtain ⟨p, -, rfl⟩ := Option.map_eq_some_iff.mp hs
        exact h.of_le rfl rfl rfl rfl (Nat.le_refl _)
      · cases hs
  | sendEvent =>
      simp only [BridgeRun.act, sendEvent] at hs
      split at hs
      · obtain ⟨c, hc, rfl⟩ := Option.map_eq_some_iff.mp hs
        obtain ⟨-, -, -, -, hcap⟩ := Chan.send_some hc
        exact h.of_le rfl hcap rfl rfl (Nat.le_refl _)
      · cases hs
  | sendFail err =>
      simp only [BridgeRun.act, sendFail] at hs
      split at hs
      · split at hs <;> cases hs
        exact h.of_le rfl rfl rfl rfl (Nat.le_refl _)
      · cases hs
  | sendEnd =>
      simp only [BridgeRun.act, sendEnd] at hs
      split at hs
      · split at hs <;> cases hs
        exact h.of_le rfl rfl rfl rfl (Nat.le_refl _)
      · cases hs
  | closeEvents =>
      simp only [BridgeRun.act, closeEvents] at hs
      split at hs <;> cases hs
      exact h.of_le rfl rfl rfl rfl (Nat.le_refl _)
  | ret =>
      simp only [BridgeRun.act, ret] at hs
      split at hs
      · split at hs <;> cases hs
        exact h.of_le rfl rfl rfl rfl (Nat.le_refl _)
      · cases hs
  | engineTake =>
      simp only [BridgeRun.act] at hs
      split at hs
      · obtain ⟨⟨item, c⟩, hc, rfl⟩ := Option.map_eq_some_iff.mp hs
        obtain ⟨-, -, hbuf, -, hcap⟩ := Chan.recv_some hc
        refine h.of_le rfl rfl hcap rfl ?_
        simp only [BridgeRun.unread, hbuf, List.length_cons]
        omega
      · cases hs
  | engineEmit event =>
      simp only [BridgeRun.act] at hs
      split at hs
      · obtain ⟨c, -, rfl⟩ := Option.map_eq_some_iff.mp hs
        exact h.of_le rfl rfl rfl rfl (Nat.le_refl _)
      · cases hs
  | engineReturn err =>
      simp only [BridgeRun.act] at hs
      split at hs <;> cases hs
      exact { h with unread := fun _ => hok }
  | cancel =>
      cases hs
      exact h.of_le rfl rfl rfl rfl (Nat.le_refl _)

/-! ### Somebody can always go on -/

/-- The send loop, or the host that it waits for. -/
theorem Stuck.send_exited (hstuck : s.Stuck) (h : s.Sized window) (hw : 0 < window) :
    s.send = .exited := by
  have hevents : s.events.closed = true := by
    by_contra hopen
    have := hstuck.blocked .closeEvents rfl
    simp [BridgeRun.act, closeEvents, hstuck.engine, Bool.eq_false_iff.mpr hopen] at this
  cases hsend : s.send with
  | exited => rfl
  | waiting =>
      exfalso
      cases hbuf : s.events.buf with
      | nil =>
          have := hstuck.blocked .sendEnd rfl
          simp [BridgeRun.act, sendEnd, hsend, hbuf, hevents] at this
      | cons event rest =>
          obtain ⟨c, hc⟩ := Chan.exists_recv hbuf
          have := hstuck.blocked .take rfl
          simp [BridgeRun.act, take, hsend, hc] at this
  | sending event =>
      exfalso
      by_cases hroom : s.down.buf.length < s.down.cap
      · obtain ⟨c, hc⟩ := Chan.exists_send event hroom
        have := hstuck.blocked .sendEvent rfl
        simp [BridgeRun.act, sendEvent, hsend, hc] at this
      · -- the window is full, so the host has something to receive
        have hdown := h.down
        cases hbuf : s.down.buf with
        | nil =>
            rw [hbuf, List.length_nil] at hroom
            omega
        | cons first rest =>
            obtain ⟨c, hc⟩ := Chan.exists_recv hbuf
            have := hstuck.blocked .hostRecv rfl
            simp [BridgeRun.act, hc] at this

/-- The receive loop, or the host that it waits for. -/
theorem Stuck.receive_pushing (hstuck : s.Stuck) (h : s.Sized window) (hw : 0 < window) :
    ∃ item, s.receive = .pushing item ∧ s.feed.cap ≤ s.feed.buf.length := by
  cases hrecv : s.receive with
  | exited err =>
      exfalso
      obtain ⟨execErr, hengine⟩ := Option.isSome_iff_exists.mp hstuck.engine
      have := hstuck.blocked .ret rfl
      simp [BridgeRun.act, ret, hengine, hrecv, hstuck.send_exited h hw, hstuck.unreturned] at this
  | receiving =>
      exfalso
      cases hbuf : s.up.buf with
      | cons item rest =>
          obtain ⟨c, hc⟩ := Chan.exists_recv hbuf
          have := hstuck.blocked .recvItem rfl
          simp [BridgeRun.act, recvItem, hrecv, hc] at this
      | nil =>
          cases hclosed : s.halfClosed with
          | true =>
              have := hstuck.blocked .recvEnd rfl
              simp [BridgeRun.act, recvEnd, hrecv, hbuf, hclosed] at this
          | false =>
              cases hrest : s.rest with
              | nil =>
                  have := hstuck.blocked .hostClose rfl
                  simp [BridgeRun.act, hostClose, hrest, hclosed] at this
              | cons item rest =>
                  obtain ⟨c, hc⟩ := Chan.exists_send (c := s.up) item (by rw [hbuf, h.up]; exact hw)
                  have := hstuck.blocked .hostSend rfl
                  simp [BridgeRun.act, hostSend, hrest, hclosed, hstuck.unreturned, hc] at this
  | pushing item =>
      refine ⟨item, rfl, Nat.not_lt.mp fun hroom => ?_⟩
      obtain ⟨c, hc⟩ := Chan.exists_send item hroom
      have := hstuck.blocked .push rfl
      simp [BridgeRun.act, push, hrecv, hc] at this

theorem Sized.not_stuck (h : s.Sized window) (hw : 0 < window) : ¬ s.Stuck := by
  intro hstuck
  obtain ⟨item, hrecv, hfull⟩ := hstuck.receive_pushing h hw
  have hunread := h.unread hstuck.engine
  rw [h.feed] at hfull
  simp only [BridgeRun.unread, hrecv, ReceiveLoop.holds] at hunread
  omega

/-- **If the engine returns only when what it leaves unread fits into the feed, the bridge does not
get stuck, in any run.** -/
theorem thorough_never_stuck {items : List FeedItem} (hw : 0 < window)
    (h : Steps.Reach act Thorough (start window items) s) : ¬ s.Stuck := by
  have hsized : s.Sized window := h.holds (I := Sized window) ⟨rfl, rfl, rfl, nofun⟩
    fun _ _ _ hok hact hsized => hsized.act hok hact
  exact hsized.not_stuck hw

/-- An engine returns after an item that it has not read. -/
theorem thorough_with_one_unread :
    ∃ s : BridgeRun Unit, Steps.Reach act Thorough (start 1 [BuiltinRun.firstItem]) s
    ∧ s.engine = some none ∧ s.unread = 1 ∧ s.cancelled = false ∧ s.returned = none
    ∧ ¬ s.Stuck := by
  obtain ⟨s, hreach, hengine, hunread, hlive, hopen⟩ := Steps.exists_run (act (E := Unit)) Thorough
    (start 1 [BuiltinRun.firstItem]) [.hostSend, .recvItem, .engineReturn none]
    (fun s => s.engine = some none ∧ s.unread = 1 ∧ s.cancelled = false
      ∧ s.returned = none) (by decide +kernel)
  exact ⟨s, hreach, hengine, hunread, hlive, hopen, thorough_never_stuck Nat.one_pos hreach⟩

/-- The receive loop waits for room in a feed that nobody reads, and everything else is done. -/
theorem stuck_of_full {item : FeedItem} (hengine : s.engine.isSome = true)
    (hlive : s.cancelled = false) (hunreturned : s.returned = none)
    (hevents : s.events.closed = true) (hsend : s.send = .exited)
    (hrecv : s.receive = .pushing item) (hfull : s.feed.buf.length = s.feed.cap)
    (hclosed : s.halfClosed = true) (hrest : s.rest = []) (hdown : s.down.buf = []) : s.Stuck := by
  have hpush : s.feed.send item = none := dif_neg (by omega)
  have hhost : s.down.recv = none := Chan.recv_of_buf_nil hdown
  refine ⟨hengine, hlive, hunreturned, fun a ha => ?_⟩
  cases a with
  | hostSend => simp [BridgeRun.act, hostSend, hrest]
  | hostClose => simp [BridgeRun.act, hostClose, hclosed]
  | hostStop => simp [BridgeRun.act, hostStop, hclosed]
  | hostRecv => simp [BridgeRun.act, hhost]
  | recvItem => simp [BridgeRun.act, recvItem, hrecv]
  | recvEnd => simp [BridgeRun.act, recvEnd, hrecv]
  | recvFail err => simp [BridgeRun.act, recvFail, hrecv]
  | push => simp [BridgeRun.act, push, hrecv, hpush]
  | quit => simp [BridgeRun.act, quit, hrecv, hlive]
  | take => simp [BridgeRun.act, take, hsend]
  | sendEvent => simp [BridgeRun.act, sendEvent, hsend]
  | sendFail err => simp [BridgeRun.act, sendFail, hsend]
  | sendEnd => simp [BridgeRun.act, sendEnd, hsend]
  | closeEvents => simp [BridgeRun.act, closeEvents, hevents]
  | ret => simp [BridgeRun.act, ret, hrecv, hsend]
  | _ => cases ha

/-- A capture of one item more than the feed takes. -/
def longCapture : List FeedItem := List.replicate (feedBuffer + 1) BuiltinRun.firstItem

/-- **The engine fails at once, and the call never returns.** -/
theorem early_return_gets_stuck :
    ∃ s : BridgeRun Unit, Steps.Reach act (fun _ _ => True) (start 1 longCapture) s
    ∧ s.engine = some (some (.new "engine not configured")) ∧ s.Stuck := by
  obtain ⟨s, hreach, hengine, hlive, hunreturned, hevents, hsend, hrecv, hfull, hclosed, hrest,
      hdown⟩ :=
    Steps.exists_run (act (E := Unit)) (fun _ _ => True) (start 1 longCapture)
      ([.engineReturn (some (.new "engine not configured")), .closeEvents, .sendEnd]
        ++ (List.replicate feedBuffer [.hostSend, .recvItem, .push]).flatten
        ++ [.hostSend, .recvItem, .hostClose])
      (fun s => s.engine = some (some (.new "engine not configured")) ∧ s.cancelled = false
        ∧ s.returned = none
        ∧ s.events.closed = true ∧ s.send = .exited ∧ s.receive = .pushing BuiltinRun.firstItem
        ∧ s.feed.buf.length = s.feed.cap ∧ s.halfClosed = true ∧ s.rest = []
        ∧ s.down.buf = []) (by decide +kernel)
  exact ⟨s, hreach, hengine,
    stuck_of_full (by rw [hengine]; rfl) hlive hunreturned hevents hsend hrecv hfull hclosed
    hrest hdown⟩

end BridgeRun

end Kapture.Engines
