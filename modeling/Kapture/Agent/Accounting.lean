import Kapture.Agent.Capture
import Kapture.Lib.Chan
import Kapture.Lib.Steps
import Kapture.Storage.Restart

/-!
# What becomes of a captured request

A request goes through four hands: `CaptureHandler.Handle` filters it or hands it on,
`AsyncWriter` queues it or drops it, `BufferedWriter` writes it and flushes after every so many
writes, and the storage writer puts it into its buffer and uploads the buffer now and then. The
goroutine of the `AsyncWriter` counts a write error for each request whose write failed, and logs
that the capture was lost.

A write also fails if the upload does that it happens to set off, and then the request is not
lost: it is in the buffer, and the next upload stores it. So the books balance only in runs in
which **no upload that a write sets off fails**, every body can be read, and no failed upload
leaves an object behind that the next one does not replace (`accounting_exact`). Uploads that the
ticker or `Close` sets off may fail.
-/

namespace Kapture.Agent

open Go Storage

/-! ## The pipeline -/

/-- What the goroutine of the `AsyncWriter` is about to do. -/
inductive Storing where
  | receiving
  /-- `BufferedWriter.Write` has written the request and has to flush. -/
  | flushing (req : CapturedRequest)
deriving DecidableEq, Repr

/-- How far `AsyncWriter.Close` has come. -/
inductive CloseStage where
  | open
  | queueClosed
  /-- The goroutine has ended. -/
  | drained
  /-- `BufferedWriter.Close` has stopped its ticker and flushed. -/
  | flushed
  /-- The storage writer's `Close` has returned. -/
  | closed (err : Option Error)
deriving DecidableEq, Repr

structure Ledger where
  requestsTotal : Nat
  requestsFiltered : Nat
  requestsDropped : Nat
  queue : Chan CapturedRequest
  dropped : Nat
  writeErrors : Nat
  /-- The writes of the `BufferedWriter` since its last flush. -/
  pending : Nat
  storing : Storing
  /-- The ticker is about to flush. -/
  ticking : Bool
  tape : Tape
  stage : CloseStage
  /-- The requests that were counted as write errors. -/
  lost : List CapturedRequest

inductive LedgerAct where
  | handle (id : Str) (now : Time) (sample : Int64) (req : CapturedHTTPRequest)
  /-- The goroutine takes a request and writes it. -/
  | store
  /-- It flushes because enough were written. -/
  | flushBatch
  | tick
  | tickFlush
  | closeQueue
  | exit
  | finalFlush
  | close
deriving DecidableEq, Repr

/-- The error of a call, if it returned one. -/
def errorOf (r : Except Error Unit) : Option Error :=
  match r with
  | .ok () => none
  | .error err => some err

namespace Ledger

section

variable (h : CaptureHandler) (batchSize : Nat) (env : Storage.Env) (f : WriterFactory) (J : Codec)

def start (queueSize : Nat) (wr : BufferedObjectWriter) (w : World) : Ledger :=
  ⟨0, 0, 0, .make _ queueSize, 0, 0, 0, .receiving, false, .start wr w, .open, []⟩

/-- Calls the storage writer. -/
def call (L : Ledger) (c : Call) : Ledger := { L with tape := L.tape.step env f J c }

/-- What the call returns. -/
def resultOf (L : Ledger) (c : Call) : Except Error Unit := (c.exec env f J L.tape.wr L.tape.w).1

/-- `Handle`, with the `Write` of the `AsyncWriter`. -/
def handle (L : Ledger) (id : Str) (now : Time) (sample : Int64)
    (req : CapturedHTTPRequest) : Ledger :=
  let L := { L with requestsTotal := L.requestsTotal + 1 }
  match h.handle id now sample req with
  | .error _ => { L with requestsDropped := L.requestsDropped + 1 }
  | .ok none => { L with requestsFiltered := L.requestsFiltered + 1 }
  | .ok (some captured) =>
      match L.queue.send captured with
      | some q => { L with queue := q }
      | none => { L with requestsDropped := L.requestsDropped + 1, dropped := L.dropped + 1 }

/-- Counts a write error. -/
def fail (L : Ledger) (req : CapturedRequest) : Ledger :=
  { L with storing := .receiving, writeErrors := L.writeErrors + 1, lost := L.lost ++ [req] }

def store (L : Ledger) (req : CapturedRequest) (q : Chan CapturedRequest) : Ledger :=
  let L' := { L.call env f J (.write req) with queue := q }
  match L.resultOf env f J (.write req) with
  | .error _ => L'.fail req
  | .ok () => { L' with
      pending := L.pending + 1
      storing := if batchSize ≤ L.pending + 1 then .flushing req else .receiving }

def flushBatch (L : Ledger) (req : CapturedRequest) : Ledger :=
  let L' := { L.call env f J .flush with pending := 0 }
  match L.resultOf env f J .flush with
  | .error _ => L'.fail req
  | .ok () => { L' with storing := .receiving }

def act (a : LedgerAct) (L : Ledger) : Option Ledger :=
  match a with
  | .handle id now sample req =>
      if L.stage = .open then some (L.handle h id now sample req) else none
  | .store =>
      if L.storing = .receiving then L.queue.recv.map fun x => L.store batchSize env f J x.1 x.2
      else none
  | .flushBatch =>
      match L.storing with
      | .flushing req => some (L.flushBatch env f J req)
      | .receiving => none
  | .tick =>
      if L.ticking = false ∧ 0 < L.pending then some { L with pending := 0, ticking := true }
      else none
  | .tickFlush => if L.ticking then some { L.call env f J .flush with ticking := false } else none
  | .closeQueue =>
      if L.stage = .open then some { L with queue := L.queue.close, stage := .queueClosed }
      else none
  | .exit =>
      if L.stage = .queueClosed ∧ L.queue.buf = [] ∧ L.storing = .receiving then some { L with
        stage := .drained }
      else none
  | .finalFlush =>
      if L.stage = .drained ∧ L.ticking = false then some { L.call env f J .flush with
        pending := 0, stage := .flushed }
      else none
  | .close =>
      if L.stage = .flushed then
        some { L.call env f J .close with stage := .closed (errorOf (L.resultOf env f J .close)) }
      else none

/-- **The books balance**: every request that was handled was filtered, dropped because the queue
was full, counted as a write error or stored; and of those that were taken from the queue, the
write errors are the ones that are not in storage. -/
structure Exact (L : Ledger) : Prop where
  total : L.requestsTotal = L.requestsFiltered + L.dropped + L.writeErrors
    + (L.tape.stored f J).length
  each : ∀ req ∈ L.queue.received, req ∈ L.lost ↔ req ∉ L.tape.stored f J

/-- If the call uploads an object, the upload succeeds. -/
def Uploaded (L : Ledger) (c : Call) : Prop :=
  ∀ a, L.tape.tries env J c = some a → a.outcome = .stored

/-- Bodies can be read, the uploads that a write sets off succeed, and every upload replaces what
failed ones left. -/
def Clean : LedgerAct → Ledger → Prop
  | .handle _ _ sample req, _ => h.Readable sample req
  | .store, L => ∀ req q, L.queue.recv = some (req, q) →
      L.Uploaded env J (.write req) ∧ Replaces env f J L.tape (.write req)
  | .flushBatch, L => L.Uploaded env J .flush ∧ Replaces env f J L.tape .flush
  | .tickFlush, L => Replaces env f J L.tape .flush
  | .finalFlush, L => Replaces env f J L.tape .flush
  | .close, L => Replaces env f J L.tape .close
  | _, _ => True

end

/-! ## What a call of the storage writer returns -/

variable {h : CaptureHandler} {batchSize : Nat} {env : Storage.Env} {f : WriterFactory} {J : Codec}
  {L L' : Ledger}
  {req : CapturedRequest}

theorem ok_of_uploads {c : Call} {time : Time} (hup : L.Uploaded env J c)
    (hat : c.uploadsAt env J L.tape.wr L.tape.w = some time) : L.resultOf env f J c = .ok () := by
  obtain ⟨res, wr', w', hx⟩ : ∃ res wr' w', c.exec env f J L.tape.wr L.tape.w = (res, wr', w') :=
    ⟨_, _, _, rfl⟩
  have hres : L.resultOf env f J c = res := congrArg Prod.fst hx
  have hstored : env.put L.tape.w.puts = .stored := hup _ (tries_eq_some hat)
  rcases exec_cases hx with ⟨hnone, -⟩ | ⟨_, -, -, hu⟩
  · rw [hat] at hnone
    cases hnone
  · rcases hu.ends with ⟨hok, -⟩ | ⟨madeDir, left, err, -, hput, -⟩
    · rw [hres, hok]
    · rw [hstored] at hput
      cases hput

/-- **If the upload that a write sets off succeeds, the write fails only if the request cannot be
encoded.** -/
theorem write_result (hopen : L.tape.wr.closed = false) (hup : L.Uploaded env J (.write req)) :
    L.resultOf env f J (.write req) = .ok () ∧ (Call.write req).takes J L.tape.wr = [req]
      ∨ (∃ err, L.resultOf env f J (.write req) = .error err)
        ∧ (Call.write req).takes J L.tape.wr = [] ∧ ¬ Marshals J req := by
  cases hm : J.marshal req with
  | error err =>
      refine Or.inr ⟨⟨err.wrap "marshal captured request", ?_⟩, by simp [Call.takes, hm], ?_⟩
      · change (Storage.write env f J req L.tape.wr L.tape.w).1 = _
        rw [Storage.write, hm]
      · rintro ⟨line, hl⟩
        rw [hm] at hl
        cases hl
  | ok line =>
      have ht : (Call.write req).takes J L.tape.wr = [req] := by simp [Call.takes, hm, hopen]
      refine Or.inl ⟨?_, ht⟩
      rcases exec_cases (c := .write req) (f := f) rfl with ⟨-, hok | hsame, hidle⟩ | ⟨_, hat, -⟩
      · exact hok
      · -- the line went into the buffer
        have hlen := congrArg List.length hidle.buffer
        rw [hsame, ht, List.length_append] at hlen
        simp [encode, jsonLine, hm] at hlen
      · exact ok_of_uploads hup hat

theorem flush_result (hopen : L.tape.wr.closed = false) (hup : L.Uploaded env J .flush) :
    L.resultOf env f J .flush = .ok () := by
  cases hat : Call.flush.uploadsAt env J L.tape.wr L.tape.w with
  | some time => exact ok_of_uploads hup hat
  | none =>
      have hempty : L.tape.wr.buffer = [] := by
        change (if L.tape.wr.closed || L.tape.wr.buffer.isEmpty then none else some _) = none at hat
        split at hat
        · rename_i hc
          rwa [hopen, Bool.false_or, List.isEmpty_iff] at hc
        · cases hat
      change (Storage.flush env f L.tape.wr L.tape.w).1 = _
      rw [flush_of_open hopen, flushLocked, if_pos hempty]

/-- Only `Close` closes the writer. -/
theorem closed_call {c : Call} (hc : c ≠ .close) :
    (L.call env f J c).tape.wr.closed = L.tape.wr.closed := by
  cases c with
  | write req => exact (own_write rfl).2.2
  | flush => exact (own_flush rfl).2.2
  | close => exact absurd rfl hc

theorem closed_of_close (hres : L.resultOf env f J .close = .ok ()) :
    (L.call env f J .close).tape.wr.closed = true := by
  change (Storage.close env f L.tape.wr L.tape.w).1 = _ at hres
  change (Storage.close env f L.tape.wr L.tape.w).2.1.closed = _
  obtain ⟨res, wr', w', hx⟩ : ∃ res wr' w', Storage.close env f L.tape.wr L.tape.w
      = (res, wr', w') :=
    ⟨_, _, _, rfl⟩
  rw [hx] at hres ⊢
  rcases close_cases hx with ⟨hc, -, rfl, -⟩ | ⟨-, u, -, rfl⟩
  · exact hc
  · dsimp only at hres ⊢
    rw [if_pos hres]

/-! ## The invariant -/

/-- The books during a run. What was taken from the queue went into the buffer of the storage
writer or could not be encoded. -/
structure Balanced (f : WriterFactory) (J : Codec) (L : Ledger) : Prop where
  held : ∃ done lefts, Held f J L.tape done [] lefts
  total : L.requestsTotal = L.requestsFiltered + L.dropped + L.queue.sent.length
  errors : L.writeErrors = L.lost.length
  processed : L.queue.received.length = L.tape.taken.length + L.lost.length
  each : ∀ req ∈ L.queue.received, req ∈ L.tape.taken ∨ req ∈ L.lost
  unencodable : ∀ req ∈ L.lost, ¬ Marshals J req
  opened : (∀ err, L.stage ≠ .closed err) → L.tape.wr.closed = false
  drained : L.stage ≠ .open → L.stage ≠ .queueClosed → L.queue.buf = []
  ended : L.stage = .closed none → L.tape.wr.closed = true
  /-- The goroutine has something in its hands only as long as it runs. -/
  busy : L.storing ≠ .receiving → L.stage = .open ∨ L.stage = .queueClosed

theorem held_call (hwhole : Untorn env) {c : Call} (hr : Replaces env f J L.tape c)
    (hh : ∃ done lefts, Held f J L.tape done [] lefts) :
    ∃ done lefts, Held f J (L.call env f J c).tape done [] lefts := by
  obtain ⟨done, lefts, hheld⟩ := hh
  obtain ⟨done', strays', lefts', hheld', hiff⟩ := hheld.step hwhole c
  obtain rfl : strays' = [] := hiff.mpr ⟨rfl, hr⟩
  exact ⟨done', lefts', hheld'⟩

theorem taken_flush : (L.call env f J .flush).tape.taken = L.tape.taken := List.append_nil _

theorem taken_close : (L.call env f J .close).tape.taken = L.tape.taken := List.append_nil _

/-- A flush moves nothing in the books. -/
theorem Balanced.flush (hb : Balanced f J L) (hwhole : Untorn env)
    (hr : Replaces env f J L.tape .flush) : Balanced f J (L.call env f J .flush) where
  held := held_call hwhole hr hb.held
  total := hb.total
  errors := hb.errors
  processed := by
    rw [taken_flush]
    exact hb.processed
  each := by
    rw [taken_flush]
    exact hb.each
  unencodable := hb.unencodable
  opened := fun h => (closed_call (by decide)).trans (hb.opened h)
  drained := hb.drained
  ended := fun h => (closed_call (by decide)).trans (hb.ended h)
  busy := hb.busy

/-- What the ticker and the batches keep is not in the books. -/
theorem Balanced.congr {pending : Nat} {storing : Storing} {ticking : Bool} (hb : Balanced f J L)
    (hbusy : storing ≠ .receiving → L.storing ≠ .receiving) :
    Balanced f J { L with pending := pending, storing := storing, ticking := ticking } :=
  { hb with busy := fun hs => hb.busy (hbusy hs) }

theorem not_closed_of_running (h : L.stage = .open ∨ L.stage = .queueClosed) (err : Option Error) :
    L.stage ≠ .closed err := by
  intro hc
  rcases h with h | h
  · rw [h] at hc
    cases hc
  · rw [h] at hc
    cases hc

theorem Balanced.handle {id : Str} {now : Time} {sample : Int64} {req : CapturedHTTPRequest}
    (hb : Balanced f J L) (hopen : L.stage = .open) (hok : h.Readable sample req) :
    Balanced f J (L.handle h id now sample req) := by
  have htotal := hb.total
  obtain ⟨r, hr⟩ := CaptureHandler.handle_ok_iff.mpr hok
  unfold Ledger.handle
  dsimp only
  split
  · rename_i err herr
    rw [herr] at hr
    cases hr
  · refine { hb with total := ?_ }
    change L.requestsTotal + 1 = L.requestsFiltered + 1 + L.dropped + L.queue.sent.length
    omega
  · rename_i captured hc
    split
    · rename_i q hq
      obtain ⟨hsent, hrecv, -⟩ := Chan.send_some hq
      have hlen : q.sent.length = L.queue.sent.length + 1 := by rw [hsent, List.length_append]; rfl
      refine { hb with
        total := ?_, processed := ?_, each := ?_, drained := fun h => absurd hopen h }
      · change L.requestsTotal + 1 = L.requestsFiltered + L.dropped + q.sent.length
        omega
      · change q.received.length = _
        rw [hrecv]
        exact hb.processed
      · change ∀ req ∈ q.received, _
        rw [hrecv]
        exact hb.each
    · refine { hb with total := ?_ }
      change L.requestsTotal + 1 = L.requestsFiltered + (L.dropped + 1) + L.queue.sent.length
      omega

variable {q : Chan CapturedRequest}

theorem Balanced.running (hb : Balanced f J L) (hq : L.queue.recv = some (req, q)) :
    L.stage = .open ∨ L.stage = .queueClosed := by
  by_contra hno
  rw [not_or] at hno
  have hbuf := (Chan.recv_some hq).2.2.1
  rw [hb.drained hno.1 hno.2] at hbuf
  cases hbuf

theorem Balanced.store (hb : Balanced f J L) (hwhole : Untorn env)
    (hq : L.queue.recv = some (req, q)) (hup : L.Uploaded env J (.write req))
    (hr : Replaces env f J L.tape (.write req)) :
    Balanced f J (L.store batchSize env f J req q) := by
  obtain ⟨hsent, hrecv, -⟩ := Chan.recv_some hq
  have hrun := hb.running hq
  have hcl := hb.opened (not_closed_of_running hrun)
  have hheld := held_call hwhole hr hb.held
  have hclosed : (L.call env f J (.write req)).tape.wr.closed = false :=
    (closed_call (by simp)).trans hcl
  have htotal : L.requestsTotal = L.requestsFiltered + L.dropped + q.sent.length := hsent ▸ hb.total
  have hlen : q.received.length = L.queue.received.length + 1 := by
    rw [hrecv, List.length_append]
    rfl
  have hprocessed := hb.processed
  have hdrained : L.stage ≠ .open → L.stage ≠ .queueClosed → q.buf = [] :=
    fun h₁ h₂ => (hrun.elim h₁ h₂).elim
  have hended : L.stage = .closed none → (L.call env f J (.write req)).tape.wr.closed = true :=
    fun hc => absurd hc (not_closed_of_running hrun none)
  have htaken : (L.call env f J (.write req)).tape.taken
      = L.tape.taken ++ (Call.write req).takes J L.tape.wr := rfl
  unfold Ledger.store
  rcases write_result (f := f) hcl hup with ⟨hres, htakes⟩ | ⟨⟨err, hres⟩, htakes, hm⟩
  · rw [hres]
    rw [htakes] at htaken
    refine ⟨hheld, htotal, hb.errors, ?_, ?_, hb.unencodable, fun _ => hclosed, hdrained, hended,
      fun _ => hrun⟩
    · change q.received.length = (L.call env f J (.write req)).tape.taken.length + L.lost.length
      rw [htaken, List.length_append, hlen, hprocessed]
      simp only [List.length_singleton]
      omega
    · intro r hr'
      rw [hrecv, List.mem_append, List.mem_singleton] at hr'
      rw [htaken, List.mem_append, List.mem_singleton]
      rcases hr' with hr' | rfl
      · exact (hb.each r hr').imp Or.inl id
      · exact Or.inl (Or.inr rfl)
  · rw [hres]
    rw [htakes, List.append_nil] at htaken
    refine ⟨hheld, htotal, ?_, ?_, ?_, ?_, fun _ => hclosed, hdrained, hended, fun _ => hrun⟩
    · change L.writeErrors + 1 = (L.lost ++ [req]).length
      rw [List.length_append, hb.errors]
      rfl
    · change q.received.length = (L.call env f J (.write req)).tape.taken.length
        + (L.lost ++ [req]).length
      rw [htaken, List.length_append, hlen, hprocessed]
      rfl
    · intro r hr'
      change r ∈ q.received at hr'
      change r ∈ (L.call env f J (.write req)).tape.taken ∨ r ∈ L.lost ++ [req]
      rw [hrecv, List.mem_append, List.mem_singleton] at hr'
      rw [htaken, List.mem_append, List.mem_singleton]
      rcases hr' with hr' | rfl
      · exact (hb.each r hr').imp id Or.inl
      · exact Or.inr (Or.inr rfl)
    · intro r hr'
      change r ∈ L.lost ++ [req] at hr'
      rw [List.mem_append, List.mem_singleton] at hr'
      rcases hr' with hr' | rfl
      · exact hb.unencodable r hr'
      · exact hm

theorem Balanced.flushBatch (hb : Balanced f J L) (hwhole : Untorn env)
    (hs : L.storing = .flushing req) (hup : L.Uploaded env J .flush)
    (hr : Replaces env f J L.tape .flush) : Balanced f J (L.flushBatch env f J req) := by
  have hrun := hb.busy (by rw [hs]; nofun)
  unfold Ledger.flushBatch
  rw [flush_result (hb.opened (not_closed_of_running hrun)) hup]
  exact (hb.flush hwhole hr).congr fun h => absurd rfl h

theorem balanced_start {queueSize : Nat} {wr : BufferedObjectWriter} {w : World}
    (hid : wr.captureID ≠ []) (hbuf : wr.buffer = []) (hopen : wr.closed = false) :
    Balanced f J (start queueSize wr w) where
  held := ⟨_, _, held_start hid hbuf⟩
  total := rfl
  errors := rfl
  processed := rfl
  each := by
    intro req hreq
    cases hreq
  unencodable := by
    intro req hreq
    cases hreq
  opened := fun _ => hopen
  drained := fun h => absurd rfl h
  ended := nofun
  busy := fun h => absurd rfl h

/-- **Every act of a clean run keeps the books balanced.** -/
theorem balanced_act (hwhole : Untorn env) {a : LedgerAct} (hok : Clean h env f J a L)
    (hact : act h batchSize env f J a L = some L') (hb : Balanced f J L) : Balanced f J L' := by
  -- after the goroutine has returned, it has nothing in its hands
  have hidle : L.stage ≠ .open → L.stage ≠ .queueClosed → L.storing = .receiving :=
    fun h₁ h₂ => Classical.byContradiction fun hs => (hb.busy hs).elim h₁ h₂
  cases a with
  | handle id now sample req =>
      obtain ⟨hopen, rfl⟩ := Option.ite_some_none_eq_some.mp hact
      exact hb.handle hopen hok
  | store =>
      obtain ⟨-, hact⟩ := Option.ite_none_right_eq_some.mp hact
      obtain ⟨x, hq, rfl⟩ := Option.map_eq_some_iff.mp hact
      obtain ⟨hup, hr⟩ := hok x.1 x.2 hq
      exact hb.store hwhole hq hup hr
  | flushBatch =>
      simp only [act] at hact
      split at hact
      · rename_i req hs
        cases hact
        exact hb.flushBatch hwhole hs hok.1 hok.2
      · cases hact
  | tick =>
      obtain ⟨-, rfl⟩ := Option.ite_some_none_eq_some.mp hact
      exact hb.congr id
  | tickFlush =>
      obtain ⟨-, rfl⟩ := Option.ite_some_none_eq_some.mp hact
      exact (hb.flush hwhole hok).congr id
  | closeQueue =>
      obtain ⟨hopen, rfl⟩ := Option.ite_some_none_eq_some.mp hact
      refine { hb with
        opened := fun _ => hb.opened ?_, drained := fun _ h => absurd rfl h, ended := nofun,
                       busy := fun _ => Or.inr rfl }
      exact not_closed_of_running (Or.inl hopen)
  | exit =>
      obtain ⟨hg, rfl⟩ := Option.ite_some_none_eq_some.mp hact
      refine { hb with
        opened := fun _ => hb.opened ?_, drained := fun _ _ => hg.2.1, ended := nofun,
                       busy := fun hs => absurd hg.2.2 hs }
      exact not_closed_of_running (Or.inr hg.1)
  | finalFlush =>
      obtain ⟨⟨hstage, -⟩, rfl⟩ := Option.ite_some_none_eq_some.mp hact
      have hb' := hb.flush hwhole hok
      have hopen : L.stage ≠ .open ∧ L.stage ≠ .queueClosed := by
        rw [hstage]
        exact ⟨nofun, nofun⟩
      refine { hb' with
        opened := fun _ => hb'.opened ?_, drained := fun _ _ => hb.drained hopen.1 hopen.2,
                        ended := nofun, busy := fun hs => absurd (hidle hopen.1 hopen.2) hs }
      intro err
      change L.stage ≠ _
      rw [hstage]
      nofun
  | close =>
      obtain ⟨hstage, rfl⟩ := Option.ite_some_none_eq_some.mp hact
      have hopen : L.stage ≠ .open ∧ L.stage ≠ .queueClosed := by
        rw [hstage]
        exact ⟨nofun, nofun⟩
      refine ⟨held_call hwhole hok hb.held, hb.total, hb.errors, ?_, ?_, hb.unencodable, ?_,
        fun _ _ => hb.drained hopen.1 hopen.2, ?_, fun hs => absurd (hidle hopen.1 hopen.2) hs⟩
      · rw [show ((_ : Ledger).tape.taken) = L.tape.taken from taken_close]
        exact hb.processed
      · rw [show ((_ : Ledger).tape.taken) = L.tape.taken from taken_close]
        exact hb.each
      · intro hno
        exact absurd rfl (hno _)
      · intro hnone
        refine closed_of_close ?_
        cases hres : L.resultOf env f J .close with
        | ok u => rfl
        | error err =>
            rw [hres] at hnone
            cases hnone

/-! ## The books at the end -/

/-- Once the storage writer is closed, what it holds is what it took. -/
theorem Balanced.exact (hb : Balanced f J L) (hJ : J.Invertible)
    (hclosed : L.stage = .closed none) : Exact f J L := by
  obtain ⟨done, lefts, hheld⟩ := hb.held
  have hperm := hheld.stored_perm hJ (hb.ended hclosed)
  rw [List.flatMap_nil, List.append_nil] at hperm
  have hbuf : L.queue.buf = [] := hb.drained (by rw [hclosed]; nofun) (by rw [hclosed]; nofun)
  refine ⟨?_, fun req hreq => ⟨fun hlost hstored => ?_, fun hstored => ?_⟩⟩
  · have htotal := hb.total
    rw [Chan.sent_of_buf_nil hbuf, hb.processed] at htotal
    rw [hperm.length_eq, hb.errors]
    omega
  · exact hb.unencodable req hlost (hheld.marshals req (hperm.mem_iff.mp hstored))
  · rcases hb.each req hreq with htaken | hlost
    · exact absurd (hperm.mem_iff.mpr htaken) hstored
    · exact hlost

/-- **In every run in which bodies can be read, the uploads that a write sets off succeed and every
upload replaces what failed ones left, the books balance once `Close` has returned nil.** -/
theorem accounting_exact (captureID : Str) (w₀ : World) {w : World} {wr : BufferedObjectWriter}
    (queueSize : Nat) (hJ : J.Invertible) (hwhole : Untorn env)
    (hnew : newWriter env f captureID w₀ = (.ok wr, w))
    (hreach : Steps.Reach (act h batchSize env f J) (Clean h env f J) (start queueSize wr w) L)
    (hclosed : L.stage = .closed none) : Exact f J L := by
  have hwr : wr.captureID ≠ [] ∧ wr.buffer = [] ∧ wr.closed = false := by
    unfold newWriter at hnew
    split at hnew
    · cases hnew
    · rename_i hne
      cases hnew
      exact ⟨hne, rfl, rfl⟩
  have hb : Balanced f J L := hreach.holds (balanced_start hwr.1 hwr.2.1 hwr.2.2)
    fun a s s' hok hact hs => balanced_act hwhole hok hact hs
  exact hb.exact hJ hclosed

/-! ## An outage -/

instance (L : Ledger) (c : Call) : Decidable (L.Uploaded env J c) :=
  decidable_of_iff (∀ a ∈ (L.tape.tries env J c).toList, a.outcome = .stored)
    (by simp only [Option.mem_toList, Uploaded])

instance decidableClean (h : CaptureHandler) (env : Storage.Env) (f : WriterFactory) (J : Codec) :
    (a : LedgerAct) → (L : Ledger) → Decidable (Clean h env f J a L)
  | .handle _ _ sample req, _ => inferInstanceAs (Decidable (h.Readable sample req))
  | .store, L =>
      decidable_of_iff (∀ x ∈ L.queue.recv.toList,
          L.Uploaded env J (.write x.1) ∧ Replaces env f J L.tape (.write x.1))
        (by simp only [Option.mem_toList, Clean, Prod.forall])
  | .flushBatch, L =>
      inferInstanceAs (Decidable (L.Uploaded env J .flush ∧ Replaces env f J L.tape .flush))
  | .tick, _ => .isTrue trivial
  | .tickFlush, L => inferInstanceAs (Decidable (Replaces env f J L.tape .flush))
  | .closeQueue, _ => .isTrue trivial
  | .exit, _ => .isTrue trivial
  | .finalFlush, L => inferInstanceAs (Decidable (Replaces env f J L.tape .flush))
  | .close, L => inferInstanceAs (Decidable (Replaces env f J L.tape .close))

/-- The first upload fails, and nothing is stored. -/
def outageEnv : Storage.Env :=
  ⟨fun _ => 739618 * dayDuration, fun k => if k = 0 then
    .failed false .nothing (.new "upload s3 object") else .stored⟩

theorem untorn_outageEnv : Untorn outageEnv := by
  intro k madeDir n err h
  unfold outageEnv at h
  dsimp only at h
  split at h
  · cases h
  · cases h

/-- The storage writer of one capture. -/
def outageWriter : BufferedObjectWriter :=
  ⟨lit "shop/cart", defaultFlushInterval, defaultMaxBufferSize, 0, [], false, 739618 * dayDuration⟩

/-- The request of which `getRequest` is the record. -/
def getHTTPRequest : CapturedHTTPRequest := ⟨lit "GET", lit "/", [], ⟨[], none⟩, lit "HTTP", []⟩

/-- The upload of the ticker fails, and the one of `Close` makes up for it. -/
theorem accounting_exact_tick_fails :
    newWriter outageEnv bucketFactory (lit "shop/cart") emptyWorld
      = (.ok outageWriter, emptyWorld.tick)
      ∧ ∃ L, Steps.Reach
        (act (newCaptureHandler ⟨0, none, none⟩) 2 outageEnv bucketFactory getCodec)
          (Clean (newCaptureHandler ⟨0, none, none⟩) outageEnv bucketFactory getCodec)
          (start 4 outageWriter emptyWorld.tick) L
        ∧ L.stage = .closed none ∧ Exact bucketFactory getCodec L := by
  refine ⟨rfl, ?_⟩
  obtain ⟨L, hreach, hclosed⟩ := Steps.exists_run
    (act (newCaptureHandler ⟨0, none, none⟩) 2 outageEnv bucketFactory getCodec)
    (Clean (newCaptureHandler ⟨0, none, none⟩) outageEnv bucketFactory getCodec)
    (start 4 outageWriter emptyWorld.tick)
    [.handle (lit "a") 0 0 getHTTPRequest, .store, .tick, .tickFlush, .closeQueue, .exit,
      .finalFlush, .close]
    (fun L => L.stage = .closed none) (by decide +kernel)
  exact ⟨L, hreach, hclosed,
    accounting_exact (lit "shop/cart") emptyWorld 4 invertible_getCodec untorn_outageEnv rfl hreach
      hclosed⟩

/-- **The upload that a write sets off fails, so the write is counted as an error; the request is
stored all the same.** -/
theorem counted_lost_but_stored : getCodec.Invertible ∧ Untorn outageEnv
    ∧ newWriter outageEnv bucketFactory (lit "shop/cart") emptyWorld
      = (.ok outageWriter, emptyWorld.tick)
    ∧ ∃ L, Steps.Reach (act (newCaptureHandler ⟨0, none, none⟩) 1 outageEnv bucketFactory getCodec)
        (fun _ _ => True) (start 4 outageWriter emptyWorld.tick) L
      ∧ L.stage = .closed none ∧ L.requestsTotal = 1 ∧ L.lost = [Storage.getRequest]
      ∧ L.writeErrors = 1
      ∧ L.tape.stored bucketFactory getCodec = [Storage.getRequest]
      ∧ ¬ Exact bucketFactory getCodec L := by
  refine ⟨invertible_getCodec, untorn_outageEnv, rfl, ?_⟩
  obtain ⟨L, hreach, hclosed, htotal, hlost, herr, hstored⟩ := Steps.exists_run
    (act (newCaptureHandler ⟨0, none, none⟩) 1 outageEnv bucketFactory getCodec) (fun _ _ => True)
    (start 4 outageWriter emptyWorld.tick)
    [.handle (lit "a") 0 0 getHTTPRequest, .store, .flushBatch, .closeQueue, .exit,
      .finalFlush, .close]
    (fun L => L.stage = .closed none ∧ L.requestsTotal = 1 ∧ L.lost = [Storage.getRequest]
      ∧ L.writeErrors = 1
      ∧ L.tape.stored bucketFactory getCodec = [Storage.getRequest]) (by decide +kernel)
  refine ⟨L, hreach, hclosed, htotal, hlost, herr, hstored, fun hex => ?_⟩
  have hcount := hex.total
  rw [htotal, herr, hstored, List.length_singleton] at hcount
  omega

end Ledger

end Kapture.Agent
