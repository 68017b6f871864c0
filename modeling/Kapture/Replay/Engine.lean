import Kapture.Go.Float64
import Kapture.Replay.Drain
import Kapture.Replay.Shard

/-!
# The replay engine

`Engine.readLoop`: it pulls requests from the reader, drops those of other
shards, applies the transformers, waits as the rate mode asks, and hands what is
left to the sender.

Everything the loop cannot decide itself is an argument: what the reader returns,
and at each look at the context whether it is done. A rate or time scale is a
rational; its product with a duration is rounded as a `float64` is.
-/

namespace Kapture.Replay

open Go Storage

/-- `replay.RateMode`. -/
inductive RateMode where
  | constant
  | originalTiming
  | unlimited
deriving DecidableEq, Repr

/-- A `Transformer` without state: a request, nothing, or an error. -/
abbrev Transformer := CapturedRequest → Except Error (Option CapturedRequest)

/-- How a loop paces what it hands on. -/
structure Pacing where
  rateMode : RateMode
  ratePerSecond : Rat
  timeScale : Rat
deriving DecidableEq, Repr

/-- What a loop waits for before it hands a request on. -/
inductive Wait where
  /-- A tick of the limiter. -/
  | tick
  /-- A scaled delay. -/
  | delay (d : Duration)
deriving DecidableEq, Repr

/-- `time.Duration(float64(delay) * timeScale)`. -/
def scaledDelay (delay : Duration) (timeScale : Rat) : Duration :=
  Float64.toInt64 (Float64.mul (Float64.ofInt delay) timeScale)

/-- The wait before `req`, when `prev` is the timestamp of the request before it. -/
def Pacing.wait (p : Pacing) (prev : Time) (req : CapturedRequest) : Option Wait :=
  match p.rateMode with
  | .constant => if 0 < p.ratePerSecond then some .tick else none
  | .originalTiming =>
      if !prev.isZero && !req.timestamp.isZero && decide (0 < req.timestamp.sub prev) then
        some (.delay (scaledDelay (req.timestamp.sub prev) p.timeScale))
      else none
  | .unlimited => none

/-- `prevTimestamp` after `req`. -/
def Pacing.advance (p : Pacing) (prev : Time) (req : CapturedRequest) : Time :=
  match p.rateMode with
  | .originalTiming => req.timestamp
  | _ => prev

/-- `replay.EngineConfig`. The reader and the sender are not optional here. -/
structure EngineConfig where
  transformers : List Transformer
  readOptions : ReadOptions
  rateMode : RateMode
  ratePerSecond : Rat
  timeScale : Rat
  concurrency : Int64
  shardIndex : Int64
  shardCount : Int64

/-- `replay.Engine`, without its runtime counters. -/
structure Engine where
  transformers : List Transformer
  readOpts : ReadOptions
  pacing : Pacing
  concurrency : Int64
  shardIndex : UInt64
  shardCount : UInt64

/-- The error of an index that is not one of the shards. -/
def errShardIndex (index count : Int64) : Error :=
  .new ("shard index " ++ toString index ++ " out of range [0, " ++ toString count ++ ")")

def newEngine (cfg : EngineConfig) : Except Error Engine :=
  let concurrency := if cfg.concurrency ≤ 0 then 1 else cfg.concurrency
  let timeScale := if cfg.timeScale ≤ 0 then 1 else cfg.timeScale
  let pacing : Pacing := ⟨cfg.rateMode, cfg.ratePerSecond, timeScale⟩
  if cfg.shardCount > 1 then
    if cfg.shardIndex < 0 || cfg.shardIndex ≥ cfg.shardCount then
      .error (errShardIndex cfg.shardIndex cfg.shardCount)
    else
      .ok ⟨cfg.transformers, cfg.readOptions, pacing, concurrency, cfg.shardIndex.toUInt64,
        cfg.shardCount.toUInt64⟩
  else .ok ⟨cfg.transformers, cfg.readOptions, pacing, concurrency, 0, 1⟩

/-- The transformers in order; an error filters the request like a nil does. -/
def applyTransformers : List Transformer → CapturedRequest → Option CapturedRequest
  | [], req => some req
  | t :: ts, req =>
      match t req with
      | .error _ => none
      | .ok none => none
      | .ok (some current) => applyTransformers ts current

/-- What the read loop does with one request. -/
inductive Event where
  /-- Another shard owns it. -/
  | skip (req : CapturedRequest)
  /-- A transformer dropped it. -/
  | filter (req : CapturedRequest)
  /-- It is handed to the sender, after the wait, as `current`. -/
  | send (wait : Option Wait) (req current : CapturedRequest)
deriving DecidableEq, Repr

/-- The request of an event, unless another shard owns it. -/
def Event.kept : Event → Option CapturedRequest
  | .skip _ => none
  | .filter req => some req
  | .send _ req _ => some req

/-- What an event hands to the sender. -/
def Event.sent : Event → Option CapturedRequest
  | .skip _ => none
  | .filter _ => none
  | .send _ _ current => some current

/-- A run of the read loop: what it did, and the error it returned. -/
structure LoopRun where
  events : List Event
  err : Option Error
deriving DecidableEq, Repr

namespace LoopRun

/-- The run that returns at once. -/
def stop (err : Option Error) : LoopRun := ⟨[], err⟩

/-- The run that did one more thing first. -/
def push (ev : Event) (run : LoopRun) : LoopRun := { run with events := ev :: run.events }

/-- What was handed to the sender, in order. -/
def sent (run : LoopRun) : List CapturedRequest :=
  run.events.filterMap Event.sent

/-- The requests that passed the shard filter, in order. -/
def kept (run : LoopRun) : List CapturedRequest :=
  run.events.filterMap Event.kept

end LoopRun

/-- The shard filter of the loop. -/
def Engine.skips (e : Engine) (req : CapturedRequest) : Bool :=
  decide (e.shardCount > 1) && shardOf req.id e.shardCount != e.shardIndex

/-- `Engine.readLoop` on what the reader returns. `ctx k` is what the loop finds at
its `k`-th look at the context, `prev` is `prevTimestamp`. -/
def Engine.readLoop (e : Engine) (ctx : Nat → Bool) (last : Error) :
    List CapturedRequest → Nat → Time → LoopRun
  | [], k, _ =>
      if ctx k then .stop (some canceled)
      else if last.is .readerDone then .stop none
      else .stop (some last)
  | req :: rest, k, prev =>
      if ctx k then .stop (some canceled)
      else if e.skips req then (e.readLoop ctx last rest (k + 1) prev).push (.skip req)
      else
        match applyTransformers e.transformers req with
        | none => (e.readLoop ctx last rest (k + 1) prev).push (.filter req)
        | some current =>
            match e.pacing.wait prev req with
            | none =>
                if ctx (k + 1) then .stop (some canceled)
                else
                  (e.readLoop ctx last rest (k + 2) (e.pacing.advance prev req)).push
                    (.send none req current)
            | some wait =>
                -- one look while it waits, one while it hands over
                if ctx (k + 1) || ctx (k + 2) then .stop (some canceled)
                else
                  (e.readLoop ctx last rest (k + 3) (e.pacing.advance prev req)).push
                    (.send (some wait) req current)

/-- `Engine.Run`, as far as the sender's side of the channel: the reader is opened
with the engine's options, then the loop reads it. -/
def Engine.run (e : Engine) (reader : ReadOptions → Except Error ReaderRun) (ctx : Nat → Bool) :
    LoopRun :=
  match reader e.readOpts with
  | .error err => .stop (some (err.wrap "open reader"))
  | .ok run =>
      let loop := e.readLoop ctx run.last run.reqs 0 0
      { loop with err := loop.err.map (Err.wrap "reader") }

/-- A replay: `NewEngine`, then `Run`. -/
def replay (cfg : EngineConfig) (reader : ReadOptions → Except Error ReaderRun)
    (ctx : Nat → Bool) : LoopRun :=
  match newEngine cfg with
  | .error err => .stop (some err)
  | .ok e => e.run reader ctx

/-! ## What a successful loop did -/

variable {e : Engine} {ctx : Nat → Bool} {last : Error}

theorem LoopRun.kept_push (ev : Event) (run : LoopRun) :
    (run.push ev).kept = ev.kept.toList ++ run.kept := by
  cases ev <;> rfl

theorem LoopRun.sent_push (ev : Event) (run : LoopRun) :
    (run.push ev).sent = ev.sent.toList ++ run.sent := by
  cases ev <;> rfl

/-- **One round of a loop that returns nil** does one thing with its request and goes on. -/
theorem readLoop_cons {req : CapturedRequest} {rest : List CapturedRequest} {k : Nat} {prev : Time}
    (h : (e.readLoop ctx last (req :: rest) k prev).err = none) :
    ∃ ev k' prev', e.readLoop ctx last (req :: rest) k prev
        = (e.readLoop ctx last rest k' prev').push ev
      ∧ (e.readLoop ctx last rest k' prev').err = none
      ∧ ev.kept = (if e.skips req then none else some req)
      ∧ ev.sent = ev.kept.bind (applyTransformers e.transformers) := by
  simp only [Engine.readLoop] at h ⊢
  split at h
  · cases h
  · rename_i hc
    simp only [hc]
    split at h
    · rename_i hs
      exact ⟨.skip req, k + 1, prev, by simp [hs], h, by simp [hs, Event.kept], rfl⟩
    · rename_i hs
      simp only [hs]
      split at h
      · rename_i ht
        exact ⟨.filter req, k + 1, prev, by simp, h, rfl, ht.symm⟩
      · rename_i current ht
        -- with or without a wait, the loop goes on only if it was not cancelled
        split at h
        · rename_i hw
          split at h
          · cases h
          · rename_i hc'
            exact ⟨.send none req current, k + 2, e.pacing.advance prev req, by simp [hc'], h,
              rfl, ht.symm⟩
        · rename_i wait hw
          split at h
          · cases h
          · rename_i hc'
            exact ⟨.send (some wait) req current, k + 3, e.pacing.advance prev req,
              by simp [hc'], h, rfl, ht.symm⟩

/-- **A loop that returns nil kept what the shard filter keeps and sent what the
transformers made of it.** -/
theorem readLoop_of_err_eq_none (reqs : List CapturedRequest) (k : Nat) (prev : Time)
    (h : (e.readLoop ctx last reqs k prev).err = none) :
    last.is .readerDone = true
      ∧ (e.readLoop ctx last reqs k prev).kept = reqs.filter (fun req => !e.skips req)
      ∧ (e.readLoop ctx last reqs k prev).sent
          = (reqs.filter fun req => !e.skips req).filterMap (applyTransformers e.transformers) := by
  induction reqs generalizing k prev with
  | nil =>
      simp only [Engine.readLoop] at h ⊢
      split at h
      · cases h
      · split at h
        · rename_i hc hl
          simp only [hc, hl]
          exact ⟨trivial, rfl, rfl⟩
        · cases h
  | cons req rest ih =>
      obtain ⟨ev, k', prev', heq, herr, hkept, hsent⟩ := readLoop_cons h
      obtain ⟨hl, ihk, ihs⟩ := ih k' prev' herr
      rw [heq, LoopRun.kept_push, LoopRun.sent_push, ihk, ihs, hsent, hkept]
      refine ⟨hl, ?_, ?_⟩
      · cases hs : e.skips req <;> simp [hs]
      · cases hs : e.skips req
        · cases ht : applyTransformers e.transformers req <;> simp [hs, ht]
        · simp [hs]

/-- **A loop that is never cancelled reads to the end**, one event for each request, and
returns what ended it. -/
theorem readLoop_of_live (reqs : List CapturedRequest) (k : Nat) (prev : Time) :
    let r := e.readLoop (fun _ => false) last reqs k prev
    r.err = (if last.is .readerDone then none else some last)
      ∧ r.events.length = reqs.length := by
  induction reqs generalizing k prev with
  | nil =>
      simp only [Engine.readLoop, Bool.false_eq_true, if_false]
      split
      · exact ⟨rfl, rfl⟩
      · exact ⟨rfl, rfl⟩
  | cons req rest ih =>
      simp only [Engine.readLoop, Bool.false_eq_true, if_false, Bool.or_self]
      -- whatever becomes of the request, it is one event
      split
      · exact (ih _ _).imp_right (congrArg (· + 1))
      · split
        · exact (ih _ _).imp_right (congrArg (· + 1))
        · split
          · exact (ih _ _).imp_right (congrArg (· + 1))
          · exact (ih _ _).imp_right (congrArg (· + 1))

end Kapture.Replay
