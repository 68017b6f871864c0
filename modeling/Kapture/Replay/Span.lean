import Kapture.Replay.Timeline

/-!
# How long a replay takes

In the original timing three loops wait between requests: those of the engine, of the feeder and
of the feed server. They wait in the same way: for as long as the timestamps go forward from a
request to the next, and not at all where they go back. Readers return requests in the order of
their object keys, so where one agent's objects follow another's the timestamps go back, and what
comes after is waited for once more.

So the delays add up to the time from the first request to the last **and all the steps back**
(`sum_recorded`), as long as no step forward is rounded on its way through a `float64`. A replay
takes as long as the capture, from its smallest timestamp to its largest, exactly if the steps back
are what the first request is away from the smallest and the last one from the largest. Timestamps
in order are such a case, with no steps back.
-/

namespace Kapture.Replay

open Go Storage

/-! ## The read loop of the feed server -/

/-- `replay.FeedServerConfig`. The reader is not optional here. -/
structure FeedServerConfig where
  readOpts : ReadOptions
  rateMode : RateMode
  timeScale : Rat
  addr : Str
  bufferSize : Int64
deriving DecidableEq, Repr

/-- `NewFeedServer`: a constant rate is no rate here. -/
def newFeedServer (cfg : FeedServerConfig) : FeedServerConfig where
  readOpts := cfg.readOpts
  rateMode := if cfg.rateMode = .constant then .unlimited else cfg.rateMode
  timeScale := if cfg.timeScale ≤ 0 then 1 else cfg.timeScale
  addr := if cfg.addr = [] then lit ":6565" else cfg.addr
  bufferSize := if cfg.bufferSize ≤ 0 then 1000 else cfg.bufferSize

/-- The delay before `req`, when `prev` is the timestamp of the request before it. -/
def FeedServerConfig.delay (s : FeedServerConfig) (prev : Time)
    (req : CapturedRequest) : Option Duration :=
  if s.rateMode = .originalTiming && !prev.isZero && !req.timestamp.isZero
      && decide (0 < req.timestamp.sub prev) then
    some (scaledDelay (req.timestamp.sub prev) s.timeScale)
  else none

/-- What the read loop sent to the channel, with the wait before each, and what it stored as
`readErr`. -/
structure ServedRun where
  sent : List (Option Wait × CapturedRequest)
  readErr : Option Error
deriving DecidableEq, Repr

/-- `FeedServer.readLoop` on what the reader returns. `ctx k` is whether the loop finds the context
or the server done at its `k`-th look. -/
def FeedServerConfig.readLoop (s : FeedServerConfig) (ctx : Nat → Bool) (last : Error) :
    List CapturedRequest → Nat → Time → ServedRun
  | [], k, _ =>
      if ctx k then ⟨[], none⟩
      else if last = errReaderDone then ⟨[], none⟩
      else ⟨[], some last⟩
  | req :: rest, k, prev =>
      if ctx k then ⟨[], none⟩
      else
        match s.delay prev req with
        | none =>
            if ctx (k + 1) then ⟨[], none⟩
            else
              let run := s.readLoop ctx last rest (k + 2) req.timestamp
              { run with sent := (none, req) :: run.sent }
        | some d =>
            -- one look while it waits, one while it hands over
            if ctx (k + 1) || ctx (k + 2) then ⟨[], none⟩
            else
              let run := s.readLoop ctx last rest (k + 3) req.timestamp
              { run with sent := (some (.delay d), req) :: run.sent }

/-- The feed server waits as the other two loops do. -/
theorem sent_readLoop {s : FeedServerConfig} (hmode : s.rateMode = .originalTiming)
    (hscale : s.timeScale = 1) (rate : Rat) (last : Error) (reqs : List CapturedRequest) (k : Nat)
    (prev : Time) :
    (s.readLoop (fun _ => false) last reqs k prev).sent = (original rate).waits prev reqs := by
  have hdelay : ∀ prev req, (s.delay prev req).map Wait.delay = (original rate).wait prev req := by
    intro prev req
    simp only [FeedServerConfig.delay, original, Pacing.wait, hmode, hscale, decide_true,
      Bool.true_and]
    split
    · rfl
    · rfl
  induction reqs generalizing k prev with
  | nil =>
      simp only [FeedServerConfig.readLoop, Bool.false_eq_true, if_false]
      split
      · rfl
      · rfl
  | cons req rest ih =>
      rw [Pacing.waits, ← hdelay]
      simp only [FeedServerConfig.readLoop, Bool.false_eq_true, if_false, Bool.or_self]
      cases hd : s.delay prev req with
      | none => exact congrArg (List.cons _) (ih _ _)
      | some d => exact congrArg (List.cons _) (ih _ _)

/-! ## The three loops -/

/-- A loop that replays a whole capture. -/
inductive Player where
  | loop (l : Loop)
  | server (cfg : FeedServerConfig)

namespace Player

/-- `OriginalTiming` with time scale 1. -/
def Original : Player → Prop
  | .loop l => l.Original
  | .server cfg => cfg.rateMode = .originalTiming ∧ cfg.timeScale = 1

/-- What it hands on in a run that nothing disturbs, with the wait before each. -/
def waits (capture : ReaderRun) : Player → List (Option Wait × CapturedRequest)
  | .loop l => l.waits 0 1 capture
  | .server cfg =>
      ((newFeedServer cfg).readLoop (fun _ => false) capture.last capture.reqs 0 0).sent

/-- The transformers of an engine drop nothing; the other loops have none. -/
def Keeps (p : Player) (reqs : List CapturedRequest) : Prop :=
  match p with
  | .loop l => ∀ req ∈ reqs, l.keeps req = true
  | .server _ => True

/-- **The delays that a run inserts**, one before each request. -/
def delays (p : Player) (capture : ReaderRun) : List Duration :=
  (p.waits capture).map fun w => w.1.elim 0 Wait.time

end Player

/-- The delays for a list of timestamps, after one. -/
def gapDelays : Time → List Time → List Duration
  | _, [] => []
  | prev, t :: rest => waited (t.sub prev) :: gapDelays t rest

/-- The delays for a list of timestamps. -/
def recorded : List Time → List Duration
  | [] => []
  | t :: rest => 0 :: gapDelays t rest

theorem delays_waits (rate : Rat) (reqs : List CapturedRequest) {prev : Time} (hprev : prev ≠ 0)
    (hnz : ∀ req ∈ reqs, req.timestamp ≠ 0) :
    ((original rate).waits prev reqs).map (fun w => w.1.elim 0 Wait.time)
      = gapDelays prev (reqs.map (·.timestamp)) := by
  induction reqs generalizing prev with
  | nil => rfl
  | cons req rest ih =>
      have hreq := hnz req List.mem_cons_self
      rw [Pacing.waits, List.map_cons, time_wait rate hprev hreq, List.map_cons, gapDelays]
      exact congrArg (List.cons _) (ih hreq fun r hr => hnz r (List.mem_cons_of_mem _ hr))

/-- **All three loops insert the same delays.** -/
theorem delays_eq {p : Player} (hp : p.Original) {capture : ReaderRun}
    (hkeep : p.Keeps capture.reqs) (hnz : ∀ req ∈ capture.reqs, req.timestamp ≠ 0) :
    p.delays capture = recorded (capture.reqs.map (·.timestamp)) := by
  have hwaits : ∃ rate, p.waits capture = (original rate).waits 0 capture.reqs := by
    cases p with
    | loop l =>
        obtain ⟨rate, h⟩ := waits_eq hp (show InShards 1 0 by decide) capture
        refine ⟨rate, h.trans (congrArg _ (List.filter_eq_self.mpr fun req hreq => ?_))⟩
        rw [hkeep req hreq, Bool.and_true]
        rfl
    | server cfg =>
        refine ⟨0, sent_readLoop ?_ ?_ 0 capture.last capture.reqs 0 0⟩
        · rw [newFeedServer, hp.1]
          rfl
        · rw [newFeedServer, hp.2]
          rfl
  obtain ⟨rate, hwaits⟩ := hwaits
  rw [Player.delays, hwaits]
  cases hreqs : capture.reqs with
  | nil => rfl
  | cons first rest =>
      rw [hreqs] at hnz
      have hwait : (original rate).wait 0 first = none := by
        simp [original, Pacing.wait, Time.isZero]
      rw [Pacing.waits, hwait, List.map_cons, List.map_cons, recorded]
      exact congrArg (List.cons _) (delays_waits rate rest (hnz first List.mem_cons_self)
        fun r hr => hnz r (List.mem_cons_of_mem _ hr))

/-! ## How the delays add up -/

/-- How far the timestamps go back, in all. -/
def stepsBack : List Int → Int
  | a :: b :: rest => max (a - b) 0 + stepsBack (b :: rest)
  | _ => 0

/-- The timestamps go back, or forward by a time that can be waited for. -/
def Paceable (ts : List Time) : Prop := ts.IsChain fun a b => b < a ∨ Waitable (b - a)

instance (ts : List Time) : Decidable (Paceable ts) :=
  inferInstanceAs (Decidable (List.IsChain _ _))

def firstOf (ts : List Int) : Int := ts.head?.getD 0

def lastOf (ts : List Int) : Int := ts.getLast?.getD 0

def smallestOf (ts : List Int) : Int := ts.min?.getD 0

def largestOf (ts : List Int) : Int := ts.max?.getD 0

/-- A step forward is waited for exactly, and a step back not at all. -/
theorem waited_step {a b : Time} (h : b < a ∨ Waitable (b - a)) :
    waited (b.sub a) = max (b - a) 0 := by
  rcases h with hback | hgap
  · have hneg : ∀ g : Int, g < 0 → ¬ 0 < max (-(2 ^ 63)) (min g (2 ^ 63 - 1)) ∧ max g 0 = 0 := by
      intro g _
      omega
    obtain ⟨hsub, hmax⟩ := hneg _ (Int.sub_neg_of_lt hback)
    exact (if_neg hsub).trans hmax.symm
  · rw [(waited_eq_iff a b).mpr hgap, max_eq_left hgap.1]

theorem sum_gapDelays {prev : Time} {ts : List Time} (h : Paceable (prev :: ts)) :
    (gapDelays prev ts).sum + prev = stepsBack (prev :: ts) + lastOf (prev :: ts) := by
  induction ts generalizing prev with
  | nil => simp [gapDelays, stepsBack, lastOf]
  | cons t rest ih =>
      obtain ⟨hgap, hrest⟩ := List.isChain_cons_cons.mp h
      have hstep : ∀ p t s : Int, max (t - p) 0 + s + p = max (p - t) 0 + (s + t) := by
        intro p t s
        omega
      have hlast : lastOf (prev :: t :: rest) = lastOf (t :: rest) := by
        simp [lastOf]
      rw [gapDelays, List.sum_cons, waited_step hgap, stepsBack, hlast]
      exact (hstep prev t _).trans ((congrArg _ (ih hrest)).trans (add_assoc _ _ _).symm)

/-- **The delays are the way from the first timestamp to the last, and all the steps back.** -/
theorem sum_recorded {ts : List Time} (h : Paceable ts) :
    (recorded ts).sum = stepsBack ts + (lastOf ts - firstOf ts) := by
  cases ts with
  | nil => rfl
  | cons t rest =>
      have hsum := sum_gapDelays h
      have hsolve : ∀ d t x : Int, d + t = x → 0 + d = x - t := by
        intro d t x h
        omega
      rw [recorded, List.sum_cons, hsolve _ _ _ hsum]
      exact add_sub_assoc _ _ _

/-- The delays of a run add up to the span of the capture. -/
def Unstretched (p : Player) (capture : ReaderRun) : Prop :=
  (p.delays capture).sum
    = largestOf (capture.reqs.map (·.timestamp)) - smallestOf (capture.reqs.map (·.timestamp))

instance (p : Player) (capture : ReaderRun) : Decidable (Unstretched p capture) :=
  inferInstanceAs (Decidable (_ = _))

/-- The steps back are what the first timestamp is away from the smallest and the last from the
largest. -/
def StepsMatch (ts : List Time) : Prop :=
  stepsBack ts = (firstOf ts - smallestOf ts) + (largestOf ts - lastOf ts)

instance (ts : List Time) : Decidable (StepsMatch ts) := inferInstanceAs (Decidable ((_ : Int) = _))

/-- **A replay takes as long as its capture exactly if the steps back match**, as long as every step
forward can be waited for. All loops insert the same delays, whatever the steps are. -/
theorem unstretched_iff {p : Player} (hp : p.Original) {capture : ReaderRun}
    (hkeep : p.Keeps capture.reqs) (hnz : ∀ req ∈ capture.reqs, req.timestamp ≠ 0) :
    (Paceable (capture.reqs.map (·.timestamp)) →
      (Unstretched p capture ↔ StepsMatch (capture.reqs.map (·.timestamp)))) ∧
      ∀ q : Player, q.Original → q.Keeps capture.reqs → q.delays capture = p.delays capture := by
  have hdelays := delays_eq hp hkeep hnz
  refine ⟨fun hpace => ?_, fun q hq hqkeep => (delays_eq hq hqkeep hnz).trans hdelays.symm⟩
  have hsolve : ∀ s f l lo hi : Int, s + (l - f) = hi - lo ↔ s = (f - lo) + (hi - l) := by
    intro s f l lo hi
    omega
  rw [Unstretched, hdelays, sum_recorded hpace]
  exact hsolve ..

/-! ## Two agents -/

/-- A capture of requests so many seconds after a midnight. -/
def secondsAfter (seconds : List Int) : ReaderRun :=
  ⟨seconds.map fun s => requestAt "a" (739618 * dayDuration + s * 1000000000), errReaderDone, []⟩

theorem unstretched_in_order : Unstretched (.loop originalEngine) (secondsAfter [0, 1, 5]) :=
  (unstretched_iff (p := .loop originalEngine) original_originalEngine (fun _ _ => rfl)
    (by decide +kernel)).1
    (by decide +kernel) |>.mpr (by decide +kernel)

/-- **Two agents of five seconds take eight**: the second one's object starts again. -/
theorem stretched_by_agents : originalEngine.Original ∧
    (Player.loop originalEngine).delays (secondsAfter [0, 4, 1, 5])
      = [0, 4000000000, 0, 4000000000] ∧
    largestOf ((secondsAfter [0, 4, 1, 5]).reqs.map (·.timestamp))
      - smallestOf ((secondsAfter [0, 4, 1, 5]).reqs.map (·.timestamp)) = 5000000000 ∧
    ¬ Unstretched (.loop originalEngine) (secondsAfter [0, 4, 1, 5]) := by
  refine ⟨original_originalEngine, by decide +kernel, by decide +kernel, fun h => ?_⟩
  revert h
  decide +kernel

end Kapture.Replay
