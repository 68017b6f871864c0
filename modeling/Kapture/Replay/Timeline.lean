import Kapture.Replay.Partition

/-!
# The timeline of a sharded replay

In the original timing a loop waits, before a request that it releases, for the time between the
request before it and this one. It waits for nothing before the first: its clock starts there.
Requests of other shards and requests that a transformer drops do not move the clock. So a shard
releases a request at its distance from the shard's own first request, and not from the first
request of the capture.

`timeline_iff` says that shards that start together reproduce the recorded timeline exactly if
**each shard that releases anything starts with a request of the first moment of the capture**,
and the times between its requests can be waited for. The waits go through `float64`s, so that is
every time up to 2^53 nanoseconds, and of the longer ones those with 53 significant bits
(`waited_eq_iff`). One shard without transformers is on the timeline; two shards are only if the
capture starts with requests of both at once.
-/

namespace Kapture.Replay

open Go Storage

/-! ## What is released when -/

/-- How long a wait takes; a negative one is over at once. In the original timing there are
no ticks. -/
def Wait.time : Wait → Duration
  | .tick => 0
  | .delay d => max d 0

/-- How long the original timing waits for a gap. -/
def waited (gap : Duration) : Duration := if 0 < gap then max (scaledDelay gap 1) 0 else 0

/-- The request that an event releases, and the wait before it. -/
def Event.release : Event → Option (Option Wait × CapturedRequest)
  | .skip _ => none
  | .filter _ => none
  | .send wait req _ => some (wait, req)

/-- The request that an event releases, and the wait before it. -/
def FeedEvent.release : FeedEvent → Option (Option Wait × CapturedRequest)
  | .skip _ => none
  | .send wait req _ => some (wait, req)

/-- The moment of each release, if waiting is exact and nothing else takes time. -/
def releases : Duration → List (Option Wait × CapturedRequest) → List (CapturedRequest × Duration)
  | _, [] => []
  | now, (wait, req) :: rest =>
      (req, now + wait.elim 0 Wait.time) :: releases (now + wait.elim 0 Wait.time) rest

/-- The two loops that read a shard of a capture and pace it. -/
inductive Loop where
  | engine (cfg : EngineConfig)
  | feeder (cfg : FeederConfig)

namespace Loop

/-- `OriginalTiming` with time scale 1. -/
def Original : Loop → Prop
  | .engine cfg => cfg.rateMode = .originalTiming ∧ cfg.timeScale = 1
  | .feeder cfg => cfg.rateMode = .originalTiming ∧ cfg.timeScale = 1

/-- Whether the loop releases a request of its shard. -/
def keeps : Loop → CapturedRequest → Bool
  | .engine cfg, req => (applyTransformers cfg.transformers req).isSome
  | .feeder _, _ => true

/-- The requests that shard `index` of `count` releases. -/
def owned (l : Loop) (index count : Int64) (reqs : List CapturedRequest) : List CapturedRequest :=
  reqs.filter fun req => shardOwns req.id index count && l.keeps req

end Loop

/-- The run of a feeder that nothing disturbs, with an engine that leaves the pacing to it. -/
def FeedEnv.paced : FeedEnv := ⟨fun _ => false, ⟨none, false, fun _ => none⟩, [], eof⟩

/-- What shard `index` of `count` releases, with the wait before each. -/
def Loop.waits (index count : Int64) (capture : ReaderRun) : Loop →
    List (Option Wait × CapturedRequest)
  | .engine cfg =>
      (replay (cfg.shard index count) (fun _ => .ok capture) (fun _ => false)).events.filterMap
        Event.release
  | .feeder cfg =>
      (feedReplay (cfg.shard index count) (fun _ => .ok capture) .paced).feed.events.filterMap
        FeedEvent.release

/-- The releases of shard `index` of `count`, with moments from its start. -/
def Loop.released (index count : Int64) (capture : ReaderRun)
    (l : Loop) : List (CapturedRequest × Duration) :=
  releases 0 (l.waits index count capture)

/-- The first timestamp of a capture. -/
def firstTimestamp (reqs : List CapturedRequest) : Time := (reqs.head?.map (·.timestamp)).getD 0

/-- **Every request is released at its distance from the first one**, by the shard that owns it. -/
def Reproduced (l : Loop) (count : Int64) (capture : ReaderRun) : Prop :=
  ∀ index, InShards count index → l.released index count capture
    = (l.owned index count capture.reqs).map fun req =>
      (req, req.timestamp - firstTimestamp capture.reqs)

/-- A time between two requests that is not negative, fits into a `Duration`, and is a `float64`
as well as an integer, as all are up to 2^53 nanoseconds, which is 104 days. -/
def Waitable (gap : Int) : Prop := 0 ≤ gap ∧ gap < 2 ^ 63 ∧ Float64.Fits gap.toNat

instance (gap : Int) : Decidable (Waitable gap) := inferInstanceAs (Decidable (_ ∧ _))

/-- The requests of a shard start at `start`, if there are any, and the time between two of them is
one that can be waited for. -/
def StartsAt (start : Time) (own : List CapturedRequest) : Prop :=
  (own.head?.map (·.timestamp)).getD start = start
    ∧ own.IsChain fun a b => Waitable (b.timestamp - a.timestamp)

instance (start : Time) (own : List CapturedRequest) : Decidable (StartsAt start own) :=
  inferInstanceAs (Decidable (_ ∧ _))

/-! ## Both loops pace in the same way -/

/-- The waits before the requests of a list. -/
def Pacing.waits (p : Pacing) : Time → List CapturedRequest → List (Option Wait × CapturedRequest)
  | _, [] => []
  | prev, req :: rest => (p.wait prev req, req) :: p.waits (p.advance prev req) rest

theorem release_readLoop (e : Engine) (last : Error) (reqs : List CapturedRequest) (k : Nat)
    (prev : Time) :
    (e.readLoop (fun _ => false) last reqs k prev).events.filterMap Event.release
      = e.pacing.waits prev
          (reqs.filter fun req => !e.skips req
            && (applyTransformers e.transformers req).isSome) := by
  induction reqs generalizing k prev with
  | nil =>
      simp only [Engine.readLoop, Bool.false_eq_true, if_false]
      split
      · rfl
      · rfl
  | cons req rest ih =>
      simp only [Engine.readLoop, Bool.false_eq_true, if_false, Bool.or_self]
      cases hs : e.skips req with
      | true =>
          rw [List.filter_cons_of_neg (by simp [hs])]
          exact ih _ _
      | false =>
          cases ht : applyTransformers e.transformers req with
          | none =>
              rw [List.filter_cons_of_neg (by simp [ht])]
              exact ih _ _
          | some current =>
              rw [List.filter_cons_of_pos (by simp [hs, ht]), Pacing.waits]
              cases hw : e.pacing.wait prev req with
              | none => exact congrArg (List.cons _) (ih _ _)
              | some wait => exact congrArg (List.cons _) (ih _ _)

theorem release_feed (f : FeederConfig) (stream : ExecuteStream)
    (hsend : ∀ k, stream.send k = none) (last : Error) (reqs : List CapturedRequest) (k fed : Nat)
    (baseTime prev : Time) :
    (f.feed (fun _ => false) stream true last reqs k fed baseTime prev).events.filterMap
      FeedEvent.release
      = Pacing.waits ⟨f.rateMode, f.ratePerSecond, f.timeScale⟩ prev
          (reqs.filter fun req => shardOwns req.id f.shardIndex f.shardCount) := by
  induction reqs generalizing k fed baseTime prev with
  | nil =>
      simp only [FeederConfig.feed, Bool.false_eq_true, if_false]
      split
      · rfl
      · rfl
  | cons req rest ih =>
      simp only [FeederConfig.feed, Bool.false_eq_true, if_false, Bool.and_false, hsend]
      cases hs : shardOwns req.id f.shardIndex f.shardCount with
      | true =>
          rw [List.filter_cons_of_pos (by simp [hs]), Pacing.waits]
          exact congrArg (List.cons _) (ih _ _ _ _)
      | false =>
          rw [List.filter_cons_of_neg (by simp [hs])]
          exact ih _ _ _ _

/-- The pacing of the original timing. -/
def original (rate : Rat) : Pacing := ⟨.originalTiming, rate, 1⟩

/-- **Both loops release the requests of their shard with the waits between them.** -/
theorem waits_eq {l : Loop} (hl : l.Original) {index count : Int64} (h : InShards count index)
    (capture : ReaderRun) : ∃ rate, l.waits index count capture
      = (original rate).waits 0 (l.owned index count capture.reqs) := by
  cases l with
  | engine cfg =>
      obtain ⟨hmode, hscale⟩ := hl
      obtain ⟨e, he, htr, hopts, hskip⟩ := newEngine_shard cfg h
      have hpace : e.pacing = original cfg.ratePerSecond := by
        unfold newEngine EngineConfig.shard at he
        simp only [hmode, hscale] at he
        split at he
        · split at he
          · cases he
          · cases he
            rfl
        · cases he
          rfl
      refine ⟨cfg.ratePerSecond, ?_⟩
      simp only [Loop.waits, replay, he, Engine.run, release_readLoop, hpace, hskip, htr,
        Bool.not_not]
      rfl
  | feeder cfg =>
      obtain ⟨hmode, hscale⟩ := hl
      obtain ⟨f, hf, -⟩ := newFeeder_shard cfg h
      have hcfg : f = cfg.shard index count := by
        unfold newFeeder at hf
        split at hf
        · cases hf
        · cases hf
          simp only [FeederConfig.shard, hscale]
          rfl
      refine ⟨cfg.ratePerSecond, ?_⟩
      have hrel :=
        release_feed f FeedEnv.paced.stream (fun _ => rfl) capture.last capture.reqs 0 0 0 0
      have hrun : (feedReplay (cfg.shard index count) (fun _ => .ok capture) .paced).feed
          = f.feed (fun _ => false) FeedEnv.paced.stream true capture.last capture.reqs 0 0
            0 0 := by
        rw [feedReplay, hf]
        rfl
      rw [Loop.waits, hrun, hrel, hcfg]
      simp only [FeederConfig.shard, hmode, hscale, Loop.owned, Loop.keeps, Bool.and_true]
      rfl

/-! ## The waits add up -/

/-- The wait between two requests, in the original timing. -/
theorem time_wait (rate : Rat) {prev : Time} {req : CapturedRequest} (hprev : prev ≠ 0)
    (hreq : req.timestamp ≠ 0) :
    ((original rate).wait prev req).elim 0 Wait.time = waited (req.timestamp.sub prev) := by
  have hzero : (!prev.isZero && !req.timestamp.isZero) = true := by simp [Time.isZero, hprev, hreq]
  by_cases hpos : 0 < req.timestamp.sub prev
  · simp only [original, Pacing.wait, hzero, hpos, decide_true, Bool.and_self, if_true,
      Option.elim_some, Wait.time, waited]
  · simp only [original, Pacing.wait, hpos, decide_false, Bool.and_false, Bool.false_eq_true,
      if_false, Option.elim_none, waited]

theorem waitable_of_lt {gap : Int} (h0 : 0 ≤ gap) (h : gap < 2 ^ 53) : Waitable gap :=
  ⟨h0, h.trans (by decide), Float64.fits_of_lt (by omega)⟩

/-- The delay is converted to a `float64` and back: it becomes an integer of 53 bits, if that is
not too large. -/
theorem scaledDelay_nat (n : Nat) : ∃ m : Nat, Float64.round n = m ∧ Float64.Fits m
    ∧ scaledDelay n 1 = if (m : Int) < 2 ^ 63 then (m : Int) else -2 ^ 63 := by
  obtain ⟨m, hm, hfits⟩ := Float64.exists_round n
  refine ⟨m, hm, hfits, ?_⟩
  have hmul : Float64.mul (Float64.ofInt n) 1 = m := by
    rw [Float64.mul, Float64.ofInt, Int.cast_natCast, hm, mul_one, Float64.round_of_fits hfits]
  rw [scaledDelay, hmul, Float64.toInt64, if_pos (Nat.cast_nonneg m), Int.floor_natCast]
  by_cases hlt : (m : Int) < 2 ^ 63
  · rw [if_pos ⟨by omega, hlt⟩, if_pos hlt]
  · rw [if_neg fun h => hlt h.2, if_neg hlt]

theorem waited_nat {n : Nat} (hn : 0 < n) : ∃ m : Nat, Float64.round n = m ∧ Float64.Fits m
    ∧ waited (n : Int) = if (m : Int) < 2 ^ 63 then (m : Int) else (0 : Int) := by
  obtain ⟨m, hm, hfits, hdelay⟩ := scaledDelay_nat n
  refine ⟨m, hm, hfits, ?_⟩
  have hpos : (0 : Int) < n := Int.natCast_pos.mpr hn
  rw [waited, if_pos hpos, hdelay]
  split
  · exact max_eq_left (Int.natCast_nonneg m)
  · rfl

/-- A gap in the range of durations, or cut off at its end. -/
theorem waited_clamp_iff (gap : Int) :
    waited (max (-(2 ^ 63)) (min gap (2 ^ 63 - 1)) : Int) = gap ↔ Waitable gap := by
  rcases Int.lt_or_le 0 gap with hpos | hneg
  · obtain ⟨n, hn⟩ : ∃ n : Nat, max (-(2 ^ 63)) (min gap (2 ^ 63 - 1)) = n :=
      Int.eq_ofNat_of_zero_le (by omega)
    obtain ⟨m, hm, hfits, hwaited⟩ := waited_nat (n := n) (by omega)
    rw [hn, hwaited]
    constructor
    · intro h
      split at h
      · rename_i hlt
        rw [← h]
        exact ⟨Int.natCast_nonneg m, hlt, hfits⟩
      · exact absurd h hpos.ne
    · rintro ⟨-, hlt, hgap⟩
      have hgn : gap = n := by omega
      rw [hgn, Int.toNat_natCast] at hgap
      rw [Float64.round_of_fits hgap, Nat.cast_inj] at hm
      rw [← hm, if_pos (hgn ▸ hlt), hgn]
  · have hclamp : ¬ (0 : Int) < max (-(2 ^ 63)) (min gap (2 ^ 63 - 1)) := by omega
    rw [waited, if_neg hclamp]
    constructor
    · rintro rfl
      exact waitable_of_lt le_rfl (by decide)
    · exact fun h => le_antisymm h.1 hneg

/-- **A gap is waited for exactly if it is one that can be waited for.** -/
theorem waited_eq_iff (a b : Time) : waited (b.sub a) = b - a ↔ Waitable (b - a) :=
  waited_clamp_iff _

/-- A moment that was right stays right after a wait exactly if the wait is. -/
theorem add_wait_iff {prev now start wait : Int} :
    prev - start + wait = now - start ↔ wait = now - prev := by
  omega

/-- After a request that was released at its distance from `start`, the rest follow at theirs
exactly if every wait is right. -/
theorem releases_waits_iff (rate : Rat) (start : Time) (own : List CapturedRequest)
    (first : CapturedRequest) (hnz : ∀ req ∈ first :: own, req.timestamp ≠ 0) :
    releases (first.timestamp - start) ((original rate).waits first.timestamp own)
        = own.map (fun req => (req, req.timestamp - start))
      ↔ (first :: own).IsChain fun a b => Waitable (b.timestamp - a.timestamp) := by
  induction own generalizing first with
  | nil => simp [Pacing.waits, releases]
  | cons req rest ih =>
      have htime := time_wait rate (hnz first List.mem_cons_self)
        (hnz req (List.mem_cons_of_mem _ List.mem_cons_self))
      rw [Pacing.waits, releases, List.map_cons, List.isChain_cons_cons, htime, List.cons.injEq,
        Prod.mk.injEq, add_wait_iff, and_iff_right rfl, waited_eq_iff]
      refine and_congr_right fun hgap => ?_
      rw [add_wait_iff.mpr ((waited_eq_iff _ _).mpr hgap)]
      exact ih req fun r hr => hnz r (List.mem_cons_of_mem _ hr)

/-- A shard is on the timeline exactly if it starts at the start. -/
theorem releases_iff_startsAt (rate : Rat) (start : Time) {own : List CapturedRequest}
    (hnz : ∀ req ∈ own, req.timestamp ≠ 0) :
    releases 0 ((original rate).waits 0 own) = own.map (fun req => (req, req.timestamp - start))
      ↔ StartsAt start own := by
  cases own with
  | nil => simp [Pacing.waits, releases, StartsAt]
  | cons first rest =>
      -- before the first request there is no wait
      have hwait : (original rate).wait 0 first = none := by
        simp [original, Pacing.wait, Time.isZero]
      rw [Pacing.waits, hwait, releases, List.map_cons, List.cons.injEq, Prod.mk.injEq,
        and_iff_right rfl, StartsAt]
      change (0 : Int) = first.timestamp - start
        ∧ releases 0 ((original rate).waits first.timestamp rest) = _
          ↔ first.timestamp = start ∧ _
      rw [eq_comm, Int.sub_eq_zero]
      refine and_congr_right fun hstart => ?_
      have hrest := releases_waits_iff rate start rest first hnz
      rwa [Int.sub_eq_zero.mpr hstart] at hrest

/-- **Shards that start together reproduce the timeline exactly if each starts at the start**: for
every capture with timestamps that are not zero, every number of shards, and engines as well as
feeders. -/
theorem timeline_iff {l : Loop} (hl : l.Original) {capture : ReaderRun}
    (hnz : ∀ req ∈ capture.reqs, req.timestamp ≠ 0) (count : Int64) :
    Reproduced l count capture ↔ ∀ index, InShards count index →
      StartsAt (firstTimestamp capture.reqs) (l.owned index count capture.reqs) := by
  refine forall_congr' fun index => forall_congr' fun h => ?_
  obtain ⟨rate, hwaits⟩ := waits_eq hl h capture
  rw [Loop.released, hwaits]
  exact releases_iff_startsAt rate _ fun req hreq => hnz req (List.mem_of_mem_filter hreq)

/-! ## Two shards -/

/-- A request by its ID and timestamp. -/
def requestAt (id : String) (timestamp : Time) : CapturedRequest :=
  ⟨lit id, timestamp, lit "GET", lit "/", [], [], 0, lit "HTTP", []⟩

/-- An engine in the original timing. -/
def originalEngine : Loop := .engine ⟨[], .all (lit "shop/cart"), .originalTiming, 0, 1, 1, 0, 0⟩

/-- Requests of both shards at once, and one a second later. -/
def twoAtOnce : ReaderRun :=
  ⟨[requestAt "a" (739618 * dayDuration), requestAt "b" (739618 * dayDuration),
    requestAt "c" (739618 * dayDuration + 1000000000)], errReaderDone, []⟩

/-- A request of the first shard, and one of the second a second later. -/
def oneAfterTheOther : ReaderRun :=
  ⟨[requestAt "a" (739618 * dayDuration), requestAt "b" (739618 * dayDuration + 1000000000)],
    errReaderDone, []⟩

theorem inShards_two {index : Int64} (h : InShards 2 index) : index = 0 ∨ index = 1 := by
  have h0 := Int64.le_iff_toInt_le.mp h.1
  have h1 := Int64.lt_iff_toInt_lt.mp h.2
  have hzero : (0 : Int64).toInt = 0 := rfl
  have hone : (1 : Int64).toInt = 1 := rfl
  have htwo : (2 : Int64).toInt = 2 := rfl
  rw [← Int64.toInt_inj, ← Int64.toInt_inj]
  omega

theorem original_originalEngine : originalEngine.Original := ⟨rfl, rfl⟩

theorem timeline_two_at_once : Reproduced originalEngine 2 twoAtOnce := by
  refine (timeline_iff original_originalEngine (by decide +kernel) 2).mpr fun index h => ?_
  rcases inShards_two h with rfl | rfl
  · decide +kernel
  · decide +kernel

/-- **The second shard releases its first request at once**, a second early. -/
theorem second_shard_starts_early : originalEngine.Original
    ∧ firstTimestamp oneAfterTheOther.reqs = 739618 * dayDuration
    ∧ originalEngine.released 1 2 oneAfterTheOther
        = [(requestAt "b" (739618 * dayDuration + 1000000000), 0)]
    ∧ ¬ Reproduced originalEngine 2 oneAfterTheOther := by
  refine ⟨original_originalEngine, by decide +kernel, by decide +kernel, fun h => ?_⟩
  have hone := h 1 (by decide)
  revert hone
  decide +kernel

end Kapture.Replay
