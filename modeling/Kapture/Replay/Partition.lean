import Kapture.Lib.Deal
import Kapture.Replay.Feeder

/-!
# The shards of a replay partition it

Four places decide which shard a request belongs to: the engine's filter on
`uint64`, `ShardOwns`, `ShardIndexOf`, and the cases where the count is at most
one. They agree for every ID and every count, so `n` engines deal out exactly
what one unsharded engine sends, and `n` feeders what one unsharded feeder feeds.
-/

namespace Kapture.Replay

open Go Storage Deal

/-- The configuration of shard `index` of `count`. -/
def EngineConfig.shard (cfg : EngineConfig) (index count : Int64) : EngineConfig :=
  { cfg with shardIndex := index, shardCount := count }

/-- The configuration of shard `index` of `count`. -/
def FeederConfig.shard (cfg : FeederConfig) (index count : Int64) : FeederConfig :=
  { cfg with shardIndex := index, shardCount := count }

variable {count index : Int64} {reader : ReadOptions → Except Error ReaderRun}

/-- **`NewEngine` accepts every shard of a split**, and the engine it returns skips
what `ShardOwns` says the shard does not own. -/
theorem newEngine_shard (cfg : EngineConfig) (h : InShards count index) :
    ∃ e, newEngine (cfg.shard index count) = .ok e ∧ e.transformers = cfg.transformers
      ∧ e.readOpts = cfg.readOptions
      ∧ ∀ req, e.skips req = !shardOwns req.id index count := by
  unfold newEngine EngineConfig.shard
  by_cases hc : count > 1
  · have hr : (decide (index < 0) || decide (index ≥ count)) = false := by
      have h0 : ¬ index < 0 := Int64.not_lt.mpr h.1
      have h1 : ¬ index ≥ count := Int64.not_le.mpr h.2
      simp [h0, h1]
    simp only [hc, hr, if_true, Bool.false_eq_true, if_false]
    refine ⟨_, rfl, rfl, rfl, fun req => ?_⟩
    simp only [Engine.skips, shardOwns, Int64.not_le.mpr hc, if_false, one_lt_toUInt64 hc,
      decide_true, Bool.true_and]
    rfl
  · simp only [hc, if_false]
    refine ⟨_, rfl, rfl, rfl, fun req => ?_⟩
    simp only [Engine.skips, shardOwns, Int64.not_lt.mp hc, if_true]
    rfl

/-- An engine without sharding skips nothing. -/
theorem newEngine_unsharded (cfg : EngineConfig) (index : Int64) (h : count ≤ 1) :
    ∃ e, newEngine (cfg.shard index count) = .ok e ∧ e.transformers = cfg.transformers
      ∧ e.readOpts = cfg.readOptions ∧ ∀ req, e.skips req = false := by
  unfold newEngine EngineConfig.shard
  have hc : ¬ count > 1 := Int64.not_lt.mpr h
  simp only [hc, if_false]
  exact ⟨_, rfl, rfl, rfl, fun req => rfl⟩

/-- **`NewFeeder` accepts every shard of a split.** -/
theorem newFeeder_shard (fcfg : FeederConfig) (h : InShards count index) :
    ∃ f, newFeeder (fcfg.shard index count) = .ok f ∧ f.readOptions = fcfg.readOptions := by
  unfold newFeeder FeederConfig.shard
  split
  · rename_i hr
    have h0 : ¬ index < 0 := Int64.not_lt.mpr h.1
    have h1 : ¬ index ≥ count := Int64.not_le.mpr h.2
    simp [h0, h1] at hr
  · exact ⟨_, rfl, rfl⟩

/-- The requests of shard `index`, by `ShardIndexOf`. -/
def shardPart (reqs : List CapturedRequest) (count index : Int64) : List CapturedRequest :=
  reqs.filter fun req => shardIndexOf req.id count = index

theorem filter_shardOwns (reqs : List CapturedRequest) (h : InShards count index) :
    (reqs.filter fun req => shardOwns req.id index count) = shardPart reqs count index := by
  refine List.filter_congr fun req _ => ?_
  rw [Bool.eq_iff_iff, shardOwns_iff req.id h, decide_eq_true_iff]

section

variable {cfg : EngineConfig} {fcfg : FeederConfig} {reader : ReadOptions → Except Error ReaderRun}
  {ctx : Nat → Bool} {env : FeedEnv}

/-- A successful run of an engine opened its reader and ran its loop to the end. -/
theorem run_err_eq_none {e : Engine} (h : (e.run reader ctx).err = none) :
    ∃ run, reader e.readOpts = .ok run
      ∧ (e.run reader ctx).events = (e.readLoop ctx run.last run.reqs 0 0).events
      ∧ (e.readLoop ctx run.last run.reqs 0 0).err = none := by
  unfold Engine.run at h ⊢
  cases hr : reader e.readOpts with
  | error err => simp [hr, LoopRun.stop] at h
  | ok run =>
      simp only [hr, Option.map_eq_none_iff] at h
      exact ⟨run, rfl, rfl, h⟩

/-- An engine that skips the same requests as `keep` drops replays the rest. -/
theorem replay_of_skips {c : EngineConfig} {e : Engine} (keep : CapturedRequest → Bool)
    (he : newEngine c = .ok e) (hs : ∀ req, e.skips req = !keep req)
    (h : (replay c reader ctx).err = none) :
    ∃ run, reader e.readOpts = .ok run ∧ (replay c reader ctx).kept = run.reqs.filter keep
      ∧ (replay c reader ctx).sent
          = (run.reqs.filter keep).filterMap (applyTransformers e.transformers) := by
  have hrun : replay c reader ctx = e.run reader ctx := by simp [replay, he]
  rw [hrun] at h ⊢
  obtain ⟨run, hopen, hev, herr⟩ := run_err_eq_none h
  obtain ⟨_, hkept, hsent⟩ := readLoop_of_err_eq_none run.reqs 0 0 herr
  simp only [hs, Bool.not_not] at hkept hsent
  refine ⟨run, hopen, ?_, ?_⟩
  · rw [LoopRun.kept, hev]; exact hkept
  · rw [LoopRun.sent, hev]; exact hsent

/-- **One shard of a replay.** -/
theorem replay_shard {n i : Int64} (hi : InShards n i)
    (h : (replay (cfg.shard i n) reader ctx).err = none) :
    ∃ run, reader cfg.readOptions = .ok run
      ∧ (replay (cfg.shard i n) reader ctx).kept = shardPart run.reqs n i
      ∧ (replay (cfg.shard i n) reader ctx).sent
          = (shardPart run.reqs n i).filterMap (applyTransformers cfg.transformers) := by
  obtain ⟨e, he, ht, ho, hs⟩ := newEngine_shard cfg hi
  obtain ⟨run, hopen, hkept, hsent⟩ := replay_of_skips _ he hs h
  rw [ho] at hopen
  rw [filter_shardOwns run.reqs hi] at hkept hsent
  rw [ht] at hsent
  exact ⟨run, hopen, hkept, hsent⟩

/-- The unsharded replay. -/
theorem replay_unsharded {j u : Int64} (hu : u ≤ 1)
    (h : (replay (cfg.shard j u) reader ctx).err = none) :
    ∃ run, reader cfg.readOptions = .ok run
      ∧ (replay (cfg.shard j u) reader ctx).sent
          = run.reqs.filterMap (applyTransformers cfg.transformers) := by
  obtain ⟨e, he, ht, ho, hs⟩ := newEngine_unsharded cfg j hu
  obtain ⟨run, hopen, _, hsent⟩ := replay_of_skips (fun _ => true) he hs h
  rw [ho] at hopen
  rw [ht, List.filter_true] at hsent
  exact ⟨run, hopen, hsent⟩

/-- A feeder that succeeds fed what `ShardOwns` keeps. -/
theorem feedReplay_succeeds (h : (feedReplay fcfg reader env).Succeeds) :
    ∃ run, reader fcfg.readOptions = .ok run
      ∧ (feedReplay fcfg reader env).feed.kept
          = run.reqs.filter (fun req => shardOwns req.id fcfg.shardIndex fcfg.shardCount) := by
  unfold feedReplay at h ⊢
  cases hf : newFeeder fcfg with
  | error err =>
      obtain ⟨report, h⟩ := h
      simp [hf] at h
  | ok f =>
      have hcfg : f.readOptions = fcfg.readOptions ∧ f.shardIndex = fcfg.shardIndex
          ∧ f.shardCount = fcfg.shardCount := by
        unfold newFeeder at hf
        split at hf
        · cases hf
        · cases hf
          exact ⟨rfl, rfl, rfl⟩
      simp only [hf] at h
      obtain ⟨run, hopen, hfeed, herr⟩ := run_succeeds h
      rw [hfeed] at herr
      obtain ⟨_, hkept⟩ := feed_of_err_eq_none run.reqs 0 0 0 0 herr
      obtain ⟨ho, hidx, hcnt⟩ := hcfg
      refine ⟨run, ho ▸ hopen, ?_⟩
      rw [hfeed, hkept, hidx, hcnt]

/-- **One shard of a feed.** -/
theorem feedReplay_shard {n i : Int64} (hi : InShards n i)
    (h : (feedReplay (fcfg.shard i n) reader env).Succeeds) :
    ∃ run, reader fcfg.readOptions = .ok run
      ∧ (feedReplay (fcfg.shard i n) reader env).feed.kept
          = shardPart run.reqs n i := by
  obtain ⟨run, hopen, hkept⟩ := feedReplay_succeeds h
  exact ⟨run, hopen, hkept.trans (filter_shardOwns run.reqs hi)⟩

/-- The unsharded feed. -/
theorem feedReplay_unsharded {j u : Int64} (hu : u ≤ 1)
    (h : (feedReplay (fcfg.shard j u) reader env).Succeeds) :
    ∃ run, reader fcfg.readOptions = .ok run
      ∧ (feedReplay (fcfg.shard j u) reader env).feed.kept = run.reqs := by
  obtain ⟨run, hopen, hkept⟩ := feedReplay_succeeds h
  refine ⟨run, hopen, hkept.trans ?_⟩
  refine List.filter_eq_self.mpr fun req _ => ?_
  simp [FeederConfig.shard, shardOwns, hu]

end

/-! ## Undisturbed runs succeed -/

/-- An engine of a split that is never cancelled reads a capture to its end. -/
theorem replay_err_of_live {cfg : EngineConfig} {run : ReaderRun} {n i : Int64} (hi : InShards n i)
    (hopen : reader cfg.readOptions = .ok run) (hlast : run.last.is .readerDone = true) :
    (replay (cfg.shard i n) reader fun _ => false).err = none := by
  obtain ⟨e, he, _, ho, _⟩ := newEngine_shard cfg hi
  simp only [replay, he, Engine.run, ho, hopen, (readLoop_of_live _ _ _).1, hlast, if_true,
    Option.map_none]

/-- A feeder of a split that nothing disturbs reads a capture to its end. -/
theorem feedReplay_quiet {fcfg : FeederConfig} {run : ReaderRun} {n i : Int64} (hi : InShards n i)
    (hopen : reader fcfg.readOptions = .ok run) (hlast : endOfCapture run.last = true)
    (report : RunReport) : (feedReplay (fcfg.shard i n) reader (.quiet report)).Succeeds := by
  obtain ⟨f, hf, ho⟩ := newFeeder_shard fcfg hi
  simp only [feedReplay, hf]
  exact (run_quiet (ho ▸ hopen) report).mpr hlast

/-- Every occurrence of a capture is owned by one of its shards. -/
theorem deals_shardPart {β : Type} (g : CapturedRequest → Option β) (reqs : List CapturedRequest)
    {n : Int64} (hn : 1 ≤ n) :
    Deals (InShards n) (reqs.filterMap g) fun i => (shardPart reqs n i).filterMap g := by
  have hown : ∀ req ∈ reqs, InShards n (shardIndexOf req.id n) := fun req _ =>
    shardIndexOf_inShards req.id hn
  have h := deals_filterMap (fun req : CapturedRequest => shardIndexOf req.id n) g hown
  exact h

/--
**The shards partition the replay.** Let one unsharded and `n` sharded engines, and
as many feeders, each read the capture to its end without an error. Then the
engines deal out what the unsharded engine sends, the feeders deal out what the
unsharded feeder feeds, and both keep on shard `i` exactly the requests that
`ShardIndexOf` sends there.
-/
theorem shards_partition_replay (cfg : EngineConfig) (fcfg : FeederConfig)
    (reader : ReadOptions → Except Error ReaderRun) (hopts : fcfg.readOptions = cfg.readOptions)
    (n u j : Int64) (hn : 1 ≤ n) (hu : u ≤ 1)
    (ctx : Int64 → Nat → Bool) (ctx₀ : Nat → Bool) (env : Int64 → FeedEnv) (env₀ : FeedEnv)
    (whole : (replay (cfg.shard j u) reader ctx₀).err = none)
    (shards : ∀ i, InShards n i → (replay (cfg.shard i n) reader (ctx i)).err = none)
    (wholeFeed : (feedReplay (fcfg.shard j u) reader env₀).Succeeds)
    (shardFeeds : ∀ i, InShards n i → (feedReplay (fcfg.shard i n) reader (env i)).Succeeds) :
    Deals (InShards n) (replay (cfg.shard j u) reader ctx₀).sent
        (fun i => (replay (cfg.shard i n) reader (ctx i)).sent)
      ∧ Deals (InShards n) (feedReplay (fcfg.shard j u) reader env₀).feed.kept
        (fun i => (feedReplay (fcfg.shard i n) reader (env i)).feed.kept)
      ∧ ∀ i, InShards n i →
          (replay (cfg.shard i n) reader (ctx i)).kept
              = shardPart (feedReplay (fcfg.shard j u) reader env₀).feed.kept n i
          ∧ (feedReplay (fcfg.shard i n) reader (env i)).feed.kept
              = shardPart (feedReplay (fcfg.shard j u) reader env₀).feed.kept n i
          ∧ ∀ req, ((∃ e, newEngine (cfg.shard i n) = .ok e ∧ e.skips req = false)
                ↔ shardOwns req.id i n = true)
              ∧ (shardOwns req.id i n = true ↔ shardIndexOf req.id n = i) := by
  obtain ⟨run, hopen, hsent⟩ := replay_unsharded hu whole
  obtain ⟨run', hopen', hfed⟩ := feedReplay_unsharded hu wholeFeed
  -- every loop reads the same sequence
  have hsame : ∀ r, reader cfg.readOptions = .ok r → r = run := by
    intro r hr
    rw [hopen] at hr
    exact (Except.ok.inj hr).symm
  obtain rfl : run' = run := hsame run' (hopts ▸ hopen')
  have hshard : ∀ i, InShards n i →
      (replay (cfg.shard i n) reader (ctx i)).kept = shardPart run'.reqs n i
      ∧ (replay (cfg.shard i n) reader (ctx i)).sent
          = (shardPart run'.reqs n i).filterMap (applyTransformers cfg.transformers) := by
    intro i hi
    obtain ⟨r, hr, hk, hs⟩ := replay_shard hi (shards i hi)
    rw [hsame r hr] at hk hs
    exact ⟨hk, hs⟩
  have hfeed : ∀ i, InShards n i →
      (feedReplay (fcfg.shard i n) reader (env i)).feed.kept = shardPart run'.reqs n i := by
    intro i hi
    obtain ⟨r, hr, hk⟩ := feedReplay_shard hi (shardFeeds i hi)
    rw [hsame r (hopts ▸ hr)] at hk
    exact hk
  rw [hsent, hfed]
  refine ⟨?_, ?_, ?_⟩
  · exact (deals_shardPart _ run'.reqs hn).congr fun i hi => (hshard i hi).2
  · exact (deals_filter _ fun req _ => shardIndexOf_inShards req.id hn).congr hfeed
  · intro i hi
    refine ⟨(hshard i hi).1, hfeed i hi, fun req => ⟨?_, shardOwns_iff req.id hi⟩⟩
    obtain ⟨e, he, _, _, hskips⟩ := newEngine_shard cfg hi
    constructor
    · rintro ⟨e', he', hk⟩
      obtain rfl : e = e' := Except.ok.inj (he.symm.trans he')
      simpa [hskips] using hk
    · intro ho
      exact ⟨e, he, by rw [hskips, ho]; rfl⟩

/-- Options, configurations and a reader of three requests, for a concrete split. -/
def sampleOptions : ReadOptions := .all (lit "default/checkout")

def sampleEngine : EngineConfig := ⟨[], sampleOptions, .unlimited, 0, 1, 1, 0, 1⟩

def sampleFeeder : FeederConfig := ⟨sampleOptions, 0, 1, .unlimited, 0, 1⟩

def sampleRequest (id : String) : CapturedRequest :=
  ⟨lit id, 0, lit "GET", lit "/", [], [], 0, lit "HTTP/1.1", []⟩

def sampleRun : ReaderRun :=
  ⟨[sampleRequest "a", sampleRequest "b", sampleRequest "a"], errReaderDone, []⟩

def sampleReport : RunReport := ⟨0, 0, 0, 0, 0, 0, 0, 0⟩

/-- Two shards of a capture in which one ID occurs twice. -/
theorem shards_partition_replay_two :
    Deals (InShards 2) (replay (sampleEngine.shard 0 1) (fun _ => .ok sampleRun) fun _ =>
      false).sent
      fun i => (replay (sampleEngine.shard i 2) (fun _ => .ok sampleRun) fun _ => false).sent :=
  (shards_partition_replay sampleEngine sampleFeeder (fun _ => .ok sampleRun) rfl 2 1 0
    (by decide) (by decide) (fun _ _ => false) (fun _ => false) (fun _ => .quiet sampleReport)
    (.quiet sampleReport) (replay_err_of_live (by decide) rfl rfl)
    (fun _ hi => replay_err_of_live hi rfl rfl) (feedReplay_quiet (by decide) rfl rfl sampleReport)
    (fun _ hi => feedReplay_quiet hi rfl rfl sampleReport)).1

end Kapture.Replay
