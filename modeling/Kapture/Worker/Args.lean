import Kapture.Replay.Feeder

/-!
# The arguments of a replay worker

A spoke turns a `TrafficReplay` into a command line, and the `replay-engine` process
parses it again. A flag is modelled with the value it is parsed to, so what is left
here is which flags are set, from what, and their defaults. The flags that say where
the storage and the target are do not appear: they are the same for every shard.
-/

namespace Kapture.Worker

open Go Storage Replay

structure ReplayShardSpec where
  index : Int32
  count : Int32
  presharded : Option Bool
deriving DecidableEq, Repr

structure ReplayFilters where
  startTime : Option Time
  endTime : Option Time
  pathPrefix : Option Str
  methods : List Str
  limit : Option Int64
deriving DecidableEq, Repr

/-- `ReplayRateConfig`. The text of a time scale is a decimal number. -/
structure ReplayRateConfig where
  mode : RateMode
  requestsPerSecond : Option Int32
  timeScale : Option Rat
deriving DecidableEq, Repr

/-- What the worker of a `TrafficReplay` depends on. -/
structure TrafficReplay where
  ns : Str
  source : Str
  rate : Option ReplayRateConfig
  filters : Option ReplayFilters
  concurrency : Option Int32
  shard : Option ReplayShardSpec
  /-- The name of the engine. -/
  engine : Option Str
deriving DecidableEq, Repr

/-- A flag of `replay-engine`. -/
inductive Flag where
  | captureID (v : Str)
  | rateMode (v : RateMode)
  | ratePerSecond (v : Rat)
  | timeScale (v : Rat)
  | concurrency (v : Int64)
  | shardIndex (v : Int64)
  | shardCount (v : Int64)
  | engine (v : Str)
  | startTime (v : Time)
  | endTime (v : Time)
  | pathPrefix (v : Str)
  | methods (v : Str)
  | limit (v : Int64)
deriving DecidableEq, Repr

/-- RFC 3339 has whole seconds. -/
def truncateSecond (t : Time) : Time := t - t % 1000000000

/-- `presharded` in `buildReplayArgs`. -/
def presharded (tr : TrafficReplay) : Bool :=
  match tr.shard with
  | some ⟨_, _, some v⟩ => v
  | _ => false

/-- The capture of a `TrafficReplay`. -/
def sourceCapture (tr : TrafficReplay) : Str := tr.ns ++ lit "/" ++ tr.source

/-- `%d` of an `int32`. -/
def formatInt (v : Int32) : Str :=
  if v < 0 then lit "-" ++ decimal v.toInt.natAbs else decimal v.toInt.natAbs

def rateArgs : Option ReplayRateConfig → List Flag
  | none => [.rateMode .originalTiming]
  | some ⟨.constant, rps, _⟩ =>
      .rateMode .constant :: (rps.map fun v => Flag.ratePerSecond (v.toInt : Rat)).toList
  | some ⟨.originalTiming, _, scale⟩ =>
      .rateMode .originalTiming :: (scale.map Flag.timeScale).toList
  | some ⟨.unlimited, _, _⟩ => [.rateMode .unlimited]

/-- The slice of a presharded capture, or the capture with its shard flags. -/
def shardArgs (tr : TrafficReplay) : List Flag :=
  match tr.shard with
  | none => []
  | some shard =>
      if presharded tr then []
      else [.shardIndex shard.index.toInt64, .shardCount shard.count.toInt64]

def captureArg (tr : TrafficReplay) : Str :=
  match tr.shard with
  | none => sourceCapture tr
  | some shard =>
      if presharded tr then
        sourceCapture tr ++ lit "/shards/" ++ formatInt shard.index ++ lit "-of-"
          ++ formatInt shard.count
      else sourceCapture tr

def builtin : Str := lit "builtin"

def engineArgs : Option Str → List Flag
  | none => []
  | some name => if name ≠ [] ∧ name ≠ builtin then [.engine name] else []

def filterArgs : Option ReplayFilters → List Flag
  | none => []
  | some f =>
      (f.startTime.map fun t => Flag.startTime (truncateSecond t)).toList
        ++ (f.endTime.map fun t => Flag.endTime (truncateSecond t)).toList
        ++ ((f.pathPrefix.filter (· ≠ [])).map Flag.pathPrefix).toList
        ++ (if f.methods = [] then [] else [.methods ([44].intercalate f.methods)])
        ++ ((f.limit.filter (0 < ·)).map Flag.limit).toList

def buildReplayArgs (tr : TrafficReplay) : List Flag :=
  .captureID (captureArg tr) :: rateArgs tr.rate
    ++ (tr.concurrency.map fun v => Flag.concurrency v.toInt64).toList
    ++ shardArgs tr ++ engineArgs tr.engine ++ filterArgs tr.filters

/-- The `config` of `replay-engine`. -/
structure Config where
  captureID : Str
  startTime : Option Time
  endTime : Option Time
  pathPrefix : Str
  methods : Str
  limit : Int64
  rateMode : RateMode
  ratePerSecond : Rat
  timeScale : Rat
  concurrency : Int64
  shardIndex : Int64
  shardCount : Int64
  engine : Str
  failOnEmpty : Bool
deriving DecidableEq, Repr

/-- The defaults of the flags. -/
def Config.default : Config where
  captureID := []
  startTime := none
  endTime := none
  pathPrefix := []
  methods := []
  limit := 0
  rateMode := .originalTiming
  ratePerSecond := 0
  timeScale := 1
  concurrency := 10
  shardIndex := 0
  shardCount := 1
  engine := builtin
  failOnEmpty := true

def Config.set (cfg : Config) : Flag → Config
  | .captureID v => { cfg with captureID := v }
  | .rateMode v => { cfg with rateMode := v }
  | .ratePerSecond v => { cfg with ratePerSecond := v }
  | .timeScale v => { cfg with timeScale := v }
  | .concurrency v => { cfg with concurrency := v }
  | .shardIndex v => { cfg with shardIndex := v }
  | .shardCount v => { cfg with shardCount := v }
  | .engine v => { cfg with engine := v }
  | .startTime v => { cfg with startTime := some v }
  | .endTime v => { cfg with endTime := some v }
  | .pathPrefix v => { cfg with pathPrefix := v }
  | .methods v => { cfg with methods := v }
  | .limit v => { cfg with limit := v }

def parseFlags (args : List Flag) : Config := args.foldl Config.set .default

/-- `time.Parse` of a time that was formatted, which needs a year of four digits. -/
def parseTime (flag : String) : Option Time → Except Error Time
  | none => .ok 0
  | some t =>
      if 0 ≤ Rfc3339.yearOf t ∧ Rfc3339.yearOf t ≤ 9999 then .ok t
      else .error ((Err.new "cannot parse time").wrap ("parse " ++ flag))

/-- The methods of the flag. -/
def splitMethods (methods : Str) : List Str :=
  if methods = [] then [] else (methods.splitOn 44).map Str.trimSpace

def buildReadOptions (cfg : Config) : Except Error ReadOptions :=
  match parseTime "start-time" cfg.startTime with
  | .error err => .error err
  | .ok startTime =>
      match parseTime "end-time" cfg.endTime with
      | .error err => .error err
      | .ok endTime =>
          .ok ⟨cfg.captureID, startTime, endTime, cfg.pathPrefix, splitMethods cfg.methods,
            cfg.limit.toInt⟩

/-! ## The two workers of a shard -/

/-- The shard by its hash: the worker reads the whole capture. -/
def TrafficReplay.hashed (tr : TrafficReplay) (index count : Int32) : TrafficReplay :=
  { tr with shard := some ⟨index, count, none⟩ }

/-- The shard by its slice. -/
def TrafficReplay.sliced (tr : TrafficReplay) (index count : Int32) : TrafficReplay :=
  { tr with shard := some ⟨index, count, some true⟩ }

/-- The capture and the shard of a configuration, replaced. -/
def Config.select (cfg : Config) (captureID : Str) (index count : Int64) : Config :=
  { cfg with captureID := captureID, shardIndex := index, shardCount := count }

/-- The flags that select a capture or a shard. -/
def Flag.selects : Flag → Bool
  | .captureID _ | .shardIndex _ | .shardCount _ => true
  | _ => false

/-- The flags that both workers have. -/
def commonArgs (tr : TrafficReplay) : List Flag :=
  rateArgs tr.rate ++ (tr.concurrency.map fun v => Flag.concurrency v.toInt64).toList
    ++ engineArgs tr.engine ++ filterArgs tr.filters

theorem select_foldl (cfg : Config) (captureID : Str) (index count : Int64) {args : List Flag}
    (h : ∀ flag ∈ args, flag.selects = false) :
    args.foldl Config.set (cfg.select captureID index count)
      = (args.foldl Config.set cfg).select captureID index count := by
  induction args generalizing cfg with
  | nil => rfl
  | cons flag rest ih =>
      have hset : (cfg.select captureID index count).set flag
          = (cfg.set flag).select captureID index count := by
        have := h flag (List.mem_cons_self ..)
        cases flag <;> first | rfl | cases this
      rw [List.foldl_cons, List.foldl_cons, hset, ih]
      exact fun flag' hf => h flag' (List.mem_cons_of_mem _ hf)

theorem rateArgs_neutral (rate : Option ReplayRateConfig) :
    ∀ flag ∈ rateArgs rate, flag.selects = false := by
  intro flag h
  unfold rateArgs at h
  split at h <;> simp only [List.mem_cons, List.not_mem_nil, or_false, Option.mem_toList,
    Option.map_eq_some_iff] at h
  · rw [h]; rfl
  · rcases h with rfl | ⟨_, _, rfl⟩ <;> rfl
  · rcases h with rfl | ⟨_, _, rfl⟩ <;> rfl
  · rw [h]; rfl

theorem filterArgs_neutral (filters : Option ReplayFilters) :
    ∀ flag ∈ filterArgs filters, flag.selects = false := by
  intro flag h
  unfold filterArgs at h
  split at h
  · cases h
  · simp only [List.mem_append, Option.mem_toList, Option.map_eq_some_iff] at h
    rcases h with (((⟨_, _, rfl⟩ | ⟨_, _, rfl⟩) | ⟨_, _, rfl⟩) | h) | ⟨_, _, rfl⟩
    · rfl
    · rfl
    · rfl
    · split at h
      · cases h
      · rw [List.mem_singleton.mp h]
        rfl
    · rfl

theorem commonArgs_neutral (tr : TrafficReplay) : ∀ flag ∈ commonArgs tr, flag.selects = false := by
  intro flag h
  simp only [commonArgs, List.mem_append, Option.mem_toList, Option.map_eq_some_iff] at h
  rcases h with ((h | ⟨_, _, rfl⟩) | h) | h
  · exact rateArgs_neutral _ flag h
  · rfl
  · unfold engineArgs at h
    split at h
    · cases h
    · split at h
      · rw [List.mem_singleton.mp h]
        rfl
      · cases h
  · exact filterArgs_neutral _ flag h

/-- What both workers have in common. -/
def commonConfig (tr : TrafficReplay) : Config := parseFlags (commonArgs tr)

/-- **A worker's configuration** is the common one with its own capture and shard. -/
theorem parseFlags_buildReplayArgs {tr : TrafficReplay} {index count : Int64}
    (h : ∀ cfg : Config, (shardArgs tr).foldl Config.set (cfg.select (captureArg tr) 0 1)
      = cfg.select (captureArg tr) index count) :
    parseFlags (buildReplayArgs tr) = (commonConfig tr).select (captureArg tr) index count := by
  have hn := commonArgs_neutral tr
  simp only [commonArgs, List.mem_append, or_imp, forall_and] at hn
  obtain ⟨⟨⟨hrate, hconc⟩, hengine⟩, hfilters⟩ := hn
  have hstart : Config.default.set (.captureID (captureArg tr))
      = Config.default.select (captureArg tr) 0 1 := rfl
  simp only [parseFlags, buildReplayArgs, commonConfig, commonArgs, List.cons_append,
    List.foldl_cons, List.foldl_append, hstart, select_foldl _ _ _ _ hrate,
    select_foldl _ _ _ _ hconc, h, select_foldl _ _ _ _ hengine, select_foldl _ _ _ _ hfilters]

theorem parseFlags_hashed (tr : TrafficReplay) (index count : Int32) :
    parseFlags (buildReplayArgs (tr.hashed index count))
      = (commonConfig tr).select (sourceCapture tr) index.toInt64 count.toInt64 :=
  parseFlags_buildReplayArgs fun _ => rfl

theorem parseFlags_sliced (tr : TrafficReplay) (index count : Int32) :
    parseFlags (buildReplayArgs (tr.sliced index count))
      = (commonConfig tr).select (captureArg (tr.sliced index count)) 0 1 :=
  parseFlags_buildReplayArgs fun _ => rfl

/-- No argument that a spoke sets allows an empty replay. -/
theorem failOnEmpty_parseFlags (args : List Flag) : (parseFlags args).failOnEmpty = true := by
  have hset : ∀ (cfg : Config) (flag : Flag), (cfg.set flag).failOnEmpty = cfg.failOnEmpty := by
    intro cfg flag
    cases flag <;> rfl
  have hfold : ∀ cfg : Config, (args.foldl Config.set cfg).failOnEmpty = cfg.failOnEmpty := by
    induction args with
    | nil => exact fun _ => rfl
    | cons flag rest ih => exact fun cfg => (ih _).trans (hset cfg flag)
  exact hfold _

/-- The options of a worker, but for the capture. -/
theorem buildReadOptions_select (cfg : Config) (captureID : Str) (index count : Int64) :
    buildReadOptions (cfg.select captureID index count)
      = (buildReadOptions cfg).map fun opts => { opts with captureID := captureID } := by
  simp only [buildReadOptions, Config.select]
  split
  · rfl
  · split <;> rfl

end Kapture.Worker
