import Kapture.Dataset.Preshard
import Kapture.Replay.Partition
import Kapture.Worker.Args

/-!
# A run of a replay worker

`replay-engine` checks the manifest of its capture, then replays it through the
builtin engine or an external one. The runs here are undisturbed: no signal, a
storage that answers, sends that return, and an engine that reports and closes. What
is left is what depends on the capture: the requests that are sent, and whether the
worker fails because there are none.
-/

namespace Kapture.Worker

open Go Storage Replay Dataset

/-- What came of a worker. -/
structure Outcome where
  sent : List CapturedRequest
  err : Option Error
deriving DecidableEq, Repr

/-- The stored bytes as a manifest. An object that is no manifest does not parse. -/
def parseObject (M : ManifestCodec) : Object → Except Error Manifest
  | .raw bytes => parseManifest M bytes
  | .gz _ => .error ((Err.new "invalid character").wrap "parse manifest")

def manifestPreflight (M : ManifestCodec) (b : Backend) (s : Store) (cfg : Config) : Option Error :=
  match loadManifest b s cfg.captureID with
  | none => none
  | some obj =>
      match parseObject M obj with
      | .error err => some (err.wrap ("dataset manifest for " ++ cfg.captureID.quote))
      | .ok m =>
          if cfg.failOnEmpty && m.recordCount == 0 then
            some (.new ("dataset manifest for " ++ cfg.captureID.quote
              ++ " declares 0 records; pass --fail-on-empty=false to allow empty replays"))
          else none

/-- The error of a capture that holds nothing. -/
def errEmpty (captureID : Str) : Error :=
  .new ("no captured requests found for capture-id " ++ captureID.quote
    ++ " (missing capture or preshard layout?); pass --fail-on-empty=false to allow empty replays")

def isSkip : Event → Bool
  | .skip _ => true
  | _ => false

def isFilter : Event → Bool
  | .filter _ => true
  | _ => false

/-- `summary.TotalRequests == 0 && summary.FilteredCount == 0 && engine.ShardSkipped() == 0`,
where every request that was handed over has a result. -/
def nothingRead (events : List Event) : Bool :=
  (events.filterMap Event.sent).length == 0 && events.countP isFilter == 0
    && events.countP isSkip == 0

def engineConfig (cfg : Config) (opts : ReadOptions) : EngineConfig where
  transformers := []
  readOptions := opts
  rateMode := cfg.rateMode
  ratePerSecond := cfg.ratePerSecond
  timeScale := cfg.timeScale
  concurrency := cfg.concurrency
  shardIndex := cfg.shardIndex
  shardCount := cfg.shardCount

/-- The end of `runDirectReplay`. -/
def finishDirect (cfg : Config) (loop : LoopRun) : Outcome :=
  match loop.err with
  | some err => ⟨loop.sent, some (err.wrap "replay engine")⟩
  | none =>
      if cfg.failOnEmpty && nothingRead loop.events then
        ⟨loop.sent, some (errEmpty cfg.captureID)⟩
      else ⟨loop.sent, none⟩

def runDirectReplay (cfg : Config) (reader : ReadOptions → Except Error ReaderRun) : Outcome :=
  match buildReadOptions cfg with
  | .error err => ⟨[], some err⟩
  | .ok opts =>
      match newEngine (engineConfig cfg opts) with
      | .error err => ⟨[], some (err.wrap "create engine")⟩
      | .ok e => finishDirect cfg (e.run reader fun _ => false)

def feederConfig (cfg : Config) (opts : ReadOptions) : FeederConfig where
  readOptions := opts
  shardIndex := cfg.shardIndex
  shardCount := cfg.shardCount
  rateMode := cfg.rateMode
  ratePerSecond := cfg.ratePerSecond
  timeScale := cfg.timeScale

def isFeedSkip : FeedEvent → Bool
  | .skip _ => true
  | _ => false

/-- `feeder.Fed() == 0 && feeder.Skipped() == 0`. -/
def nothingFed (events : List FeedEvent) : Bool :=
  (events.filterMap FeedEvent.kept).length == 0 && events.countP isFeedSkip == 0

/-- The end of `runExternalEngine`. -/
def finishExternal (cfg : Config) (run : FeederRun) : Outcome :=
  match run.result with
  | .error err => ⟨run.feed.kept, some (err.wrap ("engine " ++ cfg.engine.quote ++ " run"))⟩
  | .ok _ =>
      if cfg.failOnEmpty && nothingFed run.feed.events then
        ⟨run.feed.kept, some (errEmpty cfg.captureID)⟩
      else ⟨run.feed.kept, none⟩

/-- `runExternalEngine`, with an engine that sends `report` at its end. -/
def runExternalEngine (report : RunReport) (cfg : Config)
    (reader : ReadOptions → Except Error ReaderRun) : Outcome :=
  match buildReadOptions cfg with
  | .error err => ⟨[], some err⟩
  | .ok opts =>
      match newFeeder (feederConfig cfg opts) with
      | .error err => ⟨[], some err⟩
      | .ok f => finishExternal cfg (f.run reader (.quiet report))

/-- The part of `run` behind the preflight. -/
def stream (report : RunReport) (cfg : Config) (reader : ReadOptions → Except Error ReaderRun) :
    Outcome :=
  if cfg.engine ≠ [] ∧ cfg.engine ≠ builtin then runExternalEngine report cfg reader
  else runDirectReplay cfg reader

/-- `run`, for a worker that is given a storage and a target. -/
def run (J : Codec) (M : ManifestCodec) (report : RunReport) (b : Backend) (s : Store)
    (cfg : Config) : Outcome :=
  if cfg.captureID = [] then ⟨[], some (.new "--capture-id is required")⟩
  else
    match manifestPreflight M b s cfg with
    | some err => ⟨[], some err⟩
    | none => stream report cfg (readCapture J b s none fun _ => .none)

/-- The worker of a `TrafficReplay`. -/
def worker (J : Codec) (M : ManifestCodec) (report : RunReport) (b : Backend) (s : Store)
    (tr : TrafficReplay) : Outcome :=
  run J M report b s (parseFlags (buildReplayArgs tr))

/-! ## What an undisturbed worker sends -/

theorem nothingRead_iff (events : List Event) : nothingRead events = true ↔ events = [] := by
  constructor
  · intro h
    cases events with
    | nil => rfl
    | cons ev rest => cases ev <;> simp [nothingRead, Event.sent, isFilter, isSkip] at h
  · rintro rfl
    rfl

theorem nothingFed_iff (events : List FeedEvent) : nothingFed events = true ↔ events = [] := by
  constructor
  · intro h
    cases events with
    | nil => rfl
    | cons ev rest => cases ev <;> simp [nothingFed, FeedEvent.kept, isFeedSkip] at h
  · rintro rfl
    rfl

variable {cfg : Config} {opts : ReadOptions} {reader : ReadOptions → Except Error ReaderRun}
  {read : ReaderRun} {report : RunReport}

/-- What a worker makes of a capture that was read to its end: it sends the part of
its shard, and fails if there was nothing to read at all. -/
def Streams (cfg : Config) (reqs : List CapturedRequest) (o : Outcome) : Prop :=
  o.sent = reqs.filter (fun req => shardOwns req.id cfg.shardIndex cfg.shardCount)
    ∧ (o.err = none ↔ (cfg.failOnEmpty = true → reqs ≠ []))

/-- The check at the end of a run that read everything. -/
theorem streams_finish {sent : List CapturedRequest} {empty : Bool} {err : Error}
    {reqs : List CapturedRequest} (hempty : empty = true ↔ reqs = [])
    (hsent : sent = reqs.filter fun req => shardOwns req.id cfg.shardIndex cfg.shardCount) :
    Streams cfg reqs
      (if cfg.failOnEmpty && empty then (⟨sent, some err⟩ : Outcome) else ⟨sent, none⟩) := by
  unfold Streams
  rw [← hsent]
  cases hf : cfg.failOnEmpty with
  | false => simp
  | true =>
      by_cases hnil : reqs = []
      · simp [hempty.mpr hnil, hnil]
      · have : empty = false := by simpa using mt hempty.mp hnil
        simp [this, hnil]

theorem streams_direct (hopts : buildReadOptions cfg = .ok opts) (hopen : reader opts = .ok read)
    (hlast : read.last = errReaderDone) (hi : InShards cfg.shardCount cfg.shardIndex) :
    Streams cfg read.reqs (runDirectReplay cfg reader) := by
  obtain ⟨e, he, ht, ho, hs⟩ := newEngine_shard (engineConfig cfg opts) hi
  have he' : newEngine (engineConfig cfg opts) = .ok e := he
  have hopen' : reader e.readOpts = .ok read := ho ▸ hopen
  have herr : (e.readLoop (fun _ => false) read.last read.reqs 0 0).err = none := by
    rw [(readLoop_of_live _ _ _).1, hlast]
    rfl
  obtain ⟨_, _, hsent⟩ := readLoop_of_err_eq_none read.reqs 0 0 herr
  have hlen : (e.readLoop (fun _ => false) read.last read.reqs 0 0).events.length = _ :=
    (readLoop_of_live read.reqs 0 0).2
  simp only [runDirectReplay, hopts, he', finishDirect, Engine.run, hopen', herr, Option.map_none]
  refine streams_finish ?_ ?_
  · rw [nothingRead_iff, ← List.length_eq_zero_iff, hlen, List.length_eq_zero_iff]
  · rw [LoopRun.sent] at hsent ⊢
    rw [hsent, ht]
    simp [engineConfig, hs, applyTransformers]

theorem streams_external (hopts : buildReadOptions cfg = .ok opts) (hopen : reader opts = .ok read)
    (hlast : read.last = errReaderDone) (hi : InShards cfg.shardCount cfg.shardIndex) :
    Streams cfg read.reqs (runExternalEngine report cfg reader) := by
  obtain ⟨f, hf, ho⟩ := newFeeder_shard (feederConfig cfg opts) hi
  have hf' : newFeeder (feederConfig cfg opts) = .ok f := hf
  have hopen' : reader f.readOptions = .ok read := ho ▸ hopen
  have hrun : feedReplay (feederConfig cfg opts) reader (.quiet report)
      = f.run reader (.quiet report) := by
    simp only [feedReplay, hf']
  have hok := (run_quiet hopen' report).mpr (by rw [hlast]; rfl)
  obtain ⟨read', hread, hkept⟩ := feedReplay_succeeds (hrun ▸ hok)
  cases hopen.symm.trans hread
  rw [hrun] at hkept
  obtain ⟨_, hread', hfeed, _⟩ := run_succeeds hok
  cases hopen'.symm.trans hread'
  have hlen : (f.run reader (.quiet report)).feed.events.length = read.reqs.length := by
    rw [hfeed]
    exact (feed_of_live _ _ _ (fun _ => rfl) read.reqs 0 0 0 0).2
  obtain ⟨r, hr⟩ := hok
  simp only [runExternalEngine, hopts, hf', finishExternal, hr]
  refine streams_finish ?_ hkept
  rw [nothingFed_iff, ← List.length_eq_zero_iff, hlen, List.length_eq_zero_iff]

theorem streams_stream (hopts : buildReadOptions cfg = .ok opts) (hopen : reader opts = .ok read)
    (hlast : read.last = errReaderDone) (hi : InShards cfg.shardCount cfg.shardIndex) :
    Streams cfg read.reqs (stream report cfg reader) := by
  unfold stream
  split
  · exact streams_external hopts hopen hlast hi
  · exact streams_direct hopts hopen hlast hi

end Kapture.Worker
