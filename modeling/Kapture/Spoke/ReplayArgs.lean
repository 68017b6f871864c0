import Kapture.ReplayEngine.Flags
import Kapture.Spoke.TrafficReplay

/-!
# The arguments of a replay job

`buildReplayArgs` turns a `TrafficReplay` and its storage into the command line of the
`replay-engine` container. Most flags are only given when there is something to say, so
a command line is written as flags with optional values, in the order of the source.

Parsing such a command line sets every flag that has a value and leaves the others at
their defaults. `parseFlags_buildReplayArgs` says this for a whole worker.
-/

namespace Kapture.Spoke

open Go Storage Replay Hub ReplayEngine
open Worker (ReplayFilters ReplayShardSpec)

/-- A flag that is only given with a value. -/
def optArg (f : Flag) : Option Str → List Str
  | none => []
  | some v => f.arg v

/-- A text that counts as unset when it is empty. -/
def nonEmpty (s : Option Str) : Option Str := s.filter (· ≠ [])

theorem nonEmpty_some {s : Str} (h : s ≠ []) : nonEmpty (some s) = some s :=
  Option.filter_some_pos (by simpa using h)

/-- `presharded` in `buildReplayArgs`. -/
def presharded (spec : TrafficReplaySpec) : Bool := (spec.shard.bind (·.presharded)).getD false

/-- The capture a worker reads: its slice, or the whole. -/
def captureArg (tr : TrafficReplay) : Str :=
  let captureID := tr.key.ns ++ lit "/" ++ tr.spec.sourceRef
  match tr.spec.shard with
  | none => captureID
  | some shard =>
      if presharded tr.spec then
        captureID ++ lit "/shards/" ++ itoa shard.index.toInt ++ lit "-of-"
          ++ itoa shard.count.toInt
      else captureID

def storageArgs (storage : CaptureStorage) : Except BuildError (List Str) :=
  match storage.type with
  | .s3 =>
      match storage.s3 with
      | none => .error (.missingConfig storage.name .s3)
      | some s3 => .ok (Flag.storageType.arg (lit "s3") ++ Flag.bucket.arg s3.bucket
          ++ Flag.region.arg s3.region ++ optArg .storagePrefix (nonEmpty s3.pathPrefix))
  | .gcs =>
      match storage.gcs with
      | none => .error (.missingConfig storage.name .gcs)
      | some gcs => .ok (Flag.storageType.arg (lit "gcs") ++ Flag.bucket.arg gcs.bucket
          ++ optArg .storagePrefix (nonEmpty gcs.pathPrefix))
  | .efs =>
      match storage.efs with
      | none => .error (.missingConfig storage.name .efs)
      | some efs => .ok (Flag.storageType.arg (lit "efs") ++ Flag.mountPath.arg efs.mountPath)
  | .ebs =>
      match storage.ebs with
      | none => .error (.missingConfig storage.name .ebs)
      | some ebs => .ok (Flag.storageType.arg (lit "ebs") ++ Flag.mountPath.arg ebs.mountPath)
  | .plugin => .error (.unsupported .plugin)

def targetScheme (target : ReplayTarget) : Str :=
  if target.tls.getD false then lit "https" else lit "http"

def targetPort (target : ReplayTarget) : Int32 :=
  target.port.getD (if target.tls.getD false then 443 else 80)

def targetURL (target : ReplayTarget) : Str :=
  targetScheme target ++ lit "://" ++ target.host ++ lit ":" ++ itoa (targetPort target).toInt

def rateModeArg (rate : Option RateSpec) : Str :=
  match rate.elim .originalTiming RateSpec.mode with
  | .constant => lit "constant"
  | .originalTiming => lit "original"
  | .unlimited => lit "unlimited"

/-- Only a constant rate has a number. -/
def ratePerSecondArg (rate : Option RateSpec) : Option Int32 :=
  rate.bind fun r => if r.mode = .constant then r.requestsPerSecond else none

/-- Only the recorded timing has a scale. -/
def timeScaleArg (rate : Option RateSpec) : Option Str :=
  rate.bind fun r => if r.mode = .originalTiming then nonEmpty r.timeScale else none

/-- The shard a worker filters by; slices are disjoint already. -/
def shardArg (spec : TrafficReplaySpec) : Option ReplayShardSpec :=
  if presharded spec then none else spec.shard

/-- The engine, unless it is the builtin one. -/
def engineArg (engine : Option ReplayEngineSpec) : Option ReplayEngineSpec :=
  engine.filter fun e => e.name ≠ [] ∧ e.name ≠ lit "builtin"

def methodsArg (methods : List Str) : Option Str :=
  if methods ≠ [] then some ([44].intercalate methods) else none

def limitArg (limit : Option Int64) : Option Int64 := limit.filter (0 < ·)

def filterArgs (filters : Option ReplayFilters) : List Str :=
  optArg .startTime ((filters.bind (·.startTime)).map Rfc3339.format)
    ++ optArg .endTime ((filters.bind (·.endTime)).map Rfc3339.format)
    ++ optArg .pathPrefix (filters.bind fun f => nonEmpty f.pathPrefix)
    ++ optArg .methods (filters.bind fun f => methodsArg f.methods)
    ++ optArg .limit ((filters.bind fun f => limitArg f.limit).map fun n => itoa n.toInt)

def buildReplayArgs (tr : TrafficReplay) (storage : CaptureStorage) :
    Except BuildError (List Str) :=
  match storageArgs storage with
  | .error err => .error err
  | .ok args =>
      .ok (Flag.captureID.arg (captureArg tr) ++ Flag.logFormat.arg (lit "json") ++ args
        ++ Flag.targetURL.arg (targetURL tr.spec.target)
        ++ Flag.rateMode.arg (rateModeArg tr.spec.rate)
        ++ optArg .ratePerSecond ((ratePerSecondArg tr.spec.rate).map fun n => itoa n.toInt)
        ++ optArg .timeScale (timeScaleArg tr.spec.rate)
        ++ optArg .concurrency (tr.spec.concurrency.map fun n => itoa n.toInt)
        ++ optArg .shardIndex ((shardArg tr.spec).map fun s => itoa s.index.toInt)
        ++ optArg .shardCount ((shardArg tr.spec).map fun s => itoa s.count.toInt)
        ++ optArg .engine ((engineArg tr.spec.engine).map (·.name))
        ++ optArg .engineConfig ((engineArg tr.spec.engine).bind fun e => nonEmpty e.config)
        ++ filterArgs tr.spec.filters ++ Flag.summaryPath.arg (lit "/dev/termination-log"))

/-! ## What a command line sets -/

/-- Parsing `args` takes `cfg` to `cfg'`. -/
def Sets (args : List Str) (cfg cfg' : Config) : Prop :=
  ∀ rest, parseFrom cfg (args ++ rest) = parseFrom cfg' rest

theorem Sets.nil (cfg : Config) : Sets [] cfg cfg := fun _ => rfl

variable {cfg : Config} {args : List Str} {storage : CaptureStorage}

theorem Sets.arg {cfg' : Config} {f : Flag} {v : Str} (h : cfg.set v f = some cfg') :
    Sets (f.arg v) cfg cfg' := parseFrom_arg h

theorem Sets.append {args' : List Str} {cfg' cfg'' : Config} (h : Sets args cfg cfg')
    (h' : Sets args' cfg' cfg'') : Sets (args ++ args') cfg cfg'' := by
  intro rest
  rw [List.append_assoc, h, h']

theorem Sets.parseFlags (h : Sets args .default cfg) : parseFlags args = some cfg := by
  have := h []
  rw [List.append_nil] at this
  exact this

/-- A flag of text. -/
theorem Sets.text {f : Flag} (update : Config → Option Str → Config)
    (hnone : ∀ cfg, update cfg none = cfg)
    (hsome : ∀ cfg v, cfg.set v f = some (update cfg (some v))) (cfg : Config) (v : Option Str) :
    Sets (optArg f v) cfg (update cfg v) := by
  rcases v with _ | v
  · rw [hnone]
    exact Sets.nil cfg
  · exact Sets.arg (hsome cfg v)

/-- A flag with a number that came from some other value. -/
theorem Sets.number {α : Type} {f : Flag} {value : α → Int}
    (update : Config → Option Int → Config) (hnone : ∀ cfg, update cfg none = cfg)
    (hsome : ∀ cfg v, cfg.set v f = (parseInt v).map fun n => update cfg (some n))
    (hvalue : ∀ a, parseInt (itoa (value a)) = some (value a)) (cfg : Config) (v : Option α) :
    Sets (optArg f (v.map fun a => itoa (value a))) cfg (update cfg (v.map value)) := by
  rcases v with _ | a
  · rw [Option.map_none, Option.map_none, hnone]
    exact Sets.nil cfg
  · refine Sets.arg ?_
    rw [hsome, hvalue]
    rfl

/-- A configuration with the storage it reads from. -/
def withStorage (cfg : Config) (type bucket region pre mountPath : Str) : Config :=
  { cfg with
    storageType := type, bucket := bucket, region := region, storagePrefix := pre
    mountPath := mountPath }

theorem sets_storagePrefix (cfg : Config) (p : Option Str) :
    Sets (optArg .storagePrefix p) cfg { cfg with storagePrefix := p.getD cfg.storagePrefix } :=
  Sets.text (fun cfg p => { cfg with storagePrefix := p.getD cfg.storagePrefix })
    (fun _ => rfl) (fun _ _ => rfl) cfg p

/-- The storage flags set nothing but the storage. -/
theorem sets_storageArgs (cfg : Config) (h : storageArgs storage = .ok args) :
    ∃ type bucket region pre mountPath,
      Sets args cfg (withStorage cfg type bucket region pre mountPath) := by
  unfold storageArgs at h
  split at h
  · split at h <;> cases h
    rename_i s3 _
    refine ⟨lit "s3", s3.bucket, s3.region, (nonEmpty s3.pathPrefix).getD cfg.storagePrefix,
      cfg.mountPath, ?_⟩
    exact Sets.append (Sets.append (Sets.append (Sets.arg rfl) (Sets.arg rfl)) (Sets.arg rfl))
      (sets_storagePrefix _ _)
  · split at h <;> cases h
    rename_i gcs _
    refine ⟨lit "gcs", gcs.bucket, cfg.region, (nonEmpty gcs.pathPrefix).getD cfg.storagePrefix,
      cfg.mountPath, ?_⟩
    exact Sets.append (Sets.append (Sets.arg rfl) (Sets.arg rfl)) (sets_storagePrefix _ _)
  · split at h <;> cases h
    rename_i efs _
    refine ⟨lit "efs", cfg.bucket, cfg.region, cfg.storagePrefix, efs.mountPath, ?_⟩
    exact Sets.append (Sets.arg rfl) (Sets.arg rfl)
  · split at h <;> cases h
    rename_i ebs _
    refine ⟨lit "ebs", cfg.bucket, cfg.region, cfg.storagePrefix, ebs.mountPath, ?_⟩
    exact Sets.append (Sets.arg rfl) (Sets.arg rfl)
  · cases h

theorem parseInt_int64 (v : Int64) : parseInt (itoa v.toInt) = some v.toInt := by
  have hlo : -2 ^ 63 ≤ v.toInt := v.minValue_le_toInt
  have hhi : v.toInt ≤ 2 ^ 63 - 1 := v.toInt_le
  exact parseInt_itoa ⟨hlo, by omega⟩

theorem sets_filterArgs (cfg : Config) (filters : Option ReplayFilters) :
    Sets (filterArgs filters) cfg
      { cfg with
        startTime := ((filters.bind (·.startTime)).map Rfc3339.format).getD cfg.startTime
        endTime := ((filters.bind (·.endTime)).map Rfc3339.format).getD cfg.endTime
        pathPrefix := (filters.bind fun f => nonEmpty f.pathPrefix).getD cfg.pathPrefix
        methods := (filters.bind fun f => methodsArg f.methods).getD cfg.methods
        limit := ((filters.bind fun f => limitArg f.limit).map Int64.toInt).getD cfg.limit } := by
  refine Sets.append (Sets.append (Sets.append (Sets.append
    (Sets.text (fun cfg v => { cfg with startTime := v.getD cfg.startTime }) ?_ ?_ _ _)
    (Sets.text (fun cfg v => { cfg with endTime := v.getD cfg.endTime }) ?_ ?_ _ _))
    (Sets.text (fun cfg v => { cfg with pathPrefix := v.getD cfg.pathPrefix }) ?_ ?_ _ _))
    (Sets.text (fun cfg v => { cfg with methods := v.getD cfg.methods }) ?_ ?_ _ _))
    (Sets.number (fun cfg v => { cfg with limit := v.getD cfg.limit }) ?_ ?_
      parseInt_int64 _ _)
  all_goals intros; rfl

/-- The configuration of a worker. -/
def workerConfig (tr : TrafficReplay) (type bucket region pre mountPath : Str) : Config where
  storageType := type
  bucket := bucket
  region := region
  storagePrefix := pre
  mountPath := mountPath
  captureID := captureArg tr
  startTime := ((tr.spec.filters.bind (·.startTime)).map Rfc3339.format).getD []
  endTime := ((tr.spec.filters.bind (·.endTime)).map Rfc3339.format).getD []
  pathPrefix := (tr.spec.filters.bind fun f => nonEmpty f.pathPrefix).getD []
  methods := (tr.spec.filters.bind fun f => methodsArg f.methods).getD []
  limit := ((tr.spec.filters.bind fun f => limitArg f.limit).map Int64.toInt).getD 0
  targetURL := targetURL tr.spec.target
  rateMode := rateModeArg tr.spec.rate
  ratePerSecond := ((ratePerSecondArg tr.spec.rate).map fun n => itoa n.toInt).getD (lit "0")
  timeScale := (timeScaleArg tr.spec.rate).getD (lit "1")
  concurrency := (tr.spec.concurrency.map Int32.toInt).getD 10
  shardIndex := ((shardArg tr.spec).map (·.index.toInt)).getD 0
  shardCount := ((shardArg tr.spec).map (·.count.toInt)).getD 1
  engine := ((engineArg tr.spec.engine).map (·.name)).getD (lit "builtin")
  engineConfig := ((engineArg tr.spec.engine).bind fun e => nonEmpty e.config).getD []
  logFormat := lit "json"
  summaryPath := lit "/dev/termination-log"

/-- **What a worker's command line is parsed to.** -/
theorem parseFlags_buildReplayArgs {tr : TrafficReplay}
    (h : buildReplayArgs tr storage = .ok args) :
    ∃ type bucket region pre mountPath,
      parseFlags args = some (workerConfig tr type bucket region pre mountPath) := by
  unfold buildReplayArgs at h
  split at h
  · cases h
  · rename_i sargs hstorage
    cases h
    obtain ⟨type, bucket, region, pre, mountPath, hs⟩ := sets_storageArgs
      { Config.default with captureID := captureArg tr, logFormat := lit "json" } hstorage
    refine ⟨type, bucket, region, pre, mountPath, Sets.parseFlags ?_⟩
    refine Sets.append (Sets.append (Sets.append (Sets.append (Sets.append (Sets.append
      (Sets.append (Sets.append (Sets.append (Sets.append (Sets.append (Sets.append (Sets.append
        (Sets.arg rfl) (Sets.arg rfl)) hs) (Sets.arg rfl)) (Sets.arg rfl))
      (Sets.text (fun cfg v => { cfg with ratePerSecond := v.getD cfg.ratePerSecond })
        ?_ ?_ _ _))
      (Sets.text (fun cfg v => { cfg with timeScale := v.getD cfg.timeScale }) ?_ ?_ _ _))
      (Sets.number (fun cfg v => { cfg with concurrency := v.getD cfg.concurrency })
        ?_ ?_ parseInt_int32 _ _))
      (Sets.number (fun cfg v => { cfg with shardIndex := v.getD cfg.shardIndex })
        ?_ ?_ (fun s => parseInt_int32 s.index) _ _))
      (Sets.number (fun cfg v => { cfg with shardCount := v.getD cfg.shardCount })
        ?_ ?_ (fun s => parseInt_int32 s.count) _ _))
      (Sets.text (fun cfg v => { cfg with engine := v.getD cfg.engine }) ?_ ?_ _ _))
      (Sets.text (fun cfg v => { cfg with engineConfig := v.getD cfg.engineConfig })
        ?_ ?_ _ _))
      (sets_filterArgs _ _)) (Sets.arg rfl)
    all_goals intros; rfl

end Kapture.Spoke
