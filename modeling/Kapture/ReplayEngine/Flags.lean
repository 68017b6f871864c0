import Kapture.Go.Url
import Kapture.Replay.Engine

/-!
# The command line of the replay engine

What `replay-engine` makes of its arguments: the flags, and the run configuration and
read options that are built from them. Here a flag still is the text that stood on the
command line. `Worker.Args` has the same process with its flags already read.

A `float64` flag is kept as the text it is given, and the flags no spoke sets (the feed
server, checkpoints, header overrides) are left out with their defaults.
-/

namespace Kapture.ReplayEngine

open Go Storage Replay

inductive Flag where
  | captureID
  | logFormat
  | storageType
  | bucket
  | region
  | storagePrefix
  | mountPath
  | targetURL
  | rateMode
  | ratePerSecond
  | timeScale
  | concurrency
  | shardIndex
  | shardCount
  | engine
  | engineConfig
  | startTime
  | endTime
  | pathPrefix
  | methods
  | limit
  | summaryPath
deriving DecidableEq, Repr

def Flag.text : Flag → Str
  | .captureID => lit "--capture-id"
  | .logFormat => lit "--log-format"
  | .storageType => lit "--storage-type"
  | .bucket => lit "--bucket"
  | .region => lit "--region"
  | .storagePrefix => lit "--prefix"
  | .mountPath => lit "--mount-path"
  | .targetURL => lit "--target-url"
  | .rateMode => lit "--rate-mode"
  | .ratePerSecond => lit "--rate-per-second"
  | .timeScale => lit "--time-scale"
  | .concurrency => lit "--concurrency"
  | .shardIndex => lit "--shard-index"
  | .shardCount => lit "--shard-count"
  | .engine => lit "--engine"
  | .engineConfig => lit "--engine-config"
  | .startTime => lit "--start-time"
  | .endTime => lit "--end-time"
  | .pathPrefix => lit "--path-prefix"
  | .methods => lit "--methods"
  | .limit => lit "--limit"
  | .summaryPath => lit "--summary-path"

def Flag.all : List Flag :=
  [.captureID, .logFormat, .storageType, .bucket, .region, .storagePrefix, .mountPath, .targetURL,
    .rateMode, .ratePerSecond, .timeScale, .concurrency, .shardIndex, .shardCount, .engine,
    .engineConfig, .startTime, .endTime, .pathPrefix, .methods, .limit, .summaryPath]

def Flag.ofText (name : Str) : Option Flag := Flag.all.find? (·.text == name)

theorem ofText_text (f : Flag) : Flag.ofText f.text = some f := by
  cases f <;> decide

structure Config where
  storageType : Str
  bucket : Str
  region : Str
  storagePrefix : Str
  mountPath : Str
  captureID : Str
  startTime : Str
  endTime : Str
  pathPrefix : Str
  methods : Str
  limit : Int
  targetURL : Str
  rateMode : Str
  ratePerSecond : Str
  timeScale : Str
  concurrency : Int
  shardIndex : Int
  shardCount : Int
  engine : Str
  engineConfig : Str
  logFormat : Str
  summaryPath : Str
deriving DecidableEq, Repr

/-- The defaults of the flags. -/
def Config.default : Config where
  storageType := []
  bucket := []
  region := []
  storagePrefix := []
  mountPath := []
  captureID := []
  startTime := []
  endTime := []
  pathPrefix := []
  methods := []
  limit := 0
  targetURL := []
  rateMode := lit "original"
  ratePerSecond := lit "0"
  timeScale := lit "1"
  concurrency := 10
  shardIndex := 0
  shardCount := 1
  engine := lit "builtin"
  engineConfig := []
  logFormat := lit "text"
  summaryPath := []

/-- A flag is set; an integer flag must be given an integer. -/
def Config.set (cfg : Config) (v : Str) : Flag → Option Config
  | .captureID => some { cfg with captureID := v }
  | .logFormat => some { cfg with logFormat := v }
  | .storageType => some { cfg with storageType := v }
  | .bucket => some { cfg with bucket := v }
  | .region => some { cfg with region := v }
  | .storagePrefix => some { cfg with storagePrefix := v }
  | .mountPath => some { cfg with mountPath := v }
  | .targetURL => some { cfg with targetURL := v }
  | .rateMode => some { cfg with rateMode := v }
  | .ratePerSecond => some { cfg with ratePerSecond := v }
  | .timeScale => some { cfg with timeScale := v }
  | .concurrency => (parseInt v).map fun n => { cfg with concurrency := n }
  | .shardIndex => (parseInt v).map fun n => { cfg with shardIndex := n }
  | .shardCount => (parseInt v).map fun n => { cfg with shardCount := n }
  | .engine => some { cfg with engine := v }
  | .engineConfig => some { cfg with engineConfig := v }
  | .startTime => some { cfg with startTime := v }
  | .endTime => some { cfg with endTime := v }
  | .pathPrefix => some { cfg with pathPrefix := v }
  | .methods => some { cfg with methods := v }
  | .limit => (parseInt v).map fun n => { cfg with limit := n }
  | .summaryPath => some { cfg with summaryPath := v }

/-- `flag.Parse`, from a configuration on. An unknown flag, a flag without its value or a
bad number ends the process. -/
def parseFrom : Config → List Str → Option Config
  | cfg, [] => some cfg
  | _, [_] => none
  | cfg, name :: v :: rest =>
      match Flag.ofText name with
      | none => none
      | some f =>
          match cfg.set v f with
          | none => none
          | some cfg => parseFrom cfg rest

def parseFlags (args : List Str) : Option Config := parseFrom .default args

/-- A flag and its value, on the command line. -/
def Flag.arg (f : Flag) (v : Str) : List Str := [f.text, v]

theorem parseFrom_arg {cfg cfg' : Config} {f : Flag} {v : Str} (h : cfg.set v f = some cfg')
    (rest : List Str) : parseFrom cfg (f.arg v ++ rest) = parseFrom cfg' rest := by
  rw [Flag.arg, List.cons_append, List.cons_append, List.nil_append, parseFrom, ofText_text]
  simp only [h]

/-! ## The run -/

def parseRateMode (mode : Str) : Except Error RateMode :=
  let mode := mode.map Str.lowerByte
  if mode = lit "original" ∨ mode = lit "recorded" then .ok .originalTiming
  else if mode = lit "constant" then .ok .constant
  else if mode = lit "unlimited" ∨ mode = lit "max" then .ok .unlimited
  else .error (.new "unknown rate mode")

def canonicalRateMode (mode : Str) : RateMode :=
  let mode := mode.map Str.lowerByte
  if mode = lit "original" ∨ mode = lit "recorded" then .originalTiming
  else if mode = lit "constant" then .constant
  else .unlimited

/-- `replayenginev1.Target`. -/
structure Target where
  host : Str
  port : Int
  tls : Bool
deriving DecidableEq, Repr

/-- `replayenginev1.RunConfig`, without the ID of the run. -/
structure RunConfig where
  target : Target
  concurrency : Int
  rateMode : RateMode
  requestsPerSecond : Str
  timeScale : Str
  shardIndex : Int
  shardCount : Int
  engineConfigJson : Str
deriving DecidableEq, Repr

/-- The port of a target: that of the URL, or the one of its scheme. -/
def targetPort (scheme port : Str) : Except Error Int :=
  if port = [] then .ok (if scheme = lit "https" then 443 else 80)
  else
    match parseInt port with
    | none => .error ((Err.new "invalid syntax").wrap "parse target port")
    | some n => .ok n

def buildRunConfig (cfg : Config) : Except Error RunConfig :=
  match Url.parse cfg.targetURL with
  | none => .error ((Err.new "invalid URL").wrap "parse target url")
  | some target =>
      match targetPort target.scheme (Url.splitHostPort target.host).2 with
      | .error err => .error err
      | .ok port =>
          .ok {
            target := ⟨(Url.splitHostPort target.host).1, port, target.scheme == lit "https"⟩
            concurrency := cfg.concurrency
            rateMode := canonicalRateMode cfg.rateMode
            requestsPerSecond := cfg.ratePerSecond
            timeScale := cfg.timeScale
            shardIndex := cfg.shardIndex
            shardCount := cfg.shardCount
            engineConfigJson := cfg.engineConfig }

/-- A time flag; without it the time is zero. -/
def parseTime (flag : String) (s : Str) : Except Error Time :=
  if s = [] then .ok 0
  else
    match Rfc3339.parse s with
    | none => .error ((Err.new "cannot parse time").wrap ("parse " ++ flag))
    | some t => .ok t

/-- The methods of the flag. -/
def splitMethods (methods : Str) : List Str :=
  if methods = [] then [] else (methods.splitOn 44).map Str.trimSpace

def buildReadOptions (cfg : Config) : Except Error ReadOptions :=
  match parseTime "start-time" cfg.startTime with
  | .error err => .error err
  | .ok startTime =>
      match parseTime "end-time" cfg.endTime with
      | .error err => .error err
      | .ok endTime =>
          .ok ⟨cfg.captureID, startTime, endTime, cfg.pathPrefix, splitMethods cfg.methods,
            cfg.limit⟩

/-- What a worker runs with. -/
structure Settings where
  run : RunConfig
  /-- The engine that is launched. -/
  engine : Str
  rateMode : RateMode
  opts : ReadOptions
deriving DecidableEq, Repr

/-- The settings of a process, from its configuration. -/
def settingsOf (cfg : Config) : Except Error Settings :=
  match buildRunConfig cfg with
  | .error err => .error err
  | .ok run =>
      match parseRateMode cfg.rateMode with
      | .error err => .error err
      | .ok rateMode =>
          match buildReadOptions cfg with
          | .error err => .error err
          | .ok opts => .ok ⟨run, cfg.engine, rateMode, opts⟩

/-- The settings of a process, from its arguments. -/
def settings (args : List Str) : Except Error Settings :=
  match parseFlags args with
  | none => .error (.new "usage")
  | some cfg => settingsOf cfg

/-! ## Lists in a flag -/

/-- **A list comes back from its flag** if no element has a comma or a space at its ends,
and only then. -/
theorem splitMethods_join {methods : List Str} (hne : ∀ m ∈ methods, m ≠ []) :
    splitMethods ([44].intercalate methods) = methods
      ↔ ∀ m ∈ methods, 44 ∉ m ∧ m.trimSpace = m := by
  rcases methods with _ | ⟨m, ms⟩
  · exact iff_of_true rfl fun _ h => nomatch h
  have hjoin : [44].intercalate (m :: ms) ≠ [] := by
    intro h
    refine hne m (List.mem_cons_self ..) (List.eq_nil_iff_forall_not_mem.mpr fun b hb => ?_)
    have : b ∈ ([44] : Str).intercalate (m :: ms) := by
      cases ms with
      | nil => simpa [List.intercalate] using hb
      | cons _ _ => simp [List.intercalate, List.intersperse, hb]
    rw [h] at this
    cases this
  rw [splitMethods, if_neg hjoin]
  constructor
  · intro h x hx
    rw [← h, List.mem_map] at hx
    obtain ⟨piece, hpiece, rfl⟩ := hx
    refine ⟨fun hcomma => ?_, Str.trimSpace_trimSpace piece⟩
    exact Str.notMem_splitOn hpiece (Str.mem_trimSpace hcomma)
  · intro h
    rw [List.splitOn_intercalate _ (fun l hl => (h l hl).1) (List.cons_ne_nil m ms)]
    exact (List.map_congr_left fun l hl => (h l hl).2).trans (List.map_id _)

end Kapture.ReplayEngine
