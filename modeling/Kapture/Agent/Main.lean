import Kapture.Agent.Capture
import Kapture.Go.Json

/-!
# The configuration of a capture agent

The agent is configured by the environment of its pod: `main` reads the variables, picks
the storage backend and wires the handler. The flags of the command line keep their
defaults, and `STORAGE_CONFIG`, which no spoke sets, is `{}`. The batches and the write queue
are left out.
-/

namespace Kapture.Agent

open Go Storage

/-- The environment of a process. -/
abbrev Env := List (Str × Str)

/-- `os.Getenv`. -/
def getenv (env : Env) (name : Str) : Str := ((env.find? (·.1 == name)).map (·.2)).getD []

def envOr (env : Env) (name fallback : Str) : Str :=
  let value := (getenv env name).trimSpace
  if value ≠ [] then value else fallback

def envIntOr (env : Env) (name : Str) (fallback : Int) : Int :=
  let value := (getenv env name).trimSpace
  if value = [] then fallback else (parseInt value).getD fallback

def firstNonEmpty (values : List Str) : Str := (values.find? (·.trimSpace ≠ [])).getD []

/-- The configuration of a storage backend. -/
inductive StorageConfig where
  | s3 (bucket region pathPrefix agentPod : Str)
  | gcs (bucket pathPrefix agentPod : Str)
  | efs (mountPath agentPod : Str)
  | ebs (mountPath agentPod : Str)
  | plugin (path symbol : Str) (config : Option Str)
deriving DecidableEq, Repr

/-- The pod that an agent names its objects after. -/
def agentPod (env : Env) : Str :=
  firstNonEmpty [getenv env (lit "POD_NAME"), getenv env (lit "HOSTNAME")]

/-- `parseStorageConfig`, of an empty configuration. -/
def parseStorageConfig (env : Env) (storageType : Str) : Except Error StorageConfig :=
  let type := storageType.trimSpace.map Str.lowerByte
  if type = lit "s3" then
    .ok (.s3 (firstNonEmpty [getenv env (lit "S3_BUCKET")])
      (firstNonEmpty [getenv env (lit "S3_REGION")])
      (firstNonEmpty [getenv env (lit "S3_PREFIX")]) (agentPod env))
  else if type = lit "gcs" then
    .ok (.gcs (firstNonEmpty [getenv env (lit "GCS_BUCKET")])
      (firstNonEmpty [getenv env (lit "GCS_PREFIX")]) (agentPod env))
  else if type = lit "efs" then
    .ok (.efs (firstNonEmpty [getenv env (lit "EFS_MOUNT_PATH")]) (agentPod env))
  else if type = lit "ebs" then
    .ok (.ebs (firstNonEmpty [getenv env (lit "EBS_MOUNT_PATH")]) (agentPod env))
  else if type = lit "plugin" then
    .ok (.plugin (firstNonEmpty [getenv env (lit "PLUGIN_PATH")]) [] none)
  else .error (.new ("unsupported storage type " ++ storageType.quote))

/-! ## Header filters -/

/-- `strings.CutPrefix`. -/
def cutText (p s : Str) : Option Str := if s.hasPrefix p then some (s.drop p.length) else none

/-- A header filter at the front of a text. -/
def decodeFilter (s : Str) : Option (HeaderFilter × Str) := do
  let s ← cutText (lit "\x7b\"name\":\"") s
  let (name, s) ← Json.unquote s
  let s ← cutText (lit ",\"value\":\"") s
  let (value, s) ← Json.unquote s
  let s ← cutText (lit "\x7d") s
  some (⟨name, value⟩, s)

/-- Header filters up to the closing bracket. -/
def decodeFilters : Nat → Str → Option (List HeaderFilter)
  | 0, _ => none
  | fuel + 1, s => do
      let (f, s) ← decodeFilter s
      if s = lit "]" then some [f]
      else
        let s ← cutText (lit ",") s
        let fs ← decodeFilters fuel s
        some (f :: fs)

/-- `json.Unmarshal` of header filters, for texts as `json.Marshal` writes them: without
white space, and with the fields in order. -/
def unmarshalFilters (s : Str) : Option (List HeaderFilter) :=
  if s = lit "[]" then some []
  else (cutText (lit "[") s).bind fun s => decodeFilters s.length s

/-- The first filter without a name. -/
def unnamed (filters : List HeaderFilter) : Option Nat :=
  filters.findIdx? (·.name.trimSpace = [])

def parseHeaderFilters (raw : Str) : Except Error (List HeaderFilter) :=
  let raw := raw.trimSpace
  if raw = [] then .ok []
  else
    match unmarshalFilters raw with
    | none => .error ((Err.new "invalid JSON").wrap "parse header filters")
    | some filters =>
        match unnamed filters with
        | some i => .error (.new ("header filter " ++ toString i ++ ": name is required"))
        | none => .ok filters

/-! ## Redaction -/

def parseRedactHeaders (value : Str) : Option (List Str) :=
  let value := value.trimSpace
  if value = [] then none
  else if value.equalFold (lit "none") then some []
  else some (defaultRedactHeaders ++ ((value.splitOn 44).map Str.trimSpace).filter (· ≠ []))

/-! ## main -/

/-- What an agent runs with. -/
structure AgentConfig where
  captureID : Str
  captureNamespace : Str
  captureName : Str
  storage : StorageConfig
  handler : CaptureHandlerConfig
deriving DecidableEq, Repr

def splitCaptureID (captureID : Str) : Str × Str :=
  if 47 ∈ captureID then (captureID.takeWhile (· != 47), (captureID.dropWhile (· != 47)).tail)
  else ([], captureID)

/-- The default of `--max-body-bytes`. -/
def defaultMaxBodyBytes : Int64 := 1048576

/-- The filter of the handler; without anything to filter there is none. -/
def requestFilter (pathPrefix : Str) (headers : List HeaderFilter) (percentage : Int) :
    Option RequestFilter :=
  if pathPrefix ≠ [] ∨ headers ≠ [] ∨ percentage < 100 then
    some (newRequestFilter pathPrefix headers (Int64.ofInt percentage))
  else none

/-- A name of the capture: its variable, or that part of the capture ID. -/
def nameOr (name part : Str) : Str := if name = [] then part else name

/-- `main`, up to the writer that it opens. -/
def main (env : Env) : Except Error AgentConfig :=
  let captureID := envOr env (lit "CAPTURE_ID") []
  let ns := nameOr (envOr env (lit "CAPTURE_NAMESPACE") []) (splitCaptureID captureID).1
  let name := nameOr (envOr env (lit "CAPTURE_NAME") []) (splitCaptureID captureID).2
  if captureID = [] then .error (.new "--capture-id or CAPTURE_ID is required")
  else if (envOr env (lit "DATABASE_URL") []).trimSpace ≠ []
      ∧ (ns.trimSpace = [] ∨ name.trimSpace = []) then
    .error (.new "capture namespace and name are required when capture history is enabled")
  else
    match parseStorageConfig env (envOr env (lit "STORAGE_TYPE") (lit "efs")) with
    | .error err => .error err
    | .ok storage =>
        match parseHeaderFilters (envOr env (lit "FILTER_HEADERS") []) with
        | .error err => .error err
        | .ok headers =>
            .ok {
              captureID := captureID
              captureNamespace := ns
              captureName := name
              storage := storage
              handler := {
                maxBodyBytes := defaultMaxBodyBytes
                filter := requestFilter (envOr env (lit "FILTER_PATH_PREFIX") []) headers
                  (envIntOr env (lit "FILTER_PERCENTAGE") 100)
                redactHeaders := parseRedactHeaders (getenv env (lit "CAPTURE_REDACT_HEADERS")) } }

/-! ## The servers -/

/-- What listens on a port of the agent. -/
inductive Sink where
  | http
  | grpc
  | health
deriving DecidableEq, Repr

/-- `AgentServer`: its ports. -/
structure AgentServer where
  httpPort : Int
  grpcPort : Int
  healthPort : Int
deriving DecidableEq, Repr

def newAgentServer (httpPort grpcPort healthPort : Int) : AgentServer where
  httpPort := if httpPort ≤ 0 then 8080 else httpPort
  grpcPort := if grpcPort ≤ 0 then 9090 else grpcPort
  healthPort := if healthPort ≤ 0 then 8081 else healthPort

/-- The server of `main`, by the defaults of `--http-port`, `--grpc-port` and `--health-port`. -/
def defaultServer : AgentServer := newAgentServer 8080 9090 8081

/-- What has the port after `Start`. -/
def AgentServer.sinkOn (s : AgentServer) (port : Int) : Option Sink :=
  if port = s.httpPort then some .http
  else if port = s.grpcPort then some .grpc
  else if port = s.healthPort then some .health
  else none

end Kapture.Agent
