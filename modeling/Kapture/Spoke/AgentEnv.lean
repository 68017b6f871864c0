import Kapture.Agent.Main
import Kapture.Go.Trim
import Kapture.Spoke.TrafficReplay

/-!
# The environment of a capture agent

`buildEnvVars` is the other end of `Agent.main`: it writes a `TrafficCapture` and its
storage into the environment of the agent's pod.
-/

namespace Kapture.Spoke

open Go Storage Hub

structure HeaderMatch where
  name : Str
  value : Str
deriving DecidableEq, Repr

structure CaptureFilters where
  headers : List HeaderMatch
  pathPrefix : Option Str
  percentage : Option Int32
deriving DecidableEq, Repr

/-- `CaptureSettings`, without the duration, which the spoke looks at itself. -/
structure CaptureSettings where
  includeHeaders : Option Bool
  includeBody : Option Bool
  maxBodyBytes : Option Int64
  redactHeaders : List Str
  disableHeaderRedaction : Option Bool
deriving DecidableEq, Repr

/-- What the agent of a `TrafficCapture` depends on. -/
structure TrafficCapture where
  key : Key
  targetKind : Str
  targetName : Str
  storageRef : Str
  capture : CaptureSettings
  filters : Option CaptureFilters
deriving DecidableEq, Repr

/-- A variable that is only set with a value. -/
def optEnv (name : Str) : Option Str → Agent.Env
  | none => []
  | some v => [(name, v)]

def CaptureStorageType.text : CaptureStorageType → Str
  | .s3 => lit "S3"
  | .gcs => lit "GCS"
  | .efs => lit "EFS"
  | .ebs => lit "EBS"
  | .plugin => lit "Plugin"

def storageEnv (storage : CaptureStorage) : Agent.Env :=
  match storage.type with
  | .s3 =>
      match storage.s3 with
      | none => []
      | some s3 => [(lit "S3_BUCKET", s3.bucket), (lit "S3_REGION", s3.region)]
          ++ optEnv (lit "S3_PREFIX") s3.pathPrefix
  | .gcs =>
      match storage.gcs with
      | none => []
      | some gcs => [(lit "GCS_BUCKET", gcs.bucket)] ++ optEnv (lit "GCS_PREFIX") gcs.pathPrefix
  | .efs =>
      match storage.efs with
      | none => []
      | some efs =>
          [(lit "EFS_FILESYSTEM_ID", efs.fileSystemID), (lit "EFS_MOUNT_PATH", efs.mountPath)]
  | .ebs =>
      match storage.ebs with
      | none => []
      | some ebs => [(lit "EBS_VOLUME_ID", ebs.volumeID), (lit "EBS_MOUNT_PATH", ebs.mountPath)]
  | .plugin =>
      match storage.plugin with
      | none => []
      | some plugin => [(lit "PLUGIN_PATH", plugin.path)]
          ++ optEnv (lit "PLUGIN_SYMBOL") plugin.symbol
          ++ optEnv (lit "PLUGIN_CONFIG") (plugin.config.filter (· ≠ []))

/-- `fmt.Sprintf("%v", b)`. -/
def boolText (b : Bool) : Str := if b then lit "true" else lit "false"

/-- The value of `CAPTURE_REDACT_HEADERS`. -/
def redactEnv (settings : CaptureSettings) : Option Str :=
  if settings.disableHeaderRedaction = some true then some (lit "none")
  else if settings.redactHeaders ≠ [] then some ([44].intercalate settings.redactHeaders)
  else none

/-- `json.Marshal` of a header match. -/
def marshalHeader (h : HeaderMatch) : Str :=
  lit "\x7b\"name\":\"" ++ Json.quote h.name ++ lit ",\"value\":\"" ++ Json.quote h.value
    ++ lit "\x7d"

/-- `json.Marshal` of header matches. -/
def marshalHeaders (hs : List HeaderMatch) : Str :=
  lit "[" ++ [44].intercalate (hs.map marshalHeader) ++ lit "]"

def filterEnv (filters : Option CaptureFilters) : Agent.Env :=
  match filters with
  | none => []
  | some f =>
      optEnv (lit "FILTER_PATH_PREFIX") (f.pathPrefix.filter (· ≠ []))
        ++ optEnv (lit "FILTER_HEADERS") (if f.headers ≠ [] then some (marshalHeaders f.headers)
          else none)
        ++ optEnv (lit "FILTER_PERCENTAGE") (f.percentage.map fun p => itoa p.toInt)

/-- `buildEnvVars`. The name of the pod is put in by the kubelet; the database URL is a
secret or comes from the environment of the spoke, if there is one. -/
def buildEnvVars (tc : TrafficCapture) (storage : CaptureStorage) (pod : Str)
    (databaseURL : Option Str) : Agent.Env :=
  [(lit "CAPTURE_ID", tc.key.ns ++ lit "/" ++ tc.key.name), (lit "CAPTURE_NAMESPACE", tc.key.ns),
    (lit "CAPTURE_NAME", tc.key.name), (lit "CAPTURE_TARGET_KIND", tc.targetKind),
    (lit "CAPTURE_TARGET_NAME", tc.targetName), (lit "CAPTURE_STORAGE_NAME", tc.storageRef),
    (lit "STORAGE_TYPE", storage.type.text), (lit "POD_NAME", pod)]
    ++ optEnv (lit "DATABASE_URL") databaseURL ++ storageEnv storage
    ++ optEnv (lit "CAPTURE_INCLUDE_HEADERS") (tc.capture.includeHeaders.map boolText)
    ++ optEnv (lit "CAPTURE_INCLUDE_BODY") (tc.capture.includeBody.map boolText)
    ++ optEnv (lit "CAPTURE_MAX_BODY_BYTES") (tc.capture.maxBodyBytes.map fun n => itoa n.toInt)
    ++ optEnv (lit "CAPTURE_REDACT_HEADERS") (redactEnv tc.capture) ++ filterEnv tc.filters

/-! ## Header filters -/

def HeaderMatch.filter (h : HeaderMatch) : Agent.HeaderFilter := ⟨h.name, h.value⟩

/-- Texts that the API server takes are valid UTF-8. -/
def HeaderMatch.Valid (h : HeaderMatch) : Prop := ValidUtf8 h.name ∧ ValidUtf8 h.value

theorem cutText_append (p s : Str) : Agent.cutText p (p ++ s) = some s := by
  rw [Agent.cutText, if_pos (Str.hasPrefix_iff.mpr (List.prefix_append p s)), List.drop_left]

theorem unquote_valid {s : Str} (h : ValidUtf8 s) (rest : Str) :
    Json.unquote (Json.quote s ++ rest) = some (s, rest) := by
  rw [Json.unquote_quote, Json.flatMap_readRune le_rfl h]

theorem decodeFilter_marshalHeader {h : HeaderMatch} (hv : h.Valid) (rest : Str) :
    Agent.decodeFilter (marshalHeader h ++ rest) = some (h.filter, rest) := by
  simp only [Agent.decodeFilter, marshalHeader, List.append_assoc, cutText_append,
    Option.bind_eq_bind, Option.bind_some, unquote_valid hv.1, unquote_valid hv.2]
  rfl

theorem length_le_intercalate (hs : List HeaderMatch) :
    hs.length ≤ ([44].intercalate (hs.map marshalHeader)).length := by
  induction hs with
  | nil => exact Nat.zero_le _
  | cons h hs ih =>
      have hpos : 1 ≤ (marshalHeader h).length := Nat.le_add_left 1 _
      by_cases hne : hs = []
      · subst hne
        simpa [List.intercalate] using hpos
      · rw [List.map_cons, List.intercalate_cons_of_ne_nil (by simpa using hne)]
        simp only [List.length_append, List.length_cons, List.length_nil]
        omega

theorem decodeFilters_marshal {hs : List HeaderMatch} (hne : hs ≠ []) (hv : ∀ h ∈ hs, h.Valid)
    {fuel : Nat} (hf : hs.length ≤ fuel) :
    Agent.decodeFilters fuel ([44].intercalate (hs.map marshalHeader) ++ lit "]")
      = some (hs.map HeaderMatch.filter) := by
  induction hs generalizing fuel with
  | nil => exact absurd rfl hne
  | cons h hs ih =>
      obtain ⟨fuel, rfl⟩ : ∃ k, fuel = k + 1 := ⟨fuel - 1, by simp at hf; omega⟩
      have hh := hv h (List.mem_cons_self ..)
      by_cases hne' : hs = []
      · subst hne'
        rw [List.map_singleton, List.intercalate_singleton, Agent.decodeFilters,
          decodeFilter_marshalHeader hh]
        rfl
      · have hcomma : [44] ++ ([44].intercalate (hs.map marshalHeader) ++ lit "]") ≠ lit "]" := by
          intro heq
          exact absurd (List.cons.inj heq).1 (by decide)
        rw [List.map_cons, List.intercalate_cons_of_ne_nil (by simpa using hne'), List.append_assoc,
          List.append_assoc, Agent.decodeFilters, decodeFilter_marshalHeader hh]
        simp only [Option.bind_eq_bind, Option.bind_some]
        rw [if_neg hcomma]
        have hcut := cutText_append [44] ([44].intercalate (hs.map marshalHeader) ++ lit "]")
        change (Agent.cutText [44] _).bind _ = _
        rw [hcut, Option.bind_some, ih hne' (fun h' hh' => hv h' (List.mem_cons_of_mem _ hh'))
          (by simpa using hf)]
        rfl

/-- **The agent reads back the header filters that the spoke wrote.** -/
theorem unmarshalFilters_marshalHeaders {hs : List HeaderMatch} (hne : hs ≠ [])
    (hv : ∀ h ∈ hs, h.Valid) :
    Agent.unmarshalFilters (marshalHeaders hs) = some (hs.map HeaderMatch.filter) := by
  have hempty : marshalHeaders hs ≠ lit "[]" := by
    obtain ⟨h, hs, rfl⟩ := List.exists_cons_of_ne_nil hne
    intro heq
    have hhead := congrArg (fun l : List UInt8 => l.tail.head?) heq
    rcases hs with _ | ⟨h', hs⟩
    · exact absurd hhead (by simp [marshalHeaders, marshalHeader, lit])
    · exact absurd hhead (by simp [marshalHeaders, marshalHeader, List.intercalate, lit])
  rw [Agent.unmarshalFilters, if_neg hempty, marshalHeaders, List.append_assoc, cutText_append,
    Option.bind_some]
  refine decodeFilters_marshal hne hv ?_
  rw [List.length_append]
  exact le_trans (length_le_intercalate hs) (Nat.le_add_right _ _)

theorem trimSpace_marshalHeaders (hs : List HeaderMatch) :
    (marshalHeaders hs).trimSpace = marshalHeaders hs := by
  refine Str.trimSpace_of_edges (fun b hb p hp hbp => ?_) (fun b hb p hp hbp => ?_)
  · obtain rfl : 91 = b := by simpa [marshalHeaders, lit] using hb
    exact Str.visible_notMem_space p hp _ hbp (by decide)
  · obtain rfl : 93 = b := by
      rw [marshalHeaders, List.getLast?_append] at hb
      exact Option.some.inj hb
    exact Str.visible_notMem_space p hp _ hbp (by decide)

/-! ## The value of a variable -/

/-- The value of a variable, if it is set. -/
def lookup (env : Agent.Env) (name : Str) : Option Str := (env.find? (·.1 == name)).map (·.2)

theorem getenv_eq (env : Agent.Env) (name : Str) :
    Agent.getenv env name = (lookup env name).getD [] := rfl

@[simp] theorem lookup_append (a b : Agent.Env) (name : Str) :
    lookup (a ++ b) name = (lookup a name).or (lookup b name) := by
  unfold lookup
  rw [List.find?_append]
  cases a.find? (·.1 == name) <;> rfl

theorem lookup_optEnv (name : Str) (v : Option Str) : lookup (optEnv name v) name = v := by
  cases v with
  | none => rfl
  | some v => simp [lookup, optEnv]

variable {env : Agent.Env} {names : List Str}

theorem lookup_eq_none {name : Str} (h : ∀ p ∈ env, p.1 ≠ name) : lookup env name = none := by
  have hnone : env.find? (·.1 == name) = none := by
    rw [List.find?_eq_none]
    intro p hp
    simpa using h p hp
  rw [lookup, hnone]
  rfl

/-- The variables of the storage. -/
def storageNames : List Str :=
  [lit "S3_BUCKET", lit "S3_REGION", lit "S3_PREFIX", lit "GCS_BUCKET", lit "GCS_PREFIX",
    lit "EFS_FILESYSTEM_ID", lit "EFS_MOUNT_PATH", lit "EBS_VOLUME_ID", lit "EBS_MOUNT_PATH",
    lit "PLUGIN_PATH", lit "PLUGIN_SYMBOL", lit "PLUGIN_CONFIG"]

/-- The variables of the filters. -/
def filterNames : List Str :=
  [lit "FILTER_PATH_PREFIX", lit "FILTER_HEADERS", lit "FILTER_PERCENTAGE"]

/-- Every variable that is set is one of these. -/
def Named (names : List Str) (env : Agent.Env) : Prop := ∀ p ∈ env, p.1 ∈ names

theorem Named.nil : Named names [] := by
  intro p hp
  cases hp

theorem Named.cons {n v : Str} (hn : n ∈ names) (h : Named names env) :
    Named names ((n, v) :: env) := by
  intro p hp
  rcases List.mem_cons.mp hp with rfl | hp
  · exact hn
  · exact h p hp

theorem Named.append {a b : Agent.Env} (ha : Named names a) (hb : Named names b) :
    Named names (a ++ b) := by
  intro p hp
  rcases List.mem_append.mp hp with hp | hp
  · exact ha p hp
  · exact hb p hp

theorem Named.opt {n : Str} (hn : n ∈ names) (v : Option Str) : Named names (optEnv n v) := by
  cases v with
  | none => exact Named.nil
  | some v => exact Named.cons hn Named.nil

theorem Named.lookup (h : Named names env) {n : Str} (hn : n ∉ names) : lookup env n = none :=
  lookup_eq_none fun p hp heq => hn (heq ▸ h p hp)

/-- One variable says nothing of another. -/
theorem lookup_optEnv_of_ne {m n : Str} (h : n ∉ [m]) (v : Option Str) :
    lookup (optEnv m v) n = none :=
  (Named.opt (List.mem_singleton_self m) v).lookup h

theorem named_storageEnv (storage : CaptureStorage) : Named storageNames (storageEnv storage) := by
  unfold storageEnv
  split <;> split
  · exact .nil
  · exact .append (.cons (by decide) (.cons (by decide) .nil)) (.opt (by decide) _)
  · exact .nil
  · exact .append (.cons (by decide) .nil) (.opt (by decide) _)
  · exact .nil
  · exact .cons (by decide) (.cons (by decide) .nil)
  · exact .nil
  · exact .cons (by decide) (.cons (by decide) .nil)
  · exact .nil
  · exact .append (.append (.cons (by decide) .nil) (.opt (by decide) _)) (.opt (by decide) _)

theorem named_filterEnv (filters : Option CaptureFilters) :
    Named filterNames (filterEnv filters) := by
  unfold filterEnv
  split
  · exact .nil
  · exact .append (.append (.opt (by decide) _) (.opt (by decide) _)) (.opt (by decide) _)

end Kapture.Spoke
