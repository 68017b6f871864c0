import Kapture.Hub.Schema
import Kapture.Spoke.AgentEnv

/-!
# An agent runs what its capture asks for

`buildEnvVars` writes a `TrafficCapture` down in the environment, and `Agent.main` reads the
environment. The two programs share no constants. This file compares what the resource says
with what the agent runs with.

The agent does not read the body limit, the switches for headers and bodies, the symbol and
the configuration of a plugin, or the file system or volume that it is to write to: the spoke
sets variables for them that nobody looks at, and for the directory and the type of a file
system none at all. What the agent does read it trims, and it takes a blank
value for none. A redacted header with a comma in its name comes out as two, and a list with the
one header `none` turns redaction off. `agent_agrees_iff` says that **this is all that goes
wrong**.
-/

namespace Kapture.Spoke

open Go Storage Hub
open Agent (AgentConfig StorageConfig CaptureHandler RequestFilter newCaptureHandler
  capturedRequest newHeaderRedactor defaultRedactHeaders)

/-! ## What the schemas admit -/

/-- A storage whose type has its configuration. -/
def StorageAdmitted (storage : CaptureStorage) : Prop :=
  match storage.type with
  | .s3 => ∃ c ∈ storage.s3, 3 ≤ textLength c.bucket ∧ textLength c.bucket ≤ 63
      ∧ 1 ≤ textLength c.region
  | .gcs => ∃ c ∈ storage.gcs, 3 ≤ textLength c.bucket ∧ textLength c.bucket ≤ 222
  | .efs => ∃ c ∈ storage.efs, 1 ≤ textLength c.fileSystemID ∧ c.mountPath.head? = some 47
  | .ebs => ∃ c ∈ storage.ebs, 1 ≤ textLength c.volumeID ∧ c.mountPath.head? = some 47
  | .plugin => ∃ c ∈ storage.plugin, 1 ≤ textLength c.path

/-- A capture and a storage that the API server takes. -/
structure CaptureAdmitted (tc : TrafficCapture) (storage : CaptureStorage) : Prop where
  ns : hostPattern tc.key.ns = true
  name : hostPattern tc.key.name = true
  storage : StorageAdmitted storage
  headers : ∀ f ∈ tc.filters, ∀ h ∈ f.headers, h.Valid
  percentage : ∀ f ∈ tc.filters, ∀ p ∈ f.percentage, 0 ≤ p ∧ p ≤ 100
  maxBodyBytes : ∀ n ∈ tc.capture.maxBodyBytes, 0 ≤ n

/-! ## Agreement -/

/-- The symbol that a plugin is opened with. -/
def symbolName (symbol : Str) : Str := if symbol = [] then lit "NewWriterFactory" else symbol

/-- The configuration of a plugin; none is an empty object. -/
def objectText (config : Option Str) : Str := (config.filter (· ≠ [])).getD (lit "\x7b\x7d")

/-- What a mounted backend is set to, by the names of the resource. -/
def EFSConfig.parameters (c : EFSConfig) : Agent.Env :=
  [(lit "fileSystemID", c.fileSystemID), (lit "mountPath", c.mountPath)]
    ++ optEnv (lit "directory") c.directory

def EBSConfig.parameters (c : EBSConfig) : Agent.Env :=
  [(lit "volumeID", c.volumeID), (lit "mountPath", c.mountPath)]
    ++ optEnv (lit "filesystem") c.filesystem

/-- What the agent knows of a mounted backend: `EFSConfig` and `EBSConfig` of the storage package
have a path and no other parameter. -/
def mountParameters (mountPath : Str) : Agent.Env := [(lit "mountPath", mountPath)]

/-- A backend with the parameters that the storage sets. -/
def StorageAgrees (storage : CaptureStorage) : StorageConfig → Prop
  | .s3 bucket region pathPrefix _ => storage.type = .s3 ∧ ∃ c ∈ storage.s3,
      bucket = c.bucket ∧ region = c.region ∧ ∀ p ∈ c.pathPrefix, pathPrefix = p
  | .gcs bucket pathPrefix _ => storage.type = .gcs ∧ ∃ c ∈ storage.gcs,
      bucket = c.bucket ∧ ∀ p ∈ c.pathPrefix, pathPrefix = p
  | .efs mountPath _ => storage.type = .efs ∧ ∃ c ∈ storage.efs,
      c.parameters ⊆ mountParameters mountPath
  | .ebs mountPath _ => storage.type = .ebs ∧ ∃ c ∈ storage.ebs,
      c.parameters ⊆ mountParameters mountPath
  | .plugin path symbol config => storage.type = .plugin ∧ ∃ c ∈ storage.plugin,
      path = c.path ∧ (∀ s ∈ c.symbol, symbolName symbol = symbolName s)
        ∧ ∀ j ∈ c.config, objectText config = objectText (some j)

/-- Headers get into what the agent records. -/
def RecordsHeaders (h : CaptureHandler) : Prop :=
  ∃ id now req read, (capturedRequest h id now req read).headers ≠ []

/-- Bodies get into what the agent records. -/
def RecordsBody (h : CaptureHandler) : Prop :=
  ∃ id now req read, (capturedRequest h id now req read).body ≠ []

/-- The headers that a capture wants redacted: the defaults and those it lists. -/
def redactedNames (settings : CaptureSettings) : List Str :=
  if settings.disableHeaderRedaction = some true then []
  else newHeaderRedactor (defaultRedactHeaders ++ settings.redactHeaders)

/-- What a filter selects; without a filter everything. -/
def selection (filter : Option RequestFilter) : RequestFilter := filter.getD ⟨[], [], 100⟩

/-- **An agent agrees with its capture** wherever the capture sets a value. -/
structure AgentAgrees (tc : TrafficCapture) (storage : CaptureStorage)
    (cfg : AgentConfig) : Prop where
  captureID : cfg.captureID = tc.key.ns ++ lit "/" ++ tc.key.name
  captureName : cfg.captureNamespace = tc.key.ns ∧ cfg.captureName = tc.key.name
  storage : StorageAgrees storage cfg.storage
  pathPrefix : ∀ f ∈ tc.filters, ∀ p ∈ f.pathPrefix,
    (selection (newCaptureHandler cfg.handler).filter).pathPrefix = p
  headers : ∀ f ∈ tc.filters,
    (selection (newCaptureHandler cfg.handler).filter).headers = f.headers.map HeaderMatch.filter
  percentage : ∀ f ∈ tc.filters, ∀ n ∈ f.percentage,
    (selection (newCaptureHandler cfg.handler).filter).percentage.toInt = n.toInt
  maxBodyBytes : ∀ n ∈ tc.capture.maxBodyBytes, (newCaptureHandler cfg.handler).maxBodyBytes = n
  includeHeaders : ∀ b ∈ tc.capture.includeHeaders, RecordsHeaders (newCaptureHandler cfg.handler)
    ↔ b = true
  includeBody : ∀ b ∈ tc.capture.includeBody, RecordsBody (newCaptureHandler cfg.handler) ↔ b = true
  redacted : ∀ n, n ∈ (newCaptureHandler cfg.handler).redactor ↔ n ∈ redactedNames tc.capture

/-! ## What is carried over -/

/-- A text with something else than spaces. -/
def Visible (s : Str) : Prop := s.trimSpace ≠ []

instance (s : Str) : Decidable (Visible s) := inferInstanceAs (Decidable (_ ≠ _))

/-- A storage whose parameters all reach the agent. Those of a mounted backend never do: the file
system or the volume is always set. -/
def StorageCarried (storage : CaptureStorage) : Prop :=
  match storage.type with
  | .s3 => ∀ c ∈ storage.s3, Visible c.bucket ∧ Visible c.region
      ∧ ∀ p ∈ c.pathPrefix, p = [] ∨ Visible p
  | .gcs => ∀ c ∈ storage.gcs, Visible c.bucket ∧ ∀ p ∈ c.pathPrefix, p = [] ∨ Visible p
  | .efs => False
  | .ebs => False
  | .plugin => ∀ c ∈ storage.plugin, Visible c.path
      ∧ (∀ s ∈ c.symbol, s = [] ∨ s = lit "NewWriterFactory")
      ∧ ∀ j ∈ c.config, j = [] ∨ j = lit "\x7b\x7d"

/-- Headers to redact that survive the list they are written into. -/
def RedactCarried (settings : CaptureSettings) : Prop :=
  settings.disableHeaderRedaction = some true
    ∨ (∀ n ∈ settings.redactHeaders, 44 ∉ n)
      ∧ ∀ n, settings.redactHeaders = [n] → n.trimSpace.equalFold (lit "none") = false

/-- **A capture that the environment carries over whole.** -/
structure Carried (tc : TrafficCapture) (storage : CaptureStorage) : Prop where
  storage : StorageCarried storage
  pathPrefix : ∀ f ∈ tc.filters, ∀ p ∈ f.pathPrefix, p.trimSpace = p
  headers : ∀ f ∈ tc.filters, ∀ h ∈ f.headers, Visible h.name
  maxBodyBytes : ∀ n ∈ tc.capture.maxBodyBytes, n = 1048576
  includeHeaders : tc.capture.includeHeaders ≠ some false
  includeBody : tc.capture.includeBody ≠ some false
  redact : RedactCarried tc.capture

/-! ## The parts of the environment -/

section Lookup

variable (tc : TrafficCapture) (storage : CaptureStorage) (pod : Str) (db : Option Str)

/-- The variables that the capture settings become. -/
def settingsEnv (settings : CaptureSettings) : Agent.Env :=
  optEnv (lit "CAPTURE_INCLUDE_HEADERS") (settings.includeHeaders.map boolText)
    ++ optEnv (lit "CAPTURE_INCLUDE_BODY") (settings.includeBody.map boolText)
    ++ optEnv (lit "CAPTURE_MAX_BODY_BYTES") (settings.maxBodyBytes.map fun n => itoa n.toInt)
    ++ optEnv (lit "CAPTURE_REDACT_HEADERS") (redactEnv settings)

def settingsNames : List Str :=
  [lit "CAPTURE_INCLUDE_HEADERS", lit "CAPTURE_INCLUDE_BODY", lit "CAPTURE_MAX_BODY_BYTES",
    lit "CAPTURE_REDACT_HEADERS"]

/-- The variables that every agent has, and the database. -/
def fixedEnv : Agent.Env :=
  [(lit "CAPTURE_ID", tc.key.ns ++ lit "/" ++ tc.key.name), (lit "CAPTURE_NAMESPACE", tc.key.ns),
    (lit "CAPTURE_NAME", tc.key.name), (lit "CAPTURE_TARGET_KIND", tc.targetKind),
    (lit "CAPTURE_TARGET_NAME", tc.targetName), (lit "CAPTURE_STORAGE_NAME", tc.storageRef),
    (lit "STORAGE_TYPE", storage.type.text), (lit "POD_NAME", pod)]
    ++ optEnv (lit "DATABASE_URL") db

def fixedNames : List Str :=
  [lit "CAPTURE_ID", lit "CAPTURE_NAMESPACE", lit "CAPTURE_NAME", lit "CAPTURE_TARGET_KIND",
    lit "CAPTURE_TARGET_NAME", lit "CAPTURE_STORAGE_NAME", lit "STORAGE_TYPE", lit "POD_NAME",
    lit "DATABASE_URL"]

theorem named_fixedEnv : Named fixedNames (fixedEnv tc storage pod db) := by
  refine .append ?_ (.opt (by decide) _)
  exact .cons (by decide) (.cons (by decide) (.cons (by decide) (.cons (by decide)
    (.cons (by decide) (.cons (by decide) (.cons (by decide) (.cons (by decide) .nil)))))))

theorem named_settingsEnv (settings : CaptureSettings) :
    Named settingsNames (settingsEnv settings) :=
  .append (.append (.append (.opt (by decide) _) (.opt (by decide) _)) (.opt (by decide) _))
    (.opt (by decide) _)

theorem buildEnvVars_eq : buildEnvVars tc storage pod db
    = fixedEnv tc storage pod db ++ storageEnv storage ++ settingsEnv tc.capture
      ++ filterEnv tc.filters := by
  simp only [buildEnvVars, fixedEnv, settingsEnv, List.append_assoc]

theorem lookup_storage {n : Str} (h : n ∈ storageNames) :
    lookup (buildEnvVars tc storage pod db) n = lookup (storageEnv storage) n := by
  have hout : ∀ n ∈ storageNames, n ∉ fixedNames ∧ n ∉ settingsNames ∧ n ∉ filterNames := by decide
  obtain ⟨h1, h2, h3⟩ := hout n h
  rw [buildEnvVars_eq, lookup_append, lookup_append, lookup_append,
    (named_fixedEnv tc storage pod db).lookup h1, (named_settingsEnv _).lookup h2,
    (named_filterEnv _).lookup h3, Option.or_none, Option.or_none, Option.none_or]

theorem lookup_settings {n : Str} (h : n ∈ settingsNames) :
    lookup (buildEnvVars tc storage pod db) n = lookup (settingsEnv tc.capture) n := by
  have hout : ∀ n ∈ settingsNames, n ∉ fixedNames ∧ n ∉ storageNames ∧ n ∉ filterNames := by decide
  obtain ⟨h1, h2, h3⟩ := hout n h
  rw [buildEnvVars_eq, lookup_append, lookup_append, lookup_append,
    (named_fixedEnv tc storage pod db).lookup h1, (named_storageEnv _).lookup h2,
    (named_filterEnv _).lookup h3, Option.or_none, Option.or_none, Option.none_or]

theorem lookup_filter {n : Str} (h : n ∈ filterNames) :
    lookup (buildEnvVars tc storage pod db) n = lookup (filterEnv tc.filters) n := by
  have hout : ∀ n ∈ filterNames, n ∉ fixedNames ∧ n ∉ storageNames ∧ n ∉ settingsNames := by decide
  obtain ⟨h1, h2, h3⟩ := hout n h
  rw [buildEnvVars_eq, lookup_append, lookup_append, lookup_append,
    (named_fixedEnv tc storage pod db).lookup h1, (named_storageEnv _).lookup h2,
    (named_settingsEnv _).lookup h3, Option.none_or, Option.none_or, Option.none_or]

end Lookup

/-! ## Names -/

theorem visible_of_dns {b : UInt8} (h : Url.isDnsByte b = true) : 33 ≤ b ∧ b ≤ 126 := by
  have hall : ∀ n : Fin 256, Url.isDnsByte (UInt8.ofNat n) = true →
      33 ≤ UInt8.ofNat n ∧ UInt8.ofNat n ≤ 126 := by decide +kernel
  have hn := hall ⟨b.toNat, b.toNat_lt⟩
  rw [UInt8.ofNat_toNat] at hn
  exact hn h

variable {s : Str} {names : List Str}

/-- Text of visible bytes is not trimmed. -/
theorem trimSpace_visible (h : ∀ b ∈ s, 33 ≤ b ∧ b ≤ 126) : s.trimSpace = s :=
  Str.trimSpace_of_edges
    (fun b hb p hp hbp => Str.visible_notMem_space p hp b hbp (h b (List.mem_of_mem_head? hb)))
    (fun b hb p hp hbp => Str.visible_notMem_space p hp b hbp (h b (List.mem_of_mem_getLast? hb)))

theorem hostPattern_visible (h : hostPattern s = true) : ∀ b ∈ s, 33 ≤ b ∧ b ≤ 126 :=
  fun b hb => visible_of_dns (List.all_eq_true.mp (hostPattern_spec h).2 b hb)

theorem trimSpace_name (h : hostPattern s = true) : s.trimSpace = s :=
  trimSpace_visible (hostPattern_visible h)

theorem trimSpace_captureID {ns name : Str} (hns : hostPattern ns = true)
    (hname : hostPattern name = true) :
    (ns ++ lit "/" ++ name).trimSpace = ns ++ lit "/" ++ name := by
  refine trimSpace_visible fun b hb => ?_
  rw [List.mem_append, List.mem_append] at hb
  rcases hb with (hb | hb) | hb
  · exact hostPattern_visible hns b hb
  · obtain rfl : b = 47 := by simpa [lit] using hb
    decide
  · exact hostPattern_visible hname b hb

theorem envOr_of_trimmed {env : Agent.Env} {n v fallback : Str} (hv : Agent.getenv env n = v)
    (htrim : v.trimSpace = v) (hne : v ≠ []) : Agent.envOr env n fallback = v := by
  rw [Agent.envOr, hv, htrim]
  exact if_pos hne

/-! ## Storage -/

/-- A parameter arrives if it is not blank. -/
theorem firstNonEmpty_eq_iff {x : Str} : Agent.firstNonEmpty [x] = x ↔ x = [] ∨ Visible x := by
  by_cases hx : x.trimSpace = []
  · have hnil : Agent.firstNonEmpty [x] = [] := by simp [Agent.firstNonEmpty, hx]
    simp only [hnil, Visible, hx, ne_eq, not_true_eq_false, or_false]
    exact eq_comm
  · have hself : Agent.firstNonEmpty [x] = x := by simp [Agent.firstNonEmpty, hx]
    simp [hself, Visible, hx]

theorem firstNonEmpty_eq_iff_of_ne {x : Str} (hne : x ≠ []) :
    Agent.firstNonEmpty [x] = x ↔ Visible x := by
  rw [firstNonEmpty_eq_iff]
  exact or_iff_right hne

theorem not_mem_mountParameters {n v mountPath : Str} (hn : n ≠ lit "mountPath") :
    (n, v) ∉ mountParameters mountPath := fun h =>
  hn (congrArg Prod.fst (List.mem_singleton.mp h))

theorem symbolName_eq_iff (s : Str) :
    symbolName [] = symbolName s ↔ s = [] ∨ s = lit "NewWriterFactory" := by
  unfold symbolName
  by_cases hs : s = []
  · simp [hs]
  · rw [if_pos rfl, if_neg hs]
    simp only [hs, false_or]
    exact eq_comm

theorem objectText_eq_iff (j : Str) :
    objectText none = objectText (some j) ↔ j = [] ∨ j = lit "\x7b\x7d" := by
  unfold objectText
  by_cases hj : j = []
  · subst hj
    exact iff_of_true rfl (Or.inl rfl)
  · rw [Option.filter_some_pos (by simpa using hj)]
    simp only [hj, false_or, Option.getD_some]
    exact eq_comm

section Storage

variable (tc : TrafficCapture) {storage : CaptureStorage} (pod : Str) (db : Option Str)

/-- The value of a variable of the storage. -/
theorem getenv_storage {n v : Str} (hn : n ∈ storageNames)
    (hv : lookup (storageEnv storage) n = some v) :
    Agent.getenv (buildEnvVars tc storage pod db) n = v := by
  rw [getenv_eq, lookup_storage tc storage pod db hn, hv]
  rfl

/-- An optional variable of the storage. -/
theorem optional_storage {n : Str} {o : Option Str} (hn : n ∈ storageNames)
    (hv : lookup (storageEnv storage) n = o) :
    (∀ p ∈ o, Agent.firstNonEmpty [Agent.getenv (buildEnvVars tc storage pod db) n] = p)
      ↔ ∀ p ∈ o, p = [] ∨ Visible p := by
  refine forall₂_congr fun p hp => ?_
  rw [getenv_storage tc pod db hn (hv.trans hp)]
  exact firstNonEmpty_eq_iff

/-- The one value of an option. -/
theorem exists_iff_forall {α : Type} {o : Option α} {c : α} (hc : c ∈ o) {P Q : α → Prop}
    (h : P c ↔ Q c) : (∃ x ∈ o, P x) ↔ ∀ x ∈ o, Q x := by
  cases hc
  simpa using h

/-- **The backend of an agent** is the one of the storage, and its parameters agree exactly
if they are all carried over. -/
theorem parseStorageConfig_spec (h : StorageAdmitted storage) :
    ∃ cfg, Agent.parseStorageConfig (buildEnvVars tc storage pod db) storage.type.text = .ok cfg
      ∧ (StorageAgrees storage cfg ↔ StorageCarried storage) := by
  unfold StorageAdmitted at h
  unfold StorageCarried
  rcases htype : storage.type with _ | _ | _ | _ | _ <;> simp only [htype] at h ⊢
  · obtain ⟨c, hc, hb, -, hr⟩ := h
    have henv : storageEnv storage = [(lit "S3_BUCKET", c.bucket), (lit "S3_REGION", c.region)]
        ++ optEnv (lit "S3_PREFIX") c.pathPrefix := by
      rw [storageEnv, htype, hc]
    have hbucket := getenv_storage tc pod db (n := lit "S3_BUCKET") (by decide) (by rw [henv]; rfl)
    have hregion := getenv_storage tc pod db (n := lit "S3_REGION") (by decide) (by rw [henv]; rfl)
    have hprefix :=
      optional_storage tc pod db (n := lit "S3_PREFIX") (o := c.pathPrefix) (by decide)
        (by rw [henv, lookup_append, lookup_optEnv]; rfl)
    refine ⟨_, rfl, (and_iff_right htype).trans (exists_iff_forall hc ?_)⟩
    rw [hbucket, hregion]
    exact and_congr (firstNonEmpty_eq_iff_of_ne (ne_nil_of_textLength (le_trans (by decide) hb)))
      (and_congr (firstNonEmpty_eq_iff_of_ne (ne_nil_of_textLength hr)) hprefix)
  · obtain ⟨c, hc, hb, -⟩ := h
    have henv : storageEnv storage = [(lit "GCS_BUCKET", c.bucket)]
        ++ optEnv (lit "GCS_PREFIX") c.pathPrefix := by
      rw [storageEnv, htype, hc]
    have hbucket := getenv_storage tc pod db (n := lit "GCS_BUCKET") (by decide) (by rw [henv]; rfl)
    have hprefix :=
      optional_storage tc pod db (n := lit "GCS_PREFIX") (o := c.pathPrefix) (by decide)
        (by rw [henv, lookup_append, lookup_optEnv]; rfl)
    refine ⟨_, rfl, (and_iff_right htype).trans (exists_iff_forall hc ?_)⟩
    rw [hbucket]
    exact and_congr (firstNonEmpty_eq_iff_of_ne (ne_nil_of_textLength (le_trans (by decide) hb)))
      hprefix
  · refine ⟨_, rfl, iff_false_intro ?_⟩
    rintro ⟨-, c, -, hsub⟩
    exact not_mem_mountParameters (by decide) (hsub List.mem_cons_self)
  · refine ⟨_, rfl, iff_false_intro ?_⟩
    rintro ⟨-, c, -, hsub⟩
    exact not_mem_mountParameters (by decide) (hsub List.mem_cons_self)
  · obtain ⟨c, hc, hp⟩ := h
    have hv : Agent.getenv (buildEnvVars tc storage pod db) (lit "PLUGIN_PATH") = c.path :=
      getenv_storage tc pod db (by decide) (by rw [storageEnv, htype, hc]; rfl)
    refine ⟨_, rfl, (and_iff_right htype).trans (exists_iff_forall hc ?_)⟩
    rw [hv]
    exact and_congr (firstNonEmpty_eq_iff_of_ne (ne_nil_of_textLength hp))
      (and_congr (forall₂_congr fun s _ => symbolName_eq_iff s)
        (forall₂_congr fun j _ => objectText_eq_iff j))

end Storage

/-! ## Filters -/

/-- The header filters of a capture. -/
def headersOf (tc : TrafficCapture) : List HeaderMatch := (tc.filters.map (·.headers)).getD []

/-- The path prefix of a capture. -/
def pathOf (tc : TrafficCapture) : Str := (tc.filters.bind (·.pathPrefix)).getD []

/-- The percentage of a capture. -/
def percentageOf (tc : TrafficCapture) : Int :=
  ((tc.filters.bind (·.percentage)).map Int32.toInt).getD 100

section Filters

variable (tc : TrafficCapture) (storage : CaptureStorage) (pod : Str) (db : Option Str)

theorem envOr_path : Agent.envOr (buildEnvVars tc storage pod db) (lit "FILTER_PATH_PREFIX") []
    = (pathOf tc).trimSpace := by
  have hv : Agent.getenv (buildEnvVars tc storage pod db) (lit "FILTER_PATH_PREFIX")
      = pathOf tc := by
    rw [getenv_eq, lookup_filter tc storage pod db (by decide), pathOf]
    rcases tc.filters with _ | f
    · rfl
    · rw [filterEnv, lookup_append, lookup_append, lookup_optEnv, lookup_optEnv_of_ne (by decide),
        lookup_optEnv_of_ne (by decide), Option.or_none, Option.or_none, Option.bind_some]
      rcases f.pathPrefix with _ | p
      · rfl
      · by_cases hnil : p = []
        · rw [hnil]
          rfl
        · rw [Option.filter_some_pos (by simpa using hnil)]
  rw [Agent.envOr, hv]
  split
  · rfl
  · rename_i hnil
    exact (not_not.mp hnil).symm

theorem getenv_headers : Agent.getenv (buildEnvVars tc storage pod db) (lit "FILTER_HEADERS")
    = if headersOf tc = [] then [] else marshalHeaders (headersOf tc) := by
  rw [getenv_eq, lookup_filter tc storage pod db (by decide), headersOf]
  rcases tc.filters with _ | f
  · rfl
  · rw [filterEnv, lookup_append, lookup_append, lookup_optEnv, lookup_optEnv_of_ne (by decide),
      lookup_optEnv_of_ne (by decide), Option.or_none, Option.none_or]
    by_cases hnil : f.headers = []
    · simp [hnil]
    · simp [hnil]

/-- **The agent has the header filters of the capture**, if each has a name; else it exits. -/
theorem parseHeaderFilters_spec (hv : ∀ f ∈ tc.filters, ∀ h ∈ f.headers, h.Valid) :
    Agent.parseHeaderFilters
      (Agent.envOr (buildEnvVars tc storage pod db) (lit "FILTER_HEADERS") [])
      = match Agent.unnamed ((headersOf tc).map HeaderMatch.filter) with
        | some i => .error (.new ("header filter " ++ toString i ++ ": name is required"))
        | none => .ok ((headersOf tc).map HeaderMatch.filter) := by
  have hvalid : ∀ h ∈ headersOf tc, h.Valid := by
    unfold headersOf
    rcases hf : tc.filters with _ | f
    · simp
    · exact hv f hf
  by_cases hnil : headersOf tc = []
  · have hget := getenv_headers tc storage pod db
    rw [if_pos hnil] at hget
    rw [Agent.envOr, hget, hnil]
    rfl
  · have hget := getenv_headers tc storage pod db
    rw [if_neg hnil] at hget
    have hne : marshalHeaders (headersOf tc) ≠ [] := by simp [marshalHeaders, lit]
    rw [envOr_of_trimmed hget (trimSpace_marshalHeaders _) hne, Agent.parseHeaderFilters]
    rcases hu : Agent.unnamed ((headersOf tc).map HeaderMatch.filter) with _ | i <;>
      simp [trimSpace_marshalHeaders, hne, unmarshalFilters_marshalHeaders hnil hvalid, hu]

theorem unnamed_eq_none_iff (tc : TrafficCapture) :
    Agent.unnamed ((headersOf tc).map HeaderMatch.filter) = none
    ↔ ∀ f ∈ tc.filters, ∀ h ∈ f.headers, Visible h.name := by
  unfold headersOf Agent.unnamed
  rcases tc.filters with _ | f
  · simp
  · simp only [Option.map_some, Option.getD_some, List.findIdx?_eq_none_iff, List.forall_mem_map,
      Option.mem_some_iff, forall_eq']
    exact forall₂_congr fun h _ => decide_eq_false_iff_not

theorem visible_itoa (z : Int) : ∀ b ∈ itoa z, 33 ≤ b ∧ b ≤ 126 := by
  intro b hb
  rcases itoa_byte hb with rfl | hdigit
  · decide
  · rw [UInt8.le_iff_toNat_le, UInt8.le_iff_toNat_le]
    simp only [UInt8.reduceToNat]
    omega

theorem itoa_ne_nil (z : Int) : itoa z ≠ [] := by
  unfold itoa
  split
  · exact List.cons_ne_nil _ _
  · exact decimal_ne_nil _

theorem envIntOr_percentage :
    Agent.envIntOr (buildEnvVars tc storage pod db) (lit "FILTER_PERCENTAGE") 100
      = percentageOf tc := by
  have hv : lookup (buildEnvVars tc storage pod db) (lit "FILTER_PERCENTAGE")
      = (tc.filters.bind (·.percentage)).map fun p => itoa p.toInt := by
    rw [lookup_filter tc storage pod db (by decide)]
    rcases tc.filters with _ | f
    · rfl
    · rw [filterEnv, lookup_append, lookup_append, lookup_optEnv, lookup_optEnv_of_ne (by decide),
        lookup_optEnv_of_ne (by decide), Option.none_or, Option.none_or, Option.bind_some]
  rw [Agent.envIntOr, getenv_eq, hv, percentageOf]
  rcases tc.filters.bind (·.percentage) with _ | p
  · rfl
  · simp only [Option.map_some, Option.getD_some, trimSpace_visible (visible_itoa p.toInt),
      if_neg (itoa_ne_nil p.toInt), parseInt_int32]

end Filters

/-! ## Redaction -/

theorem mem_newHeaderRedactor {x : Str} : x ∈ newHeaderRedactor names
    ↔ ∃ n ∈ names, Visible n ∧ Header.canonicalHeaderKey n.trimSpace = x := by
  simp only [newHeaderRedactor, List.mem_map, List.mem_filter, decide_eq_true_eq, Visible]
  constructor
  · rintro ⟨y, ⟨⟨n, hn, rfl⟩, hne⟩, rfl⟩
    exact ⟨n, hn, hne, rfl⟩
  · rintro ⟨n, hn, hne, rfl⟩
    exact ⟨_, ⟨⟨n, hn, rfl⟩, hne⟩, rfl⟩

theorem comma_notMem_space : ∀ p ∈ Str.spaces, (44 : UInt8) ∉ p := by decide

/-- No header that the agent redacts has a comma. -/
theorem comma_notMem_parsed {value : Str} (h : Agent.parseRedactHeaders value = some names) :
    ∀ n ∈ names, 44 ∉ n := by
  intro n hn hcomma
  unfold Agent.parseRedactHeaders at h
  simp only at h
  split at h
  · cases h
  · split at h
    · cases h
      cases hn
    · cases h
      rcases List.mem_append.mp hn with hn | hn
      · have hdef : ∀ n ∈ defaultRedactHeaders, (44 : UInt8) ∉ n := by decide
        exact hdef n hn hcomma
      · obtain ⟨m, hm, rfl⟩ := List.mem_map.mp (List.mem_of_mem_filter hn)
        exact Str.notMem_splitOn hm (Str.mem_trimSpace hcomma)

/-- The headers that an agent redacts, from the variable. -/
def redactedBy (value : Str) : List Str :=
  newHeaderRedactor ((Agent.parseRedactHeaders value).getD defaultRedactHeaders)

theorem comma_notMem_redactedBy (value : Str) : ∀ x ∈ redactedBy value, 44 ∉ x := by
  intro x hx hcomma
  obtain ⟨n, hn, -, rfl⟩ := mem_newHeaderRedactor.mp hx
  have hn' : 44 ∈ n := Str.mem_trimSpace (Header.comma_mem_canonicalHeaderKey.mp hcomma)
  rcases hp : Agent.parseRedactHeaders value with _ | names
  · rw [hp] at hn
    have hdef : ∀ n ∈ defaultRedactHeaders, (44 : UInt8) ∉ n := by decide
    exact hdef n hn hn'
  · rw [hp] at hn
    exact comma_notMem_parsed hp n hn hn'

/-- A text with a comma is not `none`. -/
theorem not_none_of_comma (h : 44 ∈ s) : s.equalFold (lit "none") = false := by
  rw [Str.equalFold, beq_eq_false_iff_ne]
  intro heq
  have hmem : foldRune 44 ∈ (runes s).map foldRune :=
    List.mem_map_of_mem (mem_runes (b := 44) (by decide) h)
  rw [heq] at hmem
  exact absurd hmem (by decide +kernel)

/-- A list that is written as one text comes out with the same headers. -/
theorem redactedBy_join (hne : names ≠ []) (hfree : ∀ n ∈ names, 44 ∉ n)
    (hnone : ∀ n, names = [n] → n.trimSpace.equalFold (lit "none") = false) (x : Str) :
    x ∈ redactedBy ([44].intercalate names)
      ↔ x ∈ newHeaderRedactor (defaultRedactHeaders ++ names) := by
  have hpieces := Str.map_trimSpace_splitOn comma_notMem_space hne hfree
  have hfold : Str.equalFold (Str.trimSpace ([44].intercalate names)) (lit "none") = false := by
    match names, hne with
    | [n], _ => rw [List.intercalate_singleton]; exact hnone n rfl
    | n :: m :: rest, _ =>
        refine not_none_of_comma ((Str.mem_trimSpace_iff comma_notMem_space).mpr ?_)
        rw [List.intercalate_cons_cons]
        simp
  simp only [redactedBy, Agent.parseRedactHeaders, hfold, Bool.false_eq_true, if_false]
  split
  · -- nothing but spaces: no name is left
    rename_i hblank
    rw [hblank] at hpieces
    have hall : ∀ n ∈ names, n.trimSpace = [] := by
      intro n hn
      have := List.mem_map_of_mem (f := Str.trimSpace) hn
      rw [← hpieces] at this
      exact List.mem_singleton.mp this
    rw [mem_newHeaderRedactor, mem_newHeaderRedactor]
    refine exists_congr fun n =>
      ⟨fun ⟨hn, h⟩ => ⟨List.mem_append_left _ hn, h⟩, fun ⟨hn, h⟩ => ⟨?_, h⟩⟩
    rcases List.mem_append.mp hn with hn | hn
    · exact hn
    · exact absurd (hall n hn) h.1
  · rw [Option.getD_some, hpieces, mem_newHeaderRedactor, mem_newHeaderRedactor]
    constructor
    · rintro ⟨n, hn, hvis, rfl⟩
      rcases List.mem_append.mp hn with hn | hn
      · exact ⟨n, List.mem_append_left _ hn, hvis, rfl⟩
      · obtain ⟨m, hm, rfl⟩ := List.mem_map.mp (List.mem_of_mem_filter hn)
        rw [Visible, Str.trimSpace_trimSpace] at hvis
        exact ⟨m, List.mem_append_right _ hm, hvis, by rw [Str.trimSpace_trimSpace]⟩
    · rintro ⟨n, hn, hvis, rfl⟩
      rcases List.mem_append.mp hn with hn | hn
      · exact ⟨n, List.mem_append_left _ hn, hvis, rfl⟩
      · refine ⟨n.trimSpace,
          List.mem_append_right _ (List.mem_filter.mpr ⟨List.mem_map_of_mem hn, ?_⟩), ?_, ?_⟩
        · exact decide_eq_true hvis
        · rwa [Visible, Str.trimSpace_trimSpace]
        · rw [Str.trimSpace_trimSpace]

/-- **The headers that are redacted are those of the capture** exactly if their list is
carried over. -/
theorem redacted_iff (settings : CaptureSettings) :
    (∀ x, x ∈ redactedBy ((redactEnv settings).getD []) ↔ x ∈ redactedNames settings)
      ↔ RedactCarried settings := by
  unfold redactEnv redactedNames RedactCarried
  by_cases hdis : settings.disableHeaderRedaction = some true
  · have hnone : redactedBy (lit "none") = [] := by decide
    simp [hdis, hnone]
  · simp only [hdis, if_false, false_or]
    by_cases hnil : settings.redactHeaders = []
    · have hdef : redactedBy [] = newHeaderRedactor (defaultRedactHeaders ++ []) := by decide
      simp [hnil, hdef]
    · rw [if_pos hnil, Option.getD_some]
      refine ⟨fun hall => ⟨fun n hn hcomma => ?_, fun n hn => ?_⟩,
        fun h x => redactedBy_join hnil h.1 h.2 x⟩
      · -- the capture wants a header with a comma redacted, and the agent redacts none
        have hmem : Header.canonicalHeaderKey n.trimSpace
            ∈ newHeaderRedactor (defaultRedactHeaders ++ settings.redactHeaders) := by
          refine mem_newHeaderRedactor.mpr ⟨n, List.mem_append_right _ hn, fun hblank => ?_, rfl⟩
          have := (Str.mem_trimSpace_iff comma_notMem_space).mpr hcomma
          rw [hblank] at this
          cases this
        refine comma_notMem_redactedBy _ _ ((hall _).mpr hmem) ?_
        exact Header.comma_mem_canonicalHeaderKey.mpr
          ((Str.mem_trimSpace_iff comma_notMem_space).mpr hcomma)
      · -- redaction would be off
        by_contra hfold
        rw [Bool.not_eq_false] at hfold
        have hauth : lit "Authorization"
            ∈ newHeaderRedactor (defaultRedactHeaders ++ settings.redactHeaders) :=
          mem_newHeaderRedactor.mpr ⟨lit "Authorization", List.mem_append_left _ (by decide),
            by decide,
            by decide⟩
        have hoff : redactedBy ([44].intercalate settings.redactHeaders) = [] := by
          have hne : n.trimSpace ≠ [] := by
            intro hblank
            rw [hblank] at hfold
            exact absurd hfold (by decide)
          rw [hn, List.intercalate_singleton, redactedBy, Agent.parseRedactHeaders]
          simp only [hfold, if_neg hne, if_true]
          rfl
        have := (hall _).mpr hauth
        rw [hoff] at this
        cases this

/-! ## The agent as a whole -/

/-- What the agent of a capture runs with. -/
def agentConfig (tc : TrafficCapture) (backend : StorageConfig) : AgentConfig where
  captureID := tc.key.ns ++ lit "/" ++ tc.key.name
  captureNamespace := tc.key.ns
  captureName := tc.key.name
  storage := backend
  handler := {
    maxBodyBytes := Agent.defaultMaxBodyBytes
    filter := Agent.requestFilter (pathOf tc).trimSpace ((headersOf tc).map HeaderMatch.filter)
      (percentageOf tc)
    redactHeaders := Agent.parseRedactHeaders ((redactEnv tc.capture).getD []) }

section Main

variable {tc : TrafficCapture} {storage : CaptureStorage} (pod : Str) (db : Option Str)

theorem getenv_redact : Agent.getenv (buildEnvVars tc storage pod db) (lit "CAPTURE_REDACT_HEADERS")
    = (redactEnv tc.capture).getD [] := by
  rw [getenv_eq, lookup_settings tc storage pod db (by decide), settingsEnv, lookup_append,
    lookup_append, lookup_append, lookup_optEnv_of_ne (by decide), lookup_optEnv_of_ne (by decide),
    lookup_optEnv_of_ne (by decide), lookup_optEnv, Option.none_or, Option.none_or, Option.none_or]

/-- **What `main` makes of the environment**: the configuration above, or an exit at a header
filter without a name. -/
theorem main_buildEnvVars (h : CaptureAdmitted tc storage) {backend : StorageConfig}
    (hb : Agent.parseStorageConfig (buildEnvVars tc storage pod db) storage.type.text
      = .ok backend) :
    Agent.main (buildEnvVars tc storage pod db)
      = match Agent.unnamed ((headersOf tc).map HeaderMatch.filter) with
        | some i => .error (.new ("header filter " ++ toString i ++ ": name is required"))
        | none => .ok (agentConfig tc backend) := by
  have hns := (hostPattern_spec h.ns).1
  have hname := (hostPattern_spec h.name).1
  have hid : tc.key.ns ++ lit "/" ++ tc.key.name ≠ [] := by simp [hname]
  have htype : storage.type.text.trimSpace = storage.type.text ∧ storage.type.text ≠ [] := by
    cases storage.type <;> decide
  have e1 : Agent.envOr (buildEnvVars tc storage pod db) (lit "CAPTURE_ID") []
      = tc.key.ns ++ lit "/" ++ tc.key.name :=
    envOr_of_trimmed rfl (trimSpace_captureID h.ns h.name) hid
  have e2 : Agent.envOr (buildEnvVars tc storage pod db) (lit "CAPTURE_NAMESPACE") [] = tc.key.ns :=
    envOr_of_trimmed rfl (trimSpace_name h.ns) hns
  have e3 : Agent.envOr (buildEnvVars tc storage pod db) (lit "CAPTURE_NAME") [] = tc.key.name :=
    envOr_of_trimmed rfl (trimSpace_name h.name) hname
  have e4 : Agent.envOr (buildEnvVars tc storage pod db) (lit "STORAGE_TYPE") (lit "efs")
      = storage.type.text := envOr_of_trimmed rfl htype.1 htype.2
  have e5 : Agent.nameOr tc.key.ns (Agent.splitCaptureID (tc.key.ns ++ lit "/" ++ tc.key.name)).1
      = tc.key.ns := if_neg hns
  have e6 : Agent.nameOr tc.key.name (Agent.splitCaptureID (tc.key.ns ++ lit "/" ++ tc.key.name)).2
      = tc.key.name := if_neg hname
  have e7 : ¬ ((Agent.envOr (buildEnvVars tc storage pod db) (lit "DATABASE_URL") []).trimSpace ≠ []
      ∧ (tc.key.ns.trimSpace = [] ∨ tc.key.name.trimSpace = [])) := by
    rw [trimSpace_name h.ns, trimSpace_name h.name]
    exact fun hd => hd.2.elim hns hname
  simp only [Agent.main, e1, e2, e3, e4, e5, e6, if_neg hid, if_neg e7, hb,
    parseHeaderFilters_spec tc storage pod db h.headers, envOr_path, envIntOr_percentage,
    getenv_redact]
  rcases Agent.unnamed ((headersOf tc).map HeaderMatch.filter) with _ | i <;> rfl

end Main

theorem percentageOf_range {tc : TrafficCapture}
    (h : ∀ f ∈ tc.filters, ∀ p ∈ f.percentage, 0 ≤ p ∧ p ≤ 100) :
    0 ≤ percentageOf tc ∧ percentageOf tc ≤ 100 := by
  unfold percentageOf
  rcases hf : tc.filters with _ | f
  · decide
  · rcases hp : f.percentage with _ | p
    · rw [Option.bind_some, hp]
      decide
    · obtain ⟨h0, h1⟩ := h f hf p hp
      rw [Option.bind_some, hp]
      exact ⟨Int32.le_iff_toInt_le.mp h0, Int32.le_iff_toInt_le.mp h1⟩

/-- The filter of an agent selects by the values it was made of. -/
theorem selection_requestFilter (path : Str) (headers : List Agent.HeaderFilter) {pct : Int}
    (h : 0 ≤ pct ∧ pct ≤ 100) :
    (selection (Agent.requestFilter path headers pct)).pathPrefix = path
      ∧ (selection (Agent.requestFilter path headers pct)).headers = headers
      ∧ (selection (Agent.requestFilter path headers pct)).percentage.toInt = pct := by
  have hint : (Int64.ofInt pct).toInt = pct := Int64.toInt_ofInt_of_le (by omega) (by omega)
  unfold Agent.requestFilter
  split
  · refine ⟨rfl, rfl, ?_⟩
    have hle : ¬ Int64.ofInt pct > 100 := by
      rw [gt_iff_lt, Int64.lt_iff_toInt_lt, hint]
      exact not_lt.mpr h.2
    have hge : ¬ Int64.ofInt pct < 0 := by
      rw [Int64.lt_iff_toInt_lt, hint]
      exact not_lt.mpr h.1
    rw [selection, Option.getD_some, Agent.newRequestFilter, if_neg hle, if_neg hge, hint]
  · rename_i hno
    simp only [not_or, not_not] at hno
    exact ⟨hno.1.symm, hno.2.1.symm, le_antisymm (not_lt.mp hno.2.2) h.2⟩

/-- The agent records headers, whatever the capture says. -/
theorem recordsHeaders (h : CaptureHandler) : RecordsHeaders h := by
  refine ⟨[], 0, ⟨[], [], [([], [])], ⟨[], none⟩, [], []⟩, [], ?_⟩
  simp [capturedRequest, Agent.redact]

/-- The agent records bodies, whatever the capture says. -/
theorem recordsBody {h : CaptureHandler} (hm : h.maxBodyBytes = 1048576) : RecordsBody h := by
  refine ⟨[], 0, ⟨[], [], [], ⟨[], none⟩, [], []⟩, [0], ?_⟩
  have hfit : ¬ (([0] : List UInt8).length : Int) > h.maxBodyBytes.toInt := by
    rw [hm]
    decide
  simp only [capturedRequest, hfit, if_false]
  exact List.cons_ne_nil _ _

theorem forall_true_iff {o : Option Bool} {P : Prop} (hP : P) :
    (∀ b ∈ o, P ↔ b = true) ↔ o ≠ some false := by
  rcases o with _ | _ | _ <;> simp [hP]

section Agreement

variable {tc : TrafficCapture} {storage : CaptureStorage}

/-- **The configuration agrees with the capture exactly if the capture is carried over.** -/
theorem agentConfig_agrees_iff (h : CaptureAdmitted tc storage) {backend : StorageConfig}
    (hb : StorageAgrees storage backend ↔ StorageCarried storage)
    (hnamed : ∀ f ∈ tc.filters, ∀ h ∈ f.headers, Visible h.name) :
    AgentAgrees tc storage (agentConfig tc backend) ↔ Carried tc storage := by
  obtain ⟨hpath, hheaders, hpct⟩ := selection_requestFilter (pathOf tc).trimSpace
    ((headersOf tc).map HeaderMatch.filter) (percentageOf_range h.percentage)
  have hmax : (newCaptureHandler (agentConfig tc backend).handler).maxBodyBytes = 1048576 := rfl
  have hpathOf : ∀ f ∈ tc.filters, ∀ p ∈ f.pathPrefix, pathOf tc = p := by
    intro f hf p hp
    rw [pathOf, hf, Option.bind_some, hp, Option.getD_some]
  constructor
  · intro ha
    refine ⟨hb.mp ha.storage, fun f hf p hp => ?_, hnamed, fun n hn => ?_, ?_, ?_, ?_⟩
    · have := ha.pathPrefix f hf p hp
      rw [← hpathOf f hf p hp] at this ⊢
      exact hpath.symm.trans this
    · exact (ha.maxBodyBytes n hn).symm.trans hmax
    · exact (forall_true_iff (recordsHeaders _)).mp ha.includeHeaders
    · exact (forall_true_iff (recordsBody hmax)).mp ha.includeBody
    · exact (redacted_iff tc.capture).mp ha.redacted
  · intro hc
    refine ⟨rfl, ⟨rfl, rfl⟩, hb.mpr hc.storage, fun f hf p hp => ?_, fun f hf => ?_,
      fun f hf n hn => ?_,
      fun n hn => ?_, ?_, ?_, ?_⟩
    · have htrim := hc.pathPrefix f hf p hp
      rw [← hpathOf f hf p hp] at htrim ⊢
      exact hpath.trans htrim
    · refine hheaders.trans ?_
      rw [headersOf, hf, Option.map_some, Option.getD_some]
    · refine hpct.trans ?_
      rw [percentageOf, hf, Option.bind_some, hn, Option.map_some, Option.getD_some]
    · exact hmax.trans (hc.maxBodyBytes n hn).symm
    · exact (forall_true_iff (recordsHeaders _)).mpr hc.includeHeaders
    · exact (forall_true_iff (recordsBody hmax)).mpr hc.includeBody
    · exact (redacted_iff tc.capture).mpr hc.redact

/-- **The agent runs what the capture asks for exactly if the environment carries it**: for
every capture and storage that the schemas admit, and whatever the name of the pod and the
database. -/
theorem agent_agrees_iff (h : CaptureAdmitted tc storage) (pod : Str) (db : Option Str) :
    (∃ cfg, Agent.main (buildEnvVars tc storage pod db) = .ok cfg ∧ AgentAgrees tc storage cfg)
      ↔ Carried tc storage := by
  obtain ⟨backend, hok, hb⟩ := parseStorageConfig_spec tc pod db h.storage
  have hmain := main_buildEnvVars pod db h hok
  rcases hu : Agent.unnamed ((headersOf tc).map HeaderMatch.filter) with _ | i
  · rw [hu] at hmain
    have hiff := agentConfig_agrees_iff h hb ((unnamed_eq_none_iff tc).mp hu)
    constructor
    · rintro ⟨cfg, hcfg, ha⟩
      rw [hmain] at hcfg
      cases hcfg
      exact hiff.mp ha
    · intro hc
      exact ⟨_, hmain, hiff.mpr hc⟩
  · -- the agent exits at a filter without a name
    rw [hu] at hmain
    constructor
    · rintro ⟨cfg, hcfg, -⟩
      rw [hmain] at hcfg
      cases hcfg
    · intro hc
      rw [(unnamed_eq_none_iff tc).mpr hc.headers] at hu
      cases hu

end Agreement

/-! ## One capture -/

/-- A capture of one route into a bucket. -/
def routeCapture (settings : CaptureSettings) : TrafficCapture where
  key := ⟨lit "shop", lit "cart"⟩
  targetKind := lit "HTTPRoute"
  targetName := lit "cart"
  storageRef := lit "bucket"
  capture := settings
  filters := some ⟨[⟨lit "x-debug", lit "true"⟩], some (lit "/cart"), some 10⟩

def routeStorage : CaptureStorage where
  name := lit "bucket"
  type := .s3
  s3 := some ⟨lit "captures", lit "eu-west-1", some (lit "cart")⟩
  gcs := none
  efs := none
  ebs := none
  plugin := none

theorem routeCapture_admitted {settings : CaptureSettings}
    (h : ∀ n ∈ settings.maxBodyBytes, 0 ≤ n) : CaptureAdmitted (routeCapture settings)
      routeStorage where
  ns := show hostPattern (lit "shop") = true by decide
  name := show hostPattern (lit "cart") = true by decide
  storage := ⟨_, rfl, by decide⟩
  headers := by
    rintro f ⟨⟩ h hh
    rcases List.mem_singleton.mp hh with rfl
    exact ⟨rfl, rfl⟩
  percentage := by
    rintro f ⟨⟩ p ⟨⟩
    decide
  maxBodyBytes := h

/-- Two headers to redact on top of the defaults. -/
def redactTwo : CaptureSettings :=
  ⟨some true, some true, none, [lit "X-Token", lit " x-session"], none⟩

theorem route_capture_agrees : ∃ cfg,
    Agent.main (buildEnvVars (routeCapture redactTwo) routeStorage (lit "cart-0") none) = .ok cfg
      ∧ AgentAgrees (routeCapture redactTwo) routeStorage cfg := by
  refine (agent_agrees_iff (routeCapture_admitted (by simp [redactTwo])) _ _).mpr ⟨?_, ?_, ?_, ?_,
    ?_, ?_, ?_⟩
  · rintro c ⟨⟩
    refine ⟨by decide, by decide, ?_⟩
    rintro p ⟨⟩
    exact Or.inr (by decide)
  · rintro f ⟨⟩ p ⟨⟩
    decide
  · rintro f ⟨⟩ h hh
    rcases List.mem_singleton.mp hh with rfl
    decide
  · simp [routeCapture, redactTwo]
  · decide
  · decide
  · refine Or.inr ⟨by decide, fun n hn => ?_⟩
    cases hn

/-- A body limit below the agent's own. -/
def shortBodies : CaptureSettings := ⟨none, none, some 65536, [], none⟩

/-- **A body limit does not reach the agent**: it keeps sixteen times what the capture
allows. -/
theorem body_limit_ignored : CaptureAdmitted (routeCapture shortBodies) routeStorage
    ∧ ∃ cfg, Agent.main (buildEnvVars (routeCapture shortBodies) routeStorage (lit "cart-0") none)
      = .ok cfg
      ∧ (newCaptureHandler cfg.handler).maxBodyBytes = 1048576
      ∧ ¬ AgentAgrees (routeCapture shortBodies) routeStorage cfg := by
  have hadm : CaptureAdmitted (routeCapture shortBodies) routeStorage :=
    routeCapture_admitted (by rintro n ⟨⟩; decide)
  refine ⟨hadm, ?_⟩
  obtain ⟨backend, hok, -⟩ :=
    parseStorageConfig_spec (routeCapture shortBodies) (lit "cart-0") none hadm.storage
  have hmain := main_buildEnvVars (lit "cart-0") none hadm hok
  rw [(unnamed_eq_none_iff _).mpr (by
    rintro f ⟨⟩ h hh
    rcases List.mem_singleton.mp hh with rfl
    decide)] at hmain
  refine ⟨_, hmain, rfl, fun ha => ?_⟩
  have hlimit : (1048576 : Int64) = 65536 := ha.maxBodyBytes 65536 rfl
  exact absurd hlimit (by decide)

end Kapture.Spoke
