import Kapture.Hub.Schema
import Kapture.Spoke.ReplayArgs

/-!
# A load test reaches its workers

The spec of a load test is written down four times: in the resource, in the `START`
directive, in the `TrafficReplay` of the spoke, and on the command line of the worker. This
file follows it all the way and compares both ends.

Everything arrives but for two things. The methods are joined with commas and trimmed when
they are split again, so a method with a comma or with a space at its ends comes out as
something else. And times are written with whole seconds and a year of four digits.
`translation_lossless_iff` says that **nothing else is lost**.
-/

namespace Kapture.Spoke

open Go Storage Replay Hub ReplayEngine
open Worker (ReplayFilters ReplayShardSpec)

theorem isSome_spec (lt : CaptureLoadTest) (shard : Int32) :
    (buildStartDirective lt shard).spec.isSome = true := rfl

/-- The replay that the `START` of a shard becomes. -/
def shardReplay (lt : CaptureLoadTest) (shard : Int32) : TrafficReplay :=
  replayFromDirective (buildStartDirective lt shard) (isSome_spec lt shard)

/-- The mode of a load test; without a rate it keeps the recorded timing. -/
def modeOf (spec : CaptureLoadTestSpec) : RateMode := spec.rate.elim .originalTiming RateSpec.mode

/-- Read options that select what the filters of a load test do. -/
structure SameFilters (filters : Option ReplayFilters) (opts : ReadOptions) : Prop where
  startTime : opts.startTime = (filters.bind (·.startTime)).getD 0
  endTime : opts.endTime = (filters.bind (·.endTime)).getD 0
  pathPrefix : opts.pathPrefix = (filters.bind (·.pathPrefix)).getD []
  methods : opts.methods = (filters.map (·.methods)).getD []
  limit : opts.limit = ((filters.bind (·.limit)).map Int64.toInt).getD 0

/-- The settings of a worker agree with the load test whose shard it is. -/
structure Agrees (lt : CaptureLoadTest) (shard : Int32) (s : Settings) : Prop where
  target : s.run.target = ⟨lt.spec.target.host,
    (lt.spec.target.port.getD (if lt.spec.target.tls.getD false then 443 else 80)).toInt,
    lt.spec.target.tls.getD false⟩
  mode : s.rateMode = modeOf lt.spec ∧ s.run.rateMode = modeOf lt.spec
  timeScale : s.run.timeScale = (lt.spec.rate.bind (·.timeScale)).getD (lit "1")
  rate : ∀ r ∈ lt.spec.rate, r.mode = .constant → ∀ rps ∈ r.requestsPerSecond,
    s.run.requestsPerSecond = itoa (splitRate rps lt.status.totalShards shard).toInt
  concurrency : s.run.concurrency = ((lt.spec.distribution.bind (·.concurrencyPerWorker)).getD
    defaultConcurrencyPerWorker).toInt
  shard : (lt.spec.distribution.bind (·.presharded)).getD false = false →
    s.run.shardIndex = shard.toInt ∧ s.run.shardCount = lt.status.totalShards.toInt
  engine : s.engine = (lt.spec.engine.map (·.name)).getD (lit "builtin")
  config : s.engine ≠ lit "builtin" →
    s.run.engineConfigJson = (lt.spec.engine.bind (·.config)).getD []
  filters : SameFilters lt.spec.filters s.opts

/-- A time that RFC 3339 with whole seconds can express. -/
def Expressible (t : Time) : Prop :=
  t % Rfc3339.second = 0 ∧ 0 ≤ Rfc3339.yearOf t ∧ Rfc3339.yearOf t ≤ 9999

/-- A method that survives being joined with commas and trimmed. -/
def PlainMethod (m : Str) : Prop := 44 ∉ m ∧ m.trimSpace = m

/-- Filters that a command line can express. -/
def Portable (f : ReplayFilters) : Prop :=
  (∀ m ∈ f.methods, PlainMethod m) ∧ (∀ t ∈ f.startTime, Expressible t)
    ∧ ∀ t ∈ f.endTime, Expressible t

instance (t : Time) : Decidable (Expressible t) := inferInstanceAs (Decidable (_ ∧ _))

instance (m : Str) : Decidable (PlainMethod m) := inferInstanceAs (Decidable (_ ∧ _))

instance (f : ReplayFilters) : Decidable (Portable f) := inferInstanceAs (Decidable (_ ∧ _))

/-! ## The target -/

variable {target : ReplayTarget}

/-- The port of an admitted target is positive. -/
theorem targetPort_pos (h : TargetAdmitted target) : 0 < (targetPort target).toInt := by
  unfold targetPort
  rcases hp : target.port with _ | p
  · rw [Option.getD_none]
    split <;> decide
  · have := Int32.le_iff_toInt_le.mp (h.2.2 p hp).1
    rw [Option.getD_some]
    exact this

theorem itoa_pos {z : Int} (h : 0 < z) : itoa z = decimal z.toNat := by
  rw [itoa, if_neg (by omega)]
  congr 1
  omega

/-- **The target URL is parsed to its parts.** -/
theorem parse_targetURL (h : TargetAdmitted target) :
    Url.parse (targetURL target) = some ⟨targetScheme target,
      target.host ++ 58 :: decimal (targetPort target).toInt.toNat, [], [], []⟩ := by
  obtain ⟨hne, hdns⟩ := hostPattern_spec h.1
  let base : Url.Base := {
    scheme := targetScheme target
    host := target.host ++ 58 :: decimal (targetPort target).toInt.toNat
    scheme_ok := by
      unfold targetScheme
      split
      · exact Or.inr rfl
      · exact Or.inl rfl
    host_ok := Url.validHost_colon hne hdns _ }
  have htext : targetURL target = base.text ++ [] := by
    rw [targetURL, itoa_pos (targetPort_pos h), List.append_nil]
    simp [base, Url.Base.text, lit]
  rw [htext, Url.parse_base base (Or.inl rfl)]
  rfl

theorem buildRunConfig_target {cfg : Config} (h : TargetAdmitted target)
    (hurl : cfg.targetURL = targetURL target) :
    buildRunConfig cfg = .ok {
      target := ⟨target.host, (targetPort target).toInt, target.tls.getD false⟩
      concurrency := cfg.concurrency
      rateMode := canonicalRateMode cfg.rateMode
      requestsPerSecond := cfg.ratePerSecond
      timeScale := cfg.timeScale
      shardIndex := cfg.shardIndex
      shardCount := cfg.shardCount
      engineConfigJson := cfg.engineConfig } := by
  obtain ⟨hne, hdns⟩ := hostPattern_spec h.1
  have hhead : target.host.head? ≠ some 91 := by
    intro hb
    have := List.all_eq_true.mp hdns 91 (List.mem_of_head? hb)
    exact absurd this (by decide)
  have hpos := targetPort_pos h
  have hport : ReplayEngine.targetPort (targetScheme target)
      (decimal (targetPort target).toInt.toNat) = .ok (targetPort target).toInt := by
    rw [ReplayEngine.targetPort, if_neg (decimal_ne_nil _), ← itoa_pos hpos, parseInt_int32]
  have hscheme : (targetScheme target == lit "https") = target.tls.getD false := by
    unfold targetScheme
    cases target.tls.getD false <;> decide
  simp only [buildRunConfig, hurl, parse_targetURL h, Url.splitHostPort_colon hhead, hport, hscheme]

/-! ## Times and methods -/

theorem format_ne_nil (t : Time) : Rfc3339.format t ≠ [] := by
  simp [Rfc3339.format, Rfc3339.formatRest]

/-- A time flag gives back the time, if the time is expressible. -/
theorem parseTime_format (flag : String) (t : Option Time) :
    parseTime flag ((t.map Rfc3339.format).getD []) = .ok (t.getD 0)
      ↔ ∀ t' ∈ t, Expressible t' := by
  rcases t with _ | t
  · exact iff_of_true rfl fun _ h => nomatch h
  · simp only [Option.map_some, Option.getD_some, Option.mem_some_iff, forall_eq']
    rw [parseTime, if_neg (format_ne_nil t), Rfc3339.parse_format]
    by_cases hy : 0 ≤ Rfc3339.yearOf t ∧ Rfc3339.yearOf t ≤ 9999
    · rw [if_pos hy]
      simp only [Except.ok.injEq]
      exact ⟨fun h => ⟨sub_eq_self.mp h, hy⟩, fun h => sub_eq_self.mpr h.1⟩
    · rw [if_neg hy]
      exact iff_of_false nofun fun h => hy h.2

/-- **The read options of a worker** are those of the load test exactly for filters that
the command line can express. -/
theorem sameFilters_iff (cfg : Config) {filters : Option ReplayFilters}
    (hadm : ∀ f ∈ filters, FiltersAdmitted f)
    (hstart : cfg.startTime = ((filters.bind (·.startTime)).map Rfc3339.format).getD [])
    (hend : cfg.endTime = ((filters.bind (·.endTime)).map Rfc3339.format).getD [])
    (hpath : cfg.pathPrefix = (filters.bind (·.pathPrefix)).getD [])
    (hmethods : cfg.methods = (filters.bind fun f => methodsArg f.methods).getD [])
    (hlimit : cfg.limit = ((filters.bind (·.limit)).map Int64.toInt).getD 0) :
    (∃ opts, buildReadOptions cfg = .ok opts ∧ SameFilters filters opts)
      ↔ ∀ f ∈ filters, Portable f := by
  have hsplit : splitMethods cfg.methods = (filters.map (·.methods)).getD []
      ↔ ∀ f ∈ filters, ∀ m ∈ f.methods, PlainMethod m := by
    rcases filters with _ | f
    · rw [hmethods]
      exact iff_of_true rfl fun _ h => nomatch h
    · have hne : ∀ m ∈ f.methods, m ≠ [] :=
        fun m hm => ne_nil_of_textLength ((hadm f rfl).2.2.1 m hm).1
      have hjoin : cfg.methods = [44].intercalate f.methods := by
        rw [hmethods, Option.bind_some, methodsArg]
        split
        · rfl
        · rename_i hnil
          rw [not_not.mp hnil]
          rfl
      rw [hjoin]
      simp only [Option.map_some, Option.getD_some, Option.mem_some_iff, forall_eq']
      exact splitMethods_join hne
  have hs := parseTime_format "start-time" (filters.bind (·.startTime))
  have he := parseTime_format "end-time" (filters.bind (·.endTime))
  rw [← hstart] at hs
  rw [← hend] at he
  have hboth : (∀ f ∈ filters, Portable f) ↔
      (∀ f ∈ filters, ∀ m ∈ f.methods, PlainMethod m)
        ∧ (∀ t ∈ filters.bind (·.startTime), Expressible t)
        ∧ ∀ t ∈ filters.bind (·.endTime), Expressible t := by
    rcases filters with _ | f
    · simp
    · simp [Portable]
  rw [hboth, ← hsplit, ← hs, ← he]
  constructor
  · rintro ⟨opts, hopts, hsame⟩
    unfold buildReadOptions at hopts
    split at hopts
    · cases hopts
    · rename_i st hst
      split at hopts
      · cases hopts
      · rename_i et het
        cases hopts
        exact ⟨hsame.methods, hst.trans (congrArg _ hsame.startTime),
          het.trans (congrArg _ hsame.endTime)⟩
  · rintro ⟨hm, hst, het⟩
    refine ⟨_, by rw [buildReadOptions, hst, het], ?_⟩
    exact ⟨rfl, rfl, hpath, hm, hlimit⟩

/-! ## From the load test to the replay -/

/-- The target of a shard. -/
theorem target_shard (h : TargetAdmitted target) : let tr : ReplayTarget := ⟨target.host,
      if target.port.getD 0 ≠ 0 then some (target.port.getD 0) else none,
      if target.tls.getD false then some true else none⟩
    TargetAdmitted tr ∧ tr.tls.getD false = target.tls.getD false
      ∧ targetPort tr = target.port.getD (if target.tls.getD false then 443 else 80) := by
  intro tr
  have htls : tr.tls.getD false = target.tls.getD false := by
    simp only [tr]
    cases target.tls.getD false <;> rfl
  have hport : tr.port = target.port := by
    simp only [tr]
    rcases hp : target.port with _ | p
    · rfl
    · have hpos := Int32.le_iff_toInt_le.mp (h.2.2 p hp).1
      have hne : p ≠ 0 := by
        rintro rfl
        exact absurd hpos (by decide)
      rw [Option.getD_some, if_pos hne]
  refine ⟨⟨h.1, h.2.1, ?_⟩, htls, ?_⟩
  · rw [hport]
    exact h.2.2
  · rw [targetPort, hport, htls]

theorem getD_nonEmpty (s : Str) : (nonEmpty (if s ≠ [] then some s else none)).getD [] = s := by
  by_cases h : s = []
  · simp [h, nonEmpty]
  · rw [if_pos h, nonEmpty_some h, Option.getD_some]

/-- The limit of a shard. -/
theorem limit_shard {limit : Option Int64} (h : ∀ n ∈ limit, 0 ≤ n) :
    ((limitArg (if 0 < limit.getD 0 then some (limit.getD 0) else none)).map Int64.toInt).getD 0
      = (limit.map Int64.toInt).getD 0 := by
  rcases limit with _ | n
  · rfl
  · rw [Option.getD_some, Option.map_some, Option.getD_some]
    split
    · rename_i hpos
      rw [limitArg, Option.filter_some_pos (by simpa using hpos)]
      rfl
    · rename_i hneg
      have h0 := Int64.le_iff_toInt_le.mp (h n rfl)
      have hn := mt Int64.lt_iff_toInt_lt.mpr hneg
      rw [Int64.toInt_zero] at h0 hn
      exact le_antisymm h0 (not_lt.mp hn)

/-- The settings of a worker whose read options are known. -/
theorem settingsOf_worker (cfg : Config) (rate : Option RateSpec) (h : TargetAdmitted target)
    (hurl : cfg.targetURL = targetURL target) (hmode : cfg.rateMode = rateModeArg rate) :
    settingsOf cfg = (buildReadOptions cfg).map fun opts =>
      { run := {
          target := ⟨target.host, (targetPort target).toInt, target.tls.getD false⟩
          concurrency := cfg.concurrency
          rateMode := rate.elim .originalTiming RateSpec.mode
          requestsPerSecond := cfg.ratePerSecond
          timeScale := cfg.timeScale
          shardIndex := cfg.shardIndex
          shardCount := cfg.shardCount
          engineConfigJson := cfg.engineConfig }
        engine := cfg.engine
        rateMode := rate.elim .originalTiming RateSpec.mode
        opts := opts } := by
  have hparse : parseRateMode (rateModeArg rate) = .ok (rate.elim .originalTiming RateSpec.mode)
      ∧ canonicalRateMode (rateModeArg rate) = rate.elim .originalTiming RateSpec.mode := by
    unfold rateModeArg
    cases rate.elim .originalTiming RateSpec.mode <;> exact ⟨by rfl, by decide⟩
  rw [settingsOf, buildRunConfig_target h hurl]
  simp only [hmode, hparse.1, hparse.2]
  cases buildReadOptions cfg <;> rfl

theorem splitRate_pos {rps : Int32} (h : 1 ≤ rps) (total shard : Int32) :
    0 < splitRate rps total shard := by
  have hone : (0 : Int32) < 1 := by decide
  have hclamp : ∀ base : Int32, 0 < if base < 1 then 1 else base := by
    intro base
    split
    · exact hone
    · rename_i hge
      exact Int32.lt_of_lt_of_le hone (Int32.not_lt.mp hge)
  unfold splitRate
  split
  · exact Int32.lt_of_lt_of_le hone h
  · exact hclamp _

/-- The rate of a shard. -/
theorem rate_shard {rate : Option RateSpec} (h : ∀ r ∈ rate, RateAdmitted r) (total shard : Int32) :
    let r := rateFromDirective (startRate rate total shard)
    r.mode = rate.elim .originalTiming RateSpec.mode
      ∧ (timeScaleArg (some r)).getD (lit "1") = (rate.bind (·.timeScale)).getD (lit "1")
      ∧ ∀ r' ∈ rate, r'.mode = .constant → ∀ rps ∈ r'.requestsPerSecond,
          ratePerSecondArg (some r) = some (splitRate rps total shard) := by
  rcases rate with _ | ⟨mode, rps, scale⟩
  · exact ⟨rfl, rfl, fun _ h => nomatch h⟩
  obtain ⟨-, hscale, hpos, hpattern⟩ := h _ rfl
  refine ⟨rfl, ?_, ?_⟩
  · by_cases hmode : mode = .originalTiming
    · subst hmode
      rcases scale with _ | scale
      · rfl
      · have hne := scalePattern_ne_nil (hpattern scale rfl)
        simp [timeScaleArg, rateFromDirective, startRate, hne, nonEmpty_some]
    · obtain rfl : scale = none := hscale hmode
      simp [timeScaleArg, rateFromDirective, startRate, hmode]
  · rintro r' hr' hmode n hn
    cases hr'
    cases hn
    obtain rfl : mode = .constant := hmode
    have := splitRate_pos (hpos n rfl) total shard
    simp [ratePerSecondArg, rateFromDirective, startRate, this]

/-- The engine of a shard. Without a name there is nothing to choose. -/
theorem engine_shard {engine : Option ReplayEngineSpec} (h : ∀ e ∈ engine, EngineAdmitted e) :
    let e := engineArg (engineFromDirective ((engine.map (·.name)).getD [])
      ((engine.bind (·.config)).getD []))
    (e.map (·.name)).getD (lit "builtin") = (engine.map (·.name)).getD (lit "builtin")
      ∧ ((engine.map (·.name)).getD (lit "builtin") ≠ lit "builtin" →
        (e.bind fun e => nonEmpty e.config).getD [] = (engine.bind (·.config)).getD []) := by
  rcases engine with _ | ⟨name, config⟩
  · exact ⟨rfl, fun hne => absurd rfl hne⟩
  have hname : name ≠ [] := by
    rintro rfl
    have hnil : enginePattern [] = false := by decide
    have hpattern := (h _ rfl).1
    rw [hnil] at hpattern
    cases hpattern
  simp only [Option.map_some, Option.bind_some, Option.getD_some, engineFromDirective, hname,
    ne_eq, not_false_eq_true, true_or, if_true, engineArg]
  by_cases hb : name = lit "builtin"
  · rw [Option.filter_some_neg (by simp [hb])]
    exact ⟨hb.symm, fun hne => absurd hb hne⟩
  · rw [Option.filter_some_pos (by simp [hb, hname])]
    exact ⟨rfl, fun _ => getD_nonEmpty _⟩

theorem one_le_concurrency {d : Option LoadTestDistribution}
    (h : ∀ d' ∈ d, DistributionAdmitted d') :
    1 ≤ (d.bind (·.concurrencyPerWorker)).getD defaultConcurrencyPerWorker := by
  rcases d with _ | d
  · decide
  · rw [Option.bind_some]
    rcases hc : d.concurrencyPerWorker with _ | c
    · decide
    · exact (h d rfl).2.2.2.2 c hc

/-- The concurrency of a shard. -/
theorem concurrency_shard {c : Int32} (h : 1 ≤ c) :
    ((if 0 < c then some c else none).map Int32.toInt).getD 10 = c.toInt := by
  have hpos : 0 < c := Int32.lt_of_lt_of_le (by decide) h
  rw [if_pos hpos]
  rfl

/-- **The settings of every worker agree with its load test exactly for filters that a
command line can express.** -/
theorem translation_lossless_iff (lt : CaptureLoadTest) (shard : Int32) (storage : CaptureStorage)
    {args : List Str} (hadm : Admitted lt.spec)
    (hargs : buildReplayArgs (shardReplay lt shard) storage
      = .ok args) :
    (∃ s, settings args = .ok s ∧ Agrees lt shard s) ↔ ∀ f ∈ lt.spec.filters, Portable f := by
  obtain ⟨type, bucket, region, pre, mountPath, hparse⟩ := parseFlags_buildReplayArgs hargs
  obtain ⟨tr, htr⟩ : ∃ tr, tr = shardReplay lt shard := ⟨_, rfl⟩
  rw [← htr] at hparse
  obtain ⟨cfg, hcfg⟩ : ∃ cfg, cfg = workerConfig tr type bucket region pre mountPath := ⟨_, rfl⟩
  rw [← hcfg] at hparse
  obtain ⟨htarget, htls, hport⟩ := target_shard hadm.target
  obtain ⟨hmode, hscale, hrate⟩ := rate_shard hadm.rate lt.status.totalShards shard
  have hsettings := settingsOf_worker cfg tr.spec.rate htarget
    (by rw [hcfg, htr]; rfl) (by rw [hcfg]; rfl)
  -- what the filters of the load test have become
  have hfilters : tr.spec.filters = lt.spec.filters.map fun f =>
      filtersFromDirective (startFilters f) := by
    rw [htr]
    exact Option.map_map ..
  have hsame := sameFilters_iff cfg hadm.filters
    (by rw [hcfg, workerConfig, hfilters]; cases lt.spec.filters <;> rfl)
    (by rw [hcfg, workerConfig, hfilters]; cases lt.spec.filters <;> rfl)
    (by
      rw [hcfg, workerConfig, hfilters]
      rcases lt.spec.filters with _ | f
      · rfl
      · exact getD_nonEmpty (f.pathPrefix.getD []))
    (by rw [hcfg, workerConfig, hfilters]; cases lt.spec.filters <;> rfl)
    (by
      rw [hcfg, workerConfig, hfilters]
      rcases hf : lt.spec.filters with _ | f
      · rfl
      · exact limit_shard (hadm.filters f hf).2.2.2)
  rw [← hsame, settings, hparse]
  simp only [hsettings]
  constructor
  · rintro ⟨s, hs, hagree⟩
    rcases hopts : buildReadOptions cfg with err | opts
    · rw [hopts] at hs
      cases hs
    · rw [hopts] at hs
      cases hs
      exact ⟨opts, rfl, hagree.filters⟩
  · rintro ⟨opts, hopts, hsame'⟩
    refine ⟨_, by rw [hopts]; rfl, ?_⟩
    have hr : tr.spec.rate = some (rateFromDirective
        (startRate lt.spec.rate lt.status.totalShards shard)) := by rw [htr]; rfl
    have hshard : presharded tr.spec = (lt.spec.distribution.bind (·.presharded)).getD false := by
      rw [htr]
      show ((if _ then some true else none : Option Bool)).getD false = _
      cases (lt.spec.distribution.bind (·.presharded)).getD false <;> rfl
    have hengine := engine_shard hadm.engine
    exact {
      target := by simp only [hport, htls]
      mode := by
        rw [hr]
        exact ⟨hmode, hmode⟩
      timeScale := by
        rw [hcfg, workerConfig, hr]
        exact hscale
      rate := by
        intro r hmem hconst rps hrps
        rw [hcfg, workerConfig, hr]
        simp only [hrate r hmem hconst rps hrps]
        rfl
      concurrency := by
        rw [hcfg, workerConfig, htr]
        exact concurrency_shard (one_le_concurrency hadm.distribution)
      shard := by
        intro hno
        rw [← hshard] at hno
        rw [hcfg, workerConfig, shardArg, hno]
        rw [htr]
        exact ⟨rfl, rfl⟩
      engine := by
        rw [hcfg, workerConfig, htr]
        exact hengine.1
      config := by
        intro hne
        rw [hcfg, workerConfig, htr] at hne ⊢
        exact hengine.2 (fun heq => hne (hengine.1.trans heq))
      filters := hsame' }

/-- A load test of one shard that replays the requests with some methods, from the first
second of 2026 on. -/
def methodTest (methods : List Str) : CaptureLoadTest where
  key := ⟨lit "prod", lit "peak"⟩
  uid := 1
  resourceVersion := 1
  deleting := false
  finalizer := true
  spec := {
    sourceRef := lit "checkout"
    storageRef := lit "captures"
    target := ⟨lit "staging.internal", some 8443, some true⟩
    rate := some ⟨.constant, some 500, none⟩
    filters := some ⟨some (739616 * 86400 * Rfc3339.second), none, some (lit "/api"), methods, none⟩
    distribution := none
    abort := none
    engine := some ⟨lit "k6", some (lit "[]")⟩
    safety := none }
  status := { CaptureLoadTestStatus.empty with
    phase := .distributing
    totalShards := 1
    assignedSpokes := 1
    assignments := [⟨lit "spoke-a", lit "eu", [0]⟩] }

def bucketStorage : CaptureStorage :=
  ⟨lit "captures", .s3, some ⟨lit "kapture-data", lit "eu-west-1", none⟩, none, none, none, none⟩

/-- The arguments of the only shard. -/
def methodArgs (methods : List Str) : List Str :=
  (buildReplayArgs (shardReplay (methodTest methods) 0) bucketStorage).toOption.getD []

theorem plain_method_agrees :
    ∃ s, settings (methodArgs [lit "GET"]) = .ok s ∧ Agrees (methodTest [lit "GET"]) 0 s :=
  (translation_lossless_iff (methodTest [lit "GET"]) 0 bucketStorage (by decide +kernel)
    (by decide +kernel)).mpr (by decide +kernel)

/-- Two methods in one element: the schema admits it, and the worker reads two. -/
theorem comma_splits_method :
    Admitted (methodTest [lit "GET,HEAD"]).spec
      ∧ buildReplayArgs (shardReplay (methodTest [lit "GET,HEAD"]) 0) bucketStorage
        = .ok (methodArgs [lit "GET,HEAD"])
      ∧ ∃ s, settings (methodArgs [lit "GET,HEAD"]) = .ok s
        ∧ s.opts.methods = [lit "GET", lit "HEAD"]
        ∧ ¬ Agrees (methodTest [lit "GET,HEAD"]) 0 s := by
  refine ⟨by decide +kernel, by decide +kernel, ?_⟩
  have hmethods : (settings (methodArgs [lit "GET,HEAD"])).map (·.opts.methods)
      = .ok [lit "GET", lit "HEAD"] := by decide +kernel
  rcases hs : settings (methodArgs [lit "GET,HEAD"]) with err | s
  · rw [hs] at hmethods
    cases hmethods
  · rw [hs] at hmethods
    have hm : s.opts.methods = [lit "GET", lit "HEAD"] := Except.ok.inj hmethods
    refine ⟨s, rfl, hm, fun hagree => ?_⟩
    have := hm.symm.trans hagree.filters.methods
    exact absurd this (by decide)

end Kapture.Spoke
