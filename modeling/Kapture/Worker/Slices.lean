import Kapture.Worker.Filtered

/-!
# Workers on slices

A worker can take its shard from a slice or filter the whole capture by hash. The two
send the same requests when nobody sets a filter and the shard owns something. They
part in three places. The limit counts the requests of the shard in one and those of
the capture in the other. The keys of a slice carry the date of the run that wrote it,
so a time filter prunes a slice by that date and the capture by its own. And a shard
that owns nothing is an empty dataset in one, which is an error, and a capture of
which everything was skipped in the other.
-/

namespace Kapture.Worker

open Go Path Storage Replay Dataset Pick

variable {env : Env} {J : Codec} {M : ManifestCodec} {renv : ReadEnv} {b : Backend} {s : Store}
  {captureID : Str} {n index : Int64} {i : Nat} {result : PreshardResult} {w' : World}
  {opts : ReadOptions} {listed : Bool}

/-! ## What a run of the command left -/

/-- A successful run, as the workers meet it. -/
structure Split (env : Env) (J : Codec) (M : ManifestCodec) (b : Backend) (captureID : Str)
    (n : Int64) (s : Store) (w' : World) : Prop where
  id : captureID ≠ []
  readable : Readable b captureID s
  dir : b.kind = .filesystem → dirExists s (basePath b.root captureID) = true
  fresh : ∃ run p w₁, FreshRun env J M b captureID n run p s w₁ w'
    ∧ run.reqs = captured J b captureID s
  /-- Every slice has a manifest that counts it. -/
  manifest : ∀ i, i < sliceCount n → ∃ bytes m,
    w'.store.get (b.manifestName (sliceID captureID n i)) = some (.raw bytes)
      ∧ parseManifest M bytes = .ok m
      ∧ m.recordCount = (slicePart n (captured J b captureID s) i).length
  /-- Only slices and their manifests are new. -/
  publishes : Publishes (commandFactory b) captureID n (startWorld s) w'

theorem split_of_ok (hok : runCommand env J M renv b captureID n s = (.ok result, w'))
    (hc : RunCond J b captureID n env renv s) : Split env J M b captureID n s w' := by
  rcases runCommand_cases hok (Or.inr (Or.inr hc.fresh)) with
    ⟨_, herr, _⟩ | ⟨_, hid, hopen, p, w₁, hfin, r, hput, hres⟩
  · cases herr
  have hff := firstFailure_of_end hc.noFalseEnd hfin.ended
  have hreqs := reqs_eq_captured (J := J) hff
  refine ⟨hid, readable_of_no_failure hff, dirExists_of_open hopen, ⟨_, p, w₁, ?_, hreqs⟩, ?_,
    hfin.publishes hput⟩
  · exact ⟨hid, hc.fresh, hc.nested, hfin, ⟨r, hput⟩, fun _ hreq => decoded_of_mem_drain hreq⟩
  · intro i hi
    have hr : r = .ok () := by
      cases r with
      | error err => cases hres
      | ok u => rfl
    have hman := manifests_putManifests (fun i hi => List.mem_range.mp hi) hput
    obtain ⟨j, hj, hkey, bytes, hm, hget⟩ := hman.stored hr i (List.mem_range.mpr hi)
    obtain rfl : i = j := manifestName_inj hid hkey
    obtain ⟨m, hdec⟩ := M.decodes _ _ hm
    obtain ⟨hcount, hversion⟩ := M.recordCount _ _ _ hm hdec
    have hlen : m.recordCount = (slicePart n (captured J b captureID s) i).length := by
      rw [hcount, ← hreqs]
      simp only [sliceManifest, List.getD_eq_getElem?_getD, hfin.inv.counts i hi, Option.getD_some]
    have hvalid : m.validate = .ok () := by
      have hv : m.formatVersion = 1 := hversion
      simp only [Manifest.validate, hv, manifestFormatVersion, hlen]
      rw [if_neg (by decide), if_neg (by decide), if_neg (by omega)]
    exact ⟨bytes, m, hget, by simp only [parseManifest, hdec, hvalid], hlen⟩

/-! ## Reading a slice with filters -/

/-- The objects of the run's slice lie all on one side of the time filter. -/
def OneSide (env : Env) (b : Backend) (captureID : Str) (n : Int64) (i : Nat) (opts : ReadOptions)
    (listed : Bool) : Prop :=
  ∀ k seq, visible opts (dataKey b captureID n i (env.now k) seq) = listed

/-- The slice of a shard, in terms of the capture. -/
theorem slicePart_captured (hi : InShards n index) :
    slicePart n (captured J b captureID s) index.toNatClampNeg
      = ((marked J b captureID s).filter fun x => shardOwns x.2.id index n).map Prod.snd := by
  have howns : ∀ req : CapturedRequest,
      decide (sliceOf n req = index.toNatClampNeg) = shardOwns req.id index n := by
    intro req
    have h1 : (1 : Int64) ≤ n := by
      have := Int64.lt_of_le_of_lt hi.1 hi.2
      rw [Int64.lt_iff_toInt_lt] at this
      rw [Int64.le_iff_toInt_le]
      simp at this ⊢
      omega
    have h0 := Int64.le_iff_toInt_le.mp hi.1
    have hr := Int64.le_iff_toInt_le.mp (shardIndexOf_inShards req.id h1).1
    rw [Bool.eq_iff_iff, decide_eq_true_iff, shardOwns_iff req.id hi, ← Int64.toInt_inj]
    simp only [sliceOf, Int64.toNatClampNeg, Int64.toInt_zero] at h0 hr ⊢
    omega
  rw [← map_snd_marked, slicePart, List.filter_map]
  simp only [Function.comp_def, howns]

/-- **What a reader finds in a slice**: all of it or nothing, then the filters. -/
theorem Split.readCapture (h : Split env J M b captureID n s w')
    (ho : InOrder env J (captured J b captureID s)) (hi : i < sliceCount n)
    (hv : OneSide env b captureID n i opts listed) :
    ∃ run, readCapture J b w'.store none (fun _ => .none)
          { opts with captureID := sliceID captureID n i } = .ok run
      ∧ run.reqs = takeLimit opts (matching opts
          (if listed then slicePart n (captured J b captureID s) i else []))
      ∧ run.last = errReaderDone := by
  obtain ⟨run, p, w₁, hrun, hreqs⟩ := h.fresh
  obtain ⟨hread, hnone⟩ := hrun.slice_reads (hreqs ▸ ho) hi
  obtain ⟨bytes, _, hget, _⟩ := h.manifest i hi
  obtain ⟨read, hopen, hr, hlast⟩ := readCapture_of_readable (J := J)
    (show ({ opts with captureID := sliceID captureID n i } : ReadOptions).captureID = _ from rfl)
    hnone (dirExists_of_manifest h.id (by rw [hget]; rfl))
  have hvis : ∀ k ∈ listing b w'.store (.all (sliceID captureID n i)),
      visible { opts with captureID := sliceID captureID n i } k = listed := by
    intro k hk
    obtain ⟨uploads, hup, _⟩ := hrun.finished.holds i hi
    rw [hrun.mem_slice_listing hi hup] at hk
    obtain ⟨j, hj⟩ := List.mem_iff_getElem?.mp hk
    rw [uploadKeys, List.getElem?_mapIdx, Option.map_eq_some_iff] at hj
    obtain ⟨u, _, rfl⟩ := hj
    exact hv _ _
  refine ⟨read, hopen, ?_, hlast⟩
  rw [hr, wholeCapture, listing_eq_filter]
  cases listed with
  | true =>
      rw [List.filter_eq_self.mpr hvis, hread, hreqs]
      rfl
  | false =>
      rw [List.filter_eq_nil_iff.mpr fun k hk => by simp [hvis k hk]]
      rfl

/-- What the worker on the slice sends. -/
theorem slice_requests (hi : InShards n index) :
    takeLimit opts (matching opts
        (if listed then slicePart n (captured J b captureID s) index.toNatClampNeg else []))
      = (pick (sliceKeeps opts listed index n) [] (marked J b captureID s)).map Prod.snd := by
  cases listed with
  | false =>
      have hnone : pick (sliceKeeps opts false index n) [] (marked J b captureID s)
          = (marked J b captureID s).filter fun _ => false := by
        rw [filter_eq_pick []]
        rfl
      rw [hnone]
      simp [matching, takeLimit]
  | true =>
      rw [if_pos rfl, slicePart_captured hi, matching_map, List.filter_filter]
      have hmine : (fun x : Str × CapturedRequest =>
          matchesReadOptions x.2 opts && shardOwns x.2.id index n) = mine opts index n := by
        funext x
        rw [mine, Bool.and_comm]
      rw [hmine, takeLimit_filter]
      refine congrArg _ (pick_congr [] _ fun j hj => ?_)
      rw [sliceKeeps, Bool.true_and]

/-! ## The manifest of a slice -/

/-- The key under which the bucket readers look for the manifest of a slice is none
that a run writes: it has two slashes in a row. -/
theorem not_slice_of_loadManifest (hid : captureID ≠ []) (pre : Str) {k : Str}
    (hk : k = pre ++ [Str.slash, Str.slash] ++ manifestObjectName) :
    ¬ (IsSliceData (commandFactory b) captureID n k
      ∨ IsSliceManifest (commandFactory b) captureID n k) := by
  rintro (h | h)
  · obtain ⟨i, _, ts, seq, hdata⟩ := isSliceData_key hid h
    have hsuf : (dataKey b captureID n i ts seq).hasSuffix dataSuffix = true :=
      hasSuffix_dataKey ts seq
    rw [← hdata, hk, Str.hasSuffix_iff] at hsuf
    obtain ⟨t, ht⟩ := hsuf
    have hlast := congrArg List.getLast? ht
    simp [dataSuffix, manifestObjectName, lit] at hlast
  · obtain ⟨i, _, hman⟩ := isSliceManifest_key hid h
    rw [sliceKey_eq (by simp), hk] at hman
    have hcut : pre ++ [Str.slash] ++ [Str.slash] ++ manifestObjectName
        = (dirPrefix (capturePath b captureID) ++ lit "shards" ++ Str.slash :: sliceDir n i)
          ++ [Str.slash] ++ manifestObjectName := by
      simpa [Str.join] using hman
    rw [List.append_cancel_right_eq, List.append_cancel_right_eq] at hcut
    -- the directory of a slice does not end in a slash
    obtain ⟨hne, _, _, hslash⟩ := normal_sliceDir (n := n) i
    have hlast := congrArg List.getLast? hcut
    rw [List.getLast?_concat, List.getLast?_append, List.getLast?_cons,
      List.getLast?_eq_some_getLast hne] at hlast
    simp only [Option.getD_some, Option.some_or, Option.some.injEq] at hlast
    exact hslash (hlast ▸ List.getLast_mem hne)

/-- **The preflight of a worker on a slice** fails exactly on an empty slice, where it
finds the manifest at all. -/
theorem Split.preflight (h : Split env J M b captureID n s w') (hi : i < sliceCount n)
    (hbare : b.kind ≠ .filesystem → loadManifest b s (sliceID captureID n i) = none) {cfg : Config}
    (hid : cfg.captureID = sliceID captureID n i) (hempty : cfg.failOnEmpty = true) :
    manifestPreflight M b w'.store cfg = none
      ∨ (manifestPreflight M b w'.store cfg).isSome
        ∧ slicePart n (captured J b captureID s) i = [] := by
  by_cases hk : b.kind = .filesystem
  · obtain ⟨bytes, m, hget, hparse, hcount⟩ := h.manifest i hi
    have hload : loadManifest b w'.store cfg.captureID = some (.raw bytes) := by
      rw [hid, ← hget]
      simp [loadManifest, Backend.manifestName, hk]
    simp only [manifestPreflight, hload, parseObject, hparse, hempty, Bool.true_and]
    split
    · rename_i hzero
      rw [beq_iff_eq, hcount] at hzero
      exact Or.inr ⟨rfl, List.length_eq_zero_iff.mp (by omega)⟩
    · exact Or.inl rfl
  · refine Or.inl ?_
    have hload : loadManifest b w'.store cfg.captureID = none := by
      rw [← hbare hk, hid]
      have hkey : ∀ t : Store, loadManifest b t (sliceID captureID n i)
          = t.get (buildObjectPrefix b.root (sliceID captureID n i) ++ [Str.slash]
            ++ manifestObjectName) := by
        intro t
        unfold loadManifest
        split
        · contradiction
        · rfl
      rw [hkey, hkey]
      refine h.publishes.frame _ (not_slice_of_loadManifest h.id
        (capturePath b (sliceID captureID n i)) ?_)
      have hne : sliceID captureID n i ≠ [] := by simp [sliceID, shardSliceCaptureID, h.id]
      rw [buildObjectPrefix_eq hne hk]
      simp
    simp [manifestPreflight, hload]

/-! ## The two outcomes -/

variable {cfg : Config} {report : RunReport}

/-- The worker that filters the whole capture. -/
theorem Split.hash_outcome (h : Split env J M b captureID n s w') (hid : cfg.captureID = captureID)
    (hopts : buildReadOptions cfg = .ok opts) (hcap : opts.captureID = captureID)
    (hsh : InShards cfg.shardCount cfg.shardIndex) (hempty : cfg.failOnEmpty = true)
    (hpre : manifestPreflight M b s cfg = none) :
    (run J M report b s cfg).sent
        = (pick (hashKeeps opts cfg.shardIndex cfg.shardCount) [] (marked J b captureID s)).map
          Prod.snd
      ∧ ((run J M report b s cfg).err = none
        ↔ ∃ x ∈ marked J b captureID s, seen opts x = true) := by
  obtain ⟨read, hopen, hreqs, hlast⟩ := readCapture_of_readable (J := J) hcap h.readable h.dir
  obtain ⟨hsent, herr⟩ := streams_stream hopts hopen hlast hsh
  have hrun : run J M report b s cfg
      = stream report cfg (Replay.readCapture J b s none fun _ => .none) := by
    simp only [run, hpre, hid, if_neg h.id]
  rw [hrun, hsent, herr, hreqs, hash_requests _ _ hcap, ← wholeCapture_ne_nil_iff hcap, hempty]
  simp

/-- The worker on the slice. -/
theorem Split.slice_outcome (h : Split env J M b captureID n s w')
    (ho : InOrder env J (captured J b captureID s)) (hi : InShards n index)
    (hin : index.toNatClampNeg < sliceCount n)
    (hv : OneSide env b captureID n index.toNatClampNeg opts listed)
    (hbare : b.kind ≠ .filesystem →
      loadManifest b s (sliceID captureID n index.toNatClampNeg) = none)
    (hid : cfg.captureID = sliceID captureID n index.toNatClampNeg)
    (hopts : buildReadOptions cfg
      = .ok { opts with captureID := sliceID captureID n index.toNatClampNeg })
    (hindex : cfg.shardIndex = 0) (hcount : cfg.shardCount = 1) (hempty : cfg.failOnEmpty = true) :
    (run J M report b w'.store cfg).sent
        = (pick (sliceKeeps opts listed index n) [] (marked J b captureID s)).map Prod.snd
      ∧ ((run J M report b w'.store cfg).err = none
        ↔ listed = true ∧ ∃ x ∈ marked J b captureID s, mine opts index n x = true) := by
  have hne : cfg.captureID ≠ [] := by simp [hid, sliceID, shardSliceCaptureID, h.id]
  -- nothing is sent exactly when there is nothing to send
  have hmine : takeLimit opts (matching opts (if listed then
        slicePart n (captured J b captureID s) index.toNatClampNeg else [])) ≠ []
      ↔ listed = true ∧ ∃ x ∈ marked J b captureID s, mine opts index n x = true := by
    rw [ne_eq, takeLimit_eq_nil_iff]
    cases listed with
    | false => simp [matching]
    | true =>
        rw [if_pos rfl, slicePart_captured hi, matching_map, List.map_eq_nil_iff,
          List.filter_filter, List.filter_eq_nil_iff]
        simp [mine, and_comm]
  rcases h.preflight hin hbare hid hempty with hpre | ⟨hpre, hnil⟩
  · obtain ⟨read, hopen, hreqs, hlast⟩ := h.readCapture ho hin hv
    have hsh : InShards cfg.shardCount cfg.shardIndex := by
      rw [hindex, hcount]
      decide
    obtain ⟨hsent, herr⟩ := streams_stream hopts hopen hlast hsh
    have hrun : run J M report b w'.store cfg
        = stream report cfg (Replay.readCapture J b w'.store none fun _ => .none) := by
      simp only [run, hpre, if_neg hne]
    have hall : ∀ req : CapturedRequest, shardOwns req.id 0 1 = true := fun req => rfl
    rw [hrun, hsent, herr, hempty, hindex, hcount, hreqs, ← slice_requests hi, ← hmine]
    simp [hall]
  · obtain ⟨err, herr⟩ := Option.isSome_iff_exists.mp hpre
    have hrun : run J M report b w'.store cfg = ⟨[], some err⟩ := by
      simp only [run, herr, if_neg hne]
    rw [hrun, ← slice_requests hi, ← hmine, hnil]
    simp [matching, takeLimit]

/-! ## The comparison -/

/-- Two workers come to the same: they send the same requests in the same order, and
both succeed or both fail. -/
def SameReplay (o o' : Outcome) : Prop := o.sent = o'.sent ∧ (o.err = none ↔ o'.err = none)

/-- Where the two selections agree. -/
structure FiltersAgree (J : Codec) (M : ManifestCodec) (b : Backend) (s : Store) (cfg : Config)
    (opts : ReadOptions) (listed : Bool) (index count : Int64) : Prop where
  /-- Each request of the capture is kept by both or by none, unless a manifest of the
  capture itself stops the worker that reads it. -/
  requests : manifestPreflight M b s cfg = none →
    Agree (hashKeeps opts index count) (sliceKeeps opts listed index count)
      (marked J b cfg.captureID s)
  /-- The capture has requests that match if and only if the slice does. -/
  nonempty : (manifestPreflight M b s cfg = none
      ∧ ∃ x ∈ marked J b cfg.captureID s, seen opts x = true)
    ↔ listed = true ∧ ∃ x ∈ marked J b cfg.captureID s, mine opts index count x = true

/-- The configuration of the worker that reads the whole capture. -/
def hashConfig (tr : TrafficReplay) (index count : Int32) : Config :=
  parseFlags (buildReplayArgs (tr.hashed index count))

theorem inShards_of_int32 {index count : Int32} (h0 : 0 ≤ index) (hlt : index < count) :
    InShards count.toInt64 index.toInt64
      ∧ index.toInt64.toNatClampNeg < sliceCount count.toInt64 := by
  have h0' := Int32.le_iff_toInt_le.mp h0
  have hlt' := Int32.lt_iff_toInt_lt.mp hlt
  rw [Int32.toInt_zero] at h0'
  refine ⟨⟨Int64.le_iff_toInt_le.mpr ?_, Int64.lt_iff_toInt_lt.mpr ?_⟩, ?_⟩
  · simpa using h0'
  · simpa using hlt'
  · simp only [sliceCount, Int64.toNatClampNeg, Int32.toInt_toInt64]
    omega

/-- The text of the slice is the one the command gave it. -/
theorem captureArg_sliced (tr : TrafficReplay) {index count : Int32} (h0 : 0 ≤ index)
    (hlt : index < count) :
    captureArg (tr.sliced index count)
      = sliceID (sourceCapture tr) count.toInt64 index.toInt64.toNatClampNeg := by
  have h0' := Int32.le_iff_toInt_le.mp h0
  have hlt' := Int32.lt_iff_toInt_lt.mp hlt
  rw [Int32.toInt_zero] at h0'
  have hformat : ∀ v : Int32, 0 ≤ v.toInt → formatInt v = decimal v.toInt64.toNatClampNeg := by
    intro v hv
    have hneg : ¬ v < 0 := by
      rw [Int32.lt_iff_toInt_lt, Int32.toInt_zero]
      omega
    rw [formatInt, if_neg hneg]
    simp only [Int64.toNatClampNeg, Int32.toInt_toInt64]
    congr 1
    omega
  have hcap : captureArg (tr.sliced index count) = sourceCapture tr ++ lit "/shards/"
      ++ formatInt index ++ lit "-of-" ++ formatInt count := rfl
  rw [hcap, hformat _ h0', hformat _ (by omega)]
  rfl

theorem run_of_bad_options {err : Error} (h : buildReadOptions cfg = .error err) :
    (run J M report b s cfg).sent = [] ∧ (run J M report b s cfg).err ≠ none := by
  unfold run
  split
  · exact ⟨rfl, nofun⟩
  · split
    · exact ⟨rfl, nofun⟩
    · unfold stream
      split
      · simp [runExternalEngine, h]
      · simp [runDirectReplay, h]

/-- The comparison, for the two configurations. -/
theorem Split.compare (h : Split env J M b captureID n s w') {cfg' : Config}
    (hid : cfg.captureID = captureID) (hopts : buildReadOptions cfg = .ok opts)
    (hcap : opts.captureID = captureID) (hsh : InShards cfg.shardCount cfg.shardIndex)
    (hempty : cfg.failOnEmpty = true) (hslice : (run J M report b w'.store cfg').sent
        = (pick (sliceKeeps opts listed cfg.shardIndex cfg.shardCount) []
            (marked J b captureID s)).map Prod.snd
      ∧ ((run J M report b w'.store cfg').err = none ↔ listed = true
        ∧ ∃ x ∈ marked J b captureID s, mine opts cfg.shardIndex cfg.shardCount x = true)) :
    (FiltersAgree J M b s cfg opts listed cfg.shardIndex cfg.shardCount →
        SameReplay (run J M report b w'.store cfg') (run J M report b s cfg))
      ∧ ((captured J b captureID s).Nodup →
        SameReplay (run J M report b w'.store cfg') (run J M report b s cfg) →
        FiltersAgree J M b s cfg opts listed cfg.shardIndex cfg.shardCount) := by
  obtain ⟨hsent, herr⟩ := hslice
  cases hpre : manifestPreflight M b s cfg with
  | some err =>
      -- the worker stops at the manifest of the capture: the slice must have nothing to send
      have hrun : run J M report b s cfg = ⟨[], some err⟩ := by
        simp only [run, hpre, hid, if_neg h.id]
      rw [hrun]
      constructor
      · intro hf
        have hnone : ¬ (listed = true ∧ ∃ x ∈ marked J b captureID s,
            mine opts cfg.shardIndex cfg.shardCount x = true) := by
          rw [← hid, ← hf.nonempty, hpre]
          exact fun hp => nomatch hp.1
        refine ⟨?_, iff_of_false (mt herr.mp hnone) nofun⟩
        rw [hsent, List.map_eq_nil_iff, List.eq_nil_iff_forall_not_mem]
        intro x hx
        obtain ⟨j, hj, rfl, hk⟩ := (mem_pick [] _).mp hx
        simp only [sliceKeeps, Bool.and_eq_true] at hk
        exact hnone ⟨hk.1, _, List.getElem_mem hj, hk.2.1⟩
      · rintro _ ⟨_, he⟩
        have hnone := mt herr.mpr (mt he.mp nofun)
        refine ⟨fun hp => (nomatch hpre.symm.trans hp), ?_⟩
        rw [hid, hpre]
        exact iff_of_false (fun hp => nomatch hp.1) hnone
  | none =>
      obtain ⟨hsent', herr'⟩ := h.hash_outcome hid hopts hcap hsh hempty hpre
      constructor
      · intro hf
        refine ⟨?_, ?_⟩
        · rw [hsent, hsent', ← hid, (hf.requests hpre).pick_eq]
        · rw [herr, herr', ← hid, ← hf.nonempty]
          simp [hpre]
      · rintro hnodup ⟨hs, he⟩
        rw [hsent, hsent'] at hs
        rw [herr, herr'] at he
        rw [← map_snd_marked] at hnodup
        refine ⟨fun _ => ?_, ?_⟩
        · rw [hid]
          exact agree_of_pick_eq hnodup hs.symm
        · rw [hid, he]
          simp [hpre]

/--
**A worker on a slice and a worker with the hash filter**, for the same replay over the
output of a run on a fresh layout and over the capture it read: where the filters agree
they send the same requests and come to the same end, and for a capture of distinct
requests only there. If the times of the filter do not parse, both fail.
-/
theorem sliced_replays_as_hashed (env : Env) (J : Codec) (M : ManifestCodec) (renv : ReadEnv)
    (report : RunReport) (b : Backend) (s : Store) (tr : TrafficReplay) (index count : Int32)
    (result : PreshardResult) (w' : World) (h0 : 0 ≤ index) (hlt : index < count)
    (hok : runCommand env J M renv b (sourceCapture tr) count.toInt64 s = (.ok result, w'))
    (hc : RunCond J b (sourceCapture tr) count.toInt64 env renv s)
    (hbare : b.kind ≠ .filesystem →
      loadManifest b s (captureArg (tr.sliced index count)) = none) :
    match buildReadOptions (hashConfig tr index count) with
    | .error _ =>
        SameReplay (worker J M report b w'.store (tr.sliced index count))
          (worker J M report b s (tr.hashed index count))
    | .ok opts =>
        ∀ listed, OneSide env b (sourceCapture tr) count.toInt64 index.toInt64.toNatClampNeg opts
            listed →
          (FiltersAgree J M b s (hashConfig tr index count) opts listed index.toInt64
              count.toInt64 →
            SameReplay (worker J M report b w'.store (tr.sliced index count))
              (worker J M report b s (tr.hashed index count)))
          ∧ ((captured J b (sourceCapture tr) s).Nodup →
            SameReplay (worker J M report b w'.store (tr.sliced index count))
              (worker J M report b s (tr.hashed index count)) →
            FiltersAgree J M b s (hashConfig tr index count) opts listed index.toInt64
              count.toInt64) := by
  have hsplit := split_of_ok hok hc
  obtain ⟨hsh, hin⟩ := inShards_of_int32 h0 hlt
  have hhash : hashConfig tr index count
      = (commonConfig tr).select (sourceCapture tr) index.toInt64 count.toInt64 :=
    parseFlags_hashed tr index count
  have hslice := parseFlags_sliced tr index count
  rw [captureArg_sliced tr h0 hlt] at hslice hbare
  have hempty : (commonConfig tr).failOnEmpty = true := failOnEmpty_parseFlags _
  have hworker : worker J M report b s (tr.hashed index count)
      = run J M report b s (hashConfig tr index count) := rfl
  rw [hworker, worker, hslice, hhash]
  cases hopts : buildReadOptions (commonConfig tr) with
  | error err =>
      have hbad : ∀ id i n, buildReadOptions ((commonConfig tr).select id i n) = .error err := by
        intro id i n
        rw [buildReadOptions_select, hopts]
        rfl
      rw [hbad]
      obtain ⟨hs, he⟩ := run_of_bad_options (J := J) (M := M) (b := b) (s := w'.store)
        (hbad (sliceID (sourceCapture tr) count.toInt64
          index.toInt64.toNatClampNeg) 0 1)
      obtain ⟨hs', he'⟩ := run_of_bad_options (J := J) (M := M) (b := b) (s := s)
        (hbad (sourceCapture tr) index.toInt64 count.toInt64)
      exact ⟨hs.trans hs'.symm, iff_of_false he he'⟩
  | ok opts =>
      have hok' : ∀ id i n, buildReadOptions ((commonConfig tr).select id i n)
          = .ok { opts with captureID := id } := by
        intro id i n
        rw [buildReadOptions_select, hopts]
        rfl
      rw [hok']
      intro listed hv
      exact hsplit.compare rfl (hok' _ _ _) rfl hsh hempty
        (hsplit.slice_outcome hc.order hsh hin hv hbare rfl (hok' _ _ _) rfl rfl hempty)

/-- A replay of the capture without filters. -/
def plainReplay : TrafficReplay :=
  ⟨lit "default", lit "checkout", none, none, none, none, none⟩

/-- The same, up to the day of the capture. -/
def dayReplay : TrafficReplay :=
  ⟨lit "default", lit "checkout", none, some ⟨none, some (739617 * dayDuration), none, [], none⟩,
    none, none, none⟩

/-- The same, without what deletes. -/
def methodReplay : TrafficReplay :=
  ⟨lit "default", lit "checkout", none, some ⟨none, none, none, [lit "get", lit "PUT"], none⟩, none,
    none, none⟩

def noReport : RunReport := ⟨0, 0, 0, 0, 0, 0, 0, 0⟩

/-- **The shard that owns a request** sends it either way: of the four that were captured, the
second shard owns two, and the filter keeps one of them. -/
theorem sliced_replays_as_hashed_owner :
    (worker busyCodec .counts noReport ⟨.filesystem, lit "/data"⟩ busyStore
        (methodReplay.hashed 1 2)).sent = [busyRequest "b" "PUT"]
      ∧ SameReplay
        (worker busyCodec .counts noReport ⟨.filesystem, lit "/data"⟩ busyRun.2.store
          (methodReplay.sliced 1 2))
        (worker busyCodec .counts noReport ⟨.filesystem, lit "/data"⟩ busyStore
          (methodReplay.hashed 1 2)) := by
  have hid : sourceCapture methodReplay = lit "default/checkout" := by decide +kernel
  have hcount : (2 : Int32).toInt64 = 2 := by decide
  have hfst : busyRun.1 = .ok ⟨4, [2, 2]⟩ := by decide +kernel
  have hrun : busyRun = (.ok ⟨4, [2, 2]⟩, busyRun.2) := by rw [← hfst, Prod.mk.eta]
  have h := sliced_replays_as_hashed busyEnv busyCodec .counts ⟨none, fun _ => .none⟩ noReport
    ⟨.filesystem, lit "/data"⟩ busyStore methodReplay 1 2 ⟨4, [2, 2]⟩ busyRun.2 (by decide)
    (by decide) (by rw [hid, hcount]; exact hrun) (by rw [hid, hcount]; exact runCond_busy)
      (by decide)
  exact ⟨by decide +kernel,
    (h true fun _ _ => rfl).1 ⟨fun _ => by decide +kernel, by decide +kernel⟩⟩

/-- **The other shard** owns nothing: the worker with the hash filter skips the one
request and succeeds, the worker on the slice is stopped by its manifest. And **a
filter that ends on the day of the capture** hides the slice, which was written on the
day after. -/
theorem slice_and_hash_differ :
    oneRun.1 = .ok ⟨1, [1, 0]⟩
      ∧ worker oneCodec .counts noReport ⟨.filesystem, lit "/data"⟩ oneFileStore
        (plainReplay.hashed 1 2) = ⟨[], none⟩
      ∧ (worker oneCodec .counts noReport ⟨.filesystem, lit "/data"⟩ oneRun.2.store
        (plainReplay.sliced 1 2)).err.isSome = true
      ∧ worker oneCodec .counts noReport ⟨.filesystem, lit "/data"⟩ oneFileStore
        (dayReplay.hashed 0 2) = ⟨[oneRequest], none⟩
      ∧ (worker oneCodec .counts noReport ⟨.filesystem, lit "/data"⟩ oneRun.2.store
        (dayReplay.sliced 0 2)).sent = [] := by
  decide +kernel

end Kapture.Worker
