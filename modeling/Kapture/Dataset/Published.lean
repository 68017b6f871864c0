import Kapture.Dataset.Routing

/-!
# What a run publishes

A run of `Preshard` either stops before its manifests, and then it has written to
data objects of its slices only, or every slice is complete before the first
manifest is stored. `preshard_cases` says so; what a run leaves in the store is
read off it.
-/

namespace Kapture.Dataset

open Go Storage Replay Pull

variable {env : Env} {f : WriterFactory} {J : Codec} {M : ManifestCodec} {captureID : Str}
  {n : Int64} {s : Store}

/-! ## The writers of a run -/

theorem sliceID_ne_nil (i : Nat) : sliceID captureID n i ≠ [] := by
  simp [sliceID, shardSliceCaptureID, lit]

/-- A writer that has not been used. -/
def freshWriter (f : WriterFactory) (id : Str) (now : Time) : BufferedObjectWriter :=
  ⟨id, normalizeFlushInterval f.flushInterval, normalizeMaxBufferBytes f.maxBufferBytes, 0, [],
    false, now⟩

theorem newWriters_eq (is : List Nat) (writers : List BufferedObjectWriter) (w : World) :
    newWriters env f captureID (sliceCount n) is writers w
      = (.ok (writers ++ is.mapIdx fun j i =>
            freshWriter f (sliceID captureID n i) (env.now (w.clock + j))),
          { w with clock := w.clock + is.length }) := by
  induction is generalizing writers w with
  | nil => simp [newWriters]
  | cons i rest ih =>
      have hne : shardSliceCaptureID captureID i (sliceCount n) ≠ [] := sliceID_ne_nil i
      rw [newWriters, newWriter, if_neg hne]
      simp only [ih, World.tick, List.mapIdx_cons, List.append_assoc, List.length_cons,
        List.cons_append, List.nil_append, Nat.add_zero, freshWriter, sliceID]
      simp only [Nat.add_comm, Nat.add_left_comm]

/-- The writers of a run. -/
def startWriters (env : Env) (f : WriterFactory) (captureID : Str) (n : Int64) (w : World) :
    List BufferedObjectWriter :=
  (List.range (sliceCount n)).mapIdx fun j i =>
    freshWriter f (sliceID captureID n i) (env.now (w.clock + j))

/-- The pass of a run before its first request. -/
def startPass (env : Env) (f : WriterFactory) (captureID : Str) (n : Int64) (w : World) : Pass :=
  .start (sliceCount n) (startWriters env f captureID n w)
    { w with clock := w.clock + (List.range (sliceCount n)).length }

variable {w w' : World} {res : Except Error Unit} {now : Time} {p : Pass}
  {routed : List CapturedRequest} {fetch : World → Fetch} {noun : String} {objects : List Str}
  {opts : ReadOptions}

theorem getElem?_startWriters {i : Nat} {wr : BufferedObjectWriter}
    (h : (startWriters env f captureID n w)[i]? = some wr) :
    wr = freshWriter f (sliceID captureID n i) (env.now (w.clock + i)) := by
  rw [startWriters, List.getElem?_mapIdx, Option.map_eq_some_iff] at h
  obtain ⟨j, hj, rfl⟩ := h
  obtain ⟨hlt, hj⟩ := List.getElem?_eq_some_iff.mp hj
  rw [List.getElem_range] at hj
  rw [hj]

variable (env f J captureID n) in
theorem passInv_start (hlog : w.log = []) :
    PassInv env f J captureID n w.store [] (startPass env f captureID n w) where
  length := by simp [startPass, Pass.start, startWriters]
  ids := by
    intro i wr h
    rw [getElem?_startWriters h]
    rfl
  opened := by
    intro i wr h
    rw [getElem?_startWriters h]
    rfl
  accepted := by
    intro i wr h
    rw [getElem?_startWriters h]
    refine ⟨[], [], ⟨?_, rfl, rfl, by simp, by simp, by simp, by simp⟩, rfl⟩
    simp [startPass, Pass.start, dataLog, hlog]
  counts := by
    intro i hi
    simp [startPass, Pass.start, slicePart, hi]
  marshals := by simp
  stored :=
    ⟨by simp [startPass, Pass.start, hlog], by simp [startPass, Pass.start, hlog], fun _ _ => rfl⟩

theorem writes_startPass (w : World) :
    Writes f captureID n w (startPass env f captureID n w).world :=
  ⟨Nat.le_add_right .., ⟨[], by simp [startPass, Pass.start]⟩, fun _ _ => rfl, fun _ h => h,
    fun _ h => h⟩

/-! ## The manifests -/

/-- What an upload of a slice's manifest may leave. -/
def ManifestLeft (f : WriterFactory) (M : ManifestCodec) (captureID : Str) (n : Int64) (p : Pass)
    (now : Time) (s : Store) (k : Str) : Prop :=
  ∃ i, i < sliceCount n ∧ k = f.backend.manifestName (sliceID captureID n i)
    ∧ ∃ bytes, M.marshal (sliceManifest M captureID (sliceCount n) p now i) = .ok bytes
      ∧ (s.get k = some (.raw bytes) ∨ ∃ j, s.get k = some (.raw (bytes.take j)))

/-- The slice's manifest is stored. -/
def ManifestStored (f : WriterFactory) (M : ManifestCodec) (captureID : Str) (n : Int64) (p : Pass)
    (now : Time) (s : Store) (k : Str) : Prop :=
  ∃ i, i < sliceCount n ∧ k = f.backend.manifestName (sliceID captureID n i)
    ∧ ∃ bytes, M.marshal (sliceManifest M captureID (sliceCount n) p now i) = .ok bytes
      ∧ s.get k = some (.raw bytes)

/-- What a run's manifests do to the world. -/
structure Manifests (f : WriterFactory) (M : ManifestCodec) (captureID : Str) (n : Int64)
    (p : Pass) (now : Time) (is : List Nat) (res : Except Error Unit) (w w' : World) : Prop where
  effect : Effect (IsSlice captureID n) (IsSliceManifest f captureID n) w w'
  dataLog : ∀ id, dataLog w' id = dataLog w id
  left : ∀ k, w'.store.get k = w.store.get k ∨ ManifestLeft f M captureID n p now w'.store k
  replaced : res = .ok () → ∀ k,
    w'.store.get k = w.store.get k ∨ ManifestStored f M captureID n p now w'.store k
  stored : res = .ok () → ∀ i ∈ is,
    ManifestStored f M captureID n p now w'.store (f.backend.manifestName (sliceID captureID n i))

theorem dataLog_upload_raw {b : Backend} {id key bytes : Str}
    (h : upload env b id key (.raw bytes) w = (res, w')) (i : Str) :
    dataLog w' i = dataLog w i := by
  rcases (upload_ends h).ends with ⟨-, -, hlog⟩ | ⟨_, _, _, -, -, hlog⟩
  · rw [dataLog, hlog, List.filter_append, dataLog]
    simp [Put.isData]
  · rw [dataLog, hlog, dataLog]

theorem upload_manifest {i : Nat} {bytes : Str} (hi : i < sliceCount n)
    (hm : M.marshal (sliceManifest M captureID (sliceCount n) p now i) = .ok bytes)
    (h : upload env f.backend (sliceID captureID n i)
      (f.backend.manifestName (sliceID captureID n i)) (.raw bytes) w = (res, w')) :
    Manifests f M captureID n p now [i] res w w' where
  effect := effect_upload h ⟨i, hi, rfl⟩ ⟨i, hi, rfl⟩
  dataLog := dataLog_upload_raw h
  left := by
    intro k
    by_cases hk : k = f.backend.manifestName (sliceID captureID n i)
    · have hhere := (upload_ends h).here
      rw [← hk] at hhere
      cases hput : env.put w.puts with
      | stored =>
          rw [hput] at hhere
          exact Or.inr ⟨i, hi, hk, bytes, hm, Or.inl hhere⟩
      | failed madeDir left err =>
          rw [hput] at hhere
          cases left with
          | nothing => exact Or.inl hhere
          | whole => exact Or.inr ⟨i, hi, hk, bytes, hm, Or.inl hhere⟩
          | part j => exact Or.inr ⟨i, hi, hk, bytes, hm, Or.inr ⟨j, hhere⟩⟩
    · exact Or.inl ((upload_ends h).elsewhere k hk)
  replaced := by
    rintro rfl k
    by_cases hk : k = f.backend.manifestName (sliceID captureID n i)
    · exact Or.inr ⟨i, hi, hk, bytes, hm, hk ▸ (upload_ends h).ok.2⟩
    · exact Or.inl ((upload_ends h).elsewhere k hk)
  stored := by
    rintro rfl j hj
    rw [List.mem_singleton.mp hj]
    exact ⟨i, hi, rfl, bytes, hm, (upload_ends h).ok.2⟩

/-- What was left before stays unless it is replaced. -/
theorem ManifestLeft.congr {s' : Store} {k : Str} (h : ManifestLeft f M captureID n p now s k)
    (hk : s'.get k = s.get k) : ManifestLeft f M captureID n p now s' k := by
  obtain ⟨i, hi, hki, bytes, hm, hb⟩ := h
  rw [← hk] at hb
  exact ⟨i, hi, hki, bytes, hm, hb⟩

theorem ManifestStored.congr {s' : Store} {k : Str} (h : ManifestStored f M captureID n p now s k)
    (hk : s'.get k = s.get k) : ManifestStored f M captureID n p now s' k := by
  obtain ⟨i, hi, hki, bytes, hm, hb⟩ := h
  rw [← hk] at hb
  exact ⟨i, hi, hki, bytes, hm, hb⟩

theorem manifests_putManifests {is : List Nat} (his : ∀ i ∈ is, i < sliceCount n)
    (h : putManifests env f M captureID (sliceCount n) p now is w = (res, w')) :
    Manifests f M captureID n p now is res w w' := by
  induction is generalizing w with
  | nil =>
      cases h
      exact ⟨Effect.refl _, fun _ => rfl, fun _ => Or.inl rfl, fun _ _ => Or.inl rfl, by simp⟩
  | cons i rest ih =>
      have hi := his i (List.mem_cons_self ..)
      have hrest : ∀ j ∈ rest, j < sliceCount n := fun j hj => his j (List.mem_cons_of_mem _ hj)
      rw [putManifests] at h
      split at h
      · cases h
        exact ⟨Effect.refl _, fun _ => rfl, fun _ => Or.inl rfl, fun _ _ => Or.inl rfl, by simp⟩
      · rename_i bytes hm
        have hne : shardSliceCaptureID captureID i (sliceCount n) ≠ [] := sliceID_ne_nil i
        rw [putManifest, if_neg hne] at h
        split at h
        · rename_i err w₁ hu
          cases h
          have hone := upload_manifest hi hm hu
          exact ⟨hone.effect, hone.dataLog, hone.left, by simp, by simp⟩
        · rename_i w₁ hu
          have hone := upload_manifest hi hm hu
          have hmany := ih hrest h
          refine ⟨hone.effect.trans hmany.effect,
            fun id => (hmany.dataLog id).trans (hone.dataLog id), ?_, ?_, ?_⟩
          · intro k
            rcases hmany.left k with hk | hk
            · rcases hone.left k with hk₁ | hk₁
              · exact Or.inl (hk.trans hk₁)
              · exact Or.inr (hk₁.congr hk)
            · exact Or.inr hk
          · intro hres k
            rcases hmany.replaced hres k with hk | hk
            · rcases hone.replaced rfl k with hk₁ | hk₁
              · exact Or.inl (hk.trans hk₁)
              · exact Or.inr (hk₁.congr hk)
            · exact Or.inr hk
          · intro hres j hj
            rcases List.mem_cons.mp hj with rfl | hj
            · rcases hmany.replaced hres (f.backend.manifestName (sliceID captureID n j))
                with hk | hk
              · exact (hone.stored rfl j (List.mem_singleton.mpr rfl)).congr hk
              · exact hk
            · exact hmany.stored hres j hj

/-! ## Whole runs -/

/-- A run that got as far as its manifests, in `w₁`. -/
structure Finished (env : Env) (f : WriterFactory) (J : Codec) (captureID : Str) (n : Int64)
    (run : ReaderRun) (p : Pass) (w w₁ : World) : Prop where
  ended : endOfCapture run.last = true
  walked : walk (route env f J n) run.reqs (startPass env f captureID n w) = (.ok (), p)
  inv : PassInv env f J captureID n w.store run.reqs p
  writes : Writes f captureID n w w₁
  holds : ∀ i, i < sliceCount n →
    SliceHolds env f J (sliceID captureID n i) w₁ (slicePart n run.reqs i)
  count : ∀ (i : Nat) (wr : BufferedObjectWriter), p.writers[i]? = some wr →
    (dataLog w₁ (sliceID captureID n i)).length ≤ wr.sequence + 1
  stored : LogStored w.store w₁

theorem PassInv.nodup (h : PassInv env f J captureID n s routed p) :
    (p.writers.map (·.captureID)).Nodup := by
  refine List.nodup_iff_injective_get.mpr ?_
  rintro ⟨i, hi⟩ ⟨j, hj⟩ heq
  simp only [List.length_map] at hi hj
  simp only [List.get_eq_getElem, List.getElem_map] at heq
  rw [h.ids i _ (List.getElem?_eq_getElem hi), h.ids j _ (List.getElem?_eq_getElem hj)] at heq
  exact Fin.ext (sliceID_inj heq)

theorem PassInv.finishWriters (h : PassInv env f J captureID n s routed p)
    (hf : finishWriters env f [] p.writers p.world = (.ok (), w')) :
    (∀ i, i < sliceCount n → SliceHolds env f J (sliceID captureID n i) w' (slicePart n routed i))
      ∧ (∀ (i : Nat) (wr : BufferedObjectWriter), p.writers[i]? = some wr →
          (dataLog w' (sliceID captureID n i)).length ≤ wr.sequence + 1)
      ∧ LogStored s w' := by
  -- a capture ID tells the slice
  let part (id : Str) : List CapturedRequest :=
    routed.filter fun req => sliceID captureID n (sliceOf n req) = id
  have hpart : ∀ i, part (sliceID captureID n i) = slicePart n routed i := by
    intro i
    refine List.filter_congr fun req _ => ?_
    exact decide_eq_decide.mpr ⟨fun h => sliceID_inj h, fun h => by rw [h]⟩
  have hacc : ∀ wr ∈ p.writers, Accepted env f J wr p.world (part wr.captureID) := by
    intro wr hwr
    obtain ⟨i, hi⟩ := List.mem_iff_getElem?.mp hwr
    rw [h.ids i wr hi, hpart]
    exact h.accepted i wr hi
  obtain ⟨hholds, hst, _⟩ := finishWriters_ok hf hacc h.nodup h.stored
  refine ⟨fun i hi => ?_, fun i wr hi => ?_, hst⟩
  · have hget : p.writers[i]? = some _ := List.getElem?_eq_getElem (h.length ▸ hi)
    have := (hholds _ (List.mem_of_getElem? hget)).1
    rwa [h.ids i _ hget, hpart] at this
  · have := (hholds wr (List.mem_of_getElem? hi)).2
    rwa [h.ids i wr hi] at this

theorem preshardLoop_eq {α : Type} {source : α} {loop : α → Pass → Consumed Pass Error}
    (hn : 2 ≤ n) (hc : captureID ≠ []) :
    preshardLoop env f M (.ok source) loop captureID n w
      = conclude env f M captureID (sliceCount n)
        (loop source (startPass env f captureID n w)) := by
  have hnw : newWriters env f captureID (sliceCount n) (List.range (sliceCount n)) [] w = _ :=
    newWriters_eq (List.range (sliceCount n)) [] w
  simp only [sliceCount] at hnw
  rw [preshardLoop, if_neg (Int64.not_lt.mpr hn), if_neg hc]
  simp only [hnw, List.nil_append]
  rfl

variable (env) in
/-- What a run does with the walk over its source. If nothing is read there, the
store stays as it is to the end of the walk. -/
theorem ends_preshard {g : Fetch} (hlog : w.log = []) (hfetch : ∀ u, Writes f captureID n w u →
      ((drain J noun opts g objects).reqs = [] → u.store = w.store) →
      ∀ k ∈ objects, fetch u k = g k) :
    Ends (route env f J n) (drain J noun opts g objects) (startPass env f captureID n w)
      (consumeObjects J noun opts (fun p : Pass => fetch p.world) (route env f J n) objects 0
        (startPass env f captureID n w)) := by
  -- every state of the pass is reached by writing to slices
  let P (p : Pass) : Prop := Writes f captureID n w p.world ∧ SliceWriters captureID n p.writers
    ∧ ((drain J noun opts g objects).reqs = [] → p.world.store = w.store)
  have hP : ∀ req ∈ (drain J noun opts g objects).reqs, ∀ p, P p → P (route env f J n req p).2 := by
    intro req hreq p hp
    obtain ⟨hw, hs⟩ := writes_route (J := J) (p := p) rfl hp.2.1
    exact ⟨hp.1.trans hw, hs, fun hnil => absurd hreq (by simp [hnil])⟩
  have hP₀ : P (startPass env f captureID n w) :=
    ⟨writes_startPass w, (passInv_start env f J captureID n hlog).sliceWriters, fun _ => rfl⟩
  exact consumeObjects_eq_walk objects (fun p hp k hk => hfetch p.world hp.1 hp.2.2 k hk) 0 _ hP hP₀

theorem writes_walk {reqs : List CapturedRequest} {p' : Pass}
    (h : walk (route env f J n) reqs p = (res, p')) (hp : SliceWriters captureID n p.writers) :
    Writes f captureID n p.world p'.world ∧ SliceWriters captureID n p'.writers := by
  let P (q : Pass) : Prop := Writes f captureID n p.world q.world
    ∧ SliceWriters captureID n q.writers
  have hstep : ∀ req ∈ reqs, ∀ q, P q → P (route env f J n req q).2 := by
    intro req _ q hq
    obtain ⟨hw, hs⟩ := writes_route (J := J) (p := q) rfl hq.2
    exact ⟨hq.1.trans hw, hs⟩
  have hP₀ : P p := ⟨Effect.refl _, hp⟩
  have hP : P p' := walk_invariant hstep hP₀ h
  exact hP

/-- **All that `Preshard` can do.** While writing to slices leaves the objects of the
source alone, it either fails before its manifests or completes every slice. -/
theorem preshard_cases {g : Fetch} {res : Except Error PreshardResult} (hn : 2 ≤ n)
    (hc : captureID ≠ [])
    (h : preshard env f J M noun opts (.ok objects) fetch captureID n w = (res, w'))
    (hlog : w.log = []) (hfetch : ∀ u, Writes f captureID n w u →
      ((drain J noun opts g objects).reqs = [] → u.store = w.store) →
      ∀ k ∈ objects, fetch u k = g k) :
    (∃ err, res = .error err ∧ Writes f captureID n w w')
      ∨ ∃ p w₁, Finished env f J captureID n (drain J noun opts g objects) p w w₁
          ∧ ∃ r, putManifests env f M captureID (sliceCount n) p (env.now w₁.clock)
              (List.range (sliceCount n)) w₁.tick = (r, w')
            ∧ res = r.map fun _ => p.result := by
  have hends := ends_preshard env hlog hfetch
  have hstart := passInv_start env f J captureID n hlog
  rw [preshard, preshardLoop_eq hn hc] at h
  unfold Ends at hends
  split at hends
  · rename_i err p hw
    obtain ⟨hstop, hworld⟩ := hends
    obtain ⟨hwr, hsl⟩ := writes_walk hw hstart.sliceWriters
    simp only [conclude, hstop, hworld] at h
    cases h
    exact Or.inl ⟨err, rfl, ((writes_startPass w).trans hwr).trans (writes_closeWriters hsl)⟩
  · rename_i p hw
    have hinv := hstart.walk hw
    rw [List.nil_append] at hinv
    obtain ⟨hwr, hsl⟩ := writes_walk hw hstart.sliceWriters
    have hwr' := (writes_startPass w).trans hwr
    simp only [hends, conclude] at h
    split at h
    · rename_i hend
      unfold publish at h
      split at h
      · rename_i err w₁ hf
        cases h
        exact Or.inl ⟨err, rfl, hwr'.trans (writes_finishWriters hf (by simp [SliceWriters]) hsl)⟩
      · rename_i w₁ hf
        obtain ⟨hholds, hcount, hst⟩ := hinv.finishWriters hf
        refine Or.inr ⟨p, w₁, ⟨hend, hw, hinv,
          hwr'.trans (writes_finishWriters hf (by simp [SliceWriters]) hsl), hholds, hcount,
          hst⟩, ?_⟩
        split at h
        · rename_i err w₂ hm
          cases h
          exact ⟨_, hm, rfl⟩
        · rename_i w₂ hm
          cases h
          exact ⟨_, hm, rfl⟩
    · cases h
      exact Or.inl ⟨_, rfl, hwr'.trans (writes_closeWriters hsl)⟩

/-- The effect of a whole run. -/
def Publishes (f : WriterFactory) (captureID : Str) (n : Int64) : World → World → Prop :=
  Effect (IsSlice captureID n)
    (fun k => IsSliceData f captureID n k ∨ IsSliceManifest f captureID n k)

/-! ## Runs in which every upload succeeds -/

theorem PassInv.route_live {req : CapturedRequest} (hp : PassInv env f J captureID n s routed p)
    (hl : Live env) (hn : 2 ≤ n) (hm : Marshals J req) :
    ∃ p', Dataset.route env f J n req p = (.ok (), p') := by
  have hlt : sliceOf n req < p.writers.length := by
    rw [hp.length]
    exact sliceOf_lt (Int64.le_trans (by decide) hn) req
  have hget := List.getElem?_eq_getElem hlt
  obtain ⟨wr', w', hw⟩ := write_live hl f hm (hp.opened _ _ hget) p.world
  obtain ⟨line, hline⟩ := hm
  unfold Dataset.route
  simp only [sliceOf] at hget hw
  simp only [hget, hw, hline]
  exact ⟨_, rfl⟩

theorem PassInv.walk_live {reqs : List CapturedRequest}
    (hp : PassInv env f J captureID n s routed p) (hl : Live env) (hn : 2 ≤ n)
    (hm : ∀ req ∈ reqs, Marshals J req) :
    ∃ p', Pull.walk (Dataset.route env f J n) reqs p = (.ok (), p') := by
  induction reqs generalizing routed p with
  | nil => exact ⟨p, rfl⟩
  | cons req rest ih =>
      obtain ⟨p₁, h₁⟩ := hp.route_live hl hn (hm req (List.mem_cons_self ..))
      obtain ⟨p', h'⟩ := ih (hp.route h₁) fun x hx => hm x (List.mem_cons_of_mem _ hx)
      exact ⟨p', by rw [Pull.walk, h₁]; exact h'⟩

theorem finishWriters_live (done : List BufferedObjectWriter) {ws : List BufferedObjectWriter}
    (hl : Live env) (w : World) (ho : ∀ wr ∈ ws, wr.closed = false) :
    ∃ w', finishWriters env f done ws w = (.ok (), w') := by
  induction ws generalizing done w with
  | nil => exact ⟨w, rfl⟩
  | cons wr rest ih =>
      obtain ⟨wr₁, w₁, h₁⟩ := flush_live hl f (ho wr (List.mem_cons_self ..)) w
      obtain ⟨wr₂, w₂, h₂⟩ := close_live hl f wr₁ w₁
      simp only [finishWriters, h₁, h₂]
      exact ih _ w₂ fun x hx => ho x (List.mem_cons_of_mem _ hx)

variable (captureID) in
theorem putManifests_live (hl : Live env) (hnow : FourDigitYear now.day) (is : List Nat)
    (w : World) :
    ∃ w', putManifests env f M captureID (sliceCount n) p now is w = (.ok (), w') := by
  induction is generalizing w with
  | nil => exact ⟨w, rfl⟩
  | cons i rest ih =>
      obtain ⟨bytes, hb⟩ := M.total (sliceManifest M captureID (sliceCount n) p now i) hnow
      have hne : shardSliceCaptureID captureID i (sliceCount n) ≠ [] := sliceID_ne_nil i
      obtain ⟨w₁, h₁⟩ := upload_live hl f.backend (shardSliceCaptureID captureID i (sliceCount n))
        (f.backend.manifestName (shardSliceCaptureID captureID i (sliceCount n))) (.raw bytes) w
      simp only [putManifests, putManifest, hb, if_neg hne, h₁]
      exact ih w₁

/-- **With a source that ends and uploads that succeed, `Preshard` succeeds, and every slice has its
part.** -/
theorem preshardLoop_live {α : Type} {source : α} {loop : α → Pass → Consumed Pass Error}
    {run : ReaderRun} (hends : Ends (route env f J n) run (startPass env f captureID n w)
      (loop source (startPass env f captureID n w))) (hn : 2 ≤ n) (hc : captureID ≠ [])
    (hlog : w.log = []) (hl : Live env) (hnow : ∀ k, FourDigitYear (env.now k).day)
    (hm : ∀ req ∈ run.reqs, Marshals J req) (hend : endOfCapture run.last = true) :
    ∃ result w', preshardLoop env f M (.ok source) loop captureID n w = (.ok result, w')
      ∧ ∀ i, i < sliceCount n →
          SliceHolds env f J (sliceID captureID n i) w' (slicePart n run.reqs i) := by
  have hstart := passInv_start env f J captureID n hlog
  obtain ⟨p, hp⟩ := hstart.walk_live hl hn hm
  have hinv := hstart.walk hp
  simp only [Ends, hp] at hends
  obtain ⟨w₁, h₁⟩ := finishWriters_live (f := f) [] hl p.world fun wr hwr => by
    obtain ⟨i, hi⟩ := List.mem_iff_getElem?.mp hwr
    exact hinv.opened i wr hi
  obtain ⟨hholds, -⟩ := hinv.finishWriters h₁
  obtain ⟨w₂, h₂⟩ := putManifests_live (f := f) (M := M) (n := n) (p := p) captureID
    hl (hnow w₁.clock) (List.range (sliceCount n)) w₁.tick
  have hman := manifests_putManifests (fun i hi => List.mem_range.mp hi) h₂
  refine ⟨p.result, w₂, ?_, fun i hi => (hholds i hi).of_dataLog (hman.dataLog _)⟩
  rw [preshardLoop_eq hn hc]
  simp only [hends, conclude, hend, if_true, publish, h₁, h₂]

theorem preshard_live {g : Fetch} (hn : 2 ≤ n) (hc : captureID ≠ []) (hlog : w.log = [])
    (hfetch : ∀ u, Writes f captureID n w u →
      ((drain J noun opts g objects).reqs = [] → u.store = w.store) →
      ∀ k ∈ objects, fetch u k = g k) (hl : Live env) (hnow : ∀ k, FourDigitYear (env.now k).day)
    (hm : ∀ req ∈ (drain J noun opts g objects).reqs, Marshals J req)
    (hend : endOfCapture (drain J noun opts g objects).last = true) :
    ∃ result w', preshard env f J M noun opts (.ok objects) fetch captureID n w
      = (.ok result, w') := by
  obtain ⟨result, w', h, -⟩ :=
    preshardLoop_live (ends_preshard env hlog hfetch) hn hc hlog hl hnow hm hend
  exact ⟨result, w', h⟩

end Kapture.Dataset
