import Kapture.Storage.Writer

/-!
# A writer's session

What a writer has done can be told from the log of completed uploads: a list of
chunks of requests, each stored as one object under the next sequence number, and
the requests that still sit in the buffer. `Session` says so, and every operation
that succeeds keeps it.

What an operation may do to the rest of the world, whether it succeeds or not, is
said once, in `Effect`.
-/

namespace Kapture.Storage

open Go

/-- The line that `Write` appends for a request. -/
def jsonLine (J : Codec) (req : CapturedRequest) : Str :=
  match J.marshal req with
  | .ok line => line ++ [10]
  | .error _ => []

def encode (J : Codec) (reqs : List CapturedRequest) : Str := reqs.flatMap (jsonLine J)

theorem encode_append (J : Codec) (as bs : List CapturedRequest) :
    encode J (as ++ bs) = encode J as ++ encode J bs := by
  simp [encode]

/-- A request that can be encoded. -/
def Marshals (J : Codec) (req : CapturedRequest) : Prop := ∃ line, J.marshal req = .ok line

theorem eq_nil_of_encode {J : Codec} {reqs : List CapturedRequest}
    (hm : ∀ req ∈ reqs, Marshals J req) (h : encode J reqs = []) : reqs = [] := by
  cases reqs with
  | nil => rfl
  | cons req rest =>
      obtain ⟨line, hl⟩ := hm req (List.mem_cons_self ..)
      simp [encode, jsonLine, hl] at h

/-! ## Effects -/

/-- What may have happened between two worlds: the clock ran on, uploads of the
captures in `I` were logged, and only keys in `K` were touched. -/
structure Effect (I K : Str → Prop) (w w' : World) : Prop where
  clock : w.clock ≤ w'.clock
  log : ∃ ps, w'.log = w.log ++ ps ∧ ∀ p ∈ ps, I p.captureID
  frame : ∀ k, ¬ K k → w'.store.get k = w.store.get k
  kept : ∀ k, (w.store.get k).isSome → (w'.store.get k).isSome
  dirs : ∀ d ∈ w.store.dirs, d ∈ w'.store.dirs

variable {I K : Str → Prop} {w w' w'' : World} {b : Backend} {id key : Str} {obj : Object}

theorem Effect.refl (w : World) : Effect I K w w :=
  ⟨Nat.le_refl _, ⟨[], by simp⟩, fun _ _ => rfl, fun _ h => h, fun _ h => h⟩

theorem Effect.tick (w : World) : Effect I K w w.tick :=
  ⟨Nat.le_succ _, ⟨[], by simp [World.tick]⟩, fun _ _ => rfl, fun _ h => h, fun _ h => h⟩

theorem Effect.trans (h : Effect I K w w') (h' : Effect I K w' w'') : Effect I K w w'' := by
  obtain ⟨ps, hps, hI⟩ := h.log
  obtain ⟨qs, hqs, hI'⟩ := h'.log
  refine ⟨Nat.le_trans h.clock h'.clock, ⟨ps ++ qs, by rw [hqs, hps, List.append_assoc], ?_⟩, ?_,
    fun k hk => h'.kept k (h.kept k hk), fun d hd => h'.dirs d (h.dirs d hd)⟩
  · intro p hp
    rcases List.mem_append.mp hp with hp | hp
    · exact hI p hp
    · exact hI' p hp
  · intro k hk
    rw [h'.frame k hk, h.frame k hk]

theorem Effect.mono {I' K' : Str → Prop} (h : Effect I K w w') (hI : ∀ id, I id → I' id)
    (hK : ∀ k, K k → K' k) : Effect I' K' w w' := by
  obtain ⟨ps, hps, hps'⟩ := h.log
  exact ⟨h.clock, ⟨ps, hps, fun p hp => hI _ (hps' p hp)⟩,
    fun k hk => h.frame k fun hk' => hk (hK k hk'),
    h.kept, h.dirs⟩

theorem get_makeDir (b : Backend) (key : Str) (s : Store) (k : Str) :
    (makeDir b key s).get k = s.get k := by
  unfold makeDir
  split <;> rfl

theorem mem_dirs_makeDir (b : Backend) (key : Str) {s : Store} {d : Str} (h : d ∈ s.dirs) :
    d ∈ (makeDir b key s).dirs := by
  unfold makeDir
  split
  · exact List.mem_cons_of_mem _ h
  · exact h

/-- What is under the name after an upload, if it changed. -/
def PutOutcome.leaves (obj : Object) : PutOutcome → Option Object
  | .stored => some obj
  | .failed _ .nothing _ => none
  | .failed _ .whole _ => some obj
  | .failed _ (.part k) _ => some (obj.torn k)

/-- **All that an upload can do.** -/
structure UploadEnds (env : Env) (id key : Str) (obj : Object) (res : Except Error Unit)
    (w w' : World) : Prop where
  clock : w'.clock = w.clock
  puts : w'.puts = w.puts + 1
  here : w'.store.get key = ((env.put w.puts).leaves obj).or (w.store.get key)
  elsewhere : ∀ k, k ≠ key → w'.store.get k = w.store.get k
  dirs : ∀ d ∈ w.store.dirs, d ∈ w'.store.dirs
  ends : (res = .ok () ∧ env.put w.puts = .stored ∧ w'.log = w.log ++ [⟨id, key, obj⟩])
    ∨ ∃ madeDir left err, res = .error err ∧ env.put w.puts = .failed madeDir left err
        ∧ w'.log = w.log

theorem upload_ends {env : Env} {res : Except Error Unit}
    (h : upload env b id key obj w = (res, w')) : UploadEnds env id key obj res w w' := by
  unfold upload at h
  split at h
  · rename_i hput
    cases h
    refine ⟨rfl, rfl, by simp [hput, PutOutcome.leaves], fun k hk => ?_,
      fun d => mem_dirs_makeDir b key, .inl ⟨rfl, hput, rfl⟩⟩
    exact (Store.get_put_of_ne _ _ hk).trans (get_makeDir b key w.store k)
  · rename_i madeDir left err hput
    cases h
    have hs : ∀ k, (if madeDir then makeDir b key w.store else w.store).get k = w.store.get k := by
      intro k
      split
      · exact get_makeDir b key w.store k
      · rfl
    have hdirs : ∀ d ∈ w.store.dirs, d
        ∈ (if madeDir then makeDir b key w.store else w.store).dirs := by
      intro d hd
      split
      · exact mem_dirs_makeDir b key hd
      · exact hd
    refine ⟨rfl, rfl, ?_, fun k hk => ?_, ?_, .inr ⟨madeDir, left, err, rfl, hput, rfl⟩⟩
    · rw [hput]
      cases left with
      | nothing => exact hs key
      | whole | part _ => exact Store.get_put_self ..
    · cases left with
      | nothing => exact hs k
      | whole | part _ => exact (Store.get_put_of_ne _ _ hk).trans (hs k)
    · cases left <;> exact hdirs

theorem UploadEnds.ok {env : Env} (h : UploadEnds env id key obj (.ok ()) w w') :
    w'.log = w.log ++ [⟨id, key, obj⟩] ∧ w'.store.get key = some obj := by
  rcases h.ends with ⟨-, hput, hlog⟩ | ⟨_, _, _, herr, -, -⟩
  · refine ⟨hlog, ?_⟩
    rw [h.here, hput]
    rfl
  · cases herr

theorem effect_upload {env : Env} {res : Except Error Unit}
    (h : upload env b id key obj w = (res, w')) (hI : I id) (hK : K key) : Effect I K w w' := by
  have hu := upload_ends h
  refine ⟨hu.clock.symm.le, ?_, fun k hk => hu.elsewhere k ?_, fun k hs => ?_, hu.dirs⟩
  · rcases hu.ends with ⟨-, -, hlog⟩ | ⟨_, _, _, -, -, hlog⟩
    · refine ⟨_, hlog, fun p hp => ?_⟩
      rw [List.mem_singleton.mp hp]
      exact hI
    · exact ⟨[], by simp [hlog]⟩
  · rintro rfl
    exact hk hK
  · by_cases hkey : k = key
    · subst hkey
      rw [hu.here, Option.isSome_or, hs, Bool.or_true]
    · rw [hu.elsewhere k hkey]
      exact hs

/-! ## The operations, one by one -/

variable {env : Env} {f : WriterFactory} {J : Codec} {wr wr' : BufferedObjectWriter}
  {res : Except Error Unit} {req : CapturedRequest}

/-- The names a writer of capture `id` gives to its objects. -/
def DataKey (f : WriterFactory) (id k : Str) : Prop :=
  ∃ ts seq, k = f.backend.objectName id f.agentPod ts seq

/-- The writer after a successful upload. -/
def BufferedObjectWriter.flushed (wr : BufferedObjectWriter) (now : Time) : BufferedObjectWriter :=
  { wr with buffer := [], sequence := wr.sequence + 1, lastFlush := now }

/-- **All that `flushLocked` can do.** -/
theorem flushLocked_cases (h : flushLocked env f wr w = (res, wr', w')) :
    (wr.buffer = [] ∧ res = .ok () ∧ wr' = { wr with lastFlush := env.now w.clock } ∧ w' = w.tick)
      ∨ wr.buffer ≠ [] ∧ ∃ u, upload env f.backend wr.captureID
            (f.backend.objectName wr.captureID f.agentPod (env.now w.clock) (wr.sequence + 1))
            (.gz (.gzip wr.buffer none)) w.tick = (res, u)
          ∧ ((∃ err, res = .error err ∧ wr' = wr ∧ w' = u)
            ∨ res = .ok () ∧ wr' = wr.flushed (env.now u.clock) ∧ w' = u.tick) := by
  unfold flushLocked at h
  split at h
  · rename_i hb
    cases h
    exact Or.inl ⟨hb, rfl, rfl, rfl⟩
  · rename_i hb
    dsimp only at h
    split at h
    · rename_i err u hu
      cases h
      exact Or.inr ⟨hb, _, hu, Or.inl ⟨err, rfl, rfl, rfl⟩⟩
    · rename_i u hu
      cases h
      exact Or.inr ⟨hb, u, hu, Or.inr ⟨rfl, rfl, rfl⟩⟩

/-- The writer with one more line in its buffer. -/
def BufferedObjectWriter.append (wr : BufferedObjectWriter) (line : Str) : BufferedObjectWriter :=
  { wr with buffer := wr.buffer ++ (line ++ [10]) }

/-- With the line the buffer reaches its limit. -/
abbrev BufferedObjectWriter.Full (wr : BufferedObjectWriter) (line : Str) : Prop :=
  wr.maxBufferBytes ≤ ((wr.append line).buffer.length : Int)

/-- The flush interval has passed. -/
abbrev BufferedObjectWriter.Due (env : Env) (wr : BufferedObjectWriter) (w : World) : Prop :=
  wr.flushInterval ≤ (env.now w.clock).sub wr.lastFlush

/-- **All that `Write` can do.** -/
theorem write_cases (h : write env f J req wr w = (res, wr', w')) :
    ((∃ err, res = .error err) ∧ wr' = wr ∧ w' = w
        ∧ ∀ line, J.marshal req = .ok line → wr.closed = true)
      ∨ ∃ line, J.marshal req = .ok line ∧ wr.closed = false
          ∧ ((res = .ok () ∧ wr' = wr.append line ∧ w' = w.tick ∧ ¬ wr.Full line ∧ ¬ wr.Due env w)
            ∨ ∃ u, (wr.Full line ∧ u = w ∨ ¬ wr.Full line ∧ wr.Due env w ∧ u = w.tick)
              ∧ flushLocked env f (wr.append line) u = (res, wr', w')) := by
  unfold write at h
  split at h
  · rename_i err hm
    cases h
    exact Or.inl ⟨⟨_, rfl⟩, rfl, rfl, fun line hl => by rw [hm] at hl; cases hl⟩
  · rename_i line hl
    split at h
    · rename_i hc
      cases h
      exact Or.inl ⟨⟨_, rfl⟩, rfl, rfl, fun _ _ => hc⟩
    · rename_i hc
      refine Or.inr ⟨line, hl, Bool.eq_false_iff.mpr hc, ?_⟩
      dsimp only at h
      split at h
      · rename_i hfull
        exact Or.inr ⟨w, Or.inl ⟨hfull, rfl⟩, h⟩
      · rename_i hfull
        split at h
        · rename_i hdue
          exact Or.inr ⟨w.tick, Or.inr ⟨hfull, hdue, rfl⟩, h⟩
        · rename_i hdue
          cases h
          exact Or.inl ⟨rfl, rfl, rfl, hfull, hdue⟩

theorem flush_of_open (hc : wr.closed = false) : flush env f wr w = flushLocked env f wr w := by
  simp [flush, hc]

/-- **All that `Close` can do.** -/
theorem close_cases (h : close env f wr w = (res, wr', w')) :
    (wr.closed = true ∧ res = .ok () ∧ wr' = wr ∧ w' = w)
      ∨ wr.closed = false ∧ ∃ u, flushLocked env f wr w = (res, u, w')
          ∧ wr' = if res = .ok () then { u with closed := true } else u := by
  unfold close at h
  split at h
  · rename_i hc
    cases h
    exact Or.inl ⟨hc, rfl, rfl, rfl⟩
  · rename_i hc
    refine Or.inr ⟨Bool.eq_false_iff.mpr hc, ?_⟩
    split at h
    · rename_i err u v hf
      cases h
      exact ⟨_, hf, by simp⟩
    · rename_i u v hf
      cases h
      exact ⟨_, hf, by simp⟩

/-- A writer touches only the keys of its own capture. -/
def Own (f : WriterFactory) (id : Str) : World → World → Prop :=
  Effect (fun i => i = id) (DataKey f id)

theorem own_flushLocked (h : flushLocked env f wr w = (res, wr', w')) :
    Own f wr.captureID w w' ∧ wr'.captureID = wr.captureID ∧ wr'.closed = wr.closed := by
  rcases flushLocked_cases h with ⟨_, _, rfl, rfl⟩ | ⟨_, u, hu, hres⟩
  · exact ⟨Effect.tick w, rfl, rfl⟩
  · have he : Own f wr.captureID w u :=
      (Effect.tick w).trans (effect_upload hu rfl ⟨_, _, rfl⟩)
    rcases hres with ⟨err, _, rfl, rfl⟩ | ⟨_, rfl, rfl⟩
    · exact ⟨he, rfl, rfl⟩
    · exact ⟨he.trans (Effect.tick u), rfl, rfl⟩

theorem own_write (h : write env f J req wr w = (res, wr', w')) :
    Own f wr.captureID w w' ∧ wr'.captureID = wr.captureID ∧ wr'.closed = wr.closed := by
  rcases write_cases h with ⟨_, rfl, rfl, _⟩ | ⟨line, _, _, ⟨_, rfl, rfl, _⟩ | ⟨u, hu, hf⟩⟩
  · exact ⟨Effect.refl _, rfl, rfl⟩
  · exact ⟨Effect.tick w, rfl, rfl⟩
  · obtain ⟨he, hid, hc⟩ := own_flushLocked hf
    rcases hu with ⟨_, rfl⟩ | ⟨_, _, rfl⟩
    · exact ⟨he, hid, hc⟩
    · exact ⟨(Effect.tick w).trans he, hid, hc⟩

theorem own_close (h : close env f wr w = (res, wr', w')) :
    Own f wr.captureID w w' ∧ wr'.captureID = wr.captureID := by
  rcases close_cases h with ⟨_, _, rfl, rfl⟩ | ⟨_, u, hf, rfl⟩
  · exact ⟨Effect.refl _, rfl⟩
  · obtain ⟨he, hid, _⟩ := own_flushLocked hf
    refine ⟨he, ?_⟩
    split <;> exact hid

theorem own_flush (h : flush env f wr w = (res, wr', w')) :
    Own f wr.captureID w w' ∧ wr'.captureID = wr.captureID ∧ wr'.closed = wr.closed := by
  unfold flush at h
  split at h
  · cases h
    exact ⟨Effect.refl w, rfl, rfl⟩
  · exact own_flushLocked h

/-! ## Sessions -/

def Put.isData (p : Put) : Bool :=
  match p.obj with
  | .gz _ => true
  | .raw _ => false

/-- The data objects of a capture that were uploaded, in order. -/
def dataLog (w : World) (id : Str) : List Put :=
  w.log.filter fun p => p.captureID = id && p.isData

/-- The upload of a chunk, started at the `c`-th look at the clock, as the `j`-th of
its session. -/
def chunkPut (env : Env) (f : WriterFactory) (J : Codec) (id : Str) (j : Nat)
    (u : Nat × List CapturedRequest) : Put :=
  ⟨id, f.backend.objectName id f.agentPod (env.now u.1) (j + 1), .gz (.gzip (encode J u.2) none)⟩

/-- The writer uploaded these chunks, and holds the pending requests. -/
structure Session (env : Env) (f : WriterFactory) (J : Codec) (wr : BufferedObjectWriter)
    (w : World) (uploads : List (Nat × List CapturedRequest)) (pending : List CapturedRequest) :
    Prop where
  log : dataLog w wr.captureID = uploads.mapIdx (chunkPut env f J wr.captureID)
  sequence : wr.sequence = uploads.length
  buffer : wr.buffer = encode J pending
  marshals : ∀ req ∈ pending, Marshals J req
  clocks : uploads.Pairwise fun a b => a.1 < b.1
  past : ∀ u ∈ uploads, u.1 < w.clock
  nonempty : ∀ u ∈ uploads, u.2 ≠ []

/-- The writer accepted these requests, in this order. -/
def Accepted (env : Env) (f : WriterFactory) (J : Codec) (wr : BufferedObjectWriter) (w : World)
    (reqs : List CapturedRequest) : Prop :=
  ∃ uploads pending, Session env f J wr w uploads pending
    ∧ uploads.flatMap Prod.snd ++ pending = reqs

/-- The writer uploaded these requests, and holds no others. -/
def Uploaded (env : Env) (f : WriterFactory) (J : Codec) (wr : BufferedObjectWriter) (w : World)
    (reqs : List CapturedRequest) : Prop :=
  ∃ uploads, Session env f J wr w uploads [] ∧ uploads.flatMap Prod.snd = reqs

variable {uploads : List (Nat × List CapturedRequest)} {pending reqs : List CapturedRequest}

theorem dataLog_of_effect (h : Effect I K w w') (hid : ¬ I id) : dataLog w' id = dataLog w id := by
  obtain ⟨ps, hps, hI⟩ := h.log
  have hnil : (ps.filter fun p => p.captureID = id && p.isData) = [] := by
    refine List.filter_eq_nil_iff.mpr fun p hp => ?_
    have hne : p.captureID ≠ id := by
      rintro rfl
      exact hid (hI p hp)
    simp [hne]
  rw [dataLog, hps, List.filter_append, hnil, List.append_nil, dataLog]

/-- What others do leaves a session alone. -/
theorem Session.of_effect (hs : Session env f J wr w uploads pending) (h : Effect I K w w')
    (hid : ¬ I wr.captureID) : Session env f J wr w' uploads pending :=
  { hs with
    log := (dataLog_of_effect h hid).trans hs.log
    past := fun u hu => Nat.lt_of_lt_of_le (hs.past u hu) h.clock }

/-- The session of a writer with another flush time. -/
theorem Session.congr (hs : Session env f J wr w uploads pending)
    (hid : wr'.captureID = wr.captureID) (hseq : wr'.sequence = wr.sequence)
    (hbuf : wr'.buffer = wr.buffer) (hlog : w'.log = w.log) (hclock : w.clock ≤ w'.clock) :
    Session env f J wr' w' uploads pending where
  log := by rw [hid, dataLog, hlog]; exact hs.log
  sequence := hseq.trans hs.sequence
  buffer := hbuf.trans hs.buffer
  marshals := hs.marshals
  clocks := hs.clocks
  past := fun u hu => Nat.lt_of_lt_of_le (hs.past u hu) hclock
  nonempty := hs.nonempty

theorem dataLog_append (w w' : World) (id : Str) (p : Put) (hid : p.captureID = id)
    (hd : p.isData = true) (hw : w'.log = w.log ++ [p]) : dataLog w' id = dataLog w id ++ [p] := by
  rw [dataLog, hw, List.filter_append, dataLog]
  simp [hid, hd]

/-- **A flush that succeeds uploads what is pending.** -/
theorem Session.flushLocked (hs : Session env f J wr w uploads pending)
    (h : flushLocked env f wr w = (.ok (), wr', w')) :
    ∃ uploads', Session env f J wr' w' uploads' []
      ∧ uploads'.flatMap Prod.snd = uploads.flatMap Prod.snd ++ pending := by
  rcases flushLocked_cases h with ⟨hb, _, rfl, rfl⟩ | ⟨hb, u, hu, hres⟩
  · have hp : pending = [] := eq_nil_of_encode hs.marshals (hs.buffer.symm.trans hb)
    subst hp
    exact ⟨uploads, hs.congr rfl rfl rfl rfl (Nat.le_succ _), by simp⟩
  · rcases hres with ⟨err, herr, _, _⟩ | ⟨_, rfl, rfl⟩
    · cases herr
    · have hclock := (upload_ends hu).clock
      have hlog := (upload_ends hu).ok.1
      refine ⟨uploads ++ [(w.clock, pending)], ⟨?_, ?_, rfl, by simp, ?_, ?_, ?_⟩, by simp⟩
      · have hadd := dataLog_append w u.tick wr.captureID (chunkPut env f J wr.captureID
          wr.sequence (w.clock, pending)) rfl rfl (by rw [chunkPut, ← hs.buffer]; exact hlog)
        rw [hs.log, hs.sequence] at hadd
        rw [List.mapIdx_concat]
        exact hadd
      · simp [BufferedObjectWriter.flushed, hs.sequence]
      · refine List.pairwise_append.mpr ⟨hs.clocks, List.pairwise_singleton .., ?_⟩
        intro a ha b hb
        rw [List.mem_singleton.mp hb]
        exact hs.past a ha
      · intro v hv
        have hle : w.clock < u.tick.clock := by
          simp only [World.tick] at hclock ⊢
          omega
        rcases List.mem_append.mp hv with hv | hv
        · exact Nat.lt_trans (hs.past v hv) hle
        · rw [List.mem_singleton.mp hv]
          exact hle
      · intro v hv
        rcases List.mem_append.mp hv with hv | hv
        · exact hs.nonempty v hv
        · rw [List.mem_singleton.mp hv]
          rintro rfl
          exact hb hs.buffer

theorem Session.append (hs : Session env f J wr w uploads pending) {line : Str}
    (hl : J.marshal req = .ok line) :
    Session env f J (wr.append line) w uploads (pending ++ [req]) where
  log := hs.log
  sequence := hs.sequence
  buffer := by
    rw [encode_append, ← hs.buffer]
    simp [BufferedObjectWriter.append, encode, jsonLine, hl]
  marshals := by
    intro r hr
    rcases List.mem_append.mp hr with hr | hr
    · exact hs.marshals r hr
    · rw [List.mem_singleton.mp hr]
      exact ⟨line, hl⟩
  clocks := hs.clocks
  past := hs.past
  nonempty := hs.nonempty

/-- **A write that succeeds accepts its request.** -/
theorem Accepted.write (ha : Accepted env f J wr w reqs)
    (h : write env f J req wr w = (.ok (), wr', w')) :
    Accepted env f J wr' w' (reqs ++ [req]) := by
  obtain ⟨uploads, pending, hs, rfl⟩ := ha
  rcases write_cases h with ⟨⟨_, herr⟩, _⟩ | ⟨line, hl, _, ⟨_, rfl, rfl, _⟩ | ⟨u, hu, hf⟩⟩
  · cases herr
  · exact ⟨uploads, pending ++ [req],
      (hs.append hl).congr rfl rfl rfl rfl (Nat.le_succ _), by simp⟩
  · have hs' : Session env f J (wr.append line) u uploads (pending ++ [req]) := by
      rcases hu with ⟨_, rfl⟩ | ⟨_, _, rfl⟩
      · exact hs.append hl
      · exact (hs.append hl).congr rfl rfl rfl rfl (Nat.le_succ _)
    obtain ⟨uploads', hs'', hup⟩ := hs'.flushLocked hf
    exact ⟨uploads', [], hs'', by rw [hup]; simp⟩

/-- **A flush that succeeds uploads everything.** -/
theorem Accepted.flush (ha : Accepted env f J wr w reqs)
    (h : flush env f wr w = (.ok (), wr', w')) : Uploaded env f J wr' w' reqs := by
  obtain ⟨uploads, pending, hs, rfl⟩ := ha
  unfold Storage.flush at h
  split at h
  · cases h
  · exact hs.flushLocked h

/-- Closing after a flush adds nothing. -/
theorem Uploaded.close (ha : Uploaded env f J wr w reqs)
    (h : close env f wr w = (.ok (), wr', w')) : Uploaded env f J wr' w' reqs := by
  obtain ⟨uploads, hs, rfl⟩ := ha
  rcases close_cases h with ⟨_, _, rfl, rfl⟩ | ⟨_, u, hf, rfl⟩
  · exact ⟨uploads, hs, rfl⟩
  · obtain ⟨uploads', hs', hup⟩ := hs.flushLocked hf
    refine ⟨uploads', ?_, by rw [hup]; simp⟩
    rw [if_pos rfl]
    exact hs'.congr rfl rfl rfl rfl (Nat.le_refl _)

/-- A flush takes one sequence number, and leaves nothing for the next one. -/
theorem sequence_flush (h : flush env f wr w = (.ok (), wr', w')) :
    wr'.sequence ≤ wr.sequence + 1 ∧ wr'.buffer = [] := by
  unfold Storage.flush at h
  split at h
  · cases h
  · rcases flushLocked_cases h with ⟨hb, _, rfl, _⟩ | ⟨_, u, _, ⟨err, herr, _, _⟩ | ⟨_, rfl, _⟩⟩
    · exact ⟨Nat.le_succ _, hb⟩
    · cases herr
    · exact ⟨Nat.le_refl _, rfl⟩

theorem sequence_close (h : close env f wr w = (.ok (), wr', w')) (hb : wr.buffer = []) :
    wr'.sequence = wr.sequence := by
  rcases close_cases h with ⟨_, _, rfl, _⟩ | ⟨_, u, hf, rfl⟩
  · rfl
  · rw [if_pos rfl]
    rcases flushLocked_cases hf with ⟨_, _, rfl, _⟩ | ⟨hne, _⟩
    · rfl
    · exact absurd hb hne

/-! ## What is logged is stored -/

/-- The store is the one at the start, `s`, with the uploads of data objects that
were logged. -/
structure LogStored (s : Store) (w : World) : Prop where
  data : ∀ p ∈ w.log, p.isData = true
  logged : ∀ p ∈ w.log, ∃ q ∈ w.log, q.key = p.key ∧ w.store.get p.key = some q.obj
  rest : ∀ k, (∀ p ∈ w.log, p.key ≠ k) → w.store.get k = s.get k

variable {s : Store}

theorem LogStored.tick (hw : LogStored s w) : LogStored s w.tick := ⟨hw.data, hw.logged, hw.rest⟩

theorem LogStored.upload {payload : Payload} (hw : LogStored s w)
    (h : upload env b id key (.gz payload) w = (.ok (), w')) : LogStored s w' := by
  obtain ⟨hlog, hself⟩ := (upload_ends h).ok
  have hne := (upload_ends h).elsewhere
  have hmem : (⟨id, key, .gz payload⟩ : Put) ∈ w'.log := by simp [hlog]
  refine ⟨?_, ?_, ?_⟩
  · intro p hp
    rw [hlog] at hp
    rcases List.mem_append.mp hp with hp | hp
    · exact hw.data p hp
    · rw [List.mem_singleton.mp hp]
      rfl
  · intro p hp
    by_cases hk : p.key = key
    · exact ⟨_, hmem, hk.symm, by rw [hk, hself]⟩
    · rw [hlog] at hp
      rcases List.mem_append.mp hp with hp | hp
      · obtain ⟨q, hq, hqk, hst⟩ := hw.logged p hp
        exact ⟨q, by rw [hlog]; exact List.mem_append_left _ hq, hqk, by rw [hne _ hk, hst]⟩
      · rw [List.mem_singleton.mp hp] at hk
        exact absurd rfl hk
  · intro k hk
    rw [hne k fun heq => hk _ hmem heq.symm]
    exact hw.rest k fun p hp => hk p (by rw [hlog]; exact List.mem_append_left _ hp)

theorem LogStored.flushLocked (hw : LogStored s w)
    (h : flushLocked env f wr w = (.ok (), wr', w')) : LogStored s w' := by
  rcases flushLocked_cases h with ⟨_, _, _, rfl⟩ | ⟨_, u, hu, ⟨err, herr, _, _⟩ | ⟨_, _, rfl⟩⟩
  · exact hw.tick
  · cases herr
  · exact (hw.tick.upload hu).tick

theorem LogStored.write (hw : LogStored s w) (h : write env f J req wr w = (.ok (), wr', w')) :
    LogStored s w' := by
  rcases write_cases h with ⟨⟨_, herr⟩, _⟩ | ⟨line, hl, _, ⟨_, _, rfl, _⟩ | ⟨u, hu, hf⟩⟩
  · cases herr
  · exact hw.tick
  · rcases hu with ⟨_, rfl⟩ | ⟨_, _, rfl⟩
    · exact hw.flushLocked hf
    · exact hw.tick.flushLocked hf

theorem LogStored.flush (hw : LogStored s w) (h : flush env f wr w = (.ok (), wr', w')) :
    LogStored s w' := by
  unfold Storage.flush at h
  split at h
  · cases h
  · exact hw.flushLocked h

theorem LogStored.close (hw : LogStored s w) (h : close env f wr w = (.ok (), wr', w')) :
    LogStored s w' := by
  rcases close_cases h with ⟨_, _, _, rfl⟩ | ⟨_, u, hf, _⟩
  · exact hw
  · exact hw.flushLocked hf

/-! ## Uploads that succeed -/

/-- Every upload succeeds. -/
def Live (env : Env) : Prop := ∀ k, env.put k = .stored

theorem upload_live (hl : Live env) (b : Backend) (id key : Str) (obj : Object) (w : World) :
    ∃ w', upload env b id key obj w = (.ok (), w') := by
  unfold upload
  rw [hl w.puts]
  exact ⟨_, rfl⟩

theorem flushLocked_live (hl : Live env) (f : WriterFactory) (wr : BufferedObjectWriter)
    (w : World) : ∃ wr' w', flushLocked env f wr w = (.ok (), wr', w') := by
  unfold flushLocked
  split
  · exact ⟨_, _, rfl⟩
  · obtain ⟨u, hu⟩ := upload_live hl f.backend wr.captureID
      (f.backend.objectName wr.captureID f.agentPod (env.now w.clock) (wr.sequence + 1))
      (.gz (.gzip wr.buffer none)) w.tick
    simp only [hu]
    exact ⟨_, _, rfl⟩

theorem write_live (hl : Live env) (f : WriterFactory) (hm : Marshals J req)
    (hc : wr.closed = false) (w : World) :
    ∃ wr' w', write env f J req wr w = (.ok (), wr', w') := by
  obtain ⟨line, hline⟩ := hm
  unfold write
  simp only [hline, hc, Bool.false_eq_true, if_false]
  split
  · exact flushLocked_live hl f _ _
  · split
    · exact flushLocked_live hl f _ _
    · exact ⟨_, _, rfl⟩

theorem flush_live (hl : Live env) (f : WriterFactory) (hc : wr.closed = false) (w : World) :
    ∃ wr' w', flush env f wr w = (.ok (), wr', w') := by
  rw [flush_of_open hc]
  exact flushLocked_live hl f wr w

theorem close_live (hl : Live env) (f : WriterFactory) (wr : BufferedObjectWriter) (w : World) :
    ∃ wr' w', close env f wr w = (.ok (), wr', w') := by
  unfold close
  split
  · exact ⟨_, _, rfl⟩
  · obtain ⟨u, v, huv⟩ := flushLocked_live hl f wr w
    simp only [huv]
    exact ⟨_, _, rfl⟩

end Kapture.Storage
