import Kapture.Storage.ExactlyOnce

/-!
# A restarted agent

The number in the name of an object counts the uploads of one process. An agent that restarts
in its pod has the same name and counts from one again, so on the same day it uses the names
again that it used before, and a put replaces what is there.

A second session is `Fresh` as long as it does not upload under a date and a number under which
the first one stored an object. `restart_keeps_iff` says that **this is what it takes**.
-/

namespace Kapture.Storage

open Go

variable {env : Env} {f : WriterFactory} {J : Codec} {t : Tape} {c : Call}

/-- What the objects with these names hold. -/
def readable (J : Codec) (s : Store) (names : List Str) : List CapturedRequest :=
  names.flatMap fun k => contents J (s.get k)

/-- The names under which a session uploaded, or tried to. -/
def Tape.tried (f : WriterFactory) (t : Tape) : List Str :=
  t.attempts.map (Attempt.name f t.wr.captureID)

/-- **Nothing of the first session is lost in the second**: no name is used again, and every
request that could be read after the first can be read after the second. -/
def Keeps (f : WriterFactory) (J : Codec) (first second : Tape) : Prop :=
  (∀ k ∈ second.tried f, k ∉ first.names f)
    ∧ ∀ req ∈ readable J first.w.store (first.names f),
        req ∈ readable J second.w.store (first.names f ++ second.names f)

/-- The call does not upload under a date and a number under which the first session stored
an object. -/
def Fresh (env : Env) (J : Codec) (first : Tape) (t : Tape) (c : Call) : Prop :=
  ∀ time, c.uploadsAt env J t.wr t.w = some time → ∀ a ∈ first.attempts, a.kept = true →
    ¬ (a.seq = t.wr.sequence + 1 ∧ dateOf a.time = dateOf time)

instance (env : Env) (J : Codec) (first t : Tape) (c : Call) : Decidable (Fresh env J first t c) :=
  decidable_of_iff
    (∀ time ∈ (c.uploadsAt env J t.wr t.w).toList, ∀ a ∈ first.attempts, a.kept = true →
    ¬ (a.seq = t.wr.sequence + 1 ∧ dateOf a.time = dateOf time))
    (by simp only [Option.mem_toList, Fresh])

/-- The state of a later session: only the names that it tried were touched. -/
structure Later (f : WriterFactory) (s : Store) (captureID : Str) (t : Tape) : Prop where
  id : t.wr.captureID = captureID
  frame : ∀ k, k ∉ t.tried f → t.w.store.get k = s.get k

/-- What a call does to the names and the store. -/
theorem step_tried (env : Env) (f : WriterFactory) (J : Codec) (t : Tape) (c : Call) :
    (t.step env f J c).wr.captureID = t.wr.captureID
      ∧ (t.step env f J c).attempts = t.attempts ++ (t.tries env J c).toList
      ∧ ∀ k, k ∉ (t.tries env J c).toList.map (Attempt.name f t.wr.captureID) →
          (t.step env f J c).w.store.get k = t.w.store.get k := by
  obtain ⟨res, wr', w', hx⟩ : ∃ res wr' w', c.exec env f J t.wr t.w = (res, wr', w') :=
    ⟨_, _, _, rfl⟩
  rcases exec_cases hx with ⟨hat, -, hi⟩ | ⟨time, hat, -, hu⟩
  · rw [step_idle hx hat, tries_eq_none hat]
    exact ⟨hi.captureID, (List.append_nil _).symm, fun k _ => hi.store k⟩
  · rw [step_uploads hx hat, tries_eq_some hat]
    refine ⟨hu.captureID, rfl, fun k hk => hu.elsewhere k fun heq => hk ?_⟩
    rw [heq]
    exact List.mem_singleton_self _

theorem Later.step {s : Store} {captureID : Str} (h : Later f s captureID t) (env : Env)
    (J : Codec) (c : Call) :
    Later f s captureID (t.step env f J c)
      ∧ (t.step env f J c).tried f
          = t.tried f ++ (t.tries env J c).toList.map (Attempt.name f captureID) := by
  obtain ⟨hid, hatt, hstore⟩ := step_tried env f J t c
  have htried : (t.step env f J c).tried f
      = t.tried f ++ (t.tries env J c).toList.map (Attempt.name f captureID) := by
    rw [Tape.tried, Tape.tried, hatt, List.map_append, hid, h.id]
  refine ⟨⟨hid.trans h.id, fun k hk => ?_⟩, htried⟩
  rw [htried, List.mem_append, not_or] at hk
  rw [hstore k (by rw [h.id]; exact hk.2), h.frame k hk.1]

/-- **A call uploads under a new name exactly if it is fresh.** -/
theorem fresh_iff (env : Env) (J : Codec) (t : Tape) (c : Call) {first : Tape} {captureID : Str}
    (hne : captureID ≠ []) (hpod : Str.slash ∉ f.agentPod)
    (hfirst : first.wr.captureID = captureID) :
    (∀ k ∈ (t.tries env J c).toList.map (Attempt.name f captureID), k ∉ first.names f)
      ↔ Fresh env J first t c := by
  have hname : ∀ a ∈ first.attempts, a.kept = true → a.name f captureID ∈ first.names f := by
    intro a ha hk
    rw [Tape.names, hfirst]
    exact List.mem_map_of_mem (List.mem_filter.mpr ⟨ha, hk⟩)
  constructor
  · intro hall time hat a ha hkept hsame
    refine hall (a.name f captureID) ?_ (hname a ha hkept)
    rw [tries_eq_some hat]
    refine List.mem_singleton.mpr ((objectName_inj hne hpod).mpr ⟨hsame.2, hsame.1⟩)
  · intro hfresh k hk hmem
    obtain ⟨b, hb, rfl⟩ := List.mem_map.mp hk
    rw [Tape.names, hfirst] at hmem
    obtain ⟨a, ha, heq⟩ := List.mem_map.mp hmem
    obtain ⟨ha, hkept⟩ := List.mem_filter.mp ha
    rw [Option.mem_toList, Tape.tries] at hb
    obtain ⟨time, hat, rfl⟩ := Option.map_eq_some_iff.mp hb
    have hinj := (objectName_inj hne hpod).mp heq
    exact hfresh time hat a ha hkept ⟨hinj.2, hinj.1⟩

/-- **A whole session uses new names exactly if every call is fresh.** -/
theorem tried_run_iff (env : Env) (J : Codec) {first : Tape} {captureID : Str} {s : Store}
    (hne : captureID ≠ []) (hpod : Str.slash ∉ f.agentPod)
    (hfirst : first.wr.captureID = captureID) (h : Later f s captureID t) (calls : List Call) :
    Later f s captureID (t.run env f J calls)
      ∧ ((∀ k ∈ (t.run env f J calls).tried f, k ∉ first.names f)
        ↔ (∀ k ∈ t.tried f, k ∉ first.names f) ∧ t.Meets env f J (Fresh env J first) calls) := by
  induction calls generalizing t with
  | nil => exact ⟨h, (and_iff_left trivial).symm⟩
  | cons c calls ih =>
      obtain ⟨hstep, htried⟩ := h.step env J c
      obtain ⟨hrun, hiff⟩ := ih hstep
      refine ⟨hrun, hiff.trans ?_⟩
      have hone := fresh_iff env J t c hne hpod hfirst
      rw [htried, List.forall_mem_append, hone, and_assoc]
      rfl

theorem captureID_run (env : Env) (f : WriterFactory) (J : Codec) (t : Tape) (calls : List Call) :
    (t.run env f J calls).wr.captureID = t.wr.captureID := by
  induction calls generalizing t with
  | nil => rfl
  | cons c calls ih => exact (ih _).trans (step_tried env f J t c).1

theorem newWriter_ok {captureID : Str} {w w' : World} {wr : BufferedObjectWriter}
    (h : newWriter env f captureID w = (.ok wr, w')) :
    wr.captureID = captureID ∧ captureID ≠ [] ∧ w'.store = w.store := by
  unfold newWriter at h
  split at h
  · cases h
  · rename_i hne
    cases h
    exact ⟨rfl, hne, rfl⟩

section Sessions

variable {f₁ f₂ : WriterFactory} (captureID : Str) (w₀ : World) {w₁ w₂ : World}
  {wr₁ wr₂ : BufferedObjectWriter}

/-- **A restarted agent keeps what is stored exactly if no upload of the second session has
the date and the number of an object of the first**: for every two sessions of one backend,
capture and pod, and every clock. -/
theorem restart_keeps_iff (hbackend : f₂.backend = f₁.backend)
    (hagent : f₂.agentPod = f₁.agentPod) (hpod : Str.slash ∉ f₁.agentPod)
    (hnew₁ : newWriter env f₁ captureID w₀ = (.ok wr₁, w₁)) (calls₁ : List Call)
    (hnew₂ : newWriter env f₂ captureID ((Tape.start wr₁ w₁).run env f₁ J calls₁).w = (.ok wr₂, w₂))
    (calls₂ : List Call) :
    Keeps f₁ J ((Tape.start wr₁ w₁).run env f₁ J calls₁) ((Tape.start wr₂ w₂).run env f₂ J calls₂)
      ↔ (Tape.start wr₂ w₂).Meets env f₂ J (Fresh env J ((Tape.start wr₁ w₁).run env f₁ J calls₁))
        calls₂ := by
  have hname : Attempt.name f₂ = Attempt.name f₁ := by
    funext id a
    rw [Attempt.name, Attempt.name, hbackend, hagent]
  have hnames : ∀ t : Tape, t.names f₂ = t.names f₁ :=
    fun t => by rw [Tape.names, Tape.names, hname]
  obtain ⟨hid₁, hne, -⟩ := newWriter_ok hnew₁
  obtain ⟨hid₂, -, hstore⟩ := newWriter_ok hnew₂
  have hfirst : ((Tape.start wr₁ w₁).run env f₁ J calls₁).wr.captureID = captureID :=
    (captureID_run env f₁ J _ calls₁).trans hid₁
  generalize (Tape.start wr₁ w₁).run env f₁ J calls₁ = first at *
  have hstart : Later f₂ first.w.store captureID (Tape.start wr₂ w₂) :=
    ⟨hid₂, fun k _ => congrArg (Store.get · k) hstore⟩
  obtain ⟨hlater, hiff⟩ := tried_run_iff env J hne (hagent ▸ hpod) hfirst hstart calls₂
  have htried : ((Tape.start wr₂ w₂).run env f₂ J calls₂).tried f₁
      = ((Tape.start wr₂ w₂).run env f₂ J calls₂).tried f₂ := by
    rw [Tape.tried, Tape.tried, hname]
  rw [Keeps, htried, ← hnames first]
  constructor
  · intro hk
    exact (hiff.mp hk.1).2
  · intro hm
    have hnew := hiff.mpr ⟨fun k hk => absurd hk List.not_mem_nil, hm⟩
    refine ⟨hnew, fun req hreq => ?_⟩
    obtain ⟨k, hk, hmem⟩ := List.mem_flatMap.mp hreq
    refine List.mem_flatMap.mpr ⟨k, List.mem_append_left _ hk, ?_⟩
    rw [hlater.frame k fun ht => hnew k ht hk]
    exact hmem

end Sessions

/-! ## Two sessions -/

def putRequest : CapturedRequest := ⟨lit "b", 0, lit "PUT", lit "/", [], [], 0, lit "HTTP", []⟩

def twoCodec : Codec :=
  .ofTable [(getRequest, plainLine getRequest), (putRequest, plainLine putRequest)]
    (by decide +kernel) (by decide +kernel)

/-- Uploads that succeed; from the fifth look on the clock shows `late`. -/
def restartEnv (late : Time) : Env :=
  ⟨fun k => if k < 4 then 739618 * dayDuration else late, fun _ => .stored⟩

/-- A restart on the next day. -/
theorem restart_next_day : ∃ first second,
    cartSession (restartEnv (739619 * dayDuration)) twoCodec emptyWorld [.write getRequest,
      .close] = some first
      ∧ cartSession (restartEnv (739619 * dayDuration)) twoCodec first.w [.write putRequest,
        .close] = some second
      ∧ Keeps bucketFactory twoCodec first second := by
  refine ⟨_, _, rfl, rfl,
    (restart_keeps_iff (lit "shop/cart") emptyWorld rfl rfl (by decide) rfl _ rfl _).mpr ?_⟩
  decide +kernel

/-- **A restart on the same day replaces the first object**: its request can no longer be
read. -/
theorem restart_same_day_overwrites : ∃ first second,
    cartSession (restartEnv (739618 * dayDuration)) twoCodec emptyWorld [.write getRequest,
      .close] = some first
      ∧ cartSession (restartEnv (739618 * dayDuration)) twoCodec first.w [.write putRequest,
        .close] = some second
      ∧ readable twoCodec first.w.store first.w.store.keys = [getRequest]
      ∧ readable twoCodec second.w.store second.w.store.keys = [putRequest]
      ∧ ¬ Keeps bucketFactory twoCodec first second := by
  refine ⟨_, _, rfl, rfl, by decide +kernel, by decide +kernel, fun hk => ?_⟩
  have hlost := hk.2 getRequest (by decide +kernel)
  revert hlost
  decide +kernel

end Kapture.Storage
