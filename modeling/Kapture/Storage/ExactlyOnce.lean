import Mathlib.Data.List.Dedup
import Kapture.Replay.ReadBack
import Kapture.Storage.Calls
import Kapture.Storage.Pace

/-!
# What a session stores

A writer keeps its buffer when an upload fails, and tries again later with more lines and
under a name that it computes anew. Two things can be left of the first try: nothing, or the
whole object, if the store or the artifact recorder reported an error after the fact. In the
second case the retry must replace the object, and it does so only if it has the same name.
The number in the name is the same; the date is that of the retry.

So a retry after midnight leaves the first object where it is, and its requests are stored
twice. `exactly_once_iff` says that **nothing else goes wrong**: once `Close` has returned nil,
the objects of the session hold each request that was taken exactly once if every upload that
succeeded replaced what failed uploads of its number had left, and otherwise some request
twice.
-/

namespace Kapture.Storage

open Go Replay

/-- Decoding undoes encoding. -/
def Codec.Invertible (J : Codec) : Prop :=
  ∀ req line, J.marshal req = .ok line → J.unmarshal line = .ok req

/-- Uploads store an object as a whole or not at all. -/
def Untorn (env : Env) : Prop := ∀ k madeDir n err, env.put k ≠ .failed madeDir (.part n) err

/-- The requests in an object. -/
def contents (J : Codec) : Option Object → List CapturedRequest
  | some (.gz (.gzip data _)) => (scanTokens data).filterMap fun line => (J.unmarshal line).toOption
  | _ => []

/-- The names under which a session left an object. -/
def Tape.names (f : WriterFactory) (t : Tape) : List Str :=
  (t.attempts.filter Attempt.kept).map (Attempt.name f t.wr.captureID)

/-- The requests in the objects of a session. -/
def Tape.stored (f : WriterFactory) (J : Codec) (t : Tape) : List CapturedRequest :=
  (t.names f).dedup.flatMap fun k => contents J (t.w.store.get k)

/-- **Each request is stored as often as it was taken, if its `Write` returned nil**, and never
more often. A request that was written once is stored exactly once, or at most once. -/
def ExactlyOnce (f : WriterFactory) (J : Codec) (t : Tape) : Prop :=
  ∀ req, t.accepted.count req ≤ (t.stored f J).count req
    ∧ (t.stored f J).count req ≤ t.taken.count req

/-- If the call uploads an object, it replaces those that failed uploads of its number left. -/
def Replaces (env : Env) (f : WriterFactory) (J : Codec) (t : Tape) (c : Call) : Prop :=
  ∀ a ∈ t.tries env J c, a.outcome = .stored → ∀ b ∈ t.attempts, b.seq = a.seq → b.kept = true →
    b.name f t.wr.captureID = a.name f t.wr.captureID

instance (env : Env) (f : WriterFactory) (J : Codec) (t : Tape) (c : Call) :
    Decidable (Replaces env f J t c) :=
  decidable_of_iff (∀ a ∈ (t.tries env J c).toList, a.outcome = .stored → ∀ b ∈ t.attempts,
    b.seq = a.seq → b.kept = true → b.name f t.wr.captureID = a.name f t.wr.captureID)
    (by simp only [Option.mem_toList, Option.mem_def, Replaces])

theorem contents_encode {J : Codec} (hJ : J.Invertible) {reqs : List CapturedRequest}
    (hm : ∀ req ∈ reqs, Marshals J req) :
    contents J (some (.gz (.gzip (encode J reqs) none))) = reqs := by
  rw [contents, scanTokens_encode hm, List.filterMap_map]
  have hsome : ∀ req ∈ reqs, (J.unmarshal (lineOf J req)).toOption = some req := by
    intro req hreq
    obtain ⟨line, hl⟩ := hm req hreq
    have hline : lineOf J req = line := by simp [lineOf, hl]
    rw [hline, hJ req line hl]
    rfl
  exact (List.filterMap_congr hsome).trans List.filterMap_some

/-! ## The objects of a session -/

/-- The objects of a session, by what became of them: those of uploads that succeeded, those
that failed uploads left and that nothing replaced, and those that failed uploads of the lines
in the buffer left. -/
structure Held (f : WriterFactory) (J : Codec) (t : Tape)
    (done strays lefts : List (Str × List CapturedRequest)) : Prop where
  id : t.wr.captureID ≠ []
  buffer : t.wr.buffer = encode J t.pending
  marshals : ∀ req ∈ t.taken, Marshals J req
  taken : t.taken = done.flatMap Prod.snd ++ t.pending
  accepted : t.accepted.Sublist t.taken
  closed : t.wr.closed = true → t.pending = []
  names : ∀ n, n ∈ t.names f ↔ n ∈ (done ++ strays ++ lefts).map Prod.fst
  nodup : ((done ++ strays ++ lefts).map Prod.fst).Nodup
  stored : ∀ o ∈ done ++ strays ++ lefts, t.w.store.get o.1 = some (.gz (.gzip (encode J o.2) none))
  old : ∀ o ∈ done ++ strays, ∃ ts seq, seq ≤ t.wr.sequence
    ∧ o.1 = f.backend.objectName t.wr.captureID f.agentPod ts seq
  stray : ∀ o ∈ strays, o.2 ≠ [] ∧ ∀ req ∈ o.2, req ∈ t.taken
  left : ∀ o ∈ lefts, o.2 ≠ [] ∧ o.2 <+: t.pending
  retried : ∀ n, n ∈ lefts.map Prod.fst ↔ ∃ b ∈ t.attempts, b.seq = t.wr.sequence + 1
    ∧ b.kept = true ∧ b.name f t.wr.captureID = n
  numbers : ∀ b ∈ t.attempts, b.seq ≤ t.wr.sequence + 1

variable {env : Env} {f : WriterFactory} {J : Codec} {t : Tape} {c : Call}
  {done strays lefts : List (Str × List CapturedRequest)}

variable {wr : BufferedObjectWriter}

theorem marshals_takes : ∀ req ∈ c.takes J wr, Marshals J req := by
  intro req hreq
  cases c with
  | write r =>
      cases hm : J.marshal r with
      | error err => simp [Call.takes, hm] at hreq
      | ok line =>
          have hr : req = r := by
            simp only [Call.takes, hm] at hreq
            split at hreq
            · cases hreq
            · exact List.mem_singleton.mp hreq
          exact ⟨line, hr ▸ hm⟩
  | flush => cases hreq
  | close => cases hreq

/-- Names that other numbers leave alone. -/
theorem Held.fresh (h : Held f J t done strays lefts) (ts : Time) {o : Str × List CapturedRequest}
    (ho : o ∈ done ++ strays) :
    o.1 ≠ f.backend.objectName t.wr.captureID f.agentPod ts (t.wr.sequence + 1) := by
  obtain ⟨ts', seq, hle, hname⟩ := h.old o ho
  intro heq
  have := objectName_seq h.id (hname.symm.trans heq)
  omega

theorem accepted_sublist {acc taken x : List CapturedRequest} (h : acc.Sublist taken) (ok : Bool) :
    (if ok then acc ++ x else acc).Sublist (taken ++ x) := by
  split
  · exact h.append (List.Sublist.refl x)
  · exact h.trans (List.sublist_append_left taken x)

theorem marshals_append (h : Held f J t done strays lefts) :
    ∀ req ∈ t.taken ++ c.takes J t.wr, Marshals J req := by
  intro req hreq
  rcases List.mem_append.mp hreq with hreq | hreq
  · exact h.marshals req hreq
  · exact marshals_takes req hreq

section Step

variable {res : Except Error Unit} {wr' : BufferedObjectWriter} {w' : World} {key : Str}
  {time : Time}

/-- A call that changes no object: it uploads nothing, or what it tries to upload fails and is
lost. -/
theorem Held.quiet (h : Held f J t done strays lefts) (hi : Idle J c t.wr wr' t.w w')
    {acc : List CapturedRequest} (hacc : acc.Sublist (t.taken ++ c.takes J t.wr))
    (lost : List Attempt) (hlost : ∀ b ∈ lost, b.kept = false ∧ b.seq = t.wr.sequence + 1) :
    Held f J ⟨wr', w', t.pending ++ c.takes J t.wr, t.attempts ++ lost, t.taken ++ c.takes J t.wr,
      acc⟩ done strays lefts := by
  have hbuf : wr'.buffer = encode J (t.pending ++ c.takes J t.wr) := by
    rw [hi.buffer, h.buffer, encode_append]
  have hm := marshals_append h (c := c)
  have hkept : ∀ b ∈ t.attempts ++ lost, b.kept = true → b ∈ t.attempts := by
    intro b hb hk
    rcases List.mem_append.mp hb with hb | hb
    · exact hb
    · rw [(hlost b hb).1] at hk
      cases hk
  constructor
  · exact hi.captureID ▸ h.id
  · exact hbuf
  · exact hm
  · change t.taken ++ _ = _ ++ (t.pending ++ _)
    rw [h.taken, List.append_assoc]
  · exact hacc
  · intro hc
    rcases hi.closed hc with ⟨hcl, ht⟩ | hnil
    · change t.pending ++ _ = []
      rw [ht, h.closed hcl]
      rfl
    · refine eq_nil_of_encode (fun req hreq => hm req ?_) (hbuf.symm.trans hnil)
      rcases List.mem_append.mp hreq with hreq | hreq
      · refine List.mem_append_left _ ?_
        rw [h.taken]
        exact List.mem_append_right _ hreq
      · exact List.mem_append_right _ hreq
  · intro n
    have hnone : lost.filter Attempt.kept = [] := by
      refine List.filter_eq_nil_iff.mpr fun b hb => ?_
      rw [(hlost b hb).1]
      exact Bool.false_ne_true
    rw [← h.names n, Tape.names, Tape.names, List.filter_append, hnone, List.append_nil,
      hi.captureID]
  · exact h.nodup
  · intro o ho
    rw [← h.stored o ho]
    exact hi.store o.1
  · intro o ho
    rw [hi.captureID, hi.sequence]
    exact h.old o ho
  · intro o ho
    exact ⟨(h.stray o ho).1, fun req hreq => List.mem_append_left _ ((h.stray o ho).2 req hreq)⟩
  · intro o ho
    exact ⟨(h.left o ho).1, (h.left o ho).2.trans (List.prefix_append _ _)⟩
  · intro n
    rw [hi.sequence, hi.captureID, h.retried n]
    constructor
    · rintro ⟨b, hb, hrest⟩
      exact ⟨b, List.mem_append_left _ hb, hrest⟩
    · rintro ⟨b, hb, hbseq, hbkept, hname⟩
      exact ⟨b, hkept b hb hbkept, hbseq, hbkept, hname⟩
  · intro b hb
    rw [hi.sequence]
    rcases List.mem_append.mp hb with hb | hb
    · exact h.numbers b hb
    · exact (hlost b hb).2.le

/-- A call that uploads nothing. -/
theorem Held.idle (h : Held f J t done strays lefts) (hx : c.exec env f J t.wr t.w = (res, wr', w'))
    (hat : c.uploadsAt env J t.wr t.w = none) (hi : Idle J c t.wr wr' t.w w') :
    Held f J (t.step env f J c) done strays lefts := by
  have hq := h.quiet hi (accepted_sublist h.accepted res.isOk) [] nofun
  rwa [List.append_nil, ← step_idle hx hat] at hq

/-- The objects that failed uploads left under other names. -/
def others (key : Str)
    (lefts : List (Str × List CapturedRequest)) : List (Str × List CapturedRequest) :=
  lefts.filter (·.1 ≠ key)

theorem others_sublist (key : Str) : (others key lefts).Sublist lefts := List.filter_sublist

theorem mem_others {o : Str × List CapturedRequest} :
    o ∈ others key lefts ↔ o ∈ lefts ∧ o.1 ≠ key := by
  rw [others, List.mem_filter, decide_eq_true_iff]

/-- The objects with one more under the name of an upload: what was there before is replaced. -/
theorem Held.replaced (h : Held f J t done strays lefts) (time : Time)
    (reqs : List CapturedRequest)
    (hkey : key = f.backend.objectName t.wr.captureID f.agentPod time (t.wr.sequence + 1)) :
    (∀ n, n ∈ t.names f ∨ n = key
      ↔ n ∈ ((key, reqs) :: (done ++ strays ++ others key lefts)).map Prod.fst)
      ∧ (((key, reqs) :: (done ++ strays ++ others key lefts)).map Prod.fst).Nodup
      ∧ ∀ o ∈ done ++ strays ++ others key lefts, o.1 ≠ key ∧ o ∈ done ++ strays ++ lefts := by
  have hsub : (done ++ strays ++ others key lefts).Sublist (done ++ strays ++ lefts) :=
    (List.Sublist.refl _).append (others_sublist key)
  have hne : ∀ o ∈ done ++ strays ++ others key lefts, o.1 ≠ key := by
    intro o ho
    rcases List.mem_append.mp ho with ho | ho
    · rw [hkey]
      exact h.fresh time ho
    · exact (mem_others.mp ho).2
  refine ⟨fun n => ?_, ?_, fun o ho => ⟨hne o ho, hsub.subset ho⟩⟩
  · rw [h.names n, List.map_cons, List.mem_cons, or_comm]
    by_cases hn : n = key
    · simp [hn]
    · refine or_congr_right ⟨fun hmem => ?_, fun hmem => (hsub.map Prod.fst).subset hmem⟩
      obtain ⟨o, ho, rfl⟩ := List.mem_map.mp hmem
      refine List.mem_map_of_mem ?_
      rcases List.mem_append.mp ho with ho | ho
      · exact List.mem_append_left _ ho
      · exact List.mem_append_right _ (mem_others.mpr ⟨ho, hn⟩)
  · rw [List.map_cons, List.nodup_cons]
    refine ⟨fun hmem => ?_, h.nodup.sublist (hsub.map Prod.fst)⟩
    obtain ⟨o, ho, heq⟩ := List.mem_map.mp hmem
    exact hne o ho heq

/-- What an upload leaves in the store, if it leaves the whole object. -/
theorem Held.stored_replaced (h : Held f J t done strays lefts)
    (hu : Uploads env f J c time res t.wr wr' t.w w')
    (hleft : (env.put t.w.puts).leaves (.gz (.gzip (t.wr.buffer ++ encode J (c.takes J t.wr)) none))
      = some (.gz (.gzip (t.wr.buffer ++ encode J (c.takes J t.wr)) none)))
    (hkey : key = f.backend.objectName t.wr.captureID f.agentPod time (t.wr.sequence + 1)) :
    ∀ o ∈ (key, t.pending ++ c.takes J t.wr) :: (done ++ strays ++ others key lefts),
      w'.store.get o.1 = some (.gz (.gzip (encode J o.2) none)) := by
  intro o ho
  rcases List.mem_cons.mp ho with rfl | ho
  · change w'.store.get key = _
    rw [hkey, hu.here, hleft, Option.some_or, h.buffer, encode_append]
  · obtain ⟨-, -, hrest⟩ := h.replaced time [] hkey
    obtain ⟨hne, hmem⟩ := hrest o ho
    rw [hu.elsewhere o.1 (hkey ▸ hne), h.stored o hmem]

/-- The names after an upload. -/
theorem mem_names_append {a : Attempt} {wr₁ : BufferedObjectWriter}
    (hid : wr₁.captureID = t.wr.captureID) {w₁ : World} {p q r : List CapturedRequest}
    (hk : a.kept = true) (n : Str) :
    n ∈ (Tape.mk wr₁ w₁ p (t.attempts ++ [a]) q r).names f
      ↔ n ∈ t.names f ∨ n = a.name f t.wr.captureID := by
  rw [Tape.names, Tape.names, List.filter_append, List.map_append, List.mem_append, hid]
  simp [hk]

theorem pending_marshals (h : Held f J t done strays lefts) :
    ∀ req ∈ t.pending ++ c.takes J t.wr, Marshals J req ∧ req ∈ t.taken ++ c.takes J t.wr := by
  intro req hreq
  have hmem : req ∈ t.taken ++ c.takes J t.wr := by
    rcases List.mem_append.mp hreq with hreq | hreq
    · rw [h.taken]
      exact List.mem_append_left _ (List.mem_append_right _ hreq)
    · exact List.mem_append_right _ hreq
  exact ⟨marshals_append h req hmem, hmem⟩

/-- What is uploaded is not empty. -/
theorem Held.nonempty (h : Held f J t done strays lefts)
    (hu : Uploads env f J c time res t.wr wr' t.w w') : t.pending ++ c.takes J t.wr ≠ [] := by
  intro hnil
  refine hu.nonempty ?_
  rw [h.buffer, ← encode_append, hnil]
  rfl

/-- An upload that succeeds. -/
theorem Held.uploaded (h : Held f J t done strays lefts)
    (hx : c.exec env f J t.wr t.w = (res, wr', w')) (hat : c.uploadsAt env J t.wr t.w = some time)
    (hu : Uploads env f J c time res t.wr wr' t.w w') (hput : env.put t.w.puts = .stored)
    (hseq : wr'.sequence = t.wr.sequence + 1) (hbuf : wr'.buffer = [])
    (hkey : key = f.backend.objectName t.wr.captureID f.agentPod time (t.wr.sequence + 1)) :
    Held f J (t.step env f J c) (done ++ [(key, t.pending ++ c.takes J t.wr)])
      (strays ++ others key lefts) [] := by
  rw [step_uploads hx hat, if_pos hput]
  obtain ⟨hnames, hnodup, hrest⟩ := h.replaced time (t.pending ++ c.takes J t.wr) hkey
  have hstored := h.stored_replaced hu (by rw [hput]; rfl) hkey
  have hperm : (done ++ [(key, t.pending ++ c.takes J t.wr)] ++ (strays ++ others key lefts)
      ++ []).Perm
      ((key, t.pending ++ c.takes J t.wr) :: (done ++ strays ++ others key lefts)) := by
    rw [List.append_nil, List.append_assoc, List.append_assoc]
    exact List.perm_middle
  constructor
  · exact hu.captureID ▸ h.id
  · exact hbuf
  · exact marshals_append h
  · change t.taken ++ _ = _
    rw [h.taken, List.flatMap_append]
    simp
  · exact accepted_sublist h.accepted _
  · exact fun _ => rfl
  · intro n
    rw [mem_names_append hu.captureID (by rw [hput]; rfl), (hperm.map Prod.fst).mem_iff,
      ← hnames n, hkey]
    rfl
  · exact (hperm.map Prod.fst).nodup_iff.mpr hnodup
  · exact fun o ho => hstored o (hperm.mem_iff.mp ho)
  · intro o ho
    rw [hu.captureID, hseq]
    have ho' : o ∈ (key, t.pending ++ c.takes J t.wr) :: (done ++ strays ++ others key lefts) := by
      refine hperm.mem_iff.mp ?_
      rw [List.append_nil]
      exact ho
    rcases List.mem_cons.mp ho' with rfl | ho'
    · exact ⟨time, t.wr.sequence + 1, le_rfl, hkey⟩
    · rcases List.mem_append.mp ho' with ho' | ho'
      · obtain ⟨ts, seq, hle, hname⟩ := h.old o ho'
        exact ⟨ts, seq, by omega, hname⟩
      · obtain ⟨b, -, hb, -, hname⟩ :=
          (h.retried o.1).mp (List.mem_map_of_mem (mem_others.mp ho').1)
        exact ⟨b.time, b.seq, by omega, hname.symm⟩
  · intro o ho
    rcases List.mem_append.mp ho with ho | ho
    · exact ⟨(h.stray o ho).1, fun req hreq => List.mem_append_left _ ((h.stray o ho).2 req hreq)⟩
    · have hl := h.left o (mem_others.mp ho).1
      refine ⟨hl.1, fun req hreq => (pending_marshals h req ?_).2⟩
      exact List.mem_append_left _ (hl.2.subset hreq)
  · intro o ho
    cases ho
  · intro n
    refine iff_of_false (by simp) ?_
    rintro ⟨b, hb, hbseq, -, -⟩
    change b.seq = wr'.sequence + 1 at hbseq
    rcases List.mem_append.mp hb with hb | hb
    · have := h.numbers b hb
      omega
    · rw [List.mem_singleton.mp hb, hseq] at hbseq
      change t.wr.sequence + 1 = _ at hbseq
      omega
  · intro b hb
    change b.seq ≤ wr'.sequence + 1
    rcases List.mem_append.mp hb with hb | hb
    · have := h.numbers b hb
      omega
    · rw [List.mem_singleton.mp hb, hseq]
      exact Nat.le_succ _

/-- A failed upload that left its whole object. -/
theorem Held.leftWhole (h : Held f J t done strays lefts)
    (hx : c.exec env f J t.wr t.w = (res, wr', w')) (hat : c.uploadsAt env J t.wr t.w = some time)
    (hu : Uploads env f J c time res t.wr wr' t.w w') {madeDir : Bool} {err : Error}
    (hput : env.put t.w.puts = .failed madeDir .whole err) (hseq : wr'.sequence = t.wr.sequence)
    (hbuf : wr'.buffer = t.wr.buffer ++ encode J (c.takes J t.wr)) (hopen : wr'.closed = false)
    (hkey : key = f.backend.objectName t.wr.captureID f.agentPod time (t.wr.sequence + 1)) :
    Held f J (t.step env f J c) done strays
      ((key, t.pending ++ c.takes J t.wr) :: others key lefts) := by
  rw [step_uploads hx hat, if_neg (by rw [hput]; exact nofun)]
  obtain ⟨hnames, hnodup, hrest⟩ := h.replaced time (t.pending ++ c.takes J t.wr) hkey
  have hstored := h.stored_replaced hu (by rw [hput]; rfl) hkey
  have hperm : (done ++ strays ++ ((key, t.pending ++ c.takes J t.wr) :: others key lefts)).Perm
      ((key, t.pending ++ c.takes J t.wr) :: (done ++ strays ++ others key lefts)) :=
        List.perm_middle
  have hkept : Attempt.kept ⟨time, t.wr.sequence + 1, t.pending ++ c.takes J t.wr,
      env.put t.w.puts⟩ = true := by
    rw [hput]
    rfl
  constructor
  · exact hu.captureID ▸ h.id
  · change wr'.buffer = _
    rw [hbuf, h.buffer, encode_append]
  · exact marshals_append h
  · change t.taken ++ _ = _ ++ (t.pending ++ _)
    rw [h.taken, List.append_assoc]
  · exact accepted_sublist h.accepted _
  · intro hc
    change wr'.closed = true at hc
    rw [hopen] at hc
    cases hc
  · intro n
    rw [mem_names_append hu.captureID hkept, (hperm.map Prod.fst).mem_iff, ← hnames n, hkey]
    rfl
  · exact (hperm.map Prod.fst).nodup_iff.mpr hnodup
  · exact fun o ho => hstored o (hperm.mem_iff.mp ho)
  · intro o ho
    change ∃ ts seq, seq ≤ wr'.sequence ∧ o.1 = f.backend.objectName wr'.captureID f.agentPod ts seq
    rw [hu.captureID, hseq]
    exact h.old o ho
  · intro o ho
    exact ⟨(h.stray o ho).1, fun req hreq => List.mem_append_left _ ((h.stray o ho).2 req hreq)⟩
  · intro o ho
    rcases List.mem_cons.mp ho with rfl | ho
    · exact ⟨h.nonempty hu, List.prefix_refl _⟩
    · have hl := h.left o (mem_others.mp ho).1
      exact ⟨hl.1, hl.2.trans (List.prefix_append _ _)⟩
  · intro n
    change _ ↔ ∃ b ∈ t.attempts ++ [_], b.seq = wr'.sequence + 1 ∧ b.kept = true
      ∧ b.name f wr'.captureID = n
    rw [hseq, hu.captureID, List.map_cons, List.mem_cons]
    constructor
    · rintro (rfl | hmem)
      · exact ⟨_, List.mem_append_right _ (List.mem_singleton_self _), rfl, hkept, hkey.symm⟩
      · have hn := ((others_sublist key).map Prod.fst).subset hmem
        obtain ⟨b, hb, hrest⟩ := (h.retried n).mp hn
        exact ⟨b, List.mem_append_left _ hb, hrest⟩
    · rintro ⟨b, hb, hbseq, hbkept, rfl⟩
      by_cases hn : b.name f t.wr.captureID = key
      · exact Or.inl hn
      · right
        rcases List.mem_append.mp hb with hb | hb
        · obtain ⟨o, ho, heq⟩ := List.mem_map.mp ((h.retried _).mpr ⟨b, hb, hbseq, hbkept, rfl⟩)
          exact List.mem_map.mpr ⟨o, mem_others.mpr ⟨ho, heq ▸ hn⟩, heq⟩
        · rw [List.mem_singleton.mp hb] at hn
          exact absurd hkey.symm hn
  · intro b hb
    rw [hseq]
    rcases List.mem_append.mp hb with hb | hb
    · exact h.numbers b hb
    · rw [List.mem_singleton.mp hb]

/-- A failed upload that left nothing. -/
theorem Held.leftNothing (h : Held f J t done strays lefts)
    (hx : c.exec env f J t.wr t.w = (res, wr', w')) (hat : c.uploadsAt env J t.wr t.w = some time)
    (hu : Uploads env f J c time res t.wr wr' t.w w') {madeDir : Bool} {err : Error}
    (hput : env.put t.w.puts = .failed madeDir .nothing err) (hseq : wr'.sequence = t.wr.sequence)
    (hbuf : wr'.buffer = t.wr.buffer ++ encode J (c.takes J t.wr)) (hopen : wr'.closed = false) :
    Held f J (t.step env f J c) done strays lefts := by
  rw [step_uploads hx hat, if_neg (by rw [hput]; exact nofun)]
  refine h.quiet ⟨fun k => ?_, hu.captureID, hseq, hbuf, ?_⟩ (accepted_sublist h.accepted _) _ ?_
  · by_cases hk : k = f.backend.objectName t.wr.captureID f.agentPod time (t.wr.sequence + 1)
    · rw [hk, hu.here, hput]
      rfl
    · exact hu.elsewhere k hk
  · rw [hopen]
    exact nofun
  · intro b hb
    rw [List.mem_singleton.mp hb, hput]
    exact ⟨rfl, rfl⟩

end Step

theorem others_eq_nil {key : Str} : others key lefts = [] ↔ ∀ n ∈ lefts.map Prod.fst, n = key := by
  rw [others, List.filter_eq_nil_iff]
  constructor
  · intro hall n hn
    obtain ⟨o, ho, rfl⟩ := List.mem_map.mp hn
    simpa using hall o ho
  · intro hall o ho
    simpa using hall o.1 (List.mem_map_of_mem ho)

/-- **One call**: it leaves another stray object behind exactly if it uploads under a name that
does not replace what failed uploads left. -/
theorem Held.step (h : Held f J t done strays lefts) (hwhole : Untorn env) (c : Call) :
    ∃ done' strays' lefts', Held f J (t.step env f J c) done' strays' lefts'
      ∧ (strays' = [] ↔ strays = [] ∧ Replaces env f J t c) := by
  obtain ⟨res, wr', w', hx⟩ : ∃ res wr' w', c.exec env f J t.wr t.w = (res, wr', w') :=
    ⟨_, _, _, rfl⟩
  rcases exec_cases hx with ⟨hat, -, hi⟩ | ⟨time, hat, -, hu⟩
  · refine ⟨done, strays, lefts, h.idle hx hat hi, (and_iff_left ?_).symm⟩
    intro a ha
    rw [tries_eq_none hat] at ha
    cases ha
  · rcases hu.ends with ⟨-, hput, hseq, hbuf⟩ | ⟨madeDir, left, err, -, hput, hseq, hbuf, hopen⟩
    · refine ⟨_, _, _, h.uploaded hx hat hu hput hseq hbuf rfl, ?_⟩
      rw [List.append_eq_nil_iff]
      refine and_congr_right fun _ => others_eq_nil.trans ⟨fun hall a ha _ b hb hbseq hbkept => ?_,
        fun hr n hn => ?_⟩
      · rw [tries_eq_some hat] at ha
        cases ha
        exact hall _ ((h.retried _).mpr ⟨b, hb, hbseq, hbkept, rfl⟩)
      · obtain ⟨b, hb, hbseq, hbkept, rfl⟩ := (h.retried n).mp hn
        exact hr _ (tries_eq_some hat) hput b hb hbseq hbkept
    · -- a failed upload replaces nothing for good
      have hfail : Replaces env f J t c := by
        intro a ha hstored
        rw [tries_eq_some hat] at ha
        cases ha
        rw [hput] at hstored
        cases hstored
      cases left with
      | nothing =>
          exact ⟨_, _, _, h.leftNothing hx hat hu hput hseq hbuf hopen, (and_iff_left hfail).symm⟩
      | whole =>
          exact ⟨_, _, _, h.leftWhole hx hat hu hput hseq hbuf hopen rfl, (and_iff_left hfail).symm⟩
      | part n => exact absurd hput (hwhole _ _ _ _)

/-- **A whole session.** -/
theorem Held.run (h : Held f J t done strays lefts) (hwhole : Untorn env) (calls : List Call) :
    ∃ done' strays' lefts', Held f J (t.run env f J calls) done' strays' lefts'
      ∧ (strays' = [] ↔ strays = [] ∧ t.Meets env f J (Replaces env f J) calls) := by
  induction calls generalizing t done strays lefts with
  | nil => exact ⟨done, strays, lefts, h, (and_iff_left trivial).symm⟩
  | cons c calls ih =>
      obtain ⟨d, s, l, h', hiff⟩ := h.step hwhole c
      obtain ⟨d', s', l', h'', hiff'⟩ := ih h'
      refine ⟨d', s', l', h'', ?_⟩
      rw [hiff', hiff, and_assoc]
      rfl

/-- The objects of a closed session: the requests that were taken, and once more those in
stray objects. -/
theorem Held.stored_perm (h : Held f J t done strays lefts) (hJ : J.Invertible)
    (hclosed : t.wr.closed = true) :
    (t.stored f J).Perm (t.taken ++ strays.flatMap Prod.snd) := by
  have hp := h.closed hclosed
  obtain rfl : lefts = [] := by
    refine List.eq_nil_iff_forall_not_mem.mpr fun o ho => ?_
    obtain ⟨hne, hpre⟩ := h.left o ho
    rw [hp] at hpre
    exact hne (List.prefix_nil.mp hpre)
  have hnames : (t.names f).dedup.Perm ((done ++ strays).map Prod.fst) := by
    refine (List.perm_ext_iff_of_nodup (List.nodup_dedup _) ?_).mpr fun n => ?_
    · have := h.nodup
      rwa [List.append_nil] at this
    · rw [List.mem_dedup, h.names n, List.append_nil]
  have hcont : ∀ o ∈ done ++ strays, contents J (t.w.store.get o.1) = o.2 := by
    intro o ho
    rw [h.stored o (List.mem_append_left _ ho)]
    refine contents_encode hJ fun req hreq => h.marshals req ?_
    rcases List.mem_append.mp ho with ho | ho
    · rw [h.taken]
      exact List.mem_append_left _ (List.mem_flatMap.mpr ⟨o, ho, hreq⟩)
    · exact (h.stray o ho).2 req hreq
  have hflat : ((done ++ strays).map Prod.fst).flatMap (fun k => contents J (t.w.store.get k))
      = (done ++ strays).flatMap Prod.snd := by
    rw [List.flatMap_map]
    exact List.flatMap_congr hcont
  have htaken : t.taken = done.flatMap Prod.snd := by rw [h.taken, hp, List.append_nil]
  rw [htaken, ← List.flatMap_append, ← hflat]
  exact hnames.flatMap_right _

theorem Held.exactlyOnce_iff (h : Held f J t done strays lefts) (hJ : J.Invertible)
    (hclosed : t.wr.closed = true) : ExactlyOnce f J t ↔ strays = [] := by
  have hcount : ∀ req, (t.stored f J).count req
      = t.taken.count req + (strays.flatMap Prod.snd).count req := by
    intro req
    rw [(h.stored_perm hJ hclosed).count_eq, List.count_append]
  constructor
  · intro hex
    refine List.eq_nil_iff_forall_not_mem.mpr fun o ho => ?_
    obtain ⟨req, hreq⟩ := List.exists_mem_of_ne_nil _ (h.stray o ho).1
    have hpos : 0 < (strays.flatMap Prod.snd).count req :=
      List.count_pos_iff.mpr (List.mem_flatMap.mpr ⟨o, ho, hreq⟩)
    have hle := (hex req).2
    rw [hcount] at hle
    omega
  · rintro rfl req
    rw [hcount]
    exact ⟨Nat.le_add_right_of_le (h.accepted.count_le req), Nat.le_of_eq (Nat.add_zero _)⟩

theorem held_start {w : World} (hid : wr.captureID ≠ []) (hb : wr.buffer = []) :
    Held f J (.start wr w) [] [] [] where
  id := hid
  buffer := hb
  marshals := by simp [Tape.start]
  taken := rfl
  accepted := List.Sublist.refl _
  closed := fun _ => rfl
  names := by simp [Tape.names, Tape.start]
  nodup := List.nodup_nil
  stored := by simp
  old := by simp
  stray := by simp
  left := by simp
  retried := by simp [Tape.start]
  numbers := by simp [Tape.start]

/-- **Once `Close` has returned nil, every request is stored exactly once, exactly if every
upload that succeeded replaced what failed uploads of its number had left**: for every list of
calls, every clock and every pattern of outcomes. -/
theorem exactly_once_iff (captureID : Str) (w₀ : World) {w : World} {wr : BufferedObjectWriter}
    (hJ : J.Invertible) (hwhole : Untorn env) (hnew : newWriter env f captureID w₀ = (.ok wr, w))
    (calls : List Call) (hclosed : ((Tape.start wr w).run env f J calls).wr.closed = true) :
    ExactlyOnce f J ((Tape.start wr w).run env f J calls)
      ↔ (Tape.start wr w).Meets env f J (Replaces env f J) calls := by
  obtain ⟨hid, hb⟩ : wr.captureID ≠ [] ∧ wr.buffer = [] := by
    unfold newWriter at hnew
    split at hnew
    · cases hnew
    · rename_i hne
      cases hnew
      exact ⟨hne, rfl⟩
  obtain ⟨done, strays, lefts, h, hiff⟩ := (held_start (J := J) (w := w) hid hb).run hwhole calls
  rw [h.exactlyOnce_iff hJ hclosed, hiff, and_iff_right rfl]

/-! ## Two sessions -/

theorem invertible_ofTable {table : List (CapturedRequest × Str)}
    (hline : ∀ e ∈ table, table.find? (fun e' => e'.2 = e.2) = some e)
    (hprint : ∀ e ∈ table, ∀ b ∈ e.2, 32 ≤ b) : (Codec.ofTable table hline hprint).Invertible := by
  intro req line h
  simp only [Codec.ofTable] at h ⊢
  split at h
  · rename_i e he
    cases h
    rw [hline e (List.mem_of_find?_eq_some he)]
    have heq := List.find?_some he
    rw [decide_eq_true_iff] at heq
    simp only [heq]
  · cases h

def getRequest : CapturedRequest := ⟨lit "a", 0, lit "GET", lit "/", [], [], 0, lit "HTTP", []⟩

def getCodec : Codec :=
  .ofTable [(getRequest, plainLine getRequest)] (by decide +kernel) (by decide +kernel)

theorem invertible_getCodec : getCodec.Invertible := invertible_ofTable _ _

/-- A writer into a bucket. -/
def bucketFactory : WriterFactory := ⟨⟨.s3, lit "data"⟩, lit "agent-0", 0, 0⟩

/-- The first upload is reported as failed after it was stored; from the third look on the
clock shows `late`. -/
def lateEnv (late : Time) : Env :=
  ⟨fun k => if k < 3 then 739618 * dayDuration else late,
    fun k => if k = 0 then .failed false .whole (.new "record s3 artifact") else .stored⟩

theorem untorn_lateEnv (late : Time) : Untorn (lateEnv late) := by
  intro k madeDir n err h
  unfold lateEnv at h
  dsimp only at h
  split at h
  · cases h
  · cases h

theorem monotone_lateEnv {late : Time} (h : 739618 * dayDuration ≤ late) :
    Monotone (lateEnv late) := by
  intro j k hjk
  unfold lateEnv
  dsimp only
  split
  · split
    · exact le_rfl
    · exact h
  · split
    · omega
    · exact le_rfl

def emptyWorld : World := ⟨Store.empty, 0, 0, []⟩

/-- A session of the agent of one capture. -/
def cartSession (env : Env) (J : Codec) (w : World) (calls : List Call) : Option Tape :=
  match newWriter env bucketFactory (lit "shop/cart") w with
  | (.ok wr, w') => some ((Tape.start wr w').run env bucketFactory J calls)
  | (.error _, _) => none

/-- A retry on the same day. -/
theorem exactly_once_same_day : ∃ t,
    cartSession (lateEnv (739618 * dayDuration + 1)) getCodec emptyWorld [.write getRequest,
      .flush, .close]
        = some t
      ∧ t.wr.closed = true ∧ ExactlyOnce bucketFactory getCodec t := by
  refine ⟨_, rfl, by decide +kernel, ?_⟩
  refine (exactly_once_iff (lit "shop/cart") emptyWorld invertible_getCodec (untorn_lateEnv _) rfl _
    ?_).mpr ?_
  · decide +kernel
  · decide +kernel

/-- **A retry after midnight stores the request twice.** -/
theorem stored_twice_after_midnight : Monotone (lateEnv (739619 * dayDuration))
    ∧ Untorn (lateEnv (739619 * dayDuration)) ∧ getCodec.Invertible ∧ ∃ t,
    cartSession (lateEnv (739619 * dayDuration)) getCodec emptyWorld [.write getRequest,
      .flush, .close]
        = some t
      ∧ t.wr.closed = true ∧ t.stored bucketFactory getCodec = [getRequest, getRequest]
      ∧ ¬ ExactlyOnce bucketFactory getCodec t := by
  refine ⟨monotone_lateEnv (by decide), untorn_lateEnv _, invertible_getCodec, _, rfl,
    by decide +kernel,
    by decide +kernel, fun hex => ?_⟩
  have htwice := (hex getRequest).2
  revert htwice
  decide +kernel

end Kapture.Storage
