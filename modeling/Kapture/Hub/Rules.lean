import Kapture.Hub.Passes

/-!
# Rules for a reconcile

How to show that a reconcile keeps an invariant. `LiveRules` and `KeepRules` list what
is to be shown of a load test that is not being deleted, one item for each place where
the program writes, reads reports or sends; `LogInv` is the shape most invariants have,
a property of the log beside one of every stored load test.
-/

namespace Kapture.Hub

open Go Storage Conc Objects

section Rules

variable {ok : Label HubOp Key Act Choice → Coord → Prop} {I : Coord → Prop} {lt : CaptureLoadTest}
  {F F' : List Event → Prop} {e : Event} {st : CaptureLoadTestStatus}

/-- The object after a status write, at some later version. -/
def CaptureLoadTest.rewritten (lt : CaptureLoadTest) (st : CaptureLoadTestStatus) (rv : Nat) :
    CaptureLoadTest :=
  { lt with status := st, resourceVersion := rv }

/-- What is known when an object was asked for: with it, or without. -/
def Answered (without : Coord → Prop) (having : CaptureLoadTest → Coord → Prop) :
    Option CaptureLoadTest → Coord → Prop
  | none => without
  | some lt => having lt

theorem triple_write {F : Coord → Prop} {M : Nat → Coord → Prop} {Q : Result → Coord → Prop}
    {new : CaptureLoadTest} {k : Option CaptureLoadTest → Pass Result} (hk : k none = .ret .err)
    (hI : coordinator.Stable ok I) (hok : ∀ t, I t → ApiOk t.api) (hF : coordinator.Stable ok F)
    (hM : ∀ rv, coordinator.Stable ok (M rv)) (hK : ∀ t, F t → Known lt t) (hkey : new.key = lt.key)
    (hrv : new.resourceVersion = lt.resourceVersion)
    (hw : ∀ t, I t → F t → t.api.find lt.key = some lt → Fits new.status →
      I (t.wrote lt new.status) ∧ M (t.api.revision + 1) (t.wrote lt new.status))
    (herr : ∀ t, I t → (F t ∨ ∃ rv, M rv t) → Q .err t) (hsome : ∀ rv, coordinator.Triple ok I
      (fun t => Known (lt.rewritten new.status rv) t ∧ M rv t)
      (k (some (lt.rewritten new.status rv))) Q) :
    coordinator.Triple ok I F (.call (.updateStatus new) k) Q := by
  refine .call (Answered (fun t => F t ∨ ∃ rv, M rv t) fun lt' t =>
    ∃ rv, lt' = lt.rewritten new.status rv ∧ Known lt' t ∧ M rv t) hI hF ?_ ?_
  · intro t c r t' hIt hFt _ hex
    rcases exec_write (hK t hFt) hkey hrv hex with ⟨rfl, rfl⟩ | ⟨hfind, hfits, rfl, hr⟩
    · exact ⟨hIt, .inl hFt⟩
    · obtain ⟨hI', hM⟩ := hw t hIt hFt hfind hfits
      refine ⟨hI', ?_⟩
      cases r with
      | none => exact .inr ⟨_, hM⟩
      | some lt' =>
          obtain rfl := hr lt' rfl
          exact ⟨t.api.revision + 1, rfl, known_of_find (hok _ hI') (find_wrote_self _), hM⟩
  · intro r
    cases r with
    | none =>
        rw [hk]
        refine .ret hI (hF.or ?_) herr
        exact fun a s s' ha h ⟨rv, hm⟩ => ⟨rv, hM rv a s s' ha h hm⟩
    | some lt' =>
        rintro t hIt ⟨rv, rfl, hK', hM⟩
        exact hsome rv t hIt ⟨hK', hM⟩

/-- The last write of a reconcile. -/
theorem triple_writeStatus {F M : Coord → Prop} {Q : Result → Coord → Prop} {new : CaptureLoadTest}
    {result : Result} (hI : coordinator.Stable ok I) (hok : ∀ t, I t → ApiOk t.api)
    (hF : coordinator.Stable ok F) (hM : coordinator.Stable ok M) (hK : ∀ t, F t → Known lt t)
    (hkey : new.key = lt.key) (hrv : new.resourceVersion = lt.resourceVersion)
    (hw : ∀ t, I t → F t → t.api.find lt.key = some lt → Fits new.status →
      I (t.wrote lt new.status) ∧ M (t.wrote lt new.status))
    (herr : ∀ t, I t → F t ∨ M t → Q .err t) (hres : ∀ t, I t → M t → Q result t) :
    coordinator.Triple ok I F (writeStatus new result) Q := by
  refine triple_write (M := fun _ => M) rfl hI hok hF (fun _ => hM) hK hkey hrv hw ?_ fun rv => ?_
  · exact fun t hIt h => herr t hIt (h.imp id fun ⟨_, h⟩ => h)
  · exact .ret hI ((known_stable _).and hM) fun t hIt h => hres t hIt h.2

theorem triple_removeFinalizer {F M : Coord → Prop} {Q : Result → Coord → Prop}
    (hI : coordinator.Stable ok I) (hF : coordinator.Stable ok F) (hM : coordinator.Stable ok M)
    (hK : ∀ t, F t → Known lt t)
    (hw : ∀ t, I t → F t → t.api.find lt.key = some lt → I (t.released lt) ∧ M (t.released lt))
    (herr : ∀ t, I t → F t ∨ M t → Q .err t) (hdone : ∀ t, I t → F t ∨ M t → Q .done t) :
    coordinator.Triple ok I F (removeFinalizer lt) Q := by
  refine .call (fun _ t => F t ∨ M t) hI hF ?_ fun r => ?_
  · intro t c r t' hIt hFt _ hex
    rcases exec_release (hK t hFt) hex with ⟨_, rfl⟩ | ⟨hfind, rfl⟩
    · exact ⟨hIt, .inl hFt⟩
    · obtain ⟨hI', hM'⟩ := hw t hIt hFt hfind
      exact ⟨hI', .inr hM'⟩
  · cases r with
    | none => exact .ret hI (hF.or hM) herr
    | some _ => exact .ret hI (hF.or hM) hdone

/-- What a reconcile knows of the load test it works on, and of the log. -/
structure Reading (F : List Event → Prop) (lt : CaptureLoadTest) (s : Coord) : Prop where
  api : ApiOk s.api
  known : Known lt s
  old : lt.uid ≤ s.api.revision
  /-- An object with a finalizer does not go away. -/
  held : lt.finalizer = true → Held lt s
  log : F s.log

theorem reading_stable (F : List Event → Prop) (lt : CaptureLoadTest) :
    coordinator.Stable ok (Reading F lt) := by
  intro a s s' ha h hs
  exact ⟨hs.api.changes (act_cases h).2, known_stable lt a s s' ha h hs.known,
    hs.old.trans (act_cases h).2.revision_le,
    fun hfin => (held_stable lt a s s' ha h ⟨hs.api, hs.held hfin⟩).2,
    stable_of_log F a s s' ha h hs.log⟩

theorem Reading.note {s : Coord} (h : Reading F lt s) (hF : F s.log → F' (e :: s.log)) :
    Reading F' lt (s.note e) :=
  ⟨h.api, h.known, h.old, h.held, hF h.log⟩

theorem Reading.mono {s : Coord} (h : Reading F lt s) (hF : F s.log → F' s.log) : Reading F' lt s :=
  ⟨h.api, h.known, h.old, h.held, hF h.log⟩

theorem Reading.of_find {s : Coord} (hs : ApiOk s.api) (h : s.api.find lt.key = some lt)
    (hF : F s.log) : Reading F lt s :=
  ⟨hs, known_of_find hs h, hs.uid h, fun hfin => ⟨lt, h, rfl, hfin, rfl⟩, hF⟩

/-- The same of a load test that is not being deleted and has its finalizer. -/
structure Working (F : List Event → Prop) (lt : CaptureLoadTest) (s : Coord) : Prop
    extends Reading F lt s where
  undeleted : lt.deleting = false
  finalizer : lt.finalizer = true

theorem working_stable (F : List Event → Prop) (lt : CaptureLoadTest) :
    coordinator.Stable ok (Working F lt) :=
  fun a s s' ha h hs => ⟨reading_stable F lt a s s' ha h hs.toReading, hs.undeleted, hs.finalizer⟩

theorem Working.note {s : Coord} (h : Working F lt s) (hF : F s.log → F' (e :: s.log)) :
    Working F' lt (s.note e) :=
  ⟨h.toReading.note hF, h.undeleted, h.finalizer⟩

theorem Working.mono {s : Coord} (h : Working F lt s) (hF : F s.log → F' s.log) : Working F' lt s :=
  ⟨h.toReading.mono hF, h.undeleted, h.finalizer⟩

/-- What is known once a status was written. -/
theorem Working.wrote {s : Coord} (h : Working F lt s) (hfind : s.api.find lt.key = some lt)
    (hF : F' (.stored (lt.rewritten st (s.api.revision + 1)) :: s.log)) :
    Working F' (lt.rewritten st (s.api.revision + 1)) (s.wrote lt st) :=
  ⟨.of_find (apiOk_wrote h.api hfind st) (find_wrote_self _) hF, h.undeleted, h.finalizer⟩

/-- The frame of a reconcile. `E` holds at its start, `A` once it has read the load test
and asked for the server, `L` once the finalizer is there. -/
theorem triple_reconcile {key : Key} {E : Coord → Prop}
    {A L : Option Nat → CaptureLoadTest → Coord → Prop} {Q : Result → Coord → Prop}
    (hI : coordinator.Stable ok I) (hok : ∀ t, I t → ApiOk t.api)
    (hE : coordinator.Stable ok E) (hA : ∀ srv lt, coordinator.Stable ok (A srv lt))
    (hearly : ∀ r t, I t → E t → Q r t)
    (hread : ∀ t lt, I t → E t → t.api.find key = some lt → I (t.note (.read lt)))
    (hserver : ∀ t c lt, I t → lt.key = key →
      Reading (fun log => ∃ t₀, I t₀ ∧ E t₀ ∧ t₀.api.find key = some lt ∧
        log = .read lt :: t₀.log) lt t → ok (.op .server c) t → A t.server lt t)
    (hdel : ∀ srv lt, lt.deleting = true → lt.key = key →
      coordinator.Triple ok I (A srv lt) (reconcileDelete srv lt) Q)
    (hAK : ∀ srv lt t, A srv lt t → Known lt t)
    (hsame : ∀ srv lt t, lt.deleting = false → lt.finalizer = false → I t → A srv lt t → Q .err t)
    (hadd : ∀ srv lt t, I t → lt.deleting = false → lt.finalizer = false → A srv lt t →
      t.api.find lt.key = some lt → I (t.added lt) ∧ Q .err (t.added lt) ∧
        (Known (t.api.stamped { lt with finalizer := true }) (t.added lt) →
          L srv (t.api.stamped { lt with finalizer := true }) (t.added lt)))
    (herr : coordinator.Stable ok (Q .err))
    (hAL : ∀ srv lt t, lt.deleting = false → lt.finalizer = true → A srv lt t → L srv lt t)
    (hlive : ∀ srv lt, lt.deleting = false → lt.finalizer = true → lt.key = key →
      coordinator.Triple ok I (L srv lt) (reconcileLive srv lt) Q) :
    coordinator.Triple ok I E (reconcile key) Q := by
  refine .call (fun r => Answered E (fun lt t => lt.key = key ∧
    Reading (fun log => ∃ t₀, I t₀ ∧ E t₀ ∧ t₀.api.find key = some lt ∧
      log = .read lt :: t₀.log) lt t) (r.toOption.bind id)) hI hE ?_ ?_
  · intro t c r t' hIt hEt _ hex
    rcases exec_get hex with ⟨rfl, hr⟩ | ⟨lt, hfind, rfl, rfl⟩
    · refine ⟨hIt, ?_⟩
      rcases r with _ | _ | lt
      · exact hEt
      · exact hEt
      · exact absurd rfl (hr lt)
    · have hkey := (hok t hIt).key_eq hfind
      exact ⟨hread t lt hIt hEt hfind, hkey,
        .of_find (hok t hIt) (hkey ▸ hfind) ⟨t, hIt, hEt, hfind, rfl⟩⟩
  · intro r
    rcases r with _ | _ | lt
    · exact .ret hI hE fun t hIt hEt => hearly _ t hIt hEt
    · exact .ret hI hE fun t hIt hEt => hearly _ t hIt hEt
    · refine .pure fun hkey => ?_
      refine .call (A · lt) hI (reading_stable _ lt) ?_ fun srv => ?_
      · intro t c srv t' hIt hR hokt hex
        obtain ⟨rfl, rfl⟩ := exec_server hex
        exact ⟨hIt, hserver _ c lt hIt hkey hR hokt⟩
      · by_cases hd : lt.deleting = true
        · rw [if_pos hd]
          exact hdel srv lt hd hkey
        · rw [if_neg hd]
          have hd : lt.deleting = false := Bool.not_eq_true _ ▸ hd
          by_cases hf : lt.finalizer = true
          · rw [if_pos hf]
            exact (hlive srv lt hd hf hkey).pre fun t _ hAt => hAL srv lt t hd hf hAt
          · rw [if_neg hf]
            have hf : lt.finalizer = false := Bool.not_eq_true _ ▸ hf
            refine .call (Answered (Q .err) fun lt' t =>
              (lt'.finalizer = true ∧ lt'.deleting = false ∧ lt'.key = key) ∧ L srv lt' t)
              hI (hA srv lt) ?_ ?_
            · intro t c r t' hIt hAt _ hex
              rcases exec_add (hAK srv lt t hAt) hd hex with ⟨rfl, rfl⟩ | ⟨hfind, rfl, hr⟩
              · exact ⟨hIt, hsame srv lt _ hd hf hIt hAt⟩
              · obtain ⟨hI', hQ, hL'⟩ := hadd srv lt t hIt hd hf hAt hfind
                refine ⟨hI', ?_⟩
                cases r with
                | none => exact hQ
                | some lt' =>
                    obtain rfl := hr lt' rfl
                    exact ⟨⟨rfl, hd, hkey⟩, hL' (known_of_find (s := t.added lt) (hok _ hI')
                      (Store.find_put_self t.api { lt with finalizer := true }))⟩
            · intro r
              cases r with
              | none => exact .ret hI herr fun t _ h => h
              | some lt' => exact .pure fun h => hlive srv lt' h.2.1 h.1 h.2.2

/-- A reconcile may end in `t`. -/
def Ends (I : Coord → Prop) (Q : Result → Coord → Prop) (t : Coord) : Prop := I t ∧ ∀ r, Q r t

theorem ends_keep {t : Coord} (h : I t) : Ends I (fun _ => I) t := ⟨h, fun _ => h⟩

/-- What is to be shown of a reconcile of a load test that is not being deleted. `G` is
known when it starts, `D` when the distribution is there, `R` when the reports were read,
`V` when they are judged and `B` when the run is being aborted. -/
structure LiveRules (ok : CoordLabel → Coord → Prop) (I : Coord → Prop)
    (G : Option Nat → CaptureLoadTest → Coord → Prop) (D : Nat → CaptureLoadTest → Coord → Prop)
    (R : Nat → CaptureLoadTest → List ReplayStatusSnapshot → Coord → Prop)
    (V : CaptureLoadTest → List ReplayStatusSnapshot → Time → Coord → Prop)
    (B : Nat → CaptureLoadTest → Bool → Coord → Prop) (Q : Result → Coord → Prop) : Prop where
  inv : coordinator.Stable ok I
  api : ∀ t, I t → ApiOk t.api
  stableQ : ∀ r, coordinator.Stable ok (Q r)
  stableG : ∀ srv lt, coordinator.Stable ok (G srv lt)
  stableD : ∀ srv lt, coordinator.Stable ok (D srv lt)
  stableR : ∀ srv lt l, coordinator.Stable ok (R srv lt l)
  stableV : ∀ lt l now, coordinator.Stable ok (V lt l now)
  stableB : ∀ srv lt b, coordinator.Stable ok (B srv lt b)
  knownG : ∀ {srv lt t}, G srv lt t → Known lt t
  knownD : ∀ {srv lt t}, D srv lt t → Known lt t
  knownR : ∀ {srv lt l t}, R srv lt l t → Known lt t
  knownV : ∀ {lt l now t}, V lt l now t → Known lt t
  knownB : ∀ {srv lt b t}, B srv lt b t → Known lt t
  errG : ∀ {srv lt t}, I t → G srv lt t → Q .err t
  errV : ∀ {lt l now t}, I t → V lt l now t → Q .err t
  errB : ∀ {srv lt b t}, I t → B srv lt b t → Q .err t
  ended : ∀ {srv lt t}, lt.status.phase.terminal = true → I t → G srv lt t → Q .done t
  denied : ∀ {srv lt t}, lt.status.phase.terminal = false → targetDenied lt.spec = true → I t →
    G srv lt t → t.api.find lt.key = some lt → Ends I Q (t.wrote lt lt.denied.status)
  noServer : ∀ {lt t st}, st = (lt.mark .pending .hubNotReady).status →
    lt.status.phase.terminal = false → targetDenied lt.spec = false → I t → G none lt t →
    t.api.find lt.key = some lt → Ends I Q (t.wrote lt st)
  noSpokes : ∀ {srv lt t st}, st = (lt.mark .pending (.noEligibleSpokes (cellsOf lt.spec))).status →
    lt.status.phase.terminal = false → targetDenied lt.spec = false →
    lt.status.assignments = [] → I t → G (some srv) lt t → t.api.find lt.key = some lt →
      Ends I Q (t.wrote lt st)
  assigned : ∀ {srv lt t spokes now st}, st = (lt.distributed spokes now).status →
    lt.status.phase.terminal = false → targetDenied lt.spec = false →
    lt.status.assignments = [] → spokes ≠ [] → Fits st → I t → G (some srv) lt t →
    t.api.find lt.key = some lt →
      I (t.wrote lt st) ∧ Q .err (t.wrote lt st) ∧
        D srv (lt.rewritten st (t.api.revision + 1)) (t.wrote lt st)
  supervise : ∀ {srv lt t}, lt.status.phase.terminal = false → targetDenied lt.spec = false →
    lt.status.assignments ≠ [] → I t → G (some srv) lt t → D srv lt t
  reports : ∀ {srv lt l t}, I t → D srv lt t →
    ok (.op (.replayStatuses srv lt.key) (.statuses l)) t → R srv lt l t
  starts : ∀ srv lt l, coordinator.Triple ok I (R srv lt l)
    (sendStarts srv lt (unreported lt.status.assignments l)) fun _ => R srv lt l
  judged : ∀ {srv lt l now t}, I t → R srv lt l t → ok (.op (.judge lt l) (.time now)) t →
    V lt l now t
  finish : ∀ {lt l t t₁ t₂ st}, st = aggregate lt.status l t₁ →
    shouldAbort lt.spec st t₂ = none → I t → V lt l t₂ t → t.api.find lt.key = some lt →
      Ends I Q (t.wrote lt st)
  stops : ∀ srv lt l t₁ t₂ reason, shouldAbort lt.spec (aggregate lt.status l t₁) t₂ = some reason →
    coordinator.Triple ok I (V lt l t₂) (stopAllShards srv (lt.aggregated l t₁)) (B srv lt)
  aborting : ∀ {srv lt l t t₁ t₂ reason st},
    shouldAbort lt.spec (aggregate lt.status l t₁) t₂ = some reason →
    st = ((lt.aggregated l t₁).aborting reason).status → I t → B srv lt false t →
    t.api.find lt.key = some lt → Ends I Q (t.wrote lt st)
  aborted : ∀ {srv lt l t t₁ t₂ t₃ reason st},
    shouldAbort lt.spec (aggregate lt.status l t₁) t₂ = some reason →
    st = ((lt.aggregated l t₁).aborted reason t₃).status → I t → B srv lt true t →
    t.api.find lt.key = some lt → Ends I Q (t.wrote lt st)

section Live

variable {G : Option Nat → CaptureLoadTest → Coord → Prop}
  {D : Nat → CaptureLoadTest → Coord → Prop}
  {R : Nat → CaptureLoadTest → List ReplayStatusSnapshot → Coord → Prop}
  {V : CaptureLoadTest → List ReplayStatusSnapshot → Time → Coord → Prop}
  {B : Nat → CaptureLoadTest → Bool → Coord → Prop} {Q : Result → Coord → Prop}

/-- A last write, from `F`. -/
theorem LiveRules.write (h : LiveRules ok I G D R V B Q) {F : Coord → Prop}
    (hF : coordinator.Stable ok F) {lt new : CaptureLoadTest} {result : Result}
    (hK : ∀ t, F t → Known lt t) (hkey : new.key = lt.key)
    (hrv : new.resourceVersion = lt.resourceVersion) (herr : ∀ t, I t → F t → Q .err t)
    (hw : ∀ t, I t → F t → t.api.find lt.key = some lt → Ends I Q (t.wrote lt new.status)) :
    coordinator.Triple ok I F (writeStatus new result) Q := by
  have hQ : coordinator.Stable ok fun t => ∀ r, Q r t :=
    fun a s s' ha hs hs' r => h.stableQ r a s s' ha hs (hs' r)
  refine triple_writeStatus (M := fun t => ∀ r, Q r t) h.inv h.api hF hQ hK hkey hrv
    (fun t hIt hFt hf _ => hw t hIt hFt hf) ?_ fun t _ hM => hM _
  intro t hIt hFM
  rcases hFM with hFt | hM
  · exact herr t hIt hFt
  · exact hM _

theorem LiveRules.conclude (h : LiveRules ok I G D R V B Q) (srv : Nat) (lt : CaptureLoadTest)
    (l : List ReplayStatusSnapshot) :
    coordinator.Triple ok I (R srv lt l) (conclude srv lt l) Q := by
  refine triple_silent h.inv (h.stableR _ _ _) (fun _ _ _ _ h => (exec_now h).1) fun t₁ => ?_
  refine .call (fun now => V lt l now) h.inv (h.stableR _ _ _) ?_ fun t₂ => ?_
  · intro t c now t' hIt hRt hok hex
    obtain ⟨rfl, rfl⟩ := exec_judge hex
    exact ⟨hIt, h.judged hIt hRt hok⟩
  cases habort : shouldAbort lt.spec (lt.aggregated l t₁).status t₂ with
  | none =>
      refine h.write (h.stableV _ _ _) (fun _ => h.knownV) rfl rfl (fun _ => h.errV) ?_
      exact fun t hIt hRt hf => h.finish rfl habort hIt hRt hf
  | some reason =>
      refine .bind (h.stops srv lt l t₁ t₂ reason habort) fun all => ?_
      cases all with
      | false =>
          refine h.write (F := B srv lt false) (h.stableB _ _ _) (fun _ => h.knownB) rfl rfl
            (fun _ => h.errB) ?_
          exact fun t hIt hBt hf => h.aborting habort rfl hIt hBt hf
      | true =>
          refine triple_silent h.inv (h.stableB _ _ _) (fun _ _ _ _ h => (exec_now h).1)
            fun t₃ => ?_
          refine h.write (F := B srv lt true) (h.stableB _ _ _) (fun _ => h.knownB) rfl rfl
            (fun _ => h.errB) ?_
          exact fun t hIt hBt hf => h.aborted habort rfl hIt hBt hf

theorem LiveRules.supervised (h : LiveRules ok I G D R V B Q) (srv : Nat) (lt : CaptureLoadTest) :
    coordinator.Triple ok I (D srv lt) (superviseRun srv lt) Q := by
  refine .call (fun l => R srv lt l) h.inv (h.stableD srv lt) ?_ fun l => ?_
  · intro t c l t' hIt hDt hok hex
    obtain ⟨rfl, rfl⟩ := exec_replayStatuses hex
    exact ⟨hIt, h.reports hIt hDt hok⟩
  · exact .bind (h.starts srv lt l) fun _ => h.conclude srv lt l

/-- **The reconcile of a load test that is not being deleted.** -/
theorem LiveRules.triple (h : LiveRules ok I G D R V B Q) (srv : Option Nat)
    (lt : CaptureLoadTest) : coordinator.Triple ok I (G srv lt) (reconcileLive srv lt) Q := by
  unfold reconcileLive
  split
  · rename_i hterm
    exact .ret h.inv (h.stableG _ _) fun t hIt hGt => h.ended hterm hIt hGt
  · rename_i hterm
    have hterm : lt.status.phase.terminal = false := Bool.not_eq_true _ ▸ hterm
    split
    · rename_i hden
      exact h.write (h.stableG _ _) (fun _ => h.knownG) rfl rfl (fun _ => h.errG)
        fun t hIt hGt hf => h.denied hterm hden hIt hGt hf
    · rename_i hden
      have hden : targetDenied lt.spec = false := Bool.not_eq_true _ ▸ hden
      cases srv with
      | none =>
          exact h.write (h.stableG _ _) (fun _ => h.knownG) rfl rfl (fun _ => h.errG)
            fun t hIt hGt hf => h.noServer rfl hterm hden hIt hGt hf
      | some srv =>
          dsimp only
          unfold distribute
          split
          · rename_i hnil
            refine triple_silent h.inv (h.stableG _ _) (fun _ _ _ _ h => exec_selectSpokes h)
              fun spokes => ?_
            split
            · exact h.write (h.stableG _ _) (fun _ => h.knownG) rfl rfl (fun _ => h.errG)
                fun t hIt hGt hf => h.noSpokes rfl hterm hden hnil hIt hGt hf
            · rename_i hne
              refine triple_silent h.inv (h.stableG _ _) (fun _ _ _ _ h => (exec_now h).1)
                fun now => ?_
              refine triple_write (F := G (some srv) lt) (M := fun rv t => Q .err t ∧
                D srv (lt.rewritten (lt.distributed spokes now).status rv) t) rfl h.inv h.api
                (h.stableG _ _) (fun _ => (h.stableQ _).and (h.stableD _ _))
                (fun _ => h.knownG) rfl rfl ?_ ?_ fun rv => ?_
              · exact fun t hIt hGt hf hfits =>
                  h.assigned rfl hterm hden hnil hne hfits hIt hGt hf
              · rintro t hIt (hGt | ⟨_, hQ, _⟩)
                · exact h.errG hIt hGt
                · exact hQ
              · exact (h.supervised srv _).pre fun t _ hM => hM.2.2
          · rename_i hne
            exact (h.supervised srv lt).pre fun t hIt hGt => h.supervise hterm hden hne hIt hGt

/-- The rules for what only has to keep `I`. -/
structure KeepRules (ok : CoordLabel → Coord → Prop) (I : Coord → Prop)
    (G : Option Nat → CaptureLoadTest → List Event → Prop)
    (D : CaptureLoadTest → List Event → Prop)
    (R : CaptureLoadTest → List ReplayStatusSnapshot → List Event → Prop)
    (B : CaptureLoadTest → List Event → Prop) : Prop where
  inv : coordinator.Stable ok I
  api : ∀ t, I t → ApiOk t.api
  denied : ∀ {srv lt t}, lt.status.phase.terminal = false → targetDenied lt.spec = true → I t →
    Working (G srv lt) lt t → t.api.find lt.key = some lt → I (t.wrote lt lt.denied.status)
  noServer : ∀ {lt t}, lt.status.phase.terminal = false → targetDenied lt.spec = false → I t →
    Working (G none lt) lt t → t.api.find lt.key = some lt →
    I (t.wrote lt (lt.mark .pending .hubNotReady).status)
  noSpokes : ∀ {srv lt t}, lt.status.phase.terminal = false → targetDenied lt.spec = false →
    lt.status.assignments = [] → I t → Working (G (some srv) lt) lt t →
    t.api.find lt.key = some lt →
    I (t.wrote lt (lt.mark .pending (.noEligibleSpokes (cellsOf lt.spec))).status)
  assigned : ∀ {srv lt t spokes now st}, st = (lt.distributed spokes now).status →
    lt.status.phase.terminal = false → targetDenied lt.spec = false →
    lt.status.assignments = [] → spokes ≠ [] → Fits st → I t → Working (G (some srv) lt) lt t →
    t.api.find lt.key = some lt → I (t.wrote lt st) ∧
      ∀ rv, D (lt.rewritten st rv) (.stored (lt.rewritten st rv) :: t.log)
  supervise : ∀ {srv lt log}, lt.status.phase.terminal = false → targetDenied lt.spec = false →
    lt.status.assignments ≠ [] → G (some srv) lt log → D lt log
  reports : ∀ {srv lt l t}, I t → Working (D lt) lt t →
    ok (.op (.replayStatuses srv lt.key) (.statuses l)) t → R lt l t.log
  start : ∀ {lt l t spokeID shard r b}, (spokeID, shard) ∈ unreported lt.status.assignments l →
    I t → Working (R lt l) lt t → I (t.note (.sent spokeID (buildStartDirective lt shard) r b)) ∧
      R lt l (.sent spokeID (buildStartDirective lt shard) r b :: t.log)
  finish : ∀ {lt l t t₁ t₂}, shouldAbort lt.spec (aggregate lt.status l t₁) t₂ = none → I t →
    Working (R lt l) lt t → t.api.find lt.key = some lt →
    I (t.wrote lt (aggregate lt.status l t₁))
  halt : ∀ {lt l log}, R lt l log → B lt log
  stop : ∀ {lt t spokeID r b}, I t → Working (B lt) lt t →
    I (t.note (.sent spokeID (stopDirective lt) r b)) ∧
      B lt (.sent spokeID (stopDirective lt) r b :: t.log)
  aborting : ∀ {lt l t t₁ t₂ reason},
    shouldAbort lt.spec (aggregate lt.status l t₁) t₂ = some reason → I t →
    Working (B lt) lt t → t.api.find lt.key = some lt →
    I (t.wrote lt ((lt.aggregated l t₁).aborting reason).status)
  aborted : ∀ {lt l t t₁ t₂ t₃ reason},
    shouldAbort lt.spec (aggregate lt.status l t₁) t₂ = some reason → I t →
    Working (B lt) lt t → t.api.find lt.key = some lt →
    I (t.wrote lt ((lt.aggregated l t₁).aborted reason t₃).status)

theorem KeepRules.live {G : Option Nat → CaptureLoadTest → List Event → Prop}
    {D : CaptureLoadTest → List Event → Prop}
    {R : CaptureLoadTest → List ReplayStatusSnapshot → List Event → Prop}
    {B : CaptureLoadTest → List Event → Prop} (h : KeepRules ok I G D R B) :
    LiveRules ok I (fun srv lt => Working (G srv lt) lt) (fun _ lt => Working (D lt) lt)
      (fun _ lt l => Working (R lt l) lt) (fun lt l _ => Working (R lt l) lt)
      (fun _ lt _ => Working (B lt) lt) fun _ => I where
  inv := h.inv
  api := h.api
  stableQ := fun _ => h.inv
  stableG := fun _ lt => working_stable _ lt
  stableD := fun _ lt => working_stable _ lt
  stableR := fun _ lt _ => working_stable _ lt
  stableV := fun lt _ _ => working_stable _ lt
  stableB := fun _ lt _ => working_stable _ lt
  knownG := fun h => h.known
  knownD := fun h => h.known
  knownR := fun h => h.known
  knownV := fun h => h.known
  knownB := fun h => h.known
  errG := fun h _ => h
  errV := fun h _ => h
  errB := fun h _ => h
  ended := fun _ h _ => h
  denied := fun ht hden hI hG hf => ends_keep (h.denied ht hden hI hG hf)
  noServer := fun hst ht hden hI hG hf => hst ▸ ends_keep (h.noServer ht hden hI hG hf)
  noSpokes := fun hst ht hden hnil hI hG hf => hst ▸ ends_keep (h.noSpokes ht hden hnil hI hG hf)
  assigned := by
    intro srv lt t spokes now st hst ht hden hnil hne hfits hI hG hf
    obtain ⟨hI', hD⟩ := h.assigned hst ht hden hnil hne hfits hI hG hf
    exact ⟨hI', hI', hG.wrote hf (hD _)⟩
  supervise := fun ht hden hne _ hG => hG.mono (h.supervise ht hden hne)
  reports := fun hI hD hok => hD.mono fun _ => h.reports hI hD hok
  starts := by
    intro srv lt l
    have hloop := triple_sendStarts (L := fun rest t =>
        (∀ x ∈ rest, x ∈ unreported lt.status.assignments l) ∧ Working (R lt l) lt t) srv lt h.inv
      (fun rest => (Machine.stable_const _).and (working_stable _ lt))
      (fun x rest t h => ⟨fun y hy => h.1 y (List.mem_cons_of_mem _ hy), h.2⟩) ?_
      (unreported lt.status.assignments l)
    · exact (hloop.pre fun t _ h => ⟨fun _ hx => hx, h⟩).post fun _ t _ h => h.2
    · intro spokeID shard rest t r hIt ⟨htodo, hR⟩
      obtain ⟨hI', hR'⟩ := h.start (htodo _ List.mem_cons_self) hIt hR
      exact ⟨hI', fun y hy => htodo y (List.mem_cons_of_mem _ hy), hR.note fun _ => hR'⟩
  judged := fun _ hR _ => hR
  finish := fun hst ha hI hR hf => hst ▸ ends_keep (h.finish (hst ▸ ha) hI hR hf)
  stops := by
    intro srv lt l t₁ t₂ reason _
    refine (triple_stopShards_keep (F := Working (B lt) lt) h.inv (working_stable _ lt) ?_ _ _).pre
      fun t _ hR => hR.mono h.halt
    intro t spokeID r b hIt hB
    obtain ⟨hI', hB'⟩ := h.stop hIt hB
    exact ⟨hI', hB.note fun _ => hB'⟩
  aborting := fun ha hst hI hB hf => hst ▸ ends_keep (h.aborting ha hI hB hf)
  aborted := fun ha hst hI hB hf => hst ▸ ends_keep (h.aborted ha hI hB hf)

end Live

/-! ## Invariants about the log -/

/-- The load test an event is about; `0` is none. -/
def Event.uid : Event → Nat
  | .read lt | .stored lt | .finalized lt => lt.uid
  | .sent _ d _ _ => d.incarnation
  | .began _ | .ended _ _ => 0

def Event.stores : Event → Bool
  | .stored _ => true
  | _ => false

def Event.sends : Event → Bool
  | .sent .. => true
  | _ => false

def Event.finalizes : Event → Bool
  | .finalized _ => true
  | _ => false

/-- An old entry, when the newest stores nothing. -/
theorem mem_of_stores {log : List Event} (he : e.stores = false) (h : .stored lt ∈ e :: log) :
    .stored lt ∈ log := by
  rcases List.mem_cons.mp h with rfl | h
  · cases he
  · exact h

def Event.begins : Event → Bool
  | .began _ => true
  | _ => false

/-- The events of the reconcile under way. -/
def thisPass (log : List Event) : List Event := log.takeWhile fun e => !e.begins

theorem thisPass_cons (he : e.begins = false) (log : List Event) :
    thisPass (e :: log) = e :: thisPass log := by
  rw [thisPass, List.takeWhile_cons, he]
  rfl

/-- The load test that was read last. -/
def lastRead (log : List Event) : Option CaptureLoadTest :=
  log.findSome? fun
    | .read lt => some lt
    | _ => none

/-- What the log satisfies, and what every stored load test satisfies beside it. -/
structure LogInv (P : List Event → Prop) (J : List Event → CaptureLoadTest → Prop)
    (s : Coord) : Prop where
  api : ApiOk s.api
  old : ∀ e ∈ s.log, e.uid ≤ s.api.revision
  log : P s.log
  objects : ∀ {key cur}, s.api.find key = some cur → J s.log cur

/-- Which properties can be meant: they do not depend on versions and the like, a new
load test has them, and an edit keeps them. -/
structure Keeps (ok : CoordLabel → Coord → Prop) (J : List Event → CaptureLoadTest → Prop) :
    Prop where
  same : ∀ {log x y}, J log x → y.key = x.key → y.uid = x.uid → y.status = x.status →
    y.spec = x.spec → J log y
  new : ∀ {log x}, (∀ e ∈ log, e.uid < x.uid) → x.status = .empty → J log x
  edit : ∀ {key spec s cur}, ok (.act (.edit key spec)) s → s.api.find key = some cur →
    J s.log cur → J s.log { cur with spec := spec }

variable {P : List Event → Prop} {J : List Event → CaptureLoadTest → Prop}

theorem logInv_start (hP : P []) : LogInv P J Coord.start where
  api := apiOk_empty
  old := fun _ h => by cases h
  log := hP
  objects := fun h => by cases h

theorem LogInv.stable (hJ : Keeps ok J) : coordinator.Stable ok (LogInv P J) := by
  intro a s s' ha h hs
  have hlog := (act_cases h).1
  refine ⟨hs.api.changes (act_cases h).2, ?_, ?_, ?_⟩
  · rw [hlog]
    exact fun e he => (hs.old e he).trans (act_cases h).2.revision_le
  · rw [hlog]
    exact hs.log
  · rw [hlog]
    intro key x hx
    rcases (act_cases h).2.find hs.api.ok hx with hx | ⟨lt, ⟨huid, hst⟩, rfl⟩
      | ⟨lt, new, hfind, ⟨spec, rfl, rfl⟩ | rfl, rfl⟩
    · exact hs.objects hx
    · exact hJ.new (fun e he => huid ▸ Nat.lt_succ_of_le (hs.old e he)) hst
    · exact hJ.same (hJ.edit ha hfind (hs.objects hfind)) rfl rfl rfl rfl
    · exact hJ.same (hs.objects hfind) rfl rfl rfl rfl

variable {s : Coord}

theorem LogInv.note (h : LogInv P J s) (he : e.uid ≤ s.api.revision) (hP : P (e :: s.log))
    (hJ : ∀ {key cur}, s.api.find key = some cur → J s.log cur → J (e :: s.log) cur) :
    LogInv P J (s.note e) where
  api := h.api
  old := by
    intro e' he'
    rcases List.mem_cons.mp he' with rfl | he'
    · exact he
    · exact h.old e' he'
  log := hP
  objects := fun hf => hJ hf (h.objects hf)

/-- Another version of a stored load test, and perhaps an event. -/
theorem LogInv.put (h : LogInv P J s) (hfind : s.api.find lt.key = some lt)
    (new : CaptureLoadTest) (hkey : new.key = lt.key) (huid : new.uid = lt.uid) {log : List Event}
    (hold : ∀ e ∈ log, e ∈ s.log ∨ e.uid = lt.uid) (hP : P log)
    (hself : J log (s.api.stamped new))
    (hothers : ∀ {key cur}, s.api.find key = some cur → cur.uid ≠ lt.uid → J s.log cur →
      J log cur) :
    LogInv P J { s with api := s.api.store new, log := log } := by
  have hu := h.api.uid hfind
  refine ⟨h.api.store (.of_find hfind hkey huid), ?_, hP, ?_⟩
  · intro e he
    rw [Store.revision_store]
    rcases hold e he with he | he
    · exact Nat.le_succ_of_le (h.old e he)
    · exact Nat.le_succ_of_le (he ▸ hu)
  · intro key x hx
    rcases Store.find_store hx with ⟨_, rfl, _⟩ | ⟨hk, hx'⟩
    · exact hself
    · -- two load tests have one number only if they are one
      exact hothers hx' (fun hu' => hk ((h.api.distinct hx' hfind hu').trans hkey.symm))
        (h.objects hx')

theorem LogInv.added (hJ : Keeps ok J) (h : LogInv P J s) (hfind : s.api.find lt.key = some lt) :
    LogInv P J (s.added lt) := by
  have := h.put hfind { lt with finalizer := true } rfl rfl (fun _ h => .inl h) h.log
    (hJ.same (h.objects hfind) rfl rfl rfl rfl) fun _ _ h => h
  rwa [Store.store, if_neg fun h => by cases h.2] at this

theorem LogInv.released (hJ : Keeps ok J) (h : LogInv P J s) (hfind : s.api.find lt.key = some lt)
    (hP : P (.finalized lt :: s.log))
    (hJ' : ∀ {key cur}, s.api.find key = some cur → J s.log cur → J (.finalized lt :: s.log) cur) :
    LogInv P J (s.released lt) := by
  refine h.put hfind { lt with finalizer := false } rfl rfl ?_ hP
    (hJ.same (hJ' hfind (h.objects hfind)) rfl rfl rfl rfl) fun hf _ h => hJ' hf h
  intro e he
  rcases List.mem_cons.mp he with rfl | he
  · exact .inr rfl
  · exact .inl he

theorem LogInv.wrote (h : LogInv P J s) (hfind : s.api.find lt.key = some lt)
    (hd : lt.deleting = false) (hP : ∀ rv, P (.stored (lt.rewritten st rv) :: s.log))
    (hself : ∀ rv, J (.stored (lt.rewritten st rv) :: s.log) (lt.rewritten st rv))
    (hothers : ∀ {key cur} rv, s.api.find key = some cur → cur.uid ≠ lt.uid → J s.log cur →
      J (.stored (lt.rewritten st rv) :: s.log) cur) : LogInv P J (s.wrote lt st) := by
  have := h.put hfind { lt with status := st } rfl rfl ?_ (hP (s.api.revision + 1))
    (hself _) fun hf hne h => hothers _ hf hne h
  · rwa [Store.store, if_neg fun h => by rw [hd] at h; cases h.1] at this
  · intro e he
    rcases List.mem_cons.mp he with rfl | he
    · exact .inr rfl
    · exact .inl he

/-- The deletion of a load test, when what is sent does not matter. -/
theorem triple_reconcileDelete {F : Coord → Prop} {Q : Result → Coord → Prop} (srv : Option Nat)
    (hI : coordinator.Stable ok I) (hF : coordinator.Stable ok F)
    (hQ : ∀ r, coordinator.Stable ok (Q r)) (hK : ∀ t, F t → Known lt t)
    (hsent : ∀ t spokeID r b, I t → F t → I (t.note (.sent spokeID (stopDirective lt) r b)) ∧
      F (t.note (.sent spokeID (stopDirective lt) r b)))
    (hfinal : ∀ t, I t → F t → t.api.find lt.key = some lt → Ends I Q (t.released lt))
    (hend : ∀ r t, I t → F t → Q r t) : coordinator.Triple ok I F (reconcileDelete srv lt) Q := by
  have remove : coordinator.Triple ok I F (removeFinalizer lt) Q := by
    refine triple_removeFinalizer (M := fun t => ∀ r, Q r t) hI hF
      (fun a s s' ha hs h r => hQ r a s s' ha hs (h r)) hK hfinal ?_ ?_
    · exact fun t hIt h => h.elim (hend _ t hIt) fun h => h _
    · exact fun t hIt h => h.elim (hend _ t hIt) fun h => h _
  unfold reconcileDelete
  split
  · cases srv with
    | none => exact remove
    | some srv =>
        refine .bind (triple_stopShards_keep hI hF hsent _ _) fun all => ?_
        cases all with
        | false => exact .ret hI hF (hend _)
        | true =>
            exact triple_silent hI hF (fun _ _ _ _ h => exec_clearReplayStatuses h) fun _ => remove
  · exact .ret hI hF (hend _)

theorem triple_reconcileDelete_keep {F : Coord → Prop} (srv : Option Nat)
    (hI : coordinator.Stable ok I) (hF : coordinator.Stable ok F) (hK : ∀ t, F t → Known lt t)
    (hsent : ∀ t spokeID r b, I t → F t → I (t.note (.sent spokeID (stopDirective lt) r b)) ∧
      F (t.note (.sent spokeID (stopDirective lt) r b)))
    (hfinal : ∀ t, I t → F t → t.api.find lt.key = some lt → I (t.released lt)) :
    coordinator.Triple ok I F (reconcileDelete srv lt) fun _ => I :=
  triple_reconcileDelete srv hI hF (fun _ => hI) hK hsent
    (fun t hIt hFt hf => ends_keep (hfinal t hIt hFt hf)) fun _ _ h _ => h

/-- The load test with its finalizer added. -/
def CaptureLoadTest.finalizing (lt : CaptureLoadTest) (rv : Nat) : CaptureLoadTest :=
  { lt with finalizer := true, resourceVersion := rv }

/-- An invariant that is only about the log. -/
abbrev PlainInv (P : List Event → Prop) : Coord → Prop := LogInv P fun _ _ => True

variable (ok) in
theorem keeps_nothing : Keeps ok fun _ _ => True where
  same := fun _ _ _ _ _ => trivial
  new := fun _ _ => trivial
  edit := fun _ _ _ => trivial

variable (ok) in
theorem plainInv_stable (P : List Event → Prop) : coordinator.Stable ok (PlainInv P) :=
  LogInv.stable (keeps_nothing ok)

theorem PlainInv.note (h : PlainInv P s) (hu : e.uid ≤ s.api.revision) (hP : P (e :: s.log)) :
    PlainInv P (s.note e) :=
  LogInv.note h hu hP fun _ _ => trivial

theorem PlainInv.wrote (h : PlainInv P s) (hfind : s.api.find lt.key = some lt)
    (hd : lt.deleting = false) (hP : ∀ rv, P (.stored (lt.rewritten st rv) :: s.log)) :
    PlainInv P (s.wrote lt st) :=
  LogInv.wrote h hfind hd hP (fun _ => trivial) fun _ _ _ _ => trivial

theorem PlainInv.released (h : PlainInv P s) (hfind : s.api.find lt.key = some lt)
    (hP : P (.finalized lt :: s.log)) : PlainInv P (s.released lt) :=
  LogInv.released (keeps_nothing fun _ _ => True) h hfind hP fun _ _ => trivial

/-- **A reconcile of an invariant about the log**: `F` is known of the server it finds and
of the log, once the load test was read. -/
theorem LogInv.triple_pass {Q : Result → Coord → Prop}
    {F : Option Nat → CaptureLoadTest → List Event → Prop} {key : Key} (hJ : Keeps ok J)
    (hF : ∀ {srv lt log} rv, lt.deleting = false → F srv lt log → F srv (lt.finalizing rv) log)
    (hread : ∀ t lt, LogInv P J t → t.api.find lt.key = some lt → LogInv P J (t.note (.read lt)))
    (hserver : ∀ t₀ t c lt, LogInv P J t₀ → t₀.log.head? = some (.began key) →
      t₀.api.find lt.key = some lt → t.log = .read lt :: t₀.log → ok (.op .server c) t →
      F t.server lt t.log)
    (hearly : ∀ r t, LogInv P J t → t.log.head? = some (.began key) → Q r t)
    (herr : ∀ t, LogInv P J t → Q .err t) (hQ : coordinator.Stable ok (Q .err))
    (hdel : ∀ srv lt, lt.deleting = true →
      coordinator.Triple ok (LogInv P J) (Reading (F srv lt) lt) (reconcileDelete srv lt) Q)
    (hlive : ∀ srv lt,
      coordinator.Triple ok (LogInv P J) (Working (F srv lt) lt) (reconcileLive srv lt) Q) :
    coordinator.Triple ok (LogInv P J) (fun s => s.log.head? = some (.began key)) (reconcile key)
      Q := by
  have hI : coordinator.Stable ok (LogInv P J) := LogInv.stable hJ
  refine Kapture.Hub.triple_reconcile (A := fun srv lt => Reading (F srv lt) lt)
    (L := fun srv lt => Reading (F srv lt) lt) hI (fun _ h => h.api)
    (stable_of_log fun log => log.head? = some (.began key))
    (fun srv lt => reading_stable (F srv lt) lt) hearly ?_ ?_ (fun srv lt hd _ => hdel srv lt hd)
    (fun _ _ _ h => h.known) (fun _ _ _ _ _ h _ => herr _ h) ?_ hQ (fun _ _ _ _ _ h => h) ?_
  · exact fun t lt ht _ hfind => hread t lt ht (ht.api.key_eq hfind ▸ hfind)
  · intro t c lt ht hkey hR hok
    obtain ⟨t₀, ht₀, hbegan, hfind, hlog⟩ := hR.log
    exact hR.mono fun _ => hserver t₀ t c lt ht₀ hbegan (hkey ▸ hfind) hlog hok
  · intro srv lt t ht hd _ hR hfind
    have := ht.added hJ hfind
    have hF' : F srv (lt.finalizing (t.api.revision + 1)) t.log := hF _ hd hR.log
    exact ⟨this, herr _ this, fun _ => .of_find this.api (Store.find_put_self _ _) hF'⟩
  · exact fun srv lt hd hf _ t ht hR => hlive srv lt t ht ⟨hR, hd, hf⟩

/-- **An invariant of the coordinator**: the others keep it, and so does a reconcile with
what is noted at its end. -/
theorem reaches_passes {c : Config Coord HubOp HubOp.Ans Result Key} (h : Reaches ok c)
    (h₀ : I Coord.start) (hI : coordinator.Stable ok I)
    (hbegan : ∀ s key, I s → I (s.note (.began key)))
    (hcrash : ∀ s, I s → I { s with server := none })
    (hpass : ∀ key, coordinator.Triple ok I (fun s => s.log.head? = some (.began key))
      (reconcile key) fun r s => I (s.note (.ended key r))) : I c.state :=
  h.holds h₀ hI (fun key s _ hs => hpass key _ (hbegan s key hs) rfl) fun s _ hs => hcrash s hs

/-- **An invariant about the log**, kept by what a reconcile notes of itself. -/
theorem LogInv.reaches {c : Config Coord HubOp HubOp.Ans Result Key}
    {F : Option Nat → CaptureLoadTest → List Event → Prop} (h : Reaches ok c) (hP : P [])
    (hJ : Keeps ok J)
    (hnote : ∀ {s e}, LogInv P J s → e.uid ≤ s.api.revision → e.stores = false →
      e.sends = false → e.finalizes = false → LogInv P J (s.note e))
    (hF : ∀ {srv lt log} rv, lt.deleting = false → F srv lt log → F srv (lt.finalizing rv) log)
    (hserver : ∀ t₀ t c lt, LogInv P J t₀ → t₀.api.find lt.key = some lt →
      t.log = .read lt :: t₀.log → ok (.op .server c) t → F t.server lt t.log)
    (hdel : ∀ srv lt, lt.deleting = true →
      coordinator.Triple ok (LogInv P J) (Reading (F srv lt) lt) (reconcileDelete srv lt)
        fun _ => LogInv P J)
    (hlive : ∀ srv lt,
      coordinator.Triple ok (LogInv P J) (Working (F srv lt) lt) (reconcileLive srv lt)
        fun _ => LogInv P J) : LogInv P J c.state := by
  refine reaches_passes h (logInv_start hP) (LogInv.stable hJ)
    (fun _ _ hs => hnote hs (Nat.zero_le _) rfl rfl rfl)
    (fun s hs => ⟨hs.api, hs.old, hs.log, hs.objects⟩) fun key => ?_
  refine (LogInv.triple_pass (F := F) hJ hF
    (fun t lt ht hf => hnote ht (ht.api.uid hf) rfl rfl rfl)
    (fun t₀ t c lt h₀ _ hfind hlog hok => hserver t₀ t c lt h₀ hfind hlog hok)
    (fun _ _ h _ => h) (fun _ h => h) (LogInv.stable hJ) hdel hlive).post ?_
  exact fun r s _ hs => hnote hs (Nat.zero_le _) rfl rfl rfl

end Rules

end Kapture.Hub
