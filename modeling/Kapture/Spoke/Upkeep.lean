import Kapture.Spoke.MirrorsLive
import Kapture.Spoke.Pass

/-!
# What a pass leaves for the next one

Two things of a capture are kept up by passes that follow one another. The filter of a capture with
a duration is taken away by a pass that finds the duration over, so **a pass that leaves the filter
on the route has to come again**. All of them do but one: when the storage cannot be read the
capture becomes `Failed`, and that pass does not ask for another, although an earlier one has put
the filter on the route.

And the replicas of the agent are set by an autoscaler, which the pass itself creates. **Each pass
that gets to the Deployment sets them back** to those of the spec.
-/

namespace Kapture.Spoke

open Go Storage Hub Conc Objects Rfc3339

/-- A route mirrors to the agent of a capture. -/
def Mirrors.mirrorsTo (s : Mirrors) (route : RouteKey) (key : Key) : Bool :=
  (s.routes.lookup route).any fun r => r.rules.any fun filters =>
    hasMirrorFilter filters (agentServiceName key)

/-- A pass that leaves the filter, and does not fail, comes again within half a minute. -/
def Scheduled (route : RouteKey) (key : Key) (r : Requeue) (t : Scaled) : Prop :=
  r ≠ .err → t.mirrors.mirrorsTo route key = true → ∃ d, r = .after d ∧ 0 < d ∧ d ≤ 30 * second

/-- The result is an error, or a delay of up to half a minute. -/
def Prompt (r : Requeue) : Prop := r = .err ∨ ∃ d, r = .after d ∧ 0 < d ∧ d ≤ 30 * second

theorem Prompt.scheduled {r : Requeue} (h : Prompt r) (route : RouteKey) (key : Key) (t : Scaled) :
    Scheduled route key r t := by
  intro herr _
  exact h.resolve_left herr

/-! ## The delays -/

theorem requeueAfter_prompt (tc : CaptureObject) (now : Time) :
    Prompt (.after (requeueAfter tc now)) := by
  refine .inr ⟨_, rfl, ?_⟩
  unfold requeueAfter
  split
  · rename_i h
    exact ⟨h.2.1, Int.le_of_lt h.2.2⟩
  · exact ⟨by decide, Int.le_refl _⟩

theorem returns_writeStatusAndWait (tc : CaptureObject) :
    (writeStatusAndWait tc).Returns Prompt := by
  intro r
  cases r with
  | none => exact .inl rfl
  | some tc' => exact fun now => requeueAfter_prompt tc' now

theorem returns_updateStatusPass (tc : CaptureObject) : (updateStatusPass tc).Returns Prompt := by
  intro r
  rcases r with _ | _ | ⟨ready, desired⟩
  · exact .inl rfl
  · exact .inr ⟨5 * second, rfl, by decide, by decide⟩
  · dsimp only
    split
    · split
      · exact returns_writeStatusAndWait _
      · exact fun now => returns_writeStatusAndWait _
    · exact returns_writeStatusAndWait _

theorem returns_applyAll {objs : List AgentObject} {rest : Pass Requeue} (h : rest.Returns Prompt) :
    (applyAll objs rest).Returns Prompt := by
  induction objs with
  | nil => exact h
  | cons obj objs ih =>
      intro r
      cases r with
      | false => exact .inl rfl
      | true => exact ih

/-- **The steps 2 to 6 come again**, if they do not fail. -/
theorem returns_provisionPass (agent : Option AgentScalingSpec) (tc : CaptureObject) :
    (provisionPass agent tc).Returns Prompt := by
  refine returns_applyAll (Prog.returns_bind _ fun b => ?_)
  cases b with
  | false => exact .inl rfl
  | true => exact returns_updateStatusPass tc

/-- So does a pass that finds the storage not ready. -/
theorem returns_storageNotReady (tc : CaptureObject) (c : CaptureCondition) :
    (timed (10 * second) (setPhaseWithCondition tc .pending c)).Returns Prompt := by
  intro r
  cases r with
  | none => exact .inl rfl
  | some tc' => exact .inr ⟨10 * second, rfl, by decide, by decide⟩

/-! ## What the operations leave as it is -/

variable {f : Fates} {s s' t : Scaled} {r : Requeue} {m m' : Mirrors} {o : Outcome}
  {φ : CaptureOp → Prop} {d : Duration} {route : RouteKey}

/-- Neither adds nor removes a filter. -/
def PassOp.keepsRoutes : PassOp → Bool
  | .capture (.addMirror _ _) => false
  | .capture (.removeMirror _ _) => false
  | _ => true

/-- Neither writes nor deletes a Deployment. -/
def PassOp.keepsDeployment : PassOp → Bool
  | .capture (.createOrUpdate _ _) => false
  | .capture (.deleteAgent _ _) => false
  | .apply (.deployment _) => false
  | _ => true

theorem write_frame {new : CaptureObject} {g : CaptureObject → CaptureObject}
    {x : Option CaptureObject} (h : m.write o new g = (x, m')) :
    m'.routes = m.routes ∧ m'.agents = m.agents := by
  rcases mirrors_write_cases h with ⟨-, rfl⟩ | ⟨cur, -, rfl, -⟩
  · exact ⟨rfl, rfl⟩
  · exact ⟨rfl, rfl⟩

theorem exec_routes {op : PassOp} {x : op.Ans} (hop : op.keepsRoutes = true)
    (h : f.exec op s = some (x, s')) : s'.mirrors.routes = s.mirrors.routes := by
  cases op with
  | capture op =>
      have hexec := (Fates.exec_capture h).1
      by_cases hquiet : op.quiet = true
      · obtain ⟨agents, hs'⟩ := exec_quiet hquiet hexec
        rw [hs']
      · cases op with
        | update tc => exact (write_frame (Option.some.inj hexec)).1
        | updateStatus tc => exact (write_frame (Option.some.inj hexec)).1
        | addMirror route key => cases hop
        | removeMirror route key => cases hop
        | _ => exact absurd rfl hquiet
  | apply obj =>
      obtain ⟨agents, hs'⟩ := exec_quiet rfl (Fates.exec_apply h).1
      rw [hs']
  | startNow =>
      cases h
      rfl
  | checkNow =>
      cases h
      rfl

theorem exec_deployment {op : PassOp} {x : op.Ans} (hop : op.keepsDeployment = true)
    (h : f.exec op s = some (x, s')) :
    s'.replicas = s.replicas ∧ ∀ y ∈ s.mirrors.agents, y ∈ s'.mirrors.agents := by
  cases op with
  | capture op =>
      obtain ⟨hexec, hreplicas⟩ := Fates.exec_capture h
      refine ⟨hreplicas, fun y hy => ?_⟩
      suffices hagents : s'.mirrors.agents = s.mirrors.agents by rwa [hagents]
      cases op with
      | update tc => exact (write_frame (Option.some.inj hexec)).2
      | updateStatus tc => exact (write_frame (Option.some.inj hexec)).2
      | addMirror route key =>
          rcases exec_addMirror hexec with hs' | ⟨old, -, hs'⟩ <;> rw [hs']
      | removeMirror route key =>
          rcases exec_removeMirror hexec with ⟨hs', -⟩ | ⟨old, -, hs'⟩ <;> rw [hs']
      | createOrUpdate kind key => cases hop
      | deleteAgent kind key => cases hop
      | _ => exact congrArg Mirrors.agents (Prod.mk.inj (Option.some.inj hexec)).2.symm
  | apply obj =>
      obtain ⟨hexec, hreplicas⟩ := Fates.exec_apply h
      have hagents : ∀ y ∈ s.mirrors.agents, y ∈ s'.mirrors.agents := by
        intro y hy
        rcases Outcome.perform_cases (Option.some.inj hexec) with ⟨-, hs'⟩ | hs'
        · rwa [hs']
        · rw [hs']
          exact List.mem_insert_of_mem hy
      cases obj with
      | deployment d => cases hop
      | service svc => exact ⟨hreplicas, hagents⟩
      | hpa h => exact ⟨hreplicas, hagents⟩
  | startNow =>
      cases h
      exact ⟨rfl, fun _ hy => hy⟩
  | checkNow =>
      cases h
      exact ⟨rfl, fun _ hy => hy⟩

theorem only_lift {α : Type} {p : CapturePass α} (h : p.Only φ) :
    (lift p).Only fun op => ∃ cop, op = .capture cop ∧ φ cop := by
  induction p with
  | ret a => trivial
  | call op k ih => exact ⟨⟨op, rfl, h.1⟩, fun r => ih r (h.2 r)⟩

/-! ## How a pass begins -/

variable {agent : Option AgentScalingSpec} {key : Key} {tc : CaptureObject}

/-- The pass reads the capture, which has its finalizer or gets it. -/
def Fates.Admits (f : Fates) (tc : CaptureObject) : Prop :=
  f.api .get = .ok ∧ (tc.finalizer = true ∨ f.api .update = .ok)

/-- What the pass goes on with. -/
structure Taken (tc : CaptureObject) (s : Scaled) (tc' : CaptureObject) (s' : Scaled) : Prop where
  spec : tc'.spec = tc.spec
  duration : tc'.duration = tc.duration
  status : tc'.status = tc.status
  found : s'.mirrors.captures.find tc'.key = some tc'
  routes : s'.mirrors.routes = s.mirrors.routes
  agents : s'.mirrors.agents = s.mirrors.agents
  storages : s'.mirrors.storages = s.mirrors.storages
  replicas : s'.replicas = s.replicas

theorem latest_of_find {x : CaptureObject} (h : m.captures.find tc.key = some tc)
    (hkey : x.key = tc.key) (hversion : x.resourceVersion = tc.resourceVersion) :
    m.captures.latest x = some tc := by
  have hfind : m.captures.find (Resource.key x) = some tc := by
    rw [show Resource.key x = tc.key from hkey, h]
  rw [Store.latest, hfind, Option.filter_some, if_pos]
  exact beq_iff_eq.mpr hversion.symm

theorem write_failed (h : o ≠ .ok) (m : Mirrors) (x : CaptureObject)
    (g : CaptureObject → CaptureObject) : (m.write o x g).1 = none := by
  unfold Mirrors.write
  split
  · rfl
  · cases o with
    | ok => exact absurd rfl h
    | refused => rfl
    | lost => rfl

theorem write_ok {x : CaptureObject} (h : m.captures.latest x = some tc)
    (g : CaptureObject → CaptureObject) :
    m.write .ok x g
      = (some (m.captures.stamped (g tc)), { m with captures := m.captures.store (g tc) }) := by
  rw [Mirrors.write, h]
  rfl

/-- A failed read ends the pass. -/
theorem pass_unread (h : f.api .get ≠ .ok) : f.pass agent key s = some (.err, s) := by
  have hget : f.exec (.capture (.get key)) s = some (.error (), s) := by
    rw [Fates.exec, Fates.choice, Mirrors.exec]
    cases ho : f.api .get with
    | ok => exact absurd ho h
    | refused => rfl
    | lost => rfl
  exact Prog.eval_call hget

theorem pass_read (hfind : s.mirrors.captures.find key = some tc) (hdel : tc.deleting = false)
    (h : f.api .get = .ok) :
    f.pass agent key s = Prog.eval f.exec (if tc.finalizer then runPass agent tc
      else .call (.capture (.update { tc with finalizer := true })) fun
        | none => .ret .err
        | some tc => runPass agent tc) s := by
  have hget : f.exec (.capture (.get key)) s = some (.ok (some tc), s) := by
    rw [Fates.exec, Fates.choice, h, Mirrors.exec, Outcome.read, hfind]
    rfl
  refine (Prog.eval_call hget).trans ?_
  dsimp only
  rw [hdel]
  rfl

/-- **A pass fails at once, or goes on with the capture.** -/
theorem pass_cases (agent : Option AgentScalingSpec) (hs : s.mirrors.captures.Ok)
    (hfind : s.mirrors.captures.find key = some tc) (hdel : tc.deleting = false) :
    (f.Admits tc ∧ ∃ tc' s', Taken tc s tc' s'
      ∧ f.pass agent key s = (runPass agent tc').eval f.exec s') ∨
      (¬ f.Admits tc ∧ ∃ t, f.pass agent key s = some (.err, t) ∧ t.replicas = s.replicas) := by
  obtain rfl : tc.key = key := hs.key hfind
  by_cases hget : f.api .get = .ok
  · rw [pass_read hfind hdel hget]
    by_cases hfin : tc.finalizer = true
    · rw [if_pos hfin]
      exact .inl ⟨⟨hget, .inl hfin⟩, tc, s, ⟨rfl, rfl, rfl, hfind, rfl, rfl, rfl, rfl⟩, rfl⟩
    · rw [if_neg hfin]
      have hlatest : s.mirrors.captures.latest { tc with finalizer := true } = some tc :=
        latest_of_find hfind rfl rfl
      have hexec : ∀ o, f.api .update = o →
          f.exec (.capture (.update { tc with finalizer := true })) s =
          some ((s.mirrors.write o { tc with finalizer := true } fun cur => { cur with
            finalizer := true, spec := tc.spec, duration := tc.duration }).1,
            { s with
              mirrors := (s.mirrors.write o { tc with finalizer := true } fun cur => { cur with
              finalizer := true, spec := tc.spec, duration := tc.duration }).2 }) := by
        rintro o rfl
        rfl
      by_cases hupdate : f.api .update = .ok
      · have hok := hexec .ok hupdate
        rw [write_ok hlatest] at hok
        refine .inl ⟨⟨hget, .inr hupdate⟩, _, _, ?_, Prog.eval_call hok⟩
        refine ⟨rfl, rfl, rfl, Store.find_store_keep _ rfl ?_, rfl, rfl, rfl, rfl⟩
        rintro ⟨-, hno⟩
        cases hno
      · have hfailed := hexec _ rfl
        rw [write_failed hupdate] at hfailed
        exact .inr ⟨fun h => h.2.elim hfin hupdate, _, Prog.eval_call hfailed, rfl⟩
  · exact .inr ⟨fun h => hget h.1, s, pass_unread hget, rfl⟩

/-! ## Time-limited captures -/

theorem only_inOrder {ps : List (CapturePass Bool)} {rest : CapturePass Result}
    (hps : ∀ p ∈ ps, p.Only φ) (hrest : rest.Only φ) : (inOrder ps rest).Only φ := by
  induction ps with
  | nil => exact hrest
  | cons p ps ih =>
      refine (hps p List.mem_cons_self).bind fun b => ?_
      cases b with
      | false => trivial
      | true => exact ih fun q hq => hps q (List.mem_cons_of_mem p hq)

theorem only_setPhase (hφ : ∀ x, φ (.updateStatus x)) (tc : CaptureObject)
    (phase : TrafficCapturePhase) (c : CaptureCondition) :
    (setPhaseWithCondition tc phase c).Only φ := by
  refine ⟨hφ _, fun r => ?_⟩
  cases r <;> trivial

/-- What keeps the routes in `Mirror` keeps them here. -/
theorem routes_of_only {p : CapturePass Result}
    (hp : p.Only fun op => (PassOp.capture op).keepsRoutes = true)
    (h : (timed d p).eval f.exec s = some (r, t)) : t.mirrors.routes = s.mirrors.routes := by
  have honly : (timed d p).Only fun op => op.keepsRoutes = true := by
    refine Prog.Only.bind ?_ fun a => by cases a <;> trivial
    exact (only_lift hp).mono fun op ⟨cop, hop, hcop⟩ => hop ▸ hcop
  refine Prog.Only.eval (P := fun u => u.mirrors.routes = s.mirrors.routes) ?_ honly h rfl
  intro op u x u' hop hexec hu
  exact (exec_routes hop hexec).trans hu

theorem mirrorsTo_of_routes (h : m'.routes = m.routes) (key : Key) :
    m'.mirrorsTo route key = m.mirrorsTo route key := by
  rw [Mirrors.mirrorsTo, Mirrors.mirrorsTo, h]

theorem perform_true {after : Mirrors} (h : o.perform m after = (true, m')) :
    m' = after := by
  rcases Outcome.perform_cases h with ⟨hno, -⟩ | hafter
  · cases hno
  · exact hafter

/-- A removed filter is gone. -/
theorem mirrorsTo_removeMirror (h : m.removeMirror o route key = (true, m')) :
    m'.mirrorsTo route key = false := by
  unfold Mirrors.removeMirror at h
  split at h
  · rename_i hnone
    rw [perform_true h, Mirrors.mirrorsTo, hnone]
    rfl
  · rename_i r hr
    rw [perform_true h, Mirrors.mirrorsTo, AList.lookup_insert, Option.any_some, Route.removeMirror,
      List.any_map, List.any_eq_false]
    intro filters _
    simp [hasMirrorFilter, removeMirrorFilters]

/-- **A pass over an expired capture takes the filter away**, or fails. -/
theorem completed_unmirrored (htarget : tc.spec.target = some route)
    (h : (timed d (completeCapture tc)).eval f.exec s = some (r, t)) :
    r = .err ∨ t.mirrors.mirrorsTo route tc.key = false := by
  unfold completeCapture at h
  rw [inOrder, removeMirrorFilter, htarget] at h
  obtain ⟨⟨b, s'⟩, hexec, hrest⟩ := Option.bind_eq_some_iff.mp h
  have hremove := (Fates.exec_capture hexec).1
  cases b with
  | false =>
      cases hrest
      exact .inl rfl
  | true =>
      refine .inr ?_
      have honly : (inOrder [.call (.deleteAgent .hpa (agentKey tc.key)) .ret,
          .call (.deleteAgent .deployment (agentKey tc.key)) .ret,
          .call (.deleteAgent .service (agentKey tc.key)) .ret]
          (setPhaseWithCondition tc .completed .captureCompleted)).Only
            fun op => (PassOp.capture op).keepsRoutes = true := by
        refine only_inOrder ?_ (only_setPhase (fun _ => rfl) _ _ _)
        simp [Prog.Only, PassOp.keepsRoutes]
      rw [mirrorsTo_of_routes (routes_of_only honly hrest)]
      exact mirrorsTo_removeMirror (Option.some.inj hremove)

/-- A pass that cannot read the storage leaves the filter where it is. -/
theorem failed_mirrored {c : CaptureCondition} (route : RouteKey) (key : Key)
    (hfound : s.mirrors.captures.find tc.key = some tc)
    (h : (timed d (setPhaseWithCondition tc .failed c)).eval f.exec s = some (r, t)) :
    t.mirrors.mirrorsTo route key = s.mirrors.mirrorsTo route key ∧
      r = if f.api .updateStatus = .ok then .done else .err := by
  have honly : (setPhaseWithCondition tc .failed c).Only fun op =>
      (PassOp.capture op).keepsRoutes = true :=
    only_setPhase (fun _ => rfl) _ _ _
  refine ⟨mirrorsTo_of_routes (routes_of_only honly h) key, ?_⟩
  obtain ⟨⟨x, s'⟩, hexec, hrest⟩ := Option.bind_eq_some_iff.mp h
  have hwrite : s.mirrors.write (f.api .updateStatus)
      { tc with status := { tc.status with phase := .failed, ready := some c } }
      (fun cur => { cur with status := { tc.status with phase := .failed, ready := some c } })
        = (x, s'.mirrors) :=
    Option.some.inj (Fates.exec_capture hexec).1
  split
  · rename_i hok
    have hlatest : s.mirrors.captures.latest
        { tc with status := { tc.status with phase := .failed, ready := some c } } = some tc :=
      latest_of_find hfound rfl rfl
    rw [hok, write_ok hlatest] at hwrite
    obtain ⟨rfl, -⟩ := Prod.mk.inj hwrite
    cases hrest
    rfl
  · rename_i hfail
    obtain rfl : none = x := (write_failed hfail _ _ _).symm.trans (congrArg Prod.fst hwrite)
    cases hrest
    rfl

/-- Whether the storage of a capture is ready, if the pass can read it. -/
def Fates.storageOf (f : Fates) (s : Scaled) (tc : CaptureObject) : Option Bool :=
  if f.api .getStorage = .ok then s.mirrors.storages.lookup ⟨tc.key.ns, tc.spec.storageRef⟩
  else none

/-- **The pass cannot read the storage of a capture that is mirrored**, has not expired and is
otherwise found and written. -/
structure Fates.Abandons (f : Fates) (s : Scaled) (route : RouteKey)
    (tc : CaptureObject) : Prop where
  admitted : f.Admits tc
  running : captureExpired tc f.now = false
  storage : f.storageOf s tc = none
  written : f.api .updateStatus = .ok
  mirrored : s.mirrors.mirrorsTo route tc.key = true

namespace Taken

variable {tc' : CaptureObject} (h : Taken tc s tc' s')
include h

theorem key_eq : tc'.key = tc.key := congrArg TrafficCapture.key h.spec

theorem expired_eq (now : Time) : captureExpired tc' now = captureExpired tc now := by
  rw [captureExpired, captureExpired, h.duration, h.status]

theorem storageOf_eq (f : Fates) : f.storageOf s' tc' = f.storageOf s tc := by
  rw [Fates.storageOf, Fates.storageOf, h.key_eq, h.spec, h.storages]

end Taken

section Run

variable (hphase : tc.status.phase ≠ .completed)

include hphase in
theorem run_expired (h : captureExpired tc f.now = true) :
    (runPass agent tc).eval f.exec s
      = (timed (10 * second) (completeCapture tc)).eval f.exec s := by
  have hnow : f.exec (.capture .now) s = some (f.now, s) := rfl
  rw [runPass, if_neg hphase, Prog.eval_call hnow, if_pos h]

include hphase in
/-- The rest of a pass depends on what it reads of the storage. -/
theorem run_storage (h : captureExpired tc f.now = false) :
    (runPass agent tc).eval f.exec s =
      (match f.storageOf s tc with
      | none => timed (10 * second) (setPhaseWithCondition tc .failed
          (.storageNotFound ⟨tc.key.ns, tc.spec.storageRef⟩))
      | some false => timed (10 * second) (setPhaseWithCondition tc .pending
          (.storageNotReady ⟨tc.key.ns, tc.spec.storageRef⟩))
      | some true => provisionPass agent tc).eval f.exec s := by
  have hnow : f.exec (.capture .now) s = some (f.now, s) := rfl
  have hread : f.exec (.capture (.getStorage ⟨tc.key.ns, tc.spec.storageRef⟩)) s
      = some (Outcome.read
      (f.api .getStorage) (s.mirrors.storages.lookup ⟨tc.key.ns, tc.spec.storageRef⟩), s) := rfl
  rw [runPass, if_neg hphase, Prog.eval_call hnow, if_neg (Bool.eq_false_iff.mp h)]
  rw [Prog.eval_call hread, Fates.storageOf]
  cases f.api .getStorage with
  | ok =>
      rw [if_pos rfl, Outcome.read]
      cases s.mirrors.storages.lookup ⟨tc.key.ns, tc.spec.storageRef⟩ with
      | none => rfl
      | some ready => cases ready <;> rfl
  | refused => rfl
  | lost => rfl

end Run

/-- **Every pass over a time-limited capture that leaves the filter on the route asks for the next
one, unless it cannot read the storage.** -/
theorem scheduled_iff (f : Fates) (agent : Option AgentScalingSpec) (s : Scaled) (key : Key)
    (tc : CaptureObject) (route : RouteKey) (hs : s.mirrors.captures.Ok)
    (hfind : s.mirrors.captures.find key = some tc) (hdel : tc.deleting = false)
    (hphase : tc.status.phase ≠ .completed) (htarget : tc.spec.target = some route) :
    ∃ r t, f.pass agent key s = some (r, t)
      ∧ (Scheduled route key r t ↔ ¬ f.Abandons s route tc) := by
  obtain rfl : tc.key = key := hs.key hfind
  rcases pass_cases agent hs hfind hdel (f := f)
    with ⟨hallow, tc', s', htaken, hpass⟩ | ⟨hno, t, hpass, -⟩
  · obtain ⟨r, t, heval⟩ := Prog.eval_isSome f.exec_isSome (runPass agent tc') s'
    refine ⟨r, t, hpass.trans heval, ?_⟩
    have hphase' : tc'.status.phase ≠ .completed := by rwa [htaken.status]
    cases hexp : captureExpired tc f.now with
    | true =>
        rw [run_expired hphase' ((htaken.expired_eq _).trans hexp)] at heval
        refine iff_of_true (fun herr hmirror => ?_) fun h =>
          absurd (hexp.symm.trans h.running) (by decide)
        rcases completed_unmirrored (htaken.spec ▸ htarget) heval with rfl | hgone
        · exact absurd rfl herr
        · rw [htaken.key_eq, hmirror] at hgone
          cases hgone
    | false =>
        rw [run_storage hphase' ((htaken.expired_eq _).trans hexp), htaken.storageOf_eq] at heval
        cases hst : f.storageOf s tc with
        | none =>
            rw [hst] at heval
            obtain ⟨hmirror, hr⟩ := failed_mirrored route tc.key htaken.found heval
            rw [mirrorsTo_of_routes htaken.routes] at hmirror
            by_cases hok : f.api .updateStatus = .ok
            · rw [if_pos hok] at hr
              subst hr
              constructor
              · intro hsched habandon
                obtain ⟨d, hd, -⟩ := hsched (by decide) (hmirror.trans habandon.mirrored)
                cases hd
              · intro hnot _ hm
                exact absurd ⟨hallow, hexp, hst, hok, hmirror.symm.trans hm⟩ hnot
            · rw [if_neg hok] at hr
              exact iff_of_true (fun herr => absurd hr herr) fun h => hok h.written
        | some ready =>
            have hnot : ¬ f.Abandons s route tc :=
              fun h => absurd (hst.symm.trans h.storage) (by simp)
            rw [hst] at heval
            refine iff_of_true (Prompt.scheduled ?_ _ _ _) hnot
            cases ready with
            | false => exact (returns_storageNotReady tc' _).eval heval
            | true => exact (returns_provisionPass agent tc').eval heval
  · exact ⟨.err, t, hpass, iff_of_true (fun herr => absurd rfl herr) fun h => hno h.admitted⟩

/-! ## Replicas -/

/-- The pass gets to the Deployment and writes it. -/
structure Fates.Rewrites (f : Fates) (s : Scaled) (tc : CaptureObject) : Prop where
  live : tc.deleting = false
  admitted : f.Admits tc
  incomplete : tc.status.phase ≠ .completed
  running : captureExpired tc f.now = false
  storage : f.storageOf s tc = some true
  accepted : f.api (.createOrUpdate .deployment) ≠ .refused

/-- No call of `Mirror` changes the replicas. -/
theorem replicas_timed {p : CapturePass Result} (h : (timed d p).eval f.exec s = some (r, t)) :
    t.replicas = s.replicas := by
  have hlift : (lift p).Only fun op => ∃ cop, op = .capture cop := by
    clear h
    induction p with
    | ret a => trivial
    | call op k ih => exact ⟨⟨op, rfl⟩, ih⟩
  have honly : (timed d p).Only fun op => ∃ cop, op = .capture cop :=
    hlift.bind fun a => by cases a <;> trivial
  refine Prog.Only.eval (P := fun u => u.replicas = s.replicas) ?_ honly h rfl
  rintro op u x u' ⟨cop, rfl⟩ hexec hu
  exact (Fates.exec_capture hexec).2.trans hu

theorem only_writeStatusAndWait (tc : CaptureObject) :
    (writeStatusAndWait tc).Only fun op => op.keepsDeployment = true := by
  refine ⟨rfl, fun x => ?_⟩
  cases x with
  | none => trivial
  | some tc' => exact ⟨rfl, fun _ => trivial⟩

theorem only_updateStatusPass (tc : CaptureObject) :
    (updateStatusPass tc).Only fun op => op.keepsDeployment = true := by
  refine ⟨rfl, fun x => ?_⟩
  rcases x with _ | _ | ⟨ready, desired⟩
  · trivial
  · trivial
  · dsimp only
    split
    · split
      · exact only_writeStatusAndWait _
      · exact ⟨rfl, fun _ => only_writeStatusAndWait _⟩
    · exact only_writeStatusAndWait _

/-- What comes after the Deployment. -/
theorem only_provision_rest (agent : Option AgentScalingSpec) (tc : CaptureObject) :
    (applyAll [.service (buildService tc.key), .hpa (buildHPA tc.key agent)]
      ((lift (addMirrorFilter tc)).bind fun
        | false => .ret .err
        | true => updateStatusPass tc)).Only fun op => op.keepsDeployment = true := by
  have hmirror : (lift (addMirrorFilter tc)).Only fun op => op.keepsDeployment = true := by
    unfold addMirrorFilter
    split
    · trivial
    · exact ⟨rfl, fun _ => trivial⟩
  refine ⟨rfl, fun b => ?_⟩
  cases b with
  | false => trivial
  | true =>
      refine ⟨rfl, fun b => ?_⟩
      cases b with
      | false => trivial
      | true =>
          refine hmirror.bind fun b => ?_
          cases b with
          | false => trivial
          | true => exact only_updateStatusPass tc

/-- **The steps 2 to 6 leave the Deployment with the replicas of the spec**, unless its write is
refused. -/
theorem provision_replicas (h : (provisionPass agent tc).eval f.exec s = some (r, t)) :
    (f.api (.createOrUpdate .deployment) = .refused → t.replicas = s.replicas) ∧
      (f.api (.createOrUpdate .deployment) ≠ .refused →
        (AgentKind.deployment, agentKey tc.key) ∈ t.mirrors.agents ∧
        t.replicas (agentKey tc.key) = (buildDeployment tc.key agent).replicas) := by
  obtain ⟨⟨b, s'⟩, hexec, hrest⟩ := Option.bind_eq_some_iff.mp h
  obtain ⟨hwrite, hreplicas⟩ := Fates.exec_apply hexec
  have hwrite : Outcome.perform (f.api (.createOrUpdate .deployment)) s.mirrors
      { s.mirrors with agents := s.mirrors.agents.insert (.deployment, agentKey tc.key) }
        = (b, s'.mirrors) :=
    Option.some.inj hwrite
  rw [Fates.rescale_deployment] at hreplicas
  constructor
  · intro hrefused
    rw [hrefused] at hwrite
    rw [if_pos hrefused] at hreplicas
    obtain ⟨rfl, -⟩ := Prod.mk.inj hwrite
    cases hrest
    exact hreplicas
  · intro hne
    rw [if_neg hne] at hreplicas
    have hset : s'.replicas (agentKey tc.key) = (buildDeployment tc.key agent).replicas := by
      rw [hreplicas]
      exact Function.update_self ..
    have hmem : (AgentKind.deployment, agentKey tc.key) ∈ s'.mirrors.agents := by
      rw [← (Prod.mk.inj hwrite).2]
      cases ho : f.api (.createOrUpdate .deployment) with
      | ok => exact List.mem_insert_self
      | refused => exact absurd ho hne
      | lost => exact List.mem_insert_self
    cases b with
    | false =>
        cases hrest
        exact ⟨hmem, hset⟩
    | true =>
        refine Prog.Only.eval (P := fun u => (AgentKind.deployment, agentKey tc.key)
          ∈ u.mirrors.agents ∧
          u.replicas (agentKey tc.key) = (buildDeployment tc.key agent).replicas) ?_
          (only_provision_rest agent tc) hrest ⟨hmem, hset⟩
        rintro op u x u' hop hexec ⟨hmem, hset⟩
        obtain ⟨hreplicas, hagents⟩ := exec_deployment hop hexec
        exact ⟨hagents _ hmem, hreplicas ▸ hset⟩

/-- A pass over a capture that is being deleted. -/
theorem pass_deleting (hfind : s.mirrors.captures.find key = some tc) (hdel : tc.deleting = true)
    (h : f.pass agent key s = some (r, t)) : t.replicas = s.replicas := by
  by_cases hget : f.api .get = .ok
  · have hread : f.exec (.capture (.get key)) s = some (.ok (some tc), s) := by
      rw [Fates.exec, Fates.choice, hget, Mirrors.exec, Outcome.read, hfind]
      rfl
    rw [Fates.pass, reconcilePass, Prog.eval_call hread] at h
    dsimp only at h
    rw [if_pos hdel] at h
    exact replicas_timed h
  · rw [pass_unread hget] at h
    cases h
    rfl

theorem pass_rewrites (hs : s.mirrors.captures.Ok)
    (hfind : s.mirrors.captures.find tc.key = some tc) (h : f.Rewrites s tc)
    (hpass : f.pass agent tc.key s = some (r, t)) :
    (AgentKind.deployment, agentKey tc.key) ∈ t.mirrors.agents ∧
      t.replicas (agentKey tc.key) = (buildDeployment tc.key agent).replicas := by
  rcases pass_cases agent hs hfind h.live (f := f) with ⟨-, tc', s', htaken, heval⟩ | ⟨hno, -⟩
  · have hphase : tc'.status.phase ≠ .completed := by
      rw [htaken.status]
      exact h.incomplete
    rw [hpass, run_storage hphase ((htaken.expired_eq _).trans h.running), htaken.storageOf_eq,
      h.storage] at heval
    rw [← htaken.key_eq]
    exact (provision_replicas heval.symm).2 h.accepted
  · exact absurd h.admitted hno

theorem pass_keeps_replicas (hs : s.mirrors.captures.Ok)
    (hfind : s.mirrors.captures.find tc.key = some tc) (h : ¬ f.Rewrites s tc)
    (hpass : f.pass agent tc.key s = some (r, t)) : t.replicas = s.replicas := by
  cases hdel : tc.deleting with
  | true => exact pass_deleting hfind hdel hpass
  | false =>
      rcases pass_cases agent hs hfind hdel (f := f)
        with ⟨hallow, tc', s', htaken, heval⟩ | ⟨-, t', ht', hkeep⟩
      · rw [hpass] at heval
        rw [← htaken.replicas]
        by_cases hphase : tc'.status.phase = .completed
        · rw [runPass, if_pos hphase] at heval
          cases heval
          rfl
        · cases hexp : captureExpired tc f.now with
          | true =>
              rw [run_expired hphase ((htaken.expired_eq _).trans hexp)] at heval
              exact replicas_timed heval.symm
          | false =>
              rw [run_storage hphase ((htaken.expired_eq _).trans hexp), htaken.storageOf_eq]
                at heval
              split at heval
              · exact replicas_timed heval.symm
              · exact replicas_timed heval.symm
              · rename_i hready
                refine (provision_replicas heval.symm).1 (by_contra fun hne => h ?_)
                exact ⟨hdel, hallow, htaken.status ▸ hphase, hexp, hready, hne⟩
      · rw [hpass] at ht'
        cases ht'
        exact hkeep

/-- **A pass leaves the replicas of the Deployment as they are if and only if they are those of the
spec, or it does not get to write the Deployment.** -/
theorem replicas_kept_iff (f : Fates) (agent : Option AgentScalingSpec) (s : Scaled) (key : Key)
    (tc : CaptureObject) (hs : s.mirrors.captures.Ok)
    (hfind : s.mirrors.captures.find key = some tc) :
    ∃ r t, f.pass agent key s = some (r, t) ∧
      (((AgentKind.deployment, agentKey key) ∈ t.mirrors.agents →
          t.replicas (agentKey key) = s.replicas (agentKey key)) ↔
        s.replicas (agentKey key) = (buildDeployment key agent).replicas ∨ ¬ f.Rewrites s tc) := by
  obtain rfl : tc.key = key := hs.key hfind
  obtain ⟨r, t, hpass⟩ := Prog.eval_isSome f.exec_isSome (reconcilePass agent tc.key) s
  refine ⟨r, t, hpass, ?_⟩
  by_cases hrewrites : f.Rewrites s tc
  · obtain ⟨hmem, hset⟩ := pass_rewrites hs hfind hrewrites hpass
    rw [hset]
    constructor
    · exact fun h => .inl (h hmem).symm
    · rintro (heq | hno) _
      · exact heq.symm
      · exact absurd hrewrites hno
  · rw [pass_keeps_replicas hs hfind hrewrites hpass]
    exact iff_of_true (fun _ => rfl) (.inr hrewrites)

/-! ## A capture that has begun -/

def webRoute : RouteKey := ⟨.http, lit "shop", lit "web"⟩

/-- A capture of one hour, begun at the time 0. -/
def checkoutObject : CaptureObject where
  spec := checkoutCapture (lit "web")
  duration := some (3600 * second)
  deleting := false
  finalizer := true
  resourceVersion := 0
  status := ⟨.active, some 0, none, none⟩

/-- Its cluster, with a storage that is ready and with agents as the autoscaler has set them. -/
def checkoutCluster (replicas : Int32) : Scaled where
  mirrors :=
    { captures := Store.empty.put checkoutObject
      agents := [(.deployment, agentKey checkoutKey), (.service, agentKey checkoutKey),
        (.hpa, agentKey checkoutKey)]
      routes := AList.insert webRoute ⟨[[.other (lit "URLRewrite")]], none⟩ ∅
      storages := AList.insert ⟨lit "shop", lit "store"⟩ true ∅
      busy := none }
  replicas := fun _ => replicas

/-- A pass one minute later in which every call succeeds. -/
def calm : Fates := ⟨fun _ => .ok, 1, 60 * second, 60 * second, 60 * second⟩

/-- The storage is removed. -/
def Scaled.withoutStorage (s : Scaled) : Scaled :=
  { s with mirrors := { s.mirrors with storages := ∅ } }

/-- The cluster after a pass that has put the filter on the route, and without its storage. -/
def mirroredCluster : Scaled :=
  (((calm.pass none checkoutKey (checkoutCluster 1)).map (·.2)).getD
    (checkoutCluster 1)).withoutStorage

theorem checkout_scheduled : ∃ r t, calm.pass none checkoutKey (checkoutCluster 1) = some (r, t) ∧
    (Scheduled webRoute checkoutKey r t ↔ ¬ calm.Abandons (checkoutCluster 1) webRoute
      (Store.empty.stamped checkoutObject)) :=
  scheduled_iff calm none (checkoutCluster 1) checkoutKey (Store.empty.stamped checkoutObject)
    webRoute
    (Store.ok_empty.put _) rfl rfl (by decide) rfl

/-- **A pass puts the filter on the route, the storage goes, and the next pass is the last one**,
with the filter still there and most of the hour to go. -/
theorem checkout_not_scheduled :
    (calm.pass none checkoutKey (checkoutCluster 1)).map (·.1) = some (.after (30 * second)) ∧
    ((mirroredCluster.mirrors.captures.find checkoutKey).any fun tc =>
      decide (tc.duration = some (3600 * second)
      ∧ tc.status.startTime = some 0 ∧ tc.status.phase = .active ∧ tc.deleting = false)) = true ∧
    ∃ t, calm.pass none checkoutKey mirroredCluster = some (.done, t)
      ∧ ¬ Scheduled webRoute checkoutKey .done t := by
  have hrun : (calm.pass none checkoutKey mirroredCluster).any (fun x =>
      decide (x.1 = .done) && x.2.mirrors.mirrorsTo webRoute checkoutKey)
        = true := by decide +kernel
  refine ⟨by decide +kernel, by decide +kernel, ?_⟩
  obtain ⟨⟨r, t⟩, hpass, hx⟩ := (Option.any_eq_true ..).mp hrun
  rw [Bool.and_eq_true, decide_eq_true_eq] at hx
  obtain ⟨rfl, hmirror⟩ := hx
  refine ⟨t, hpass, fun hsched => ?_⟩
  obtain ⟨d, hd, -⟩ := hsched (by decide) hmirror
  cases hd

theorem checkout_replicas : ∃ r t, calm.pass none checkoutKey (checkoutCluster 1) = some (r, t) ∧
    (((AgentKind.deployment, agentKey checkoutKey) ∈ t.mirrors.agents →
        t.replicas (agentKey checkoutKey) = (checkoutCluster 1).replicas (agentKey checkoutKey)) ↔
      (checkoutCluster 1).replicas (agentKey checkoutKey)
        = (buildDeployment checkoutKey none).replicas ∨
        ¬ calm.Rewrites (checkoutCluster 1) (Store.empty.stamped checkoutObject)) :=
  replicas_kept_iff calm none (checkoutCluster 1) checkoutKey (Store.empty.stamped checkoutObject)
    (Store.ok_empty.put _) rfl

/-- **The autoscaler has set five agents, between its minimum and its maximum, and a pass leaves
one.** -/
theorem checkout_scaled_down :
    (buildHPA checkoutKey none).minReplicas ≤ 5
      ∧ (5 : Int32) ≤ (buildHPA checkoutKey none).maxReplicas ∧
    (checkoutCluster 5).replicas (agentKey checkoutKey) = 5 ∧
    ((calm.pass none checkoutKey (checkoutCluster 5)).any fun x =>
      decide ((AgentKind.deployment, agentKey checkoutKey) ∈ x.2.mirrors.agents ∧
        x.2.replicas (agentKey checkoutKey) = 1)) = true := by
  refine ⟨by decide, by decide, rfl, by decide +kernel⟩

end Kapture.Spoke
