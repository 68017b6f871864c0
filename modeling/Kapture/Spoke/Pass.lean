import Kapture.Spoke.AgentObjects

/-!
# A pass of the capture reconciler

`Mirror` has the calls of a reconcile. Here it is with the rest of what it does: **which objects it
writes for the agent, and when it asks to be called again**. An update of an object writes all of
its spec, and so the replicas of the Deployment.

A pass is run by itself, with everything that is open about it in its `Fates`: how each call fares,
what the clock shows and how many agents are ready. `reaches_pass` brings it back to `Mirror`: such
a pass is a pass of that machine.
-/

namespace Kapture.Spoke

open Go Storage Hub Conc Objects Rfc3339

/-- What a reconcile returns. -/
inductive Requeue where
  | err
  /-- No error, and no wish to be called again. -/
  | done
  | after (d : Duration)
deriving DecidableEq, Repr

/-- The same without the delay. -/
def Requeue.result : Requeue → Result
  | .err => .err
  | .done => .done
  | .after _ => .requeue

inductive AgentObject where
  | deployment (d : Deployment)
  | service (svc : Service)
  | hpa (h : HorizontalPodAutoscaler)
deriving DecidableEq, Repr

def AgentObject.kind : AgentObject → AgentKind
  | .deployment _ => .deployment
  | .service _ => .service
  | .hpa _ => .hpa

def AgentObject.key : AgentObject → Key
  | .deployment d => d.key
  | .service svc => svc.key
  | .hpa h => h.key

inductive PassOp where
  | capture (op : CaptureOp)
  /-- `createOrUpdate`. -/
  | apply (obj : AgentObject)
  /-- `metav1.Now`, for the start time. -/
  | startNow
  /-- `time.Since`, for the next reconcile. -/
  | checkNow
deriving DecidableEq, Repr

@[reducible] def PassOp.Ans : PassOp → Type
  | .capture op => op.Ans
  | .apply _ => Bool
  | .startNow => Time
  | .checkNow => Time

abbrev Pass := Prog PassOp PassOp.Ans

/-! ## The program -/

/-- A part of a reconcile as `Mirror` has it. -/
def lift {α : Type} : CapturePass α → Pass α
  | .ret a => .ret a
  | .call op k => .call (.capture op) fun r => lift (k r)

/-- A part that asks to be called again after `d`. -/
def timed (d : Duration) (p : CapturePass Result) : Pass Requeue :=
  (lift p).bind fun
    | .err => .ret .err
    | .done => .ret .done
    | .requeue => .ret (.after d)

/-- The second result of `captureExpired`. -/
def captureRemaining (tc : CaptureObject) (now : Time) : Duration :=
  match tc.duration, tc.status.startTime with
  | some duration, some start => remaining duration start now
  | _, _ => 0

/-- The delay after an update of the status. -/
def requeueAfter (tc : CaptureObject) (now : Time) : Duration :=
  if captureExpired tc now = false ∧ 0 < captureRemaining tc now ∧ captureRemaining tc now
    < 30 * second then
    captureRemaining tc now
  else 30 * second

/-- The end of `updateStatus`. -/
def writeStatusAndWait (tc : CaptureObject) : Pass Requeue :=
  .call (.capture (.updateStatus tc)) fun
    | none => .ret .err
    | some tc => .call .checkNow fun now => .ret (.after (requeueAfter tc now))

/-- `updateStatus`. -/
def updateStatusPass (tc : CaptureObject) : Pass Requeue :=
  .call (.capture (.getDeployment (agentKey tc.key))) fun
    | .error _ => .ret .err
    | .ok none => .ret (.after (5 * second))
    | .ok (some (ready, desired)) =>
        let status := { tc.status with
          agentStatus := some (ready, desired), ready := some (.agentDeployment ready desired) }
        if 0 < ready then
          match tc.status.startTime with
          | some _ => writeStatusAndWait { tc with status := { status with phase := .active } }
          | none => .call .startNow fun now => writeStatusAndWait
              { tc with status := { status with phase := .active, startTime := some now } }
        else writeStatusAndWait { tc with status := { status with phase := .pending } }

/-- Writes objects one after the other, up to the first that fails. -/
def applyAll : List AgentObject → Pass Requeue → Pass Requeue
  | [], rest => rest
  | obj :: objs, rest => .call (.apply obj) fun
    | false => .ret .err
    | true => applyAll objs rest

/-- The steps 2 to 6 of `Reconcile`. -/
def provisionPass (agent : Option AgentScalingSpec) (tc : CaptureObject) : Pass Requeue :=
  applyAll
    [.deployment (buildDeployment tc.key agent), .service (buildService tc.key),
      .hpa (buildHPA tc.key agent)]
    ((lift (addMirrorFilter tc)).bind fun
      | false => .ret .err
      | true => updateStatusPass tc)

/-- A capture that is not being deleted and has its finalizer. -/
def runPass (agent : Option AgentScalingSpec) (tc : CaptureObject) : Pass Requeue :=
  if tc.status.phase = .completed then .ret .done
  else .call (.capture .now) fun now =>
    if captureExpired tc now then timed (10 * second) (completeCapture tc)
    else
      let storage : Key := ⟨tc.key.ns, tc.spec.storageRef⟩
      .call (.capture (.getStorage storage)) fun
        | .error _ =>
            timed (10 * second) (setPhaseWithCondition tc .failed (.storageNotFound storage))
        | .ok none =>
            timed (10 * second) (setPhaseWithCondition tc .failed (.storageNotFound storage))
        | .ok (some false) =>
            timed (10 * second) (setPhaseWithCondition tc .pending (.storageNotReady storage))
        | .ok (some true) => provisionPass agent tc

/-- `Reconcile` of a capture with this scaling. -/
def reconcilePass (agent : Option AgentScalingSpec) (key : Key) : Pass Requeue :=
  .call (.capture (.get key)) fun
    | .error _ => .ret .err
    | .ok none => .ret .done
    | .ok (some tc) =>
        if tc.deleting then timed (10 * second) (deleteCapture tc)
        else if tc.finalizer then runPass agent tc
        else .call (.capture (.update { tc with finalizer := true })) fun
          | none => .ret .err
          | some tc => runPass agent tc

/-! ## What `Mirror` sees of it -/

/-- The calls that `Mirror` has. The clock that is read for the delay is none of them: it shows
`t`. -/
def seen (t : Time) : Pass Requeue → CapturePass Result
  | .ret r => .ret r.result
  | .call (.capture op) k => .call op fun r => seen t (k r)
  | .call (.apply obj) k => .call (.createOrUpdate obj.kind obj.key) fun r => seen t (k r)
  | .call .startNow k => .call .now fun now => seen t (k now)
  | .call .checkNow k => seen t (k t)

section Seen

variable (t : Time)

theorem seen_lift_bind {α : Type} (p : CapturePass α) (f : α → Pass Requeue) :
    seen t ((lift p).bind f) = p.bind fun a => seen t (f a) := by
  induction p with
  | ret a => rfl
  | call op k ih => exact congrArg _ (funext ih)

theorem seen_timed (d : Duration) (p : CapturePass Result) : seen t (timed d p) = p := by
  refine (seen_lift_bind t p _).trans (Eq.trans (congrArg p.bind (funext fun r => ?_)) p.bind_ret)
  cases r <;> rfl

theorem seen_writeStatusAndWait (tc : CaptureObject) :
    seen t (writeStatusAndWait tc) = writeCaptureStatus tc .requeue := by
  refine congrArg (Prog.call _) (funext fun r => ?_)
  cases r <;> rfl

theorem seen_updateStatusPass (tc : CaptureObject) :
    seen t (updateStatusPass tc) = updateCaptureStatus tc := by
  refine congrArg (Prog.call _) (funext fun r => ?_)
  rcases r with _ | _ | ⟨ready, desired⟩
  · rfl
  · rfl
  · dsimp only
    by_cases hready : 0 < ready
    · rw [if_pos hready, if_pos hready]
      cases tc.status.startTime with
      | some start => exact seen_writeStatusAndWait t _
      | none => exact congrArg (Prog.call _) (funext fun now => seen_writeStatusAndWait t _)
    · rw [if_neg hready, if_neg hready]
      exact seen_writeStatusAndWait t _

theorem seen_applyAll (objs : List AgentObject) (rest : Pass Requeue) :
    seen t (applyAll objs rest) =
      inOrder (objs.map fun obj => .call (.createOrUpdate obj.kind obj.key) .ret)
        (seen t rest) := by
  induction objs with
  | nil => rfl
  | cons obj objs ih =>
      refine congrArg (Prog.call _) (funext fun r => ?_)
      cases r with
      | false => rfl
      | true => exact ih

theorem inOrder_append (ps qs : List (CapturePass Bool)) (rest : CapturePass Result) :
    inOrder (ps ++ qs) rest = inOrder ps (inOrder qs rest) := by
  induction ps with
  | nil => rfl
  | cons p ps ih =>
      refine congrArg p.bind (funext fun b => ?_)
      cases b with
      | false => rfl
      | true => exact ih

theorem seen_provisionPass (agent : Option AgentScalingSpec) (tc : CaptureObject) :
    seen t (provisionPass agent tc) = provision tc := by
  have hmirror : seen t ((lift (addMirrorFilter tc)).bind fun
      | false => .ret .err
      | true => updateStatusPass tc) = inOrder [addMirrorFilter tc] (updateCaptureStatus tc) := by
    refine (seen_lift_bind t _ _).trans (congrArg (addMirrorFilter tc).bind (funext fun b => ?_))
    cases b with
    | false => rfl
    | true => exact seen_updateStatusPass t tc
  rw [provisionPass, seen_applyAll, hmirror, ← inOrder_append]
  rfl

theorem seen_runPass (agent : Option AgentScalingSpec) (tc : CaptureObject) :
    seen t (runPass agent tc) = runCapture tc := by
  unfold runPass runCapture
  by_cases hphase : tc.status.phase = .completed
  · rw [if_pos hphase, if_pos hphase]
    rfl
  · rw [if_neg hphase, if_neg hphase]
    refine congrArg (Prog.call _) (funext fun now => ?_)
    dsimp only
    by_cases hexpired : captureExpired tc now = true
    · rw [if_pos hexpired, if_pos hexpired]
      exact seen_timed t _ _
    · rw [if_neg hexpired, if_neg hexpired]
      refine congrArg (Prog.call _) (funext fun r => ?_)
      rcases r with _ | _ | _ | _
      · exact seen_timed t _ _
      · exact seen_timed t _ _
      · exact seen_timed t _ _
      · exact seen_provisionPass t agent tc

/-- **It is the program of `Mirror`.** -/
theorem seen_reconcilePass (agent : Option AgentScalingSpec) (key : Key) :
    seen t (reconcilePass agent key) = reconcileCapture key := by
  refine congrArg (Prog.call _) (funext fun r => ?_)
  rcases r with _ | _ | tc
  · rfl
  · rfl
  · dsimp only
    by_cases hdel : tc.deleting = true
    · rw [if_pos hdel, if_pos hdel]
      exact seen_timed t _ _
    · rw [if_neg hdel, if_neg hdel]
      by_cases hfin : tc.finalizer = true
      · rw [if_pos hfin, if_pos hfin]
        exact seen_runPass t agent tc
      · rw [if_neg hfin, if_neg hfin]
        refine congrArg (Prog.call _) (funext fun r => ?_)
        cases r with
        | none => rfl
        | some tc' => exact seen_runPass t agent tc'

end Seen

/-! ## The cluster -/

/-- The cluster, with the replicas of the Deployments that exist. -/
structure Scaled where
  mirrors : Mirrors
  replicas : Key → Int32

/-- The calls of a pass, each of which it makes at most once. -/
inductive PassCall where
  | get
  | update
  | updateStatus
  | getStorage
  | createOrUpdate (kind : AgentKind)
  | deleteAgent (kind : AgentKind)
  | getDeployment
  | addMirror
  | removeMirror
deriving DecidableEq, Repr

/-- What is open about a pass. -/
structure Fates where
  api : PassCall → Outcome
  /-- The ready replicas of the Deployment. -/
  ready : Int32
  /-- The time at which it looks whether the capture has expired. -/
  now : Time
  started : Time
  checked : Time

namespace Fates

variable (f : Fates)

def choice (s : Scaled) : CaptureOp → Mirrors.Choice
  | .get _ => .api (f.api .get)
  | .update _ => .api (f.api .update)
  | .updateStatus _ => .api (f.api .updateStatus)
  | .getStorage _ => .api (f.api .getStorage)
  | .createOrUpdate kind _ => .api (f.api (.createOrUpdate kind))
  | .deleteAgent kind _ => .api (f.api (.deleteAgent kind))
  | .getDeployment key => .deployment (f.api .getDeployment) f.ready (s.replicas key)
  | .addMirror _ _ => .api (f.api .addMirror)
  | .removeMirror _ _ => .api (f.api .removeMirror)
  | .now => .time f.now

/-- What becomes of the replicas when an object is written. -/
def rescale (obj : AgentObject) (replicas : Key → Int32) : Key → Int32 :=
  match obj, f.api (.createOrUpdate obj.kind) with
  | .deployment _, .refused => replicas
  | .deployment d, _ => Function.update replicas d.key d.replicas
  | _, _ => replicas

def exec : (op : PassOp) → Scaled → Option (op.Ans × Scaled)
  | .capture op, s =>
      (Mirrors.exec op (f.choice s op) s.mirrors).map fun x => (x.1, { s with mirrors := x.2 })
  | .apply obj, s =>
      (Mirrors.exec (.createOrUpdate obj.kind obj.key) (.api (f.api (.createOrUpdate obj.kind)))
        s.mirrors).map
        fun x => (x.1, ⟨x.2, f.rescale obj s.replicas⟩)
  | .startNow, s => some (f.started, s)
  | .checkNow, s => some (f.checked, s)

/-- **A reconcile of a capture, by itself.** -/
def pass (agent : Option AgentScalingSpec) (key : Key) (s : Scaled) : Option (Requeue × Scaled) :=
  (reconcilePass agent key).eval f.exec s

theorem exec_isSome (op : PassOp) (s : Scaled) : (f.exec op s).isSome = true := by
  cases op with
  | capture op => cases op <;> rfl
  | apply obj => rfl
  | startNow => rfl
  | checkNow => rfl

variable {f} {s s' : Scaled} {ok : MirrorsLabel → Mirrors → Prop}

theorem exec_capture {op : CaptureOp} {r : op.Ans} (h : f.exec (.capture op) s = some (r, s')) :
    mirrors.exec op (f.choice s op) s.mirrors = some (r, s'.mirrors)
      ∧ s'.replicas = s.replicas := by
  obtain ⟨⟨a, m⟩, hexec, heq⟩ := Option.map_eq_some_iff.mp h
  cases heq
  exact ⟨hexec, rfl⟩

theorem exec_apply {obj : AgentObject} {r : Bool} (h : f.exec (.apply obj) s = some (r, s')) :
    mirrors.exec (.createOrUpdate obj.kind obj.key) (.api (f.api (.createOrUpdate obj.kind)))
      s.mirrors =
      some (r, s'.mirrors) ∧ s'.replicas = f.rescale obj s.replicas := by
  rw [exec] at h
  obtain ⟨⟨a, m⟩, hexec, heq⟩ := Option.map_eq_some_iff.mp h
  cases heq
  exact ⟨hexec, rfl⟩

theorem rescale_deployment (d : Deployment) (replicas : Key → Int32) :
    f.rescale (.deployment d) replicas = if f.api (.createOrUpdate .deployment) = .refused then
      replicas
      else Function.update replicas d.key d.replicas := by
  cases h : f.api (.createOrUpdate .deployment) <;> simp [rescale, AgentObject.kind, h]

/-- A part of a pass is a run of the machine of `Mirror`. -/
theorem reaches_eval (hok : ∀ l s, ok l s) {p : Pass Requeue} {key : Key} {t : Scaled} {r : Requeue}
    (hr : MirrorsReaches ok ⟨s.mirrors, some (key, seen f.checked p)⟩)
    (h : p.eval f.exec s = some (r, t)) :
    MirrorsReaches ok ⟨t.mirrors, some (key, .ret r.result)⟩ := by
  induction p generalizing s with
  | ret a =>
      cases h
      exact hr
  | call op k ih =>
      obtain ⟨⟨a, s'⟩, hx, hrest⟩ := Option.bind_eq_some_iff.mp h
      cases op with
      | capture op => exact ih a (hr.step (.op (hok _ _) (exec_capture hx).1)) hrest
      | apply obj => exact ih a (hr.step (.op (hok _ _) (exec_apply hx).1)) hrest
      | startNow =>
          cases hx
          have hnow : mirrors.exec .now (.time f.started) s.mirrors = some (f.started, s.mirrors) :=
            rfl
          exact ih _ (hr.step (.op (hok _ _) hnow)) hrest
      | checkNow =>
          cases hx
          exact ih _ hr hrest

/-- **A pass is a pass of the machine of `Mirror`.** -/
theorem reaches_pass (hok : ∀ l s, ok l s) {agent : Option AgentScalingSpec} {key : Key}
    {m : Mirrors} {replicas : Key → Int32} {t : Scaled} {r : Requeue}
    (hr : MirrorsReaches ok ⟨m, none⟩)
    (h : f.pass agent key ⟨{ m with busy := some key }, replicas⟩ = some (r, t)) :
    MirrorsReaches ok ⟨{ t.mirrors with busy := none }, none⟩ := by
  have henter : MirrorsReaches ok ⟨{ m with busy := some key }, some (key, reconcileCapture key)⟩ :=
    hr.step (.enter (hok _ _))
  rw [← seen_reconcilePass f.checked agent key] at henter
  exact (reaches_eval hok henter h).step .leave

end Fates

end Kapture.Spoke
