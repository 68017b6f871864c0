import Kapture.Spoke.Mirror

/-!
# Mirror filters point at a live agent

A route that carries the filter of a capture sends copies of its requests to the agent's
Service. The capture's finalizer is there to take the filter away before the capture goes,
and with it the Service. Two things get past it:

* `reconcileDelete` goes on to remove the finalizer when `RemoveMirrorFilter` has failed;
* an edit of the target leaves the filter on the old route, which nobody looks at again.

Without these **a route only carries the filter of a capture that exists, holds its
finalizer and has that route as its target** (`MirrorInv`). The edit is harmless while
there is no filter, and no reconcile under way that could still add one.
-/

namespace Kapture.Spoke

open Go Storage Hub Conc Objects

/-- The agent of every mirrored capture has its Service, or the capture is still there and
holds its finalizer. -/
def MirrorsLive (s : Mirrors) : Prop :=
  ∀ key, s.mirrored key = true → (AgentKind.service, agentKey key) ∈ s.agents ∨
    ∃ tc, s.captures.find key = some tc ∧ tc.finalizer = true

/-- An edit keeps the target, or finds the capture neither mirrored nor being reconciled. -/
def keepsTarget : MirrorsLabel → Mirrors → Bool
  | .act (.edit spec _), s => (s.captures.find spec.key).all fun cur =>
      decide (cur.spec.target = spec.target)
        || (decide (s.busy ≠ some spec.key) && !s.mirrored spec.key)
  | _, _ => true

/-- In the reconcile of a capture that is being deleted, the removal of the filter succeeds. -/
def unmirrors : MirrorsLabel → Mirrors → Bool
  | .op (.removeMirror _ _) c, s =>
      decide (c = .api .ok) || !(s.busy.bind s.captures.find).any (·.deleting)
  | _, _ => true

/-! ## Routes -/

theorem mem_addedFor {route : Route} {key : Key} :
    key ∈ route.addedFor ↔ ∃ filters ∈ route.rules, RouteFilter.added key ∈ filters := by
  unfold Route.addedFor
  rw [List.mem_filterMap]
  constructor
  · rintro ⟨f, hf, hkey⟩
    obtain ⟨filters, hfilters, hmem⟩ := List.mem_flatten.mp hf
    cases f with
    | added k =>
        cases hkey
        exact ⟨filters, hfilters, hmem⟩
    | mirror backend => cases hkey
    | other type => cases hkey
  · rintro ⟨filters, hfilters, hmem⟩
    exact ⟨.added key, List.mem_flatten.mpr ⟨filters, hfilters, hmem⟩, rfl⟩

theorem addedFor_addMirror {route : Route} {key k : Key} (h : k ∈ (route.addMirror key).addedFor) :
    k ∈ route.addedFor ∨ k = key := by
  obtain ⟨filters, hfilters, hmem⟩ := mem_addedFor.mp h
  obtain ⟨old, hold, rfl⟩ := List.mem_map.mp hfilters
  split at hmem
  · exact .inl (mem_addedFor.mpr ⟨old, hold, hmem⟩)
  · rcases List.mem_append.mp hmem with hmem | hnew
    · exact .inl (mem_addedFor.mpr ⟨old, hold, hmem⟩)
    · cases List.mem_singleton.mp hnew
      exact .inr rfl

/-- **The removal finds the capture's own filter**, since it goes by the name of the Service. -/
theorem addedFor_removeMirror {route : Route} {key k : Key}
    (h : k ∈ (route.removeMirror key).addedFor) : k ∈ route.addedFor ∧ k ≠ key := by
  obtain ⟨filters, hfilters, hmem⟩ := mem_addedFor.mp h
  obtain ⟨old, hold, rfl⟩ := List.mem_map.mp hfilters
  obtain ⟨hmem, hother⟩ := List.mem_filter.mp hmem
  refine ⟨mem_addedFor.mpr ⟨old, hold, hmem⟩, ?_⟩
  rintro rfl
  simp [RouteFilter.mirrorsTo, RouteFilter.backend] at hother

variable {s s' : Mirrors} {route : RouteKey} {key : Key} {place : RouteKey} {tc : CaptureObject}
  {o : Outcome} {r : Option CaptureObject}

theorem carries_iff : s.carries route key = true ↔
    ∃ r, s.routes.lookup route = some r ∧ key ∈ r.addedFor := by
  unfold Mirrors.carries
  rw [Option.any_eq_true]
  constructor
  · rintro ⟨r, hr, hkey⟩
    exact ⟨r, hr, of_decide_eq_true hkey⟩
  · rintro ⟨r, hr, hkey⟩
    exact ⟨r, hr, decide_eq_true hkey⟩

theorem mirrored_iff : s.mirrored key = true ↔ ∃ route, s.carries route key = true := by
  unfold Mirrors.mirrored
  rw [List.any_eq_true]
  constructor
  · rintro ⟨route, _, h⟩
    exact ⟨route, h⟩
  · rintro ⟨route, h⟩
    obtain ⟨r, hr, _⟩ := carries_iff.mp h
    refine ⟨route, AList.mem_keys.mpr ?_, h⟩
    exact AList.lookup_isSome.mp (by rw [hr]; rfl)

theorem not_carries (h : s.mirrored key = false) : s.carries route key = false := by
  rw [Bool.eq_false_iff]
  intro hc
  rw [mirrored_iff.mpr ⟨route, hc⟩] at h
  cases h

/-- What a route carries after another one, or itself, was written. -/
theorem carries_insert {r : Route}
    (h : ({ s with routes := s.routes.insert place r } : Mirrors).carries route key = true) :
    (route = place ∧ key ∈ r.addedFor) ∨ (route ≠ place ∧ s.carries route key = true) := by
  obtain ⟨x, hx, hkey⟩ := carries_iff.mp h
  by_cases hr : route = place
  · subst hr
    cases (AList.lookup_insert s.routes).symm.trans hx
    exact .inl ⟨rfl, hkey⟩
  · exact .inr ⟨hr, carries_iff.mpr ⟨x, (AList.lookup_insert_ne hr).symm.trans hx, hkey⟩⟩

theorem carries_erase
    (h : ({ s with routes := s.routes.erase place } : Mirrors).carries route key = true) :
    s.carries route key = true := by
  obtain ⟨x, hx, hkey⟩ := carries_iff.mp h
  by_cases hr : route = place
  · subst hr
    cases (AList.lookup_erase route s.routes).symm.trans hx
  · exact carries_iff.mpr ⟨x, (AList.lookup_erase_ne hr).symm.trans hx, hkey⟩

/-! ## What others do -/

variable {a : MirrorsAct}

/-- What others make of a capture: they edit it, or ask for its deletion. -/
def CaptureRevised (a : MirrorsAct) (key : Key) (tc new : CaptureObject) : Prop :=
  (∃ spec duration, a = .edit spec duration ∧ spec.key = key ∧
    new = { tc with spec := spec, duration := duration }) ∨ new = { tc with deleting := true }

/-- **What others do**: they create, edit or delete captures. No route gets a filter from them. -/
theorem mirrors_act_cases (h : mirrors.act a s = some s') :
    s.captures.Changes (fun _ => True) (CaptureRevised a) s'.captures ∧ s'.busy = s.busy ∧
      ∀ route key, s'.carries route key = true → s.carries route key = true := by
  unfold mirrors Mirrors.act at h
  cases a with
  | create tc =>
      dsimp only at h
      split at h
      · cases h
      · rename_i hnone
        cases h
        exact ⟨.created hnone trivial, rfl, fun _ _ h => h⟩
  | edit spec duration =>
      dsimp only at h
      split at h
      · cases h
      · rename_i tc hfind
        cases h
        refine ⟨?_, rfl, fun _ _ h => h⟩
        exact .edited hfind (fun _ => rfl) (.inl ⟨spec, duration, rfl, rfl, rfl⟩)
  | delete key =>
      dsimp only at h
      split at h
      · cases h
      · rename_i tc hfind
        cases h
        exact ⟨.deleted hfind (fun hs => (hs.key hfind :)) (.inr rfl), rfl, fun _ _ h => h⟩
  | setRoute place content =>
      obtain ⟨hold, rfl⟩ := Option.ite_some_none_eq_some.mp h
      refine ⟨.same, rfl, fun route key hc => ?_⟩
      rcases carries_insert hc with ⟨rfl, hkey⟩ | ⟨_, hc⟩
      · exact List.all_eq_true.mp hold key hkey
      · exact hc
  | removeRoute place =>
      cases h
      exact ⟨.same, rfl, fun _ _ h => carries_erase h⟩
  | setStorage _ _ | removeStorage _ | removeAgent _ _ =>
      cases h
      exact ⟨.same, rfl, fun _ _ h => h⟩

/-- **A capture with its finalizer stays**, and keeps its target unless it is edited. -/
theorem mirrors_act_find (h : mirrors.act a s = some s') (hs : s.captures.Ok) {cur : CaptureObject}
    (hfind : s.captures.find key = some cur) (hfin : cur.finalizer = true) :
    ∃ x, s'.captures.find key = some x ∧ x.finalizer = true ∧
      (cur.deleting = true → x.deleting = true) ∧
      (x.spec.target = cur.spec.target ∨ ∃ duration, a = .edit x.spec duration ∧ x.key = key) := by
  have hfinal : ∀ {z}, CaptureRevised a key cur z → z.finalizer = true := by
    rintro z (⟨_, _, _, _, rfl⟩ | rfl) <;> exact hfin
  obtain ⟨x, hx, rfl | ⟨z, ⟨_, duration, rfl, hkey, rfl⟩ | rfl, rfl⟩⟩ :=
    (mirrors_act_cases h).1.keeps hs hfinal hfind
  · exact ⟨x, hx, hfin, id, .inl rfl⟩
  · exact ⟨_, hx, hfin, id, .inr ⟨duration, rfl, hkey⟩⟩
  · exact ⟨_, hx, hfin, fun _ => rfl, .inl rfl⟩

/-! ## The invariant -/

structure MirrorInv (s : Mirrors) : Prop where
  store : s.captures.Ok
  held : ∀ route key, s.carries route key = true →
    ∃ cur, s.captures.find key = some cur ∧ cur.finalizer = true ∧ cur.spec.target = some route

theorem MirrorInv.live (h : MirrorInv s) : MirrorsLive s := by
  intro key hkey
  obtain ⟨route, hroute⟩ := mirrored_iff.mp hkey
  obtain ⟨cur, hfind, hfin, _⟩ := h.held route key hroute
  exact .inr ⟨cur, hfind, hfin⟩

/-- Routes lose filters. -/
theorem MirrorInv.sub (h : MirrorInv s) (hcap : s'.captures = s.captures)
    (hsub : ∀ route key, s'.carries route key = true → s.carries route key = true) :
    MirrorInv s' := by
  refine ⟨?_, fun route key hc => ?_⟩
  · rw [hcap]
    exact h.store
  · rw [hcap]
    exact h.held route key (hsub route key hc)

/-- A capture is stored, or goes away, which it may if no route carries its filter. -/
theorem MirrorInv.stored (h : MirrorInv s) (x : CaptureObject)
    (hx : ∀ route, s.carries route x.key = true → x.finalizer = true ∧ x.spec.target = some route) :
    MirrorInv { s with captures := s.captures.store x } := by
  refine ⟨h.store.store x, fun route key hc => ?_⟩
  have hc : s.carries route key = true := hc
  by_cases hkey : key = x.key
  · subst hkey
    obtain ⟨hfin, htarget⟩ := hx route hc
    refine ⟨s.captures.stamped x, Store.find_store_keep s.captures rfl ?_, hfin, htarget⟩
    rintro ⟨-, hno⟩
    exact absurd (hfin.symm.trans hno) (by decide)
  · obtain ⟨cur, hfind, hcur⟩ := h.held route key hc
    exact ⟨cur, (Store.find_store_of_ne s.captures hkey).trans hfind, hcur⟩

/-- A capture changes in neither its finalizer nor its target. -/
theorem MirrorInv.restored (h : MirrorInv s) {cur x : CaptureObject}
    (hfind : s.captures.find x.key = some cur) (hfin : x.finalizer = cur.finalizer)
    (htarget : x.spec.target = cur.spec.target) :
    MirrorInv { s with captures := s.captures.store x } := by
  refine h.stored x fun route hc => ?_
  obtain ⟨y, hy, hyfin, hytarget⟩ := h.held route x.key hc
  rw [hfind] at hy
  cases hy
  exact ⟨hfin.trans hyfin, htarget.trans hytarget⟩

/-- What a reconcile knows of a capture that it works on and that has its finalizer. -/
structure Holding (tc : CaptureObject) (s : Mirrors) : Prop where
  store : s.captures.Ok
  busy : s.busy = some tc.key
  held : ∃ cur, s.captures.find tc.key = some cur ∧ cur.finalizer = true ∧
    cur.spec.target = tc.spec.target ∧ (tc.deleting = true → cur.deleting = true)

theorem Holding.of_find (hs : s.captures.Ok) (hbusy : s.busy = some tc.key)
    (hfind : s.captures.find tc.key = some tc) (hfin : tc.finalizer = true) : Holding tc s :=
  ⟨hs, hbusy, tc, hfind, hfin, rfl, id⟩

/-- A reconcile of a capture that is being deleted, before the filter is removed. -/
def Doomed (tc : CaptureObject) (s : Mirrors) : Prop :=
  s.captures.Known tc ∧ (Holding tc s ∨ s.mirrored tc.key = false)

/-- The same when no route carries the filter any more. -/
def Released (tc : CaptureObject) (s : Mirrors) : Prop :=
  s.captures.Known tc ∧ s.mirrored tc.key = false

variable {ok : MirrorsLabel → Mirrors → Prop}

theorem unmirrored_of_carries
    (hsub : ∀ route, s'.carries route key = true → s.carries route key = true)
    (h : s.mirrored key = false) : s'.mirrored key = false := by
  rw [Bool.eq_false_iff]
  intro hm
  obtain ⟨route, hc⟩ := mirrored_iff.mp hm
  exact absurd ((not_carries h).symm.trans (hsub route hc)) (by decide)

theorem unmirrored_stable (key : Key) : mirrors.Stable ok fun s => s.mirrored key = false :=
  fun _ _ _ _ h => unmirrored_of_carries fun _ hc => (mirrors_act_cases h).2.2 _ _ hc

theorem known_stable (tc : CaptureObject) : mirrors.Stable ok fun s => s.captures.Known tc :=
  fun _ _ _ _ h hs => (mirrors_act_cases h).1.known hs

theorem released_stable (tc : CaptureObject) : mirrors.Stable ok (Released tc) :=
  (known_stable tc).and (unmirrored_stable tc.key)

section Program

variable (hok : ∀ {l s}, ok l s → keepsTarget l s = true)

include hok

/-- An edit of another target than before finds the capture idle. -/
theorem edit_idle {spec : TrafficCapture} {duration : Option Duration} {cur : CaptureObject}
    (ha : ok (.act (.edit spec duration)) s) (hfind : s.captures.find spec.key = some cur) :
    spec.target = cur.spec.target ∨ (s.busy ≠ some spec.key ∧ s.mirrored spec.key = false) := by
  have hkeep := hok ha
  rw [keepsTarget, hfind, Option.all_some, Bool.or_eq_true, Bool.and_eq_true] at hkeep
  rcases hkeep with hsame | ⟨hbusy, hmir⟩
  · exact .inl (of_decide_eq_true hsame).symm
  · exact .inr ⟨of_decide_eq_true hbusy, by simpa using hmir⟩

theorem mirrorInv_stable : mirrors.Stable ok MirrorInv := by
  intro a s s' ha h hs
  refine ⟨(mirrors_act_cases h).1.ok hs.store, fun route key hc => ?_⟩
  have hc := (mirrors_act_cases h).2.2 _ _ hc
  obtain ⟨cur, hfind, hfin, htarget⟩ := hs.held route key hc
  obtain ⟨x, hx, hxfin, _, hspec⟩ := mirrors_act_find h hs.store hfind hfin
  refine ⟨x, hx, hxfin, ?_⟩
  rcases hspec with hspec | ⟨duration, rfl, rfl⟩
  · exact hspec.trans htarget
  · rcases edit_idle hok ha hfind with hsame | ⟨_, hno⟩
    · exact hsame.trans htarget
    · exact absurd ((not_carries hno).symm.trans hc) (by decide)

theorem holding_stable (tc : CaptureObject) : mirrors.Stable ok (Holding tc) := by
  intro a s s' ha h hs
  obtain ⟨cur, hfind, hfin, htarget, hdel⟩ := hs.held
  obtain ⟨x, hx, hxfin, hxdel, hspec⟩ := mirrors_act_find h hs.store hfind hfin
  refine ⟨(mirrors_act_cases h).1.ok hs.store, (mirrors_act_cases h).2.1.trans hs.busy, x, hx,
    hxfin, ?_, fun hd => hxdel (hdel hd)⟩
  rcases hspec with hspec | ⟨duration, rfl, hkey⟩
  · exact hspec.trans htarget
  · have hkey : x.spec.key = tc.key := hkey
    rcases edit_idle hok ha (hkey ▸ hfind) with hsame | ⟨hidle, _⟩
    · exact hsame.trans htarget
    · rw [hkey] at hidle
      exact absurd hs.busy hidle

theorem doomed_stable (tc : CaptureObject) : mirrors.Stable ok (Doomed tc) :=
  (known_stable tc).and ((holding_stable hok tc).or (unmirrored_stable tc.key))

end Program

/-! ## What the operations do -/

/-- The operation changes neither captures nor routes. -/
def CaptureOp.quiet : CaptureOp → Bool
  | .get _ | .getStorage _ | .createOrUpdate _ _ | .deleteAgent _ _ | .getDeployment _ | .now =>
      true
  | _ => false

variable {c : Mirrors.Choice}

theorem perform_agents {r : Bool} {agents : List (AgentKind × Key)}
    (h : o.perform s { s with agents := agents } = (r, s')) :
    ∃ agents, s' = { s with agents := agents } := by
  rcases Outcome.perform_cases h with ⟨-, rfl⟩ | rfl
  · exact ⟨_, rfl⟩
  · exact ⟨_, rfl⟩

theorem exec_quiet {op : CaptureOp} (hop : op.quiet = true) {r : op.Ans}
    (h : mirrors.exec op c s = some (r, s')) : ∃ agents, s' = { s with agents := agents } := by
  unfold mirrors Mirrors.exec at h
  dsimp only at h
  split at h
  · cases h
    exact ⟨_, rfl⟩
  · cases hop
  · cases hop
  · cases h
    exact ⟨_, rfl⟩
  · exact perform_agents (Option.some.inj h)
  · exact perform_agents (Option.some.inj h)
  · cases h
    exact ⟨_, rfl⟩
  · cases hop
  · cases hop
  · cases h
    exact ⟨_, rfl⟩
  · cases h

theorem exec_getCapture (h : mirrors.exec (.get key) c s = some (.ok (some tc), s')) :
    s.captures.find key = some tc := by
  cases c with
  | api o =>
      cases o with
      | ok =>
          have h : (Except.ok (s.captures.find key), s) = (Except.ok (some tc), s') :=
            Option.some.inj h
          exact Except.ok.inj (Prod.mk.inj h).1
      | refused => cases h
      | lost => cases h
  | _ => cases h

/-- A write goes over a stored capture, or does nothing. -/
theorem mirrors_write_cases {new : CaptureObject} {f : CaptureObject → CaptureObject}
    (h : s.write o new f = (r, s')) :
    (r = none ∧ s' = s) ∨
      ∃ cur, s.captures.latest new = some cur
        ∧ s' = { s with captures := s.captures.store (f cur) } ∧
        ∀ tc', r = some tc' → tc' = s.captures.stamped (f cur) := by
  unfold Mirrors.write at h
  split at h
  · cases h
    exact .inl ⟨rfl, rfl⟩
  · rename_i cur hcur
    exact (Outcome.answer_cases h).imp_right fun hs' => ⟨cur, hcur, hs'⟩

theorem exec_captureStatus {new : CaptureObject}
    (h : mirrors.exec (.updateStatus new) c s = some (r, s')) :
    s' = s ∨ ∃ cur : CaptureObject, s.captures.find new.key = some cur ∧
      s' = { s with captures := s.captures.store { cur with status := new.status } } := by
  cases c with
  | api o =>
      rcases mirrors_write_cases (Option.some.inj h) with ⟨_, rfl⟩ | ⟨cur, hcur, rfl, _⟩
      · exact .inl rfl
      · exact .inr ⟨cur, (Store.latest_some hcur).1, rfl⟩
  | _ => cases h

/-- The finalizer is written over the capture that was read. -/
theorem exec_captureUpdate {fin : Bool} (hK : s.captures.Known tc)
    (h : mirrors.exec (.update { tc with finalizer := fin }) c s = some (r, s')) :
    (r = none ∧ s' = s) ∨
      (s.captures.find tc.key = some tc ∧
        s' = { s with captures := s.captures.store { tc with finalizer := fin } } ∧
        ∀ tc', r = some tc' → tc' = s.captures.stamped { tc with finalizer := fin }) := by
  cases c with
  | api o =>
      rcases mirrors_write_cases (Option.some.inj h) with hno | ⟨cur, hcur, hs', hr⟩
      · exact .inl hno
      · obtain ⟨rfl, hfind⟩ := hK.latest rfl rfl hcur
        exact .inr ⟨hfind, hs', hr⟩
  | _ => cases h

theorem exec_addMirror {r : Bool} (h : mirrors.exec (.addMirror route key) c s = some (r, s')) :
    s' = s ∨ ∃ old, s.routes.lookup route = some old ∧
      s' = { s with routes := s.routes.insert route (old.addMirror key) } := by
  cases c with
  | api o =>
      have h : s.addMirror o route key = (r, s') := Option.some.inj h
      unfold Mirrors.addMirror at h
      split at h
      · cases h
        exact .inl rfl
      · rename_i old hold
        rcases Outcome.perform_cases h with ⟨-, rfl⟩ | rfl
        · exact .inl rfl
        · exact .inr ⟨old, hold, rfl⟩
  | _ => cases h

/-- A removal that succeeds leaves no filter on the route. -/
theorem exec_removeMirror {r : Bool}
    (h : mirrors.exec (.removeMirror route key) c s = some (r, s')) :
    (s' = s ∧ (c = .api .ok → s.routes.lookup route = none)) ∨
      ∃ old, s.routes.lookup route = some old ∧
        s' = { s with routes := s.routes.insert route (old.removeMirror key) } := by
  cases c with
  | api o =>
      have h : s.removeMirror o route key = (r, s') := Option.some.inj h
      unfold Mirrors.removeMirror at h
      split at h
      · rename_i hnone
        rcases Outcome.perform_cases h with ⟨-, rfl⟩ | rfl
        · exact .inl ⟨rfl, fun _ => hnone⟩
        · exact .inl ⟨rfl, fun _ => hnone⟩
      · rename_i old hold
        cases o with
        | refused =>
            cases h
            exact .inl ⟨rfl, nofun⟩
        | lost =>
            cases h
            exact .inr ⟨old, hold, rfl⟩
        | ok =>
            cases h
            exact .inr ⟨old, hold, rfl⟩
  | _ => cases h

theorem removeMirror_carries {r : Bool}
    (h : mirrors.exec (.removeMirror route key) c s = some (r, s')) {k : Key}
    (hc : s'.carries place k = true) : s.carries place k = true := by
  rcases exec_removeMirror h with ⟨rfl, _⟩ | ⟨old, hold, rfl⟩
  · exact hc
  · rcases carries_insert hc with ⟨rfl, hk⟩ | ⟨_, hc⟩
    · exact carries_iff.mpr ⟨old, hold, (addedFor_removeMirror hk).1⟩
    · exact hc

/-! ## The reconciler -/

section Reconciler

variable (hok : ∀ {l s}, ok l s → keepsTarget l s = true)

variable {tc : CaptureObject}

theorem Holding.agents (h : Holding tc s) (agents : List (AgentKind × Key)) :
    Holding tc { s with agents := agents } := ⟨h.store, h.busy, h.held⟩

theorem MirrorInv.agents (h : MirrorInv s) (agents : List (AgentKind × Key)) :
    MirrorInv { s with agents := agents } := ⟨h.store, h.held⟩

include hok

theorem triple_quiet {β : Type} {op : CaptureOp} (hop : op.quiet = true)
    {k : op.Ans → CapturePass β} {Q : β → Mirrors → Prop}
    (hk : ∀ r, mirrors.Triple ok MirrorInv (Holding tc) (k r) Q) :
    mirrors.Triple ok MirrorInv (Holding tc) (.call op k) Q := by
  refine .call (fun _ => Holding tc) (mirrorInv_stable hok) (holding_stable hok tc) ?_ hk
  intro t c r t' hI hF _ hex
  obtain ⟨agents, rfl⟩ := exec_quiet hop hex
  exact ⟨hI.agents agents, hF.agents agents⟩

theorem triple_holding {β : Type} (tc : CaptureObject) (b : β) :
    mirrors.Triple ok MirrorInv (Holding tc) (.ret b) fun _ => Holding tc :=
  Machine.Triple.ret (mirrorInv_stable hok) (holding_stable hok tc) fun _ _ h => h

/-- The status of a capture may be written at any time. -/
theorem triple_writeCaptureStatus (tc new : CaptureObject) (result : Result) :
    mirrors.Triple ok MirrorInv (Holding tc) (writeCaptureStatus new result) fun _ =>
      MirrorInv := by
  refine .call (fun _ _ => True) (mirrorInv_stable hok) (holding_stable hok tc) ?_ fun r => ?_
  · intro t c r t' hI _ _ hex
    rcases exec_captureStatus hex with rfl | ⟨cur, hfind, rfl⟩
    · exact ⟨hI, trivial⟩
    · have hkey : cur.key = new.key := hI.store.key hfind
      have hfind : t.captures.find cur.key = some cur := by rwa [hkey]
      exact ⟨hI.restored (x := { cur with status := new.status }) hfind rfl rfl, trivial⟩
  · cases r with
    | none => exact .done (mirrorInv_stable hok) fun _ h => h
    | some tc' => exact .done (mirrorInv_stable hok) fun _ h => h

theorem triple_updateCaptureStatus (tc : CaptureObject) :
    mirrors.Triple ok MirrorInv (Holding tc) (updateCaptureStatus tc) fun _ => MirrorInv := by
  refine triple_quiet hok rfl fun r => ?_
  rcases r with _ | _ | ⟨ready, desired⟩
  · exact .done (mirrorInv_stable hok) fun _ h => h
  · exact .done (mirrorInv_stable hok) fun _ h => h
  · dsimp only
    split
    · split
      · exact triple_writeCaptureStatus hok tc _ _
      · exact triple_quiet hok rfl fun now => triple_writeCaptureStatus hok tc _ _
    · exact triple_writeCaptureStatus hok tc _ _

/-- **A filter is only added for a capture that has its finalizer, to its target.** -/
theorem triple_addMirrorFilter (tc : CaptureObject) :
    mirrors.Triple ok MirrorInv (Holding tc) (addMirrorFilter tc) fun _ => Holding tc := by
  unfold addMirrorFilter
  split
  · exact triple_holding hok tc _
  · rename_i route htarget
    refine .call (fun _ => Holding tc) (mirrorInv_stable hok) (holding_stable hok tc) ?_
      fun r => triple_holding hok tc r
    intro t c r t' hI hF _ hex
    rcases exec_addMirror hex with rfl | ⟨old, hold, rfl⟩
    · exact ⟨hI, hF⟩
    · refine ⟨⟨hI.store, fun place k hc => ?_⟩, hF.store, hF.busy, hF.held⟩
      rcases carries_insert hc with ⟨rfl, hk⟩ | ⟨_, hc⟩
      · rcases addedFor_addMirror hk with hk | rfl
        · exact hI.held _ k (carries_iff.mpr ⟨old, hold, hk⟩)
        · obtain ⟨cur, hfind, hfin, hcur, _⟩ := hF.held
          exact ⟨cur, hfind, hfin, hcur.trans htarget⟩
      · exact hI.held place k hc

theorem triple_removeMirrorFilter (tc : CaptureObject) :
    mirrors.Triple ok MirrorInv (Holding tc) (removeMirrorFilter tc) fun _ => Holding tc := by
  unfold removeMirrorFilter
  split
  · exact triple_holding hok tc _
  · refine .call (fun _ => Holding tc) (mirrorInv_stable hok) (holding_stable hok tc) ?_
      fun r => triple_holding hok tc r
    intro t c r t' hI hF _ hex
    have hsub : ∀ place k, t'.carries place k = true → t.carries place k = true :=
      fun place k hc => removeMirror_carries hex hc
    rcases exec_removeMirror hex with ⟨rfl, _⟩ | ⟨old, hold, rfl⟩
    · exact ⟨hI, hF⟩
    · exact ⟨hI.sub rfl hsub, hF.store, hF.busy, hF.held⟩

theorem triple_inOrder {rest : CapturePass Result}
    (hrest : mirrors.Triple ok MirrorInv (Holding tc) rest fun _ => MirrorInv) :
    ∀ {ps : List (CapturePass Bool)},
      (∀ p ∈ ps, mirrors.Triple ok MirrorInv (Holding tc) p fun _ => Holding tc) →
        mirrors.Triple ok MirrorInv (Holding tc) (inOrder ps rest) fun _ => MirrorInv := by
  intro ps hps
  induction ps with
  | nil => exact hrest
  | cons p ps ih =>
      refine .bind (hps p List.mem_cons_self) fun b => ?_
      cases b with
      | false => exact .done (mirrorInv_stable hok) fun _ h => h
      | true => exact ih fun q hq => hps q (List.mem_cons_of_mem p hq)

theorem triple_runCapture (tc : CaptureObject) :
    mirrors.Triple ok MirrorInv (Holding tc) (runCapture tc) fun _ => MirrorInv := by
  have hquiet : ∀ kind, mirrors.Triple ok MirrorInv (Holding tc)
      (.call (.createOrUpdate kind (agentKey tc.key)) .ret) fun _ => Holding tc :=
    fun kind => triple_quiet hok rfl fun r => triple_holding hok tc r
  have hdelete : ∀ kind, mirrors.Triple ok MirrorInv (Holding tc)
      (.call (.deleteAgent kind (agentKey tc.key)) .ret) fun _ => Holding tc :=
    fun kind => triple_quiet hok rfl fun r => triple_holding hok tc r
  unfold runCapture
  split
  · exact .done (mirrorInv_stable hok) fun _ h => h
  · refine triple_quiet hok rfl fun now => ?_
    split
    · refine triple_inOrder hok (triple_writeCaptureStatus hok tc _ _) ?_
      simp only [List.forall_mem_cons, List.not_mem_nil, false_imp_iff, implies_true, and_true]
      exact ⟨triple_removeMirrorFilter hok tc, hdelete _, hdelete _, hdelete _⟩
    · refine triple_quiet hok rfl fun r => ?_
      rcases r with _ | _ | _ | _
      · exact triple_writeCaptureStatus hok tc _ _
      · exact triple_writeCaptureStatus hok tc _ _
      · exact triple_writeCaptureStatus hok tc _ _
      · refine triple_inOrder hok (triple_updateCaptureStatus hok tc) ?_
        simp only [List.forall_mem_cons, List.not_mem_nil, false_imp_iff, implies_true, and_true]
        exact ⟨hquiet _, hquiet _, hquiet _, triple_addMirrorFilter hok tc⟩

variable (hun : ∀ {l s}, ok l s → unmirrors l s = true)

omit hok in
include hun in
/-- **No route carries the filter after the removal of a deletion.** -/
theorem removeMirror_released {r : Bool} (hdel : tc.deleting = true)
    (htarget : tc.spec.target = some route) (hI : MirrorInv s) (hF : Doomed tc s)
    (hc : ok (.op (.removeMirror route tc.key) c) s)
    (hex : mirrors.exec (.removeMirror route tc.key) c s = some (r, s')) :
    s'.mirrored tc.key = false := by
  have hsub : ∀ place, s'.carries place tc.key = true → s.carries place tc.key = true :=
    fun place hc => removeMirror_carries hex hc
  rcases hF.2 with hhold | hno
  · obtain ⟨cur, hfind, hfin, hcur, hcurdel⟩ := hhold.held
    have hsucc : c = .api .ok := by
      have := hun hc
      rw [unmirrors, hhold.busy, Option.bind_some, hfind, Option.any_some, hcurdel hdel] at this
      simpa using this
    rw [Bool.eq_false_iff]
    intro hm
    obtain ⟨place, hat⟩ := mirrored_iff.mp hm
    -- a filter is only on the target, from which the removal has taken it
    obtain ⟨y, hy, _, hytarget⟩ := hI.held place tc.key (hsub place hat)
    rw [hfind] at hy
    cases hy
    obtain rfl : route = place := Option.some.inj ((hcur.trans htarget).symm.trans hytarget)
    rcases exec_removeMirror hex with ⟨rfl, hnone⟩ | ⟨old, hold, rfl⟩
    · obtain ⟨x, hx, _⟩ := carries_iff.mp hat
      rw [hnone hsucc] at hx
      cases hx
    · rcases carries_insert hat with ⟨_, hk⟩ | ⟨hne, _⟩
      · exact (addedFor_removeMirror hk).2 rfl
      · exact hne rfl
  · exact unmirrored_of_carries hsub hno

include hun in
theorem triple_unmirror (hdel : tc.deleting = true) :
    mirrors.Triple ok MirrorInv (Doomed tc) (removeMirrorFilter tc) fun _ => Released tc := by
  have hI := mirrorInv_stable hok
  have hD := doomed_stable hok tc
  unfold removeMirrorFilter
  split
  · rename_i htarget
    refine .ret hI hD fun t hIt hDt => ⟨hDt.1, ?_⟩
    rcases hDt.2 with hhold | hno
    · -- a capture without a supported target has never been mirrored
      rw [Bool.eq_false_iff]
      intro hm
      obtain ⟨place, hat⟩ := mirrored_iff.mp hm
      obtain ⟨cur, hfind, _, hcur, _⟩ := hhold.held
      obtain ⟨y, hy, _, hytarget⟩ := hIt.held place tc.key hat
      rw [hfind] at hy
      cases hy
      cases (hcur.trans htarget).symm.trans hytarget
    · exact hno
  · rename_i route htarget
    refine .call (fun _ => Released tc) hI hD ?_ fun r =>
      Machine.Triple.ret hI (released_stable tc) fun _ _ h => h
    intro t c r t' hIt hDt hc hex
    have hgone := removeMirror_released hun hdel htarget hIt hDt hc hex
    have hsub : ∀ place k, t'.carries place k = true → t.carries place k = true :=
      fun place k hc => removeMirror_carries hex hc
    rcases exec_removeMirror hex with ⟨rfl, _⟩ | ⟨old, hold, rfl⟩
    · exact ⟨hIt, hDt.1, hgone⟩
    · exact ⟨hIt.sub rfl hsub, hDt.1, hgone⟩

include hun in
/-- The finalizer goes after the filter. -/
theorem triple_deleteCapture (hdel : tc.deleting = true) :
    mirrors.Triple ok MirrorInv (Doomed tc) (deleteCapture tc) fun _ => MirrorInv := by
  refine .bind (triple_unmirror hok hun hdel) fun _ => ?_
  refine .call (fun _ _ => True) (mirrorInv_stable hok) (released_stable tc) ?_ fun r => ?_
  · intro t c r t' hIt hR _ hex
    rcases exec_captureUpdate hR.1 hex with ⟨_, rfl⟩ | ⟨_, rfl, _⟩
    · exact ⟨hIt, trivial⟩
    · refine ⟨hIt.stored _ fun route hc => ?_, trivial⟩
      exact absurd ((not_carries hR.2).symm.trans hc) (by decide)
  · cases r with
    | none => exact .done (mirrorInv_stable hok) fun _ h => h
    | some _ => exact .done (mirrorInv_stable hok) fun _ h => h

/-- What a reconcile has found out when it has read the capture. -/
def Fetched (tc : CaptureObject) (s : Mirrors) : Prop :=
  s.captures.Known tc ∧ s.busy = some tc.key

omit hok in
theorem fetched_stable (tc : CaptureObject) : mirrors.Stable ok (Fetched tc) :=
  (known_stable tc).and fun _ _ _ _ h hs => (mirrors_act_cases h).2.1.trans hs

omit hok in
theorem MirrorInv.doomed (h : MirrorInv s) (hbusy : s.busy = some tc.key)
    (hfind : s.captures.find tc.key = some tc) : Doomed tc s := by
  refine ⟨Store.known_of_find h.store hfind, ?_⟩
  by_cases hm : s.mirrored tc.key = true
  · obtain ⟨route, hc⟩ := mirrored_iff.mp hm
    obtain ⟨y, hy, hfin, _⟩ := h.held route tc.key hc
    rw [hfind] at hy
    cases hy
    exact .inl (Holding.of_find h.store hbusy hfind hfin)
  · exact .inr (Bool.eq_false_iff.mpr hm)

/-- The finalizer is there before anything else. -/
theorem triple_addFinalizer (tc : CaptureObject) :
    mirrors.Triple ok MirrorInv (Fetched tc)
      (.call (.update { tc with finalizer := true }) fun
        | none => .ret .err
        | some tc => runCapture tc) fun _ => MirrorInv := by
  refine .call (fun r s => ∀ tc', r = some tc' → Holding tc' s) (mirrorInv_stable hok)
    (fetched_stable tc) ?_ fun r => ?_
  · intro t c r t' hIt hF _ hex
    rcases exec_captureUpdate hF.1 hex with ⟨rfl, rfl⟩ | ⟨hfind, rfl, hr⟩
    · exact ⟨hIt, fun _ h => by cases h⟩
    · have hI' : MirrorInv { t with
          captures := t.captures.store { tc with finalizer := true } } := by
        refine hIt.stored _ fun route hc => ⟨rfl, ?_⟩
        obtain ⟨y, hy, _, htarget⟩ := hIt.held route tc.key hc
        rw [hfind] at hy
        cases hy
        exact htarget
      refine ⟨hI', fun tc' h => ?_⟩
      obtain rfl := hr tc' h
      refine Holding.of_find hI'.store hF.2 ?_ rfl
      exact Store.find_store_keep t.captures rfl fun h => by cases h.2
  · cases r with
    | none => exact .done (mirrorInv_stable hok) fun _ h => h
    | some tc' => exact (triple_runCapture hok tc').pre fun _ _ h => h tc' rfl

include hun in
/-- **A reconcile keeps the invariant.** -/
theorem triple_reconcileCapture (key : Key) :
    mirrors.Triple ok MirrorInv (fun s => s.busy = some key) (reconcileCapture key)
      fun _ => MirrorInv := by
  have hI := mirrorInv_stable hok
  have hbusy : mirrors.Stable ok fun s => s.busy = some key :=
    fun _ _ _ _ h hs => (mirrors_act_cases h).2.1.trans hs
  refine .call (fun r s => ∀ tc, r = .ok (some tc) → Fetched tc s ∧ Doomed tc s ∧
    (tc.finalizer = true → Holding tc s)) hI hbusy ?_ fun r => ?_
  · intro t c r t' hIt hb _ hex
    obtain ⟨agents, rfl⟩ := exec_quiet rfl hex
    refine ⟨hIt.agents agents, ?_⟩
    rintro tc rfl
    have hfind := exec_getCapture hex
    have hkey : tc.key = key := hIt.store.key hfind
    subst hkey
    exact ⟨⟨Store.known_of_find hIt.store hfind, hb⟩, (hIt.agents agents).doomed hb hfind,
      Holding.of_find hIt.store hb hfind⟩
  · rcases r with _ | _ | tc
    · exact .done (mirrorInv_stable hok) fun _ h => h
    · exact .done (mirrorInv_stable hok) fun _ h => h
    · dsimp only
      split
      · rename_i hdel
        exact (triple_deleteCapture hok hun hdel).pre fun _ _ h => (h tc rfl).2.1
      · split
        · rename_i hfin
          exact (triple_runCapture hok tc).pre fun _ _ h => (h tc rfl).2.2 hfin
        · exact (triple_addFinalizer hok tc).pre fun _ _ h => (h tc rfl).1

end Reconciler

theorem mirrorInv_start : MirrorInv Mirrors.start := by
  refine ⟨Store.ok_empty, fun route key hc => ?_⟩
  cases hc

/-- The two conditions together. -/
def keepsMirrors (l : MirrorsLabel) (s : Mirrors) : Bool := keepsTarget l s && unmirrors l s

/-- **Mirror filters point at a live agent**, in every run in which no target is changed
under a filter or under a reconcile, and the removals of deletions succeed. -/
theorem mirrors_live {d : MirrorsConfig}
    (h : MirrorsReaches (fun l s => keepsMirrors l s = true) d) : MirrorsLive d.state := by
  have hok : ∀ {l s}, keepsMirrors l s = true → keepsTarget l s = true :=
    fun h => (Bool.and_eq_true_iff.mp h).1
  have hun : ∀ {l s}, keepsMirrors l s = true → unmirrors l s = true :=
    fun h => (Bool.and_eq_true_iff.mp h).2
  have hinv : MirrorInv d.state := by
    refine Machine.Reach.holds h mirrorInv_start (mirrorInv_stable hok) (fun key s _ hs => ?_) ?_
    · have htriple := triple_reconcileCapture hok hun key
      refine (htriple.post fun _ t _ ht => ?_) _ ⟨hs.store, hs.held⟩ rfl
      exact ⟨ht.store, ht.held⟩
    · intro s _ hs
      exact ⟨hs.store, hs.held⟩
  exact hinv.live

abbrev MirrorsMove := Machine.Move Key MirrorsAct Mirrors.Choice

theorem exists_mirrors_run (check : MirrorsLabel → Mirrors → Bool) (mvs : List MirrorsMove)
    (P : Mirrors → Bool)
    (h : (mirrors.run check mvs ⟨Mirrors.start, none⟩).any (fun d => P d.state) = true) :
    ∃ d, MirrorsReaches (fun l s => check l s = true) d ∧ P d.state = true :=
  Machine.exists_of_run (fun _ _ h => h) h

/-- A capture of the requests of a route. -/
def checkoutCapture (name : Str) : TrafficCapture where
  key := ⟨lit "shop", lit "checkout"⟩
  targetKind := lit "HTTPRoute"
  targetName := name
  storageRef := lit "store"
  capture := ⟨none, none, none, [], none⟩
  filters := none

def checkoutKey : Key := (checkoutCapture (lit "web")).key

/-- The capture is reconciled up to its filter. -/
def mirrorRun : List MirrorsMove :=
  [.act (.setStorage ⟨lit "shop", lit "store"⟩ true),
    .act (.setRoute ⟨.http, lit "shop", lit "web"⟩ ⟨[[.other (lit "URLRewrite")]], none⟩),
    .act (.create ⟨checkoutCapture (lit "web"), none, false, false, 0, ⟨.none, none, none, none⟩⟩),
    .enter checkoutKey, .op (.api .ok), .op (.api .ok), .op (.time 0), .op (.api .ok),
    .op (.api .ok),
    .op (.api .ok), .op (.api .ok), .op (.api .ok), .op (.deployment .ok 0 1),
    .op (.api .ok), .leave]

/-- The capture is deleted, and the collector removes the Service; `o` is the fate of the
removal of the filter. -/
def deletionRun (o : Outcome) : List MirrorsMove :=
  [.act (.delete checkoutKey), .enter checkoutKey, .op (.api .ok), .op (.api o),
    .op (.api .ok), .leave, .act (.removeAgent .service (agentKey checkoutKey))]

/-- Neither the Service nor the capture is left. -/
def Mirrors.abandoned (s : Mirrors) (key : Key) : Bool :=
  s.mirrored key && s.agents.all (· ≠ (.service, agentKey key)) && (s.captures.find key).isNone

theorem Mirrors.abandoned.not_live (h : s.abandoned key = true) : ¬ MirrorsLive s := by
  rw [Mirrors.abandoned, Bool.and_eq_true, Bool.and_eq_true] at h
  obtain ⟨⟨hm, hservice⟩, hnone⟩ := h
  intro hlive
  rcases hlive key hm with hmem | ⟨tc, hfind, _⟩
  · exact of_decide_eq_true (List.all_eq_true.mp hservice _ hmem) rfl
  · rw [hfind] at hnone
    cases hnone

/-- A capture is mirrored, and later deleted with its filter. -/
theorem mirrors_live_deleted :
    (∃ d, MirrorsReaches (fun l s => keepsMirrors l s = true) d ∧
      d.state.mirrored checkoutKey = true ∧ MirrorsLive d.state) ∧
    ∃ d, MirrorsReaches (fun l s => keepsMirrors l s = true) d ∧
      (d.state.captures.find checkoutKey).isNone = true ∧ MirrorsLive d.state := by
  obtain ⟨d, hd, hm⟩ := exists_mirrors_run keepsMirrors mirrorRun (·.mirrored checkoutKey)
    (by decide +kernel)
  obtain ⟨e, he, hgone⟩ := exists_mirrors_run keepsMirrors (mirrorRun ++ deletionRun .ok)
    (fun s => (s.captures.find checkoutKey).isNone) (by decide +kernel)
  exact ⟨⟨d, hd, hm, mirrors_live hd⟩, e, he, hgone, mirrors_live he⟩

/-- **A filter outlives its capture** when its removal is refused, and when the target was
edited, even if every removal succeeds. -/
theorem mirror_left_behind :
    (∃ d, MirrorsReaches (fun l s => keepsTarget l s = true) d ∧ ¬ MirrorsLive d.state) ∧
    ∃ d, MirrorsReaches (fun l s => unmirrors l s = true) d ∧ ¬ MirrorsLive d.state := by
  obtain ⟨d, hd, hleft⟩ := exists_mirrors_run keepsTarget (mirrorRun ++ deletionRun .refused)
    (·.abandoned checkoutKey) (by decide +kernel)
  obtain ⟨e, he, hold⟩ := exists_mirrors_run unmirrors
    (mirrorRun ++ .act (.edit (checkoutCapture (lit "api")) none) :: deletionRun .ok)
    (·.abandoned checkoutKey) (by decide +kernel)
  exact ⟨⟨d, hd, Mirrors.abandoned.not_live hleft⟩, e, he, Mirrors.abandoned.not_live hold⟩

end Kapture.Spoke
