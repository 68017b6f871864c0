import Kapture.Spoke.Mirror

/-!
# Mirror filters of several captures

`AddMirrorFilter` and `RemoveMirrorFilter` should commute and cancel: after any calls a route should
be the original one with what the captures need that were last added. Three things stand against it.

* There is one annotation for all captures. The last one added owns it, and **the removal of any of
  them deletes it**, also if it was there before.
* Filters are found by the name of the Service alone. A user's filter to it is taken for the
  capture's own, and goes with it.
* Filters stand in the order in which they were added.

So the laws hold on a route exactly if it is the target of one capture at most, and has nothing of
its own by which that capture's filter is known.
-/

namespace Kapture.Spoke

open Go Storage Hub

/-- A call for a capture. -/
inductive MirrorCall where
  | add (key : Key)
  | remove (key : Key)
deriving DecidableEq, Repr

namespace MirrorCall

def key : MirrorCall → Key
  | .add key => key
  | .remove key => key

def isAdd : MirrorCall → Bool
  | .add _ => true
  | .remove _ => false

/-- The route after a call. -/
def apply (route : Route) : MirrorCall → Route
  | .add key => route.addMirror key
  | .remove key => route.removeMirror key

end MirrorCall

/-- The route after some calls, in their order. -/
def Route.calls (route : Route) (cs : List MirrorCall) : Route := cs.foldl MirrorCall.apply route

/-- A capture was last added rather than removed. -/
def present (key : Key) (cs : List MirrorCall) : Bool :=
  cs.foldl (fun b c => if c.key = key then c.isAdd else b) false

/-- A filter as it reads. -/
def RouteFilter.plain : RouteFilter → RouteFilter
  | .added key => .mirror ⟨agentServiceName key, some key.ns, some captureAgentHTTPPort⟩
  | f => f

/-- A route as it reads. -/
def Route.plain (route : Route) : Route :=
  { route with rules := route.rules.map (·.map RouteFilter.plain) }

/-- **After any calls for these captures the route depends only on which of them are present.** So a
second call to add changes nothing, a removal undoes an addition, and what a removal leaves is what
the others would have given without the capture that was removed. -/
def Independent (route : Route) (captures : Set Key) : Prop :=
  ∀ cs cs', (∀ c ∈ cs, c.key ∈ captures) → (∀ c ∈ cs', c.key ∈ captures) →
    (∀ key ∈ captures, present key cs = present key cs') →
      (route.calls cs).plain = (route.calls cs').plain

/-- The route has nothing by which the filter of the capture is known. -/
structure Route.Clear (route : Route) (key : Key) : Prop where
  filters : ∀ filters ∈ route.rules, hasMirrorFilter filters (agentServiceName key) = false
  annotation : route.annotation = none

variable {route : Route} {key : Key}

/-! ## One capture -/

theorem removeMirrorFilters_of_not {filters : List RouteFilter} {service : Str}
    (h : hasMirrorFilter filters service = false) :
    removeMirrorFilters filters service = filters := by
  refine List.filter_eq_self.mpr fun f hf => ?_
  have hno := List.any_eq_false.mp h f hf
  rw [Bool.not_eq_true']
  exact Bool.eq_false_iff.mpr hno

theorem hasMirrorFilter_added (filters : List RouteFilter) (key : Key) :
    hasMirrorFilter (filters ++ [.added key]) (agentServiceName key) = true := by
  refine List.any_eq_true.mpr ⟨.added key, List.mem_append_right _ (List.mem_singleton.mpr rfl), ?_⟩
  exact beq_self_eq_true _

/-- To add twice is to add once. -/
theorem addMirror_addMirror (route : Route) (key : Key) :
    (route.addMirror key).addMirror key = route.addMirror key := by
  have hrules : ∀ filters : List RouteFilter, hasMirrorFilter
      (if hasMirrorFilter filters (agentServiceName key)
      then filters else filters ++ [.added key]) (agentServiceName key) = true := by
    intro filters
    split
    · assumption
    · exact hasMirrorFilter_added filters key
  rw [Route.addMirror, Route.addMirror, List.map_map]
  congr 1
  refine List.map_congr_left fun filters _ => ?_
  exact if_pos (hrules filters)

/-- To remove what was not there changes nothing. -/
theorem removeMirror_clear (h : route.Clear key) : route.removeMirror key = route := by
  have hrules : (route.rules.map fun filters => removeMirrorFilters filters (agentServiceName key))
      = route.rules := by
    refine (List.map_congr_left fun filters hf => ?_).trans (List.map_id _)
    exact removeMirrorFilters_of_not (h.filters filters hf)
  rw [Route.removeMirror, hrules, ← h.annotation]

/-- To remove what was added restores the route. -/
theorem removeMirror_addMirror (h : route.Clear key) :
    (route.addMirror key).removeMirror key = route := by
  have hrules : ((route.addMirror key).rules.map fun filters =>
      removeMirrorFilters filters (agentServiceName key)) =
      route.rules := by
    rw [Route.addMirror, List.map_map]
    refine (List.map_congr_left fun filters hf => ?_).trans (List.map_id _)
    have hno := h.filters filters hf
    have hself : RouteFilter.mirrorsTo (agentServiceName key) (.added key) = true :=
      beq_self_eq_true _
    rw [Function.comp_apply, if_neg (Bool.eq_false_iff.mp hno), removeMirrorFilters,
      List.filter_append, List.filter_singleton, hself]
    exact (List.append_nil _).trans (removeMirrorFilters_of_not hno)
  rw [Route.removeMirror, hrules, ← h.annotation]

theorem calls_append (route : Route) (cs : List MirrorCall) (c : MirrorCall) :
    route.calls (cs ++ [c]) = c.apply (route.calls cs) := by
  rw [Route.calls, List.foldl_append]
  rfl

theorem present_append (key : Key) (cs : List MirrorCall) (c : MirrorCall) :
    present key (cs ++ [c]) = if c.key = key then c.isAdd else present key cs := by
  rw [present, List.foldl_append]
  rfl

/-- **The calls for one capture come to one addition, or to nothing.** The induction is on the calls
from the last one on. -/
theorem calls_one (h : route.Clear key) {cs : List MirrorCall} (hcs : ∀ c ∈ cs, c.key = key) :
    route.calls cs = if present key cs then route.addMirror key else route := by
  induction cs using List.reverseRecOn with
  | nil => rfl
  | append_singleton cs c ih =>
      have hc : c.key = key := hcs c (List.mem_append_right _ (List.mem_singleton.mpr rfl))
      have ih := ih fun c hc => hcs c (List.mem_append_left _ hc)
      rw [calls_append, present_append, if_pos hc, ih]
      cases c with
      | add k =>
          obtain rfl : k = key := hc
          rw [MirrorCall.isAdd, if_pos rfl]
          split
          · exact addMirror_addMirror route k
          · rfl
      | remove k =>
          obtain rfl : k = key := hc
          simp only [MirrorCall.isAdd, Bool.false_eq_true, if_false]
          split
          · exact removeMirror_addMirror h
          · exact removeMirror_clear h

/-! ## What independence needs -/

theorem mirrorsTo_plain (service : Str) (f : RouteFilter) :
    RouteFilter.mirrorsTo service f.plain = RouteFilter.mirrorsTo service f := by
  cases f <;> rfl

theorem hasMirrorFilter_plain (filters : List RouteFilter) (service : Str) :
    hasMirrorFilter (filters.map RouteFilter.plain) service = hasMirrorFilter filters service := by
  rw [hasMirrorFilter, List.any_map]
  exact congrArg filters.any (funext (mirrorsTo_plain service))

theorem hasMirrorFilter_remove (filters : List RouteFilter) (service : Str) :
    hasMirrorFilter (removeMirrorFilters filters service) service = false := by
  refine List.any_eq_false.mpr fun f hf => ?_
  have hno := (List.mem_filter.mp hf).2
  rwa [Bool.not_eq_true', Bool.eq_false_iff] at hno

/-- A removal leaves nothing by which the capture's filter is known. -/
theorem clear_removeMirror (route : Route) (key : Key) : (route.removeMirror key).Clear key := by
  refine ⟨fun filters hf => ?_, rfl⟩
  obtain ⟨old, -, rfl⟩ := List.mem_map.mp hf
  exact hasMirrorFilter_remove old _

/-- What is clear can be read off. -/
theorem Route.Clear.of_plain {other : Route} (h : other.Clear key)
    (hplain : route.plain = other.plain) : route.Clear key := by
  refine ⟨fun filters hf => ?_, ?_⟩
  · have hmem : filters.map RouteFilter.plain ∈ route.plain.rules := List.mem_map_of_mem hf
    rw [hplain] at hmem
    obtain ⟨old, hold, heq⟩ := List.mem_map.mp hmem
    rw [← hasMirrorFilter_plain, ← heq, hasMirrorFilter_plain]
    exact h.filters old hold
  · have hannotation : route.plain.annotation = other.plain.annotation :=
      congrArg Route.annotation hplain
    exact hannotation.trans h.annotation

/-- Additions of two captures, in both orders, leave the same captures. -/
theorem present_comm (a b key : Key) :
    present key [.add a, .add b] = present key [.add b, .add a] := by
  unfold present
  simp only [List.foldl_cons, List.foldl_nil, MirrorCall.key, MirrorCall.isAdd]
  by_cases ha : a = key <;> by_cases hb : b = key <;> simp [ha, hb]

theorem present_undone (a key : Key) : present key [.add a, .remove a] = present key [] := by
  unfold present
  simp only [List.foldl_cons, List.foldl_nil, MirrorCall.key, MirrorCall.isAdd]
  by_cases ha : a = key <;> simp [ha]

theorem Independent.clear {captures : Set Key} (h : Independent route captures)
    (hkey : key ∈ captures) : route.Clear key := by
  have hundone := h [.add key, .remove key] [] (by simpa [MirrorCall.key] using hkey) (by simp)
    fun k _ => present_undone key k
  exact (clear_removeMirror (route.addMirror key) key).of_plain hundone.symm

/-- **Two captures own the annotation in turn.** -/
theorem Independent.eq {captures : Set Key} (h : Independent route captures) {a b : Key}
    (ha : a ∈ captures) (hb : b ∈ captures) (hns : a.ns = b.ns) : a = b := by
  have hcomm := h [.add a, .add b] [.add b, .add a] (by simp [MirrorCall.key, ha, hb])
    (by simp [MirrorCall.key, ha, hb]) fun k _ => present_comm a b k
  have hannotation : some (b.ns ++ lit "/" ++ b.name) = some (a.ns ++ lit "/" ++ a.name) :=
    congrArg Route.annotation hcomm
  rw [Option.some.injEq, hns] at hannotation
  have hname : a.name = b.name := (List.append_cancel_left hannotation).symm
  cases a
  cases b
  cases hns
  cases hname
  rfl

/-- **The captures of a namespace do not interfere on a route if and only if there is one of them at
most, and the route has neither a filter to its Service nor the annotation.** -/
theorem independent_iff (route : Route) (ns : Str) (captures : Set Key)
    (hns : ∀ key ∈ captures, key.ns = ns) :
    Independent route captures ↔
      ∀ key ∈ captures, (∀ other ∈ captures, other = key) ∧ route.Clear key := by
  constructor
  · intro h key hkey
    refine ⟨fun other hother => ?_, h.clear hkey⟩
    exact h.eq hother hkey ((hns other hother).trans (hns key hkey).symm)
  · intro h cs cs' hcs hcs' hsame
    by_cases hnone : ∃ key, key ∈ captures
    · obtain ⟨key, hkey⟩ := hnone
      obtain ⟨hone, hclear⟩ := h key hkey
      rw [calls_one hclear fun c hc => hone _ (hcs c hc),
        calls_one hclear fun c hc => hone _ (hcs' c hc),
        hsame key hkey]
    · have hnil : ∀ cs : List MirrorCall, (∀ c ∈ cs, c.key ∈ captures) → cs = [] := by
        intro cs hcs
        exact List.eq_nil_iff_forall_not_mem.mpr fun c hc => hnone ⟨c.key, hcs c hc⟩
      rw [hnil cs hcs, hnil cs' hcs']

/-- A route with a filter of its own. -/
def shopRoute (filter : RouteFilter) : Route := ⟨[[filter]], none⟩

def checkoutsKey : Key := ⟨lit "shop", lit "checkouts"⟩

def paymentsKey : Key := ⟨lit "shop", lit "payments"⟩

theorem independent_checkouts : (∀ key ∈ ({checkoutsKey} : Set Key), key.ns = lit "shop") ∧
    (Independent (shopRoute (.other (lit "URLRewrite"))) {checkoutsKey} ↔
      ∀ key ∈ ({checkoutsKey} : Set Key), (∀ other ∈ ({checkoutsKey} : Set Key), other = key) ∧
        (shopRoute (.other (lit "URLRewrite"))).Clear key) := by
  have hns : ∀ key ∈ ({checkoutsKey} : Set Key), key.ns = lit "shop" := by
    rintro key rfl
    rfl
  exact ⟨hns, independent_iff _ (lit "shop") _ hns⟩

/-- **The removal of one capture deletes the annotation of the other**, and the removal of a capture
takes a user's filter with it. -/
theorem captures_interfere :
    Route.annotation ((shopRoute (.other (lit "URLRewrite"))).calls
        [.add checkoutsKey, .add paymentsKey, .remove checkoutsKey]) = none ∧
      Route.annotation ((shopRoute (.other (lit "URLRewrite"))).calls [.add paymentsKey])
        = some (lit "shop/payments") ∧
      ¬ Independent (shopRoute (.other (lit "URLRewrite"))) {checkoutsKey, paymentsKey} ∧
      ((shopRoute (.mirror ⟨lit "checkouts-capture-agent", none, none⟩)).calls
        [.add checkoutsKey, .remove checkoutsKey]).rules = [[]] := by
  refine ⟨by decide, by decide, fun h => ?_, by decide⟩
  have heq : checkoutsKey = paymentsKey := h.eq (by simp) (by simp) rfl
  exact absurd heq (by decide)

end Kapture.Spoke
