import Kapture.Hub.Coordinator

/-!
# What the steps of a reconcile do

One lemma for each kind of step says all it can do; the rules for the loops that send
directives follow. A reconcile works on the object it read at its start. The last part
says what it may rely on meanwhile: as long as nobody wrote the object it is the stored
one (`Known`), and once it has its finalizer nobody else takes it away (`Held`).
-/

namespace Kapture.Hub

open Go Storage Conc Objects

variable {s s' : Coord} {c : Choice} {key : Key} {srv : Nat} {lt : CaptureLoadTest}
  {r : Option CaptureLoadTest} {api : Api} {ok : Label HubOp Key Act Choice → Coord → Prop}

/-! ## The operations -/

theorem exec_get {r : Except Unit (Option CaptureLoadTest)}
    (h : coordinator.exec (.get key) c s = some (r, s')) :
    (s' = s ∧ ∀ lt, r ≠ .ok (some lt)) ∨
      ∃ lt, s.api.find key = some lt ∧ r = .ok (some lt) ∧ s' = s.note (.read lt) := by
  cases c with
  | api o =>
      have h := Option.some.inj h
      unfold Coord.get at h
      split at h
      · rename_i lt hfind _
        cases h
        exact .inr ⟨lt, hfind, rfl, rfl⟩
      · cases h
        exact .inl ⟨rfl, fun lt h => by cases h⟩
      · cases h
        exact .inl ⟨rfl, fun lt h => by cases h⟩
  | _ => cases h

theorem exec_server {r : Option Nat} (h : coordinator.exec .server c s = some (r, s')) :
    r = s.server ∧ s' = s := by
  cases c with
  | none =>
      cases h
      exact ⟨rfl, rfl⟩
  | _ => cases h

theorem exec_selectSpokes {cells : List Str} {max : Int32} {r : List SpokeSelection}
    (h : coordinator.exec (.selectSpokes srv cells max) c s = some (r, s')) : s' = s := by
  cases c with
  | spokes l => cases h; rfl
  | _ => cases h

theorem exec_replayStatuses {r : List ReplayStatusSnapshot}
    (h : coordinator.exec (.replayStatuses srv key) c s = some (r, s')) :
    s' = s ∧ c = .statuses r := by
  cases c with
  | statuses l =>
      cases h
      exact ⟨rfl, rfl⟩
  | _ => cases h

theorem exec_clearReplayStatuses {r : Unit}
    (h : coordinator.exec (.clearReplayStatuses srv key) c s = some (r, s')) : s' = s := by
  cases c with
  | none => cases h; rfl
  | _ => cases h

theorem exec_now {r : Time} (h : coordinator.exec .now c s = some (r, s')) :
    s' = s ∧ c = .time r := by
  cases c with
  | time t =>
      cases h
      exact ⟨rfl, rfl⟩
  | _ => cases h

theorem exec_judge {l : List ReplayStatusSnapshot} {r : Time}
    (h : coordinator.exec (.judge lt l) c s = some (r, s')) : s' = s ∧ c = .time r := by
  cases c with
  | time t =>
      cases h
      exact ⟨rfl, rfl⟩
  | _ => cases h

theorem exec_findSpoke {spokeID : Str} {d : ReplayDirective} {r : Option Nat}
    (h : coordinator.exec (.findSpoke srv spokeID d) c s = some (r, s')) :
    (r.isSome ∧ s' = s) ∨ (c = .entry none ∧ r = none ∧
      s' = s.note (.sent spokeID d .notFound (s.runs srv))) := by
  cases c with
  | entry e =>
      cases e with
      | none =>
          cases h
          exact .inr ⟨rfl, rfl, rfl⟩
      | some e =>
          cases h
          exact .inl ⟨rfl, rfl⟩
  | _ => cases h

theorem exec_offer {entry : Nat} {spokeID : Str} {d : ReplayDirective} {r : Bool}
    (h : coordinator.exec (.offer srv entry spokeID d) c s = some (r, s')) :
    s' = s.note (.sent spokeID d (if r then .accepted else .resourceExhausted) (s.runs srv)) := by
  cases c with
  | room b => cases h; rfl
  | _ => cases h

/-- A status write, if it takes effect. -/
def Coord.wrote (s : Coord) (cur : CaptureLoadTest) (status : CaptureLoadTestStatus) : Coord :=
  { s with
    api := s.api.put { cur with status := status }
    log := .stored (s.api.stamped { cur with status := status }) :: s.log }

theorem exec_updateStatus (h : coordinator.exec (.updateStatus lt) c s = some (r, s')) :
    (r = none ∧ s' = s) ∨
      ∃ cur, s.api.find lt.key = some cur ∧ cur.resourceVersion = lt.resourceVersion ∧
        Fits lt.status ∧ s' = s.wrote cur lt.status ∧
        ∀ lt', r = some lt' → lt' = s.api.stamped { cur with status := lt.status } := by
  cases c with
  | api o =>
      have h := Option.some.inj h
      unfold Coord.updateStatus at h
      split at h
      · rename_i hfits
        split at h
        · cases h
          exact .inl ⟨rfl, rfl⟩
        · rename_i cur hcur
          obtain ⟨hfind, hrv⟩ := Store.latest_some hcur
          exact (Outcome.answer_cases h).imp_right fun hs' => ⟨cur, hfind, hrv, hfits, hs'⟩
      · cases h
        exact .inl ⟨rfl, rfl⟩
  | _ => cases h

/-- The object that `Update` stores. -/
def updated (cur lt : CaptureLoadTest) : CaptureLoadTest :=
  { cur with finalizer := lt.finalizer, spec := lt.spec }

theorem exec_update (h : coordinator.exec (.update lt) c s = some (r, s')) :
    (r = none ∧ s' = s) ∨
      ∃ cur, s.api.find lt.key = some cur ∧ cur.resourceVersion = lt.resourceVersion ∧
        s' = { s with
          api := s.api.store (updated cur lt)
          log := if lt.finalizer then s.log else .finalized cur :: s.log } ∧
        ∀ lt', r = some lt' → lt' = s.api.stamped (updated cur lt) := by
  cases c with
  | api o =>
      have h := Option.some.inj h
      unfold Coord.update at h
      split at h
      · cases h
        exact .inl ⟨rfl, rfl⟩
      · rename_i cur hcur
        obtain ⟨hfind, hrv⟩ := Store.latest_some hcur
        exact (Outcome.answer_cases h).imp_right fun hs' => ⟨cur, hfind, hrv, hs'⟩
  | _ => cases h

/-! ## The others -/

/-- What others make of a load test: they edit it, or ask for its deletion. -/
def Revises (a : Act) (key : Key) (lt new : CaptureLoadTest) : Prop :=
  (∃ spec, a = .edit key spec ∧ new = { lt with spec := spec }) ∨ new = { lt with deleting := true }

/-- What others do to the objects. -/
abbrev Api.Changes (api : Api) (a : Act) : Api → Prop :=
  Store.Changes api (fun lt => lt.uid = api.revision + 1 ∧ lt.status = .empty) (Revises a)

/-- They do nothing to the log. -/
theorem act_cases {a : Act} (h : coordinator.act a s = some s') :
    s'.log = s.log ∧ Api.Changes s.api a s'.api := by
  cases a with
  | create key spec =>
      simp only [coordinator, Coord.act] at h
      split at h
      · cases h
      · rename_i hfind
        cases h
        exact ⟨rfl, .created hfind ⟨rfl, rfl⟩⟩
  | edit key spec =>
      simp only [coordinator, Coord.act] at h
      split at h
      · cases h
      · rename_i lt hfind
        cases h
        exact ⟨rfl, .edited hfind (fun hs => (hs.key hfind :)) (.inl ⟨spec, rfl, rfl⟩)⟩
  | delete key =>
      simp only [coordinator, Coord.act] at h
      split at h
      · cases h
      · rename_i lt hfind
        cases h
        exact ⟨rfl, .deleted hfind (fun hs => (hs.key hfind :)) (.inr rfl)⟩
  | startServer =>
      cases h
      exact ⟨rfl, .same⟩
  | stopServer =>
      cases h
      exact ⟨rfl, .same⟩

/-! ## Sending -/

section Rules

variable {ok : Label HubOp Key Act Choice → Coord → Prop} {I : Coord → Prop} {F : Coord → Prop}

/-- An operation that changes nothing and whose answer says nothing. -/
theorem triple_silent {β : Type} {Q : β → Coord → Prop} {op : HubOp} {k : op.Ans → Pass β}
    (hI : coordinator.Stable ok I) (hF : coordinator.Stable ok F)
    (hop : ∀ t c r t', coordinator.exec op c t = some (r, t') → t' = t)
    (hk : ∀ r, coordinator.Triple ok I F (k r) Q) : coordinator.Triple ok I F (.call op k) Q := by
  refine .call (fun _ => F) hI hF ?_ hk
  intro t c r t' hIt hFt _ hex
  rw [hop t c r t' hex]
  exact ⟨hIt, hFt⟩

/-- `SendReplayDirective` ends with an event, unless there is no spoke to send to. -/
theorem triple_send {M : SendResult → Coord → Prop} {spokeID : Str} {d : ReplayDirective}
    (hI : coordinator.Stable ok I) (hF : coordinator.Stable ok F)
    (hM : ∀ r, coordinator.Stable ok (M r))
    (hnone : spokeID = [] → ∀ t, F t → M .invalidArgument t)
    (hsent : ∀ t r, I t → F t →
      (r = .notFound → ok (.op (.findSpoke srv spokeID d) (.entry none)) t) →
      I (t.note (.sent spokeID d r (t.runs srv))) ∧
        M r (t.note (.sent spokeID d r (t.runs srv)))) :
    coordinator.Triple ok I F (sendReplayDirective srv spokeID d) M := by
  unfold sendReplayDirective
  split
  · rename_i hid
    exact .ret hI hF fun t _ hFt => hnone hid t hFt
  · refine .call (fun r t => if r.isSome then F t else M .notFound t) hI hF ?_ ?_
    · intro t c r t' hIt hFt hok hex
      rcases exec_findSpoke hex with ⟨hr, rfl⟩ | ⟨rfl, rfl, rfl⟩
      · simp only [hr, if_true]
        exact ⟨hIt, hFt⟩
      · exact hsent t .notFound hIt hFt fun _ => hok
    · intro r
      cases r with
      | none => exact .ret hI (hM _) fun _ _ h => h
      | some entry =>
          refine .call (fun b => M (if b then .accepted else .resourceExhausted))
            hI hF ?_ ?_
          · intro t c b t' hIt hFt _ hex
            rw [exec_offer hex]
            refine hsent t _ hIt hFt ?_
            cases b <;> nofun
          · exact fun b => .ret hI (hM _) fun _ _ h => h

/-- The loop over the assignments, with an invariant on what is left of them. -/
theorem triple_stopShards {L : List LoadTestAssignment → Bool → Coord → Prop} (srv : Nat)
    (lt : CaptureLoadTest) (hI : coordinator.Stable ok I)
    (hL : ∀ rest b, coordinator.Stable ok (L rest b))
    (hnone : ∀ a rest b t, a.spokeID = [] → L (a :: rest) b t → L rest false t)
    (hsent : ∀ a rest b t r, I t → L (a :: rest) b t →
      (r = .notFound → ok (.op (.findSpoke srv a.spokeID (stopDirective lt)) (.entry none)) t) →
      I (t.note (.sent a.spokeID (stopDirective lt) r (t.runs srv))) ∧
        L rest (b && r.delivered) (t.note (.sent a.spokeID (stopDirective lt) r (t.runs srv))))
    (todo : List LoadTestAssignment) (b : Bool) :
    coordinator.Triple ok I (L todo b) (stopShards srv lt todo b) (L []) := by
  induction todo generalizing b with
  | nil => exact .ret hI (hL _ _) fun _ _ h => h
  | cons a rest ih =>
      refine .bind (R := fun r => L rest (b && r.delivered))
        (triple_send hI (hL _ _) (fun _ => hL _ _) ?_ ?_) fun r => ih _
      · intro hid t hLt
        have := hnone a rest b t hid hLt
        rwa [show (b && SendResult.invalidArgument.delivered) = false from Bool.and_false b]
      · exact fun t r hIt hLt hok => hsent a rest b t r hIt hLt hok

theorem triple_sendStarts {L : List (Str × Int32) → Coord → Prop} (srv : Nat)
    (lt : CaptureLoadTest) (hI : coordinator.Stable ok I)
    (hL : ∀ rest, coordinator.Stable ok (L rest))
    (hnone : ∀ x rest t, L (x :: rest) t → L rest t)
    (hsent : ∀ spokeID shard rest t r, I t → L ((spokeID, shard) :: rest) t →
      I (t.note (.sent spokeID (buildStartDirective lt shard) r (t.runs srv))) ∧
        L rest (t.note (.sent spokeID (buildStartDirective lt shard) r (t.runs srv))))
    (todo : List (Str × Int32)) :
    coordinator.Triple ok I (L todo) (sendStarts srv lt todo) (fun _ => L []) := by
  induction todo with
  | nil => exact .ret hI (hL _) fun _ _ h => h
  | cons x rest ih =>
      obtain ⟨spokeID, shard⟩ := x
      refine .bind (R := fun _ => L rest)
        (triple_send hI (hL _) (fun _ => hL _) ?_ ?_) fun _ => ih
      · exact fun _ t hLt => hnone _ rest t hLt
      · exact fun t r hIt hLt _ => hsent spokeID shard rest t r hIt hLt

/-- The loop, when sending changes nothing that matters. -/
theorem triple_stopShards_keep (hI : coordinator.Stable ok I) (hF : coordinator.Stable ok F)
    (hsent : ∀ t spokeID r b, I t → F t →
      I (t.note (.sent spokeID (stopDirective lt) r b)) ∧
        F (t.note (.sent spokeID (stopDirective lt) r b))) (todo : List LoadTestAssignment)
    (b : Bool) : coordinator.Triple ok I F (stopShards srv lt todo b) (fun _ => F) :=
  triple_stopShards (L := fun _ _ => F) srv lt hI (fun _ _ => hF) (fun _ _ _ _ _ h => h)
    (fun _ _ _ t r hIt hFt _ => hsent t _ r _ hIt hFt) todo b

theorem triple_sendStarts_keep (hI : coordinator.Stable ok I) (hF : coordinator.Stable ok F)
    (hsent : ∀ t spokeID shard r b, I t → F t →
      I (t.note (.sent spokeID (buildStartDirective lt shard) r b)) ∧
        F (t.note (.sent spokeID (buildStartDirective lt shard) r b))) (todo : List (Str × Int32)) :
    coordinator.Triple ok I F (sendStarts srv lt todo) (fun _ => F) :=
  triple_sendStarts (L := fun _ => F) srv lt hI (fun _ => hF) (fun _ _ _ h => h)
    (fun _ _ _ t r hIt hFt => hsent t _ _ r _ hIt hFt) todo

end Rules

/-! ## The object a reconcile works on -/

/-- Keys and versions are in order, and no two objects have one number. -/
structure ApiOk (api : Api) : Prop where
  ok : api.Ok
  uid : ∀ {key lt}, api.find key = some lt → lt.uid ≤ api.revision
  distinct : ∀ {k k' x y}, api.find k = some x → api.find k' = some y → x.uid = y.uid → k = k'

theorem ApiOk.key_eq (h : ApiOk api) (hfind : api.find key = some lt) : lt.key = key :=
  h.ok.key hfind

theorem apiOk_empty : ApiOk .empty := ⟨Store.ok_empty, nofun, nofun⟩

/-- An object is new, or a version of the one that is stored. -/
def Api.Versions (api : Api) (lt : CaptureLoadTest) : Prop :=
  lt.uid = api.revision + 1 ∨ ∃ cur, api.find lt.key = some cur ∧ cur.uid = lt.uid

theorem ApiOk.put (h : ApiOk api) (hv : api.Versions lt) : ApiOk (api.put lt) := by
  have hother : ∀ {k x}, k ≠ lt.key → api.find k = some x → x.uid ≠ lt.uid := by
    intro k x hk hx huid
    rcases hv with hnew | ⟨cur, hcur, hu⟩
    · have := h.uid hx
      omega
    · exact hk (h.distinct hx hcur (huid.trans hu.symm))
  refine ⟨h.ok.put lt, fun hx => ?_, fun hx hy huid => ?_⟩
  · rcases Store.find_put hx with ⟨rfl, rfl⟩ | ⟨_, hx'⟩
    · rcases hv with hnew | ⟨cur, hcur, hu⟩
      · exact Nat.le_of_eq hnew
      · exact Nat.le_succ_of_le (hu ▸ h.uid hcur)
    · exact Nat.le_succ_of_le (h.uid hx')
  · rcases Store.find_put hx with ⟨rfl, rfl⟩ | ⟨hk, hx'⟩
    · rcases Store.find_put hy with ⟨rfl, rfl⟩ | ⟨hk', hy'⟩
      · rfl
      · exact absurd huid.symm (hother hk' hy')
    · rcases Store.find_put hy with ⟨rfl, rfl⟩ | ⟨_, hy'⟩
      · exact absurd huid (hother hk hx')
      · exact h.distinct hx' hy' huid

theorem ApiOk.remove (h : ApiOk api) (key : Key) : ApiOk (api.remove key) :=
  ⟨h.ok.remove key, fun hx => Nat.le_succ_of_le (h.uid (Store.find_remove hx).2),
    fun hx hy => h.distinct (Store.find_remove hx).2 (Store.find_remove hy).2⟩

theorem ApiOk.store (h : ApiOk api) (hv : api.Versions lt) : ApiOk (api.store lt) := by
  unfold Store.store
  split
  · exact h.remove _
  · exact h.put hv

theorem Api.Versions.of_find {cur : CaptureLoadTest} (hfind : api.find key = some cur)
    (hkey : lt.key = key) (huid : lt.uid = cur.uid) : Api.Versions api lt :=
  .inr ⟨cur, hkey ▸ hfind, huid.symm⟩

theorem ApiOk.changes {a : Act} {api' : Api} (hs : ApiOk api) (h : Api.Changes api a api') :
    ApiOk api' := by
  cases h with
  | same => exact hs
  | created _ hnew => exact hs.put (.inl hnew.1)
  | edited hfind hkey hover =>
      refine hs.put (.of_find hfind (hkey hs.ok) ?_)
      rcases hover with ⟨_, _, rfl⟩ | rfl <;> rfl
  | deleted hfind hkey hover =>
      refine hs.store (.of_find hfind (hkey hs.ok) ?_)
      rcases hover with ⟨_, _, rfl⟩ | rfl <;> rfl

/-- If nobody wrote it since, `lt` is the stored object. -/
def Known (lt : CaptureLoadTest) (s : Coord) : Prop := s.api.Known lt

theorem known_of_find (hs : ApiOk s.api) (h : s.api.find key = some lt) : Known lt s :=
  Store.known_of_find hs.ok h

theorem known_stable (lt : CaptureLoadTest) : coordinator.Stable ok (Known lt) :=
  fun _ _ _ _ h hs => (act_cases h).2.known hs

theorem stable_of_log (P : List Event → Prop) : coordinator.Stable ok fun s => P s.log := by
  intro a s s' _ h hP
  rw [(act_cases h).1]
  exact hP

/-- The stored load test is still `lt`, but for edits and for being deleted. -/
def Held (lt : CaptureLoadTest) (s : Coord) : Prop :=
  ∃ cur, s.api.find lt.key = some cur ∧ cur.uid = lt.uid ∧ cur.finalizer = true ∧
    cur.status = lt.status

theorem held_stable (lt : CaptureLoadTest) :
    coordinator.Stable ok fun s => ApiOk s.api ∧ Held lt s := by
  intro a s s' _ h ⟨hs, cur, hfind, huid, hfin, hst⟩
  have hch := (act_cases h).2
  have hfinal : ∀ {z}, Revises a lt.key cur z → z.finalizer = true := by
    rintro z (⟨_, _, rfl⟩ | rfl) <;> exact hfin
  refine ⟨hs.changes hch, ?_⟩
  obtain ⟨x, hx, rfl | ⟨z, ⟨_, _, rfl⟩ | rfl, rfl⟩⟩ := hch.keeps hs.ok hfinal hfind
  · exact ⟨x, hx, huid, hfin, hst⟩
  · exact ⟨_, hx, huid, hfin, hst⟩
  · exact ⟨_, hx, huid, hfin, hst⟩

/-! ## Writing -/

/-- A status is written over the object that was read, or not at all. -/
theorem exec_write {new : CaptureLoadTest} (hK : Known lt s) (hkey : new.key = lt.key)
    (hrv : new.resourceVersion = lt.resourceVersion)
    (h : coordinator.exec (.updateStatus new) c s = some (r, s')) :
    (r = none ∧ s' = s) ∨
      (s.api.find lt.key = some lt ∧ Fits new.status ∧ s' = s.wrote lt new.status ∧
        ∀ lt', r = some lt' → lt' = s.api.stamped { lt with status := new.status }) := by
  rcases exec_updateStatus h with h' | ⟨cur, hfind, hcur, hfits, rfl, hr⟩
  · exact .inl h'
  · rw [hkey] at hfind
    obtain rfl : cur = lt := hK.2 cur hfind (hcur.trans hrv)
    exact .inr ⟨hfind, hfits, rfl, hr⟩

/-- The finalizer is there. -/
def Coord.added (s : Coord) (lt : CaptureLoadTest) : Coord :=
  { s with api := s.api.put { lt with finalizer := true } }

/-- The finalizer is added to the object that was read, or not at all. -/
theorem exec_add (hK : Known lt s) (hd : lt.deleting = false)
    (h : coordinator.exec (.update { lt with finalizer := true }) c s = some (r, s')) :
    (r = none ∧ s' = s) ∨
      (s.api.find lt.key = some lt ∧ s' = s.added lt ∧
        ∀ lt', r = some lt' → lt' = s.api.stamped { lt with finalizer := true }) := by
  rcases exec_update h with h' | ⟨cur, hfind, hrv, rfl, hr⟩
  · exact .inl h'
  · obtain rfl : cur = lt := hK.2 cur hfind hrv
    refine .inr ⟨hfind, ?_, hr⟩
    unfold Coord.added Store.store
    rw [if_neg]
    · rfl
    · exact fun h => by cases h.2

/-- The finalizer is gone. -/
def Coord.released (s : Coord) (lt : CaptureLoadTest) : Coord :=
  { s with api := s.api.store { lt with finalizer := false }, log := .finalized lt :: s.log }

theorem exec_release (hK : Known lt s)
    (h : coordinator.exec (.update { lt with finalizer := false }) c s = some (r, s')) :
    (r = none ∧ s' = s) ∨ (s.api.find lt.key = some lt ∧ s' = s.released lt) := by
  rcases exec_update h with h' | ⟨cur, hfind, hrv, rfl, _⟩
  · exact .inl h'
  · obtain rfl : cur = lt := hK.2 cur hfind hrv
    exact .inr ⟨hfind, rfl⟩

theorem find_wrote_self (st : CaptureLoadTestStatus) :
    (s.wrote lt st).api.find lt.key = some (s.api.stamped { lt with status := st }) :=
  Store.find_put_self s.api { lt with status := st }

theorem apiOk_wrote (hs : ApiOk s.api) (hfind : s.api.find key = some lt)
    (st : CaptureLoadTestStatus) : ApiOk (s.wrote lt st).api :=
  hs.put (.of_find hfind (hs.key_eq hfind :) rfl)

end Kapture.Hub
