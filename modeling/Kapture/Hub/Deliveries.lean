import Kapture.Hub.Streams
import Kapture.Lib.Slots

/-!
# What becomes of an accepted directive

`queueDirective` returns nil when the channel of the spoke has taken the directive. A handler then
receives it from the channel and sends it on its stream. **If the stream is broken by then, the
directive is gone**: it is in no channel any more, and the next stream goes on with the one after
it.

The spoke of this module registers once and has one open stream at a time. If no directive is sent
on a broken stream, its directives go through like through a queue: what was accepted is what was
sent, then what a handler holds, then what is buffered. A handler whose stream breaks while it holds
a directive stops that for good, and then a delivery is in progress for ever.
-/

namespace Kapture.Hub

open Go Storage

namespace Streams

variable {id : Str} {s s' : Streams} {i : Nat}

/-- The spoke registers once, is not deregistered, and opens a stream when it has none. -/
def OneStream (id : Str) : StreamAct → Streams → Prop
  | .call _ _ (.registerSpoke req), s => req.spokeID = id → s.server.spokes.lookup id = none
  | .call _ _ (.deregisterSpoke id'), _ => id' ≠ id
  | .call _ _ (.watchDirectives id'), s =>
      id' = id → ∀ w ∈ s.watches, w.spokeID = id → w.isOpen = false
  | _, _ => True

/-- No directive of the spoke is sent on a broken stream. -/
def Unbroken (id : Str) : StreamAct → Streams → Prop
  | .send i, s => ∀ w ∈ s.watching i, w.spokeID = id → w.broken = false
  | _, _ => True

instance (id : Str) (a : StreamAct) (s : Streams) : Decidable (OneStream id a s) := by
  unfold OneStream
  split <;> infer_instance

instance (id : Str) : ∀ (a : StreamAct) (s : Streams), Decidable (Unbroken id a s)
  | .send i, s => Option.decidableForallMem (s.watching i)
  | .call _ _ _, _ | .find _ _, _ | .offer _, _ | .take _, _ | .sever _, _ | .leave _ _, _ |
    .clearReplayStatuses _, _ | .setActiveLoadTests _ _, _ | .stop,
    _ => inferInstanceAs (Decidable True)

/-- **What was accepted for the spoke is what was sent and what is buffered, in this order**, when
no delivery is in progress. -/
def Kept (id : Str) (s : Streams) : Prop :=
  s.heldFor id = [] → s.acceptedFor id = s.sentTo id ++ s.buffer id

/-! ## Who has which entry -/

theorem buffer_eq {e : Nat} (h : s.server.spokes.lookup id = some e) :
    s.buffer id = s.server.directives e := by
  rw [buffer, Server.entry_eq h]
  rfl

theorem buffer_none (h : s.server.spokes.lookup id = none) : s.buffer id = [] := by
  rw [buffer, Server.entry_none h]
  rfl

/-- An entry that was looked up, for whichever spoke, is that of the spoke if it was looked up for
it. -/
def Belongs (id : Str) (s : Streams) (spokeID : Str) (e : Nat) : Prop :=
  e < s.server.entries.length ∧ (spokeID = id ↔ s.server.spokes.lookup id = some e)

/-- The calls and handlers of the spoke are at its entry, and one of its streams is open. -/
structure Placed (id : Str) (s : Streams) : Prop where
  queueing : ∀ q ∈ s.queueing, Belongs id s q.spokeID q.entry
  watches : ∀ w ∈ s.watches, Belongs id s w.spokeID w.entry
  single : ∀ (i j : Nat) (w w' : Watch), s.watches[i]? = some w → s.watches[j]? = some w' →
    w.spokeID = id → w'.spokeID = id →
    w.isOpen = true → w'.isOpen = true → i = j
  live : ∀ w ∈ s.watches, w.held.isSome = true → w.returned = none

theorem belongs_of_lookup {spokeID : Str} {e : Nat} (h : s.server.spokes.lookup spokeID = some e) :
    Belongs id s spokeID e :=
  ⟨s.server.inRange h, fun heq => heq ▸ h, fun hid => s.server.distinct h hid⟩

/-- The entries stay where they are. -/
theorem Belongs.of_lookup_eq {spokeID : Str} {e : Nat} (h : Belongs id s spokeID e)
    (hlen : s.server.entries.length ≤ s'.server.entries.length)
    (hlookup : s'.server.spokes.lookup id = s.server.spokes.lookup id) : Belongs id s' spokeID e :=
  ⟨Nat.lt_of_lt_of_le h.1 hlen, by rw [hlookup]; exact h.2⟩

/-- The spoke gets a new entry. -/
theorem Belongs.of_enter {spokeID : Str} {e : Nat} (h : Belongs id s spokeID e)
    (hlen : s.server.entries.length ≤ s'.server.entries.length)
    (hold : s.server.spokes.lookup id = none)
    (hnew : s'.server.spokes.lookup id = some s.server.entries.length) :
    Belongs id s' spokeID e := by
  refine ⟨Nat.lt_of_lt_of_le h.1 hlen, fun hid => ?_, fun he => ?_⟩
  · have he := h.2.mp hid
    rw [hold] at he
    cases he
  · rw [hnew] at he
    exact absurd h.1 (Option.some.inj he ▸ Nat.lt_irrefl _)

/-! ## Where the directives are -/

/-- A handler holds a directive for a broken stream. -/
def Lost (id : Str) (s : Streams) : Prop :=
  ∃ w ∈ s.watches, w.spokeID = id ∧ w.broken = true ∧ w.held.isSome = true

/-- One handler holds a directive, which comes after those that were sent. -/
def Busy (id : Str) (s : Streams) : Prop :=
  ∃ (i : Nat) (w : Watch) (d : WatchDirectivesResponse), s.watches[i]? = some w ∧ w.spokeID = id
    ∧ w.held = some d
    ∧ s.acceptedFor id = s.sentTo id ++ d :: s.buffer id

def Idle (id : Str) (s : Streams) : Prop :=
  (∀ w ∈ s.watches, w.spokeID = id → w.held = none) ∧ s.acceptedFor id = s.sentTo id ++ s.buffer id

structure Tended (id : Str) (s : Streams) : Prop where
  placed : s.Placed id
  directives : s.Lost id ∨ s.Busy id ∨ s.Idle id

/-- What is accepted goes to the end of the buffer; the streams are where they were. -/
theorem directives_of_append (h : s.Lost id ∨ s.Busy id ∨ s.Idle id)
    (hwatches : s'.watches = s.watches) (hsent : s'.sentTo id = s.sentTo id)
    (ds : List WatchDirectivesResponse) (haccepted : s'.acceptedFor id = s.acceptedFor id ++ ds)
    (hbuffer : s'.buffer id = s.buffer id ++ ds) : s'.Lost id ∨ s'.Busy id ∨ s'.Idle id := by
  unfold Lost Busy Idle
  rw [hwatches, haccepted, hsent, hbuffer]
  rcases h with hlost | ⟨i, w, d, hw, hid, hheld, heq⟩ | ⟨hnone, heq⟩
  · exact Or.inl hlost
  · refine Or.inr (Or.inl ⟨i, w, d, hw, hid, hheld, ?_⟩)
    rw [heq, List.append_assoc]
    rfl
  · refine Or.inr (Or.inr ⟨hnone, ?_⟩)
    rw [heq, List.append_assoc]

/-- A step that leaves the streams alone and the entry of the spoke where it is. -/
theorem Tended.of_quiet (h : s.Tended id) (hq : s.server.Quiet s'.server)
    (hlookup : s'.server.spokes.lookup id = s.server.spokes.lookup id)
    (hqueueing : ∀ q ∈ s'.queueing, Belongs id s' q.spokeID q.entry)
    (hwatches : s'.watches = s.watches) (haccepted : s'.accepted = s.accepted)
    (hsent : s'.sent = s.sent) : s'.Tended id where
  placed := {
    queueing := hqueueing
    watches := fun w hw => (h.placed.watches w (hwatches ▸ hw)).of_lookup_eq hq.length hlookup
    single := by
      rw [hwatches]
      exact h.placed.single
    live := by
      rw [hwatches]
      exact h.placed.live }
  directives := by
    refine directives_of_append h.directives hwatches ?_ [] ?_ ?_
    · rw [sentTo, hsent]
      rfl
    · rw [acceptedFor, haccepted, List.append_nil]
      rfl
    · rw [List.append_nil]
      cases he : s.server.spokes.lookup id with
      | none => rw [buffer_none he, buffer_none (hlookup.trans he)]
      | some e => rw [buffer_eq he, buffer_eq (hlookup.trans he), hq.directives]

/-! ## Calls -/

/-- The watches that were there, and at most a new one. -/
theorem getElem?_serve {peer : Peer} {now : Time} {call : Call} {j : Nat} {w : Watch}
    (h : (s.serve peer now call).watches[j]? = some w) :
    s.watches[j]? = some w ∨ j = s.watches.length
      ∧ w ∈ watchOf call (s.server.serve peer now call).1 := by
  rcases Nat.lt_or_ge j s.watches.length with hj | hj
  · exact Or.inl ((List.getElem?_append_left hj).symm.trans h)
  · have hnew : (watchOf call (s.server.serve peer now call).1)[j - s.watches.length]? = some w :=
      (List.getElem?_append_right hj).symm.trans h
    have hone : (watchOf call (s.server.serve peer now call).1).length ≤ 1 := by
      unfold watchOf
      split
      · exact Nat.le_refl 1
      · exact Nat.zero_le 1
    obtain ⟨hlt, -⟩ := List.getElem?_eq_some_iff.mp hnew
    exact Or.inr ⟨by omega, List.mem_of_getElem? hnew⟩

/-- What a call does to the entry of the spoke: nothing, or it is the one registration. -/
theorem lookup_call {peer : Peer} {now : Time} {call : Call}
    (hok : OneStream id (.call peer now call) s) :
    (s.serve peer now call).server.spokes.lookup id = s.server.spokes.lookup id
    ∨ s.server.spokes.lookup id = none
      ∧ (s.serve peer now call).server.spokes.lookup id = some s.server.entries.length := by
  rcases s.server.lookup_serve peer now call id with hsame | ⟨req, rfl, hid, hnew, -⟩ | rfl
  · exact Or.inl hsame
  · exact Or.inr ⟨hok hid, hnew⟩
  · exact absurd rfl hok

theorem Placed.call (h : s.Placed id) {peer : Peer} {now : Time} {call : Call}
    (hok : OneStream id (.call peer now call) s) : (s.serve peer now call).Placed id := by
  have hlen := (s.server.quiet_serve peer now call).length
  have hkeep : ∀ {spokeID e}, Belongs id s spokeID e →
      Belongs id (s.serve peer now call) spokeID e := by
    intro spokeID e hb
    rcases lookup_call hok with hsame | ⟨hold, hnew⟩
    · exact hb.of_lookup_eq hlen hsame
    · exact hb.of_enter hlen hold hnew
  refine ⟨fun q hq => hkeep (h.queueing q hq), fun w hw => ?_, ?_, fun w hw => ?_⟩
  · rcases mem_serve hw with hw | hw
    · exact hkeep (h.watches w hw)
    · obtain ⟨spokeID, e, -, rfl, hlookup⟩ := mem_watchOf hw
      exact hkeep (belongs_of_lookup hlookup)
  · -- a new stream is opened only when no other is open
    have hnew : ∀ {w w' : Watch}, w ∈ s.watches →
        w' ∈ watchOf call (s.server.serve peer now call).1 →
        w.spokeID = id → w'.spokeID = id → w.isOpen = false := by
      intro w w' hw hw' hid hid'
      obtain ⟨spokeID, e, rfl, rfl, -⟩ := mem_watchOf hw'
      exact hok hid' w hw hid
    intro i j w w' hw hw' hid hid' hopen hopen'
    rcases getElem?_serve hw with hold | ⟨hi, hmem⟩
    · rcases getElem?_serve hw' with hold' | ⟨-, hmem'⟩
      · exact h.single i j w w' hold hold' hid hid' hopen hopen'
      · rw [hnew (List.mem_of_getElem? hold) hmem' hid hid'] at hopen
        cases hopen
    · rcases getElem?_serve hw' with hold' | ⟨hj, -⟩
      · rw [hnew (List.mem_of_getElem? hold') hmem hid' hid] at hopen'
        cases hopen'
      · exact hi.trans hj.symm
  · intro hheld
    rcases mem_serve hw with hw | hw
    · exact h.live w hw hheld
    · obtain ⟨spokeID, e, -, rfl, -⟩ := mem_watchOf hw
      cases hheld

theorem Tended.call (h : s.Tended id) {peer : Peer} {now : Time} {call : Call}
    (hok : OneStream id (.call peer now call) s) : (s.serve peer now call).Tended id := by
  have hquiet := s.server.quiet_serve peer now call
  have hbuffer : (s.serve peer now call).buffer id = s.buffer id := by
    rcases lookup_call hok with hsame | ⟨hold, hnew⟩
    · cases he : s.server.spokes.lookup id with
      | none => rw [buffer_none he, buffer_none (hsame.trans he)]
      | some e =>
          rw [buffer_eq he, buffer_eq (hsame.trans he)]
          exact hquiet.directives e
    · -- the entry is new, and its channel is empty
      rw [buffer_none hold, buffer_eq hnew]
      refine (hquiet.directives _).trans ?_
      rw [Server.directives, List.getElem?_eq_none (Nat.le_refl _)]
      rfl
  refine ⟨h.placed.call hok, ?_⟩
  rcases h.directives with ⟨w, hw, hlost⟩ | ⟨i, w, d, hw, hid, hheld, heq⟩ | ⟨hnone, heq⟩
  · exact Or.inl ⟨w, List.mem_append_left _ hw, hlost⟩
  · refine Or.inr (Or.inl ⟨i, w, d, ?_, hid, hheld, ?_⟩)
    · obtain ⟨hlt, -⟩ := List.getElem?_eq_some_iff.mp hw
      exact (List.getElem?_append_left hlt).trans hw
    · rw [hbuffer]
      exact heq
  · refine Or.inr (Or.inr ⟨fun w hw hid => ?_, ?_⟩)
    · rcases mem_serve hw with hw | hw
      · exact hnone w hw hid
      · obtain ⟨spokeID, e, -, rfl, -⟩ := mem_watchOf hw
        rfl
    · rw [hbuffer]
      exact heq

/-! ## Queueing -/

theorem Tended.offer (h : s.Tended id) {q : Queueing} (hq : s.queueing[i]? = some q) :
    ({ (s.offer q).2 with queueing := s.queueing.eraseIdx i } : Streams).Tended id := by
  have hqueueing : ∀ q' ∈ s.queueing.eraseIdx i, Belongs id s q'.spokeID q'.entry :=
    fun q' hq' => h.placed.queueing q' (List.mem_of_mem_eraseIdx hq')
  have hbelongs := h.placed.queueing q (List.mem_of_getElem? hq)
  unfold Streams.offer
  split
  · rename_i server hoffer
    obtain ⟨hself, hother, hspokes, hlen⟩ := Server.offer_true hoffer
    have hkeep : ∀ {spokeID e}, Belongs id s spokeID e → e < server.entries.length
        ∧ (spokeID = id ↔ server.spokes.lookup id = some e) := by
      intro spokeID e hb
      rw [hlen, hspokes]
      exact hb
    refine ⟨⟨fun q' hq' => hkeep (hqueueing q' hq'), fun w hw => hkeep (h.placed.watches w hw),
      h.placed.single, h.placed.live⟩, ?_⟩
    by_cases hid : q.spokeID = id
    · have hlookup := hbelongs.2.mp hid
      refine directives_of_append h.directives rfl rfl [q.d] ?_ ?_
      · simp only [acceptedFor, List.filter_append, List.map_append]
        rw [List.filter_cons, if_pos (by simpa using hid)]
        rfl
      · rw [buffer_eq hlookup, ← hself]
        exact buffer_eq (hspokes ▸ hlookup)
    · refine directives_of_append h.directives rfl rfl [] ?_ ?_
      · simp only [acceptedFor, List.filter_append, List.map_append]
        rw [List.filter_cons, if_neg (by simpa using hid)]
        rfl
      · rw [List.append_nil]
        cases he : s.server.spokes.lookup id with
        | none =>
            rw [buffer_none he]
            exact buffer_none (hspokes ▸ he)
        | some e =>
            have hne : q.entry ≠ e := fun heq => hid (hbelongs.2.mpr (heq ▸ he))
            rw [buffer_eq he, ← hother e hne]
            exact buffer_eq (hspokes ▸ he)
  · rename_i server hoffer
    obtain rfl := Server.offer_false hoffer
    exact h.of_quiet (.refl _) rfl hqueueing rfl rfl rfl

/-! ## Streams -/

theorem watching_some {w : Watch} (h : s.watching i = some w) :
    s.watches[i]? = some w ∧ w.returned = none := by
  obtain ⟨hw, hret⟩ := Option.filter_eq_some_iff.mp h
  exact ⟨hw, Option.isNone_iff_eq_none.mp hret⟩

/-- A handler that is at work on a stream that is not broken. -/
theorem isOpen_of {w : Watch} (hret : w.returned = none) (hb : w.broken = false) :
    w.isOpen = true := by
  rw [Watch.isOpen, hret, hb]
  rfl

/-- A handler moves; it stays with its spoke, and its stream is not mended. -/
theorem Placed.modifyWatch (h : s.Placed id) {server : Server}
    {sent : List (Nat × Str × WatchDirectivesResponse)} {f : Watch → Watch}
    (hspokes : server.spokes = s.server.spokes)
    (hlen : server.entries.length = s.server.entries.length)
    (hf : ∀ w, (f w).spokeID = w.spokeID ∧ (f w).entry = w.entry
      ∧ ((f w).isOpen = true → w.isOpen = true))
    (hlive : ∀ w, s.watches[i]? = some w → (f w).held.isSome = true → (f w).returned = none) :
    ({ s with server := server, watches := s.watches.modify i f, sent := sent } : Streams).Placed
      id := by
  have hkeep : ∀ {spokeID e}, Belongs id s spokeID e →
      e < server.entries.length ∧ (spokeID = id ↔ server.spokes.lookup id = some e) := by
    intro spokeID e hb
    rw [hlen, hspokes]
    exact hb
  -- what a handler was before
  have hold : ∀ {j : Nat} {w : Watch}, (s.watches.modify i f)[j]? = some w →
      ∃ v, s.watches[j]? = some v ∧ v.spokeID = w.spokeID ∧ v.entry = w.entry
        ∧ (w.isOpen = true → v.isOpen = true) := by
    intro j w hw
    rcases Slots.of_getElem?_modify hw with ⟨rfl, v, hv, rfl⟩ | ⟨-, hv⟩
    · exact ⟨v, hv, (hf v).1.symm, (hf v).2.1.symm, (hf v).2.2⟩
    · exact ⟨w, hv, rfl, rfl, fun hopen => hopen⟩
  refine ⟨fun q hq => hkeep (h.queueing q hq), fun w hw => ?_, ?_, fun w hw hheld => ?_⟩
  · obtain ⟨j, hj⟩ := List.mem_iff_getElem?.mp hw
    obtain ⟨v, hv, hid, he, -⟩ := hold hj
    rw [← hid, ← he]
    exact hkeep (h.watches v (List.mem_of_getElem? hv))
  · intro j k w w' hw hw' hid hid' hopen hopen'
    obtain ⟨v, hv, hvid, -, hvopen⟩ := hold hw
    obtain ⟨v', hv', hvid', -, hvopen'⟩ := hold hw'
    exact h.single j k v v' hv hv' (hvid.trans hid) (hvid'.trans hid') (hvopen hopen)
      (hvopen' hopen')
  · rcases Slots.of_mem_modify hw with ⟨v, hv, rfl⟩ | hv
    · exact hlive v hv hheld
    · exact h.live w hv hheld

/-- A handler that holds a directive for a broken stream is still there, if it is not the one that
moves. -/
theorem Lost.modify (h : s.Lost id) {f : Watch → Watch}
    (hw : ∀ w, s.watches[i]? = some w → w.spokeID = id →
      w.broken = true → w.held.isSome = true → (f w).spokeID = id ∧ (f w).broken = true
        ∧ (f w).held.isSome = true) :
    ∃ w ∈ s.watches.modify i f, w.spokeID = id ∧ w.broken = true ∧ w.held.isSome = true := by
  obtain ⟨w, hmem, hid, hb, hheld⟩ := h
  obtain ⟨j, hj⟩ := List.mem_iff_getElem?.mp hmem
  by_cases hij : i = j
  · subst hij
    refine ⟨f w, List.mem_of_getElem? (i := i) ?_, hw w hj hid hb hheld⟩
    rw [List.getElem?_modify_eq, hj]
    rfl
  · refine ⟨w, List.mem_of_getElem? (i := j) ?_, hid, hb, hheld⟩
    rw [List.getElem?_modify_ne f _ hij]
    exact hj

/-- A handler moves; if it is one of the spoke it keeps what it holds. -/
theorem directives_of_modify (h : s.Lost id ∨ s.Busy id ∨ s.Idle id) {f : Watch → Watch}
    (hwatches : s'.watches = s.watches.modify i f)
    (hf : ∀ w, s.watches[i]? = some w → (f w).spokeID = w.spokeID
      ∧ (w.spokeID = id → (f w).held = w.held ∧ (w.broken = true → (f w).broken = true)))
    (haccepted : s'.acceptedFor id = s.acceptedFor id)
    (hsent : s'.sentTo id = s.sentTo id) (hbuffer : s'.buffer id = s.buffer id) :
    s'.Lost id ∨ s'.Busy id ∨ s'.Idle id := by
  rcases h with hlost | ⟨j, w, d, hw, hid, hheld, heq⟩ | ⟨hnone, heq⟩
  · refine Or.inl ?_
    unfold Lost
    rw [hwatches]
    refine hlost.modify fun w hw hid hb hheld => ?_
    obtain ⟨hfid, hkeep⟩ := hf w hw
    obtain ⟨hfheld, hfb⟩ := hkeep hid
    exact ⟨hfid.trans hid, hfb hb, hfheld ▸ hheld⟩
  · refine Or.inr (Or.inl ?_)
    unfold Busy
    rw [hwatches, haccepted, hsent, hbuffer]
    by_cases hij : i = j
    · subst hij
      obtain ⟨hfid, hkeep⟩ := hf w hw
      refine ⟨i, f w, d, ?_, hfid.trans hid, (hkeep hid).1.trans hheld, heq⟩
      rw [List.getElem?_modify_eq, hw]
      rfl
    · exact ⟨j, w, d, (List.getElem?_modify_ne f _ hij).trans hw, hid, hheld, heq⟩
  · refine Or.inr (Or.inr ?_)
    unfold Idle
    rw [hwatches, haccepted, hsent, hbuffer]
    refine ⟨fun w hw hid => ?_, heq⟩
    rcases Slots.of_mem_modify hw with ⟨v, hv, rfl⟩ | hv
    · obtain ⟨hfid, hkeep⟩ := hf v hv
      have hvid := hfid.symm.trans hid
      exact (hkeep hvid).1.trans (hnone v (List.mem_of_getElem? hv) hvid)
    · exact hnone w hv hid

/-- Of two handlers that are at work for the spoke and on different streams, one has a broken
stream. -/
theorem Placed.broken_of_ne (h : s.Placed id) {j : Nat} {w w' : Watch}
    (hw : s.watches[i]? = some w) (hw' : s.watches[j]? = some w') (hid : w.spokeID = id)
    (hid' : w'.spokeID = id) (hret : w.returned = none) (hret' : w'.returned = none) (hne : i ≠ j) :
    w.broken = true ∨ w'.broken = true := by
  by_contra hb
  rw [not_or, Bool.not_eq_true, Bool.not_eq_true] at hb
  exact hne (h.single i j w w' hw hw' hid hid' (isOpen_of hret hb.1) (isOpen_of hret' hb.2))

theorem Tended.take (h : s.Tended id) (hs : s.take i = some s') : s'.Tended id := by
  unfold Streams.take at hs
  split at hs
  · rename_i w hwatching
    split at hs
    · rename_i hnone
      obtain ⟨⟨d, server⟩, htake, rfl⟩ := Option.map_eq_some_iff.mp hs
      obtain ⟨hw, hret⟩ := watching_some hwatching
      have honly : ∀ v, s.watches[i]? = some v → v = w :=
        fun v hv => Option.some.inj (hv.symm.trans hw)
      obtain ⟨rest, hself, hrest, hother, hspokes, hlen⟩ := Server.takeDirective_some htake
      have hbelongs := h.placed.watches w (List.mem_of_getElem? hw)
      have hheld : w.held = none := Option.isNone_iff_eq_none.mp hnone
      have hnew : (s.watches.modify i ({ · with held := some d }))[i]? = some { w with
        held := some d } := by
        rw [List.getElem?_modify_eq, hw]
        rfl
      have hsame : ∀ {j : Nat} {v : Watch}, i ≠ j → s.watches[j]? = some v →
          (s.watches.modify i ({ · with held := some d }))[j]? = some v :=
        fun hij hv => (List.getElem?_modify_ne _ _ hij).trans hv
      refine ⟨h.placed.modifyWatch hspokes hlen (fun v => ⟨rfl, rfl, fun hopen => hopen⟩)
        fun v hv _ => ?_, ?_⟩
      · rw [honly v hv]
        exact hret
      · by_cases hid : w.spokeID = id
        · -- the directive is the first in the buffer of the spoke
          have hlookup := hbelongs.2.mp hid
          have hbuffer : s.buffer id = d :: rest := (buffer_eq hlookup).trans hself
          have hbuffer' : ({ s with
              server := server, watches := s.watches.modify i ({ · with held := some d }) } :
              Streams).buffer id = rest := (buffer_eq (hspokes ▸ hlookup)).trans hrest
          rcases h.directives with hlost | ⟨j, v, d', hv, hvid, hvheld, heq⟩ | ⟨-, heq⟩
          · refine Or.inl (hlost.modify fun v hv _ _ hvheld => ?_)
            rw [honly v hv, hheld] at hvheld
            cases hvheld
          · have hij : i ≠ j := by
              rintro rfl
              rw [honly v hv, hheld] at hvheld
              cases hvheld
            have hvret := h.placed.live v (List.mem_of_getElem? hv) (by rw [hvheld]; rfl)
            rcases h.placed.broken_of_ne hw hv hid hvid hret hvret hij with hb | hb
            · exact Or.inl ⟨_, List.mem_of_getElem? hnew, hid, hb, rfl⟩
            · exact Or.inl ⟨v, List.mem_of_getElem? (hsame hij hv), hvid, hb, by rw [hvheld]; rfl⟩
          · refine Or.inr (Or.inl ⟨i, _, d, hnew, hid, rfl, ?_⟩)
            rw [hbuffer', ← hbuffer]
            exact heq
        · have hbuffer : ({ s with
              server := server, watches := s.watches.modify i ({ · with held := some d }) } :
              Streams).buffer id = s.buffer id := by
            cases he : s.server.spokes.lookup id with
            | none =>
                rw [buffer_none he]
                exact buffer_none (hspokes ▸ he)
            | some e =>
                have hne : w.entry ≠ e := fun heq => hid (hbelongs.2.mpr (heq ▸ he))
                rw [buffer_eq he, ← hother e hne]
                exact buffer_eq (hspokes ▸ he)
          exact directives_of_modify h.directives rfl
            (fun v hv => ⟨rfl, fun hvid => absurd (honly v hv ▸ hvid) hid⟩) rfl rfl hbuffer
    · cases hs
  · cases hs

theorem Tended.send (h : s.Tended id) (hok : Unbroken id (.send i) s) (hs : s.send i = some s') :
    s'.Tended id := by
  unfold Streams.send at hs
  split at hs
  · rename_i w hwatching
    obtain ⟨hw, hret⟩ := watching_some hwatching
    have honly : ∀ v, s.watches[i]? = some v → v = w :=
      fun v hv => Option.some.inj (hv.symm.trans hw)
    split at hs
    · rename_i d hheld
      split at hs
      · -- the stream is broken, so the handler is not the spoke's
        rename_i hb
        cases hs
        have hid : w.spokeID ≠ id := fun hid => by
          rw [hok w hwatching hid] at hb
          cases hb
        refine ⟨h.placed.modifyWatch rfl rfl (fun v => ⟨rfl, rfl, ?_⟩) fun v _ hv =>
          (by cases hv), ?_⟩
        · intro hopen
          rw [Watch.isOpen, Option.isNone_some, Bool.and_false] at hopen
          cases hopen
        · exact directives_of_modify h.directives rfl
            (fun v hv => ⟨rfl, fun hvid => absurd (honly v hv ▸ hvid) hid⟩) rfl rfl rfl
      · rename_i hb
        cases hs
        refine ⟨h.placed.modifyWatch rfl rfl (fun v => ⟨rfl, rfl, fun hopen => hopen⟩) fun v _ hv =>
          (by cases hv), ?_⟩
        by_cases hid : w.spokeID = id
        · have hwhole : w.broken = false := Bool.eq_false_iff.mpr hb
          have hsent : ({ s with
              watches := s.watches.modify i ({ · with held := none })
              sent := s.sent ++ [(i, w.spokeID, d)] } : Streams).sentTo id
                = s.sentTo id ++ [d] := by
            simp only [sentTo, List.filter_append, List.map_append]
            rw [List.filter_cons, if_pos (by simpa using hid)]
            rfl
          -- another handler of the spoke that holds something has a broken stream
          have hlost : ∀ {j : Nat} {v : Watch}, s.watches[j]? = some v → i ≠ j → v.spokeID = id →
              v.held.isSome = true →
              ∃ v ∈ s.watches.modify i ({ · with held := none }), v.spokeID = id ∧ v.broken = true
                ∧ v.held.isSome = true := by
            intro j v hv hij hvid hvheld
            have hvret := h.placed.live v (List.mem_of_getElem? hv) hvheld
            rcases h.placed.broken_of_ne hw hv hid hvid hret hvret hij with hwb | hvb
            · rw [hwhole] at hwb
              cases hwb
            · exact ⟨v, List.mem_of_getElem? ((List.getElem?_modify_ne _ _ hij).trans hv), hvid,
                hvb, hvheld⟩
          rcases h.directives with hold | ⟨j, v, d', hv, hvid, hvheld, heq⟩ | ⟨hnone, -⟩
          · refine Or.inl (hold.modify fun v hv _ hvb _ => ?_)
            rw [honly v hv, hwhole] at hvb
            cases hvb
          · by_cases hij : i = j
            · subst hij
              obtain rfl := honly v hv
              obtain rfl : d = d' := Option.some.inj (hheld.symm.trans hvheld)
              by_cases hother : ∃ (k : Nat) (u : Watch), s.watches[k]? = some u ∧ i ≠ k
                ∧ u.spokeID = id ∧ u.held.isSome = true
              · obtain ⟨k, u, hu, hik, huid, huheld⟩ := hother
                exact Or.inl (hlost hu hik huid huheld)
              · refine Or.inr (Or.inr ⟨fun u hu huid => ?_, ?_⟩)
                · obtain ⟨k, hk⟩ := List.mem_iff_getElem?.mp hu
                  rcases Slots.of_getElem?_modify hk with ⟨-, u', -, rfl⟩ | ⟨hki, hu⟩
                  · rfl
                  · by_contra hsome
                    exact hother ⟨k, u, hu, Ne.symm hki, huid, Option.isSome_iff_ne_none.mpr hsome⟩
                · rw [hsent, List.append_assoc]
                  exact heq
            · exact Or.inl (hlost hv hij hvid (by rw [hvheld]; rfl))
          · rw [hnone w (List.mem_of_getElem? hw) hid] at hheld
            cases hheld
        · refine directives_of_modify h.directives rfl
            (fun v hv => ⟨rfl, fun hvid => absurd (honly v hv ▸ hvid) hid⟩) rfl ?_ rfl
          simp only [sentTo, List.filter_append, List.map_append]
          rw [List.filter_cons, if_neg (by simpa using hid)]
          exact List.append_nil _
    · cases hs
  · cases hs

theorem Tended.sever (h : s.Tended id) (i : Nat) :
    ({ s with watches := s.watches.modify i ({ · with broken := true }) } : Streams).Tended id := by
  refine ⟨h.placed.modifyWatch rfl rfl (fun v => ⟨rfl, rfl, ?_⟩) fun v hv =>
    h.placed.live v (List.mem_of_getElem? hv), ?_⟩
  · intro hopen
    cases hopen
  · exact directives_of_modify h.directives rfl (fun v _ => ⟨rfl, fun _ => ⟨rfl, fun _ => rfl⟩⟩)
      rfl rfl rfl

theorem Tended.leave (h : s.Tended id) {err : StatusError} (hs : s.leave i err = some s') :
    s'.Tended id := by
  unfold Streams.leave at hs
  split at hs
  · rename_i w hwatching
    obtain ⟨hw, -⟩ := watching_some hwatching
    split at hs
    · rename_i hnone
      cases hs
      refine ⟨h.placed.modifyWatch rfl rfl (fun v => ⟨rfl, rfl, ?_⟩) fun v hv hheld => ?_, ?_⟩
      · intro hopen
        rw [Watch.isOpen, Option.isNone_some, Bool.and_false] at hopen
        cases hopen
      · rw [hw] at hv
        cases hv
        rw [Option.isNone_iff_eq_none.mp hnone.1] at hheld
        cases hheld
      · exact directives_of_modify h.directives rfl (fun v _ => ⟨rfl, fun _ => ⟨rfl, fun hb => hb⟩⟩)
          rfl rfl rfl
    · cases hs
  · cases hs

/-! ## Every run -/

theorem Tended.act (h : s.Tended id) {a : StreamAct} (hone : OneStream id a s)
    (hok : Unbroken id a s) (hs : act a s = some s') : s'.Tended id := by
  cases a with
  | call peer now call =>
      cases hs
      exact h.call hone
  | find spokeID d =>
      simp only [Streams.act] at hs
      split at hs
      · cases hs
        exact h
      · rename_i e hfind
        cases hs
        refine h.of_quiet (.refl _) rfl (fun q hq => ?_) rfl rfl rfl
        rcases List.mem_append.mp hq with hq | hq
        · exact h.placed.queueing q hq
        · rw [List.mem_singleton.mp hq]
          refine belongs_of_lookup (s := s) ?_
          unfold Server.findSpoke at hfind
          split at hfind
          · cases hfind
          · split at hfind
            · cases hfind
            · rename_i hlookup
              cases hfind
              exact hlookup
  | offer i =>
      obtain ⟨q, hq, rfl⟩ := Option.map_eq_some_iff.mp hs
      exact h.offer hq
  | take i => exact h.take hs
  | send i => exact h.send hok hs
  | sever i =>
      cases hs
      exact h.sever i
  | leave i err => exact h.leave hs
  | clearReplayStatuses key =>
      cases hs
      obtain ⟨hspokes, hquiet⟩ := s.server.spokes_clearReplayStatuses key
      have hlookup := congrArg (·.lookup id) hspokes
      exact h.of_quiet hquiet hlookup
        (fun q hq => (h.placed.queueing q hq).of_lookup_eq hquiet.length hlookup) rfl rfl rfl
  | setActiveLoadTests keys complete =>
      cases hs
      exact h.of_quiet ⟨Nat.le_refl _, fun _ => rfl⟩ rfl h.placed.queueing rfl rfl rfl
  | stop =>
      cases hs
      exact h.of_quiet ⟨Nat.le_refl _, fun _ => rfl⟩ rfl h.placed.queueing rfl rfl rfl

theorem tended_start (id : Str) (n : Int) :
    (start (Server.new.setDirectiveBufferSize n)).Tended id := by
  have hbuffer : (start (Server.new.setDirectiveBufferSize n)).buffer id = [] := by
    refine buffer_none ?_
    unfold start Server.setDirectiveBufferSize
    split <;> rfl
  refine ⟨⟨fun _ h => (by cases h), fun _ h => (by cases h), fun _ _ _ _ h => (by cases h),
    fun _ h => (by cases h)⟩, ?_⟩
  refine Or.inr (Or.inr ⟨fun _ h => (by cases h), ?_⟩)
  rw [hbuffer]
  rfl

theorem Tended.kept (h : s.Tended id) : s.Kept id := by
  intro hnone
  have hheld : ∀ w ∈ s.watches, w.spokeID = id → w.held = none := by
    intro w hw hid
    have := List.filterMap_eq_nil_iff.mp hnone w hw
    rwa [if_pos hid] at this
  rcases h.directives with ⟨w, hw, hid, -, hsome⟩ | ⟨i, w, d, hw, hid, hsome, -⟩ | ⟨-, heq⟩
  · rw [hheld w hw hid] at hsome
    cases hsome
  · rw [hheld w (List.mem_of_getElem? hw) hid] at hsome
    cases hsome
  · exact heq

/-- **In every run in which nothing is sent on a broken stream, the accepted directives of the spoke
are kept.** -/
theorem accepted_directives_kept (id : Str) (n : Int)
    (h : Steps.Reach act (fun a s => OneStream id a s
      ∧ Unbroken id a s) (start (Server.new.setDirectiveBufferSize n)) s) :
    s.Kept id :=
  (h.holds (tended_start id n) fun _ _ _ hok hact htended => htended.act hok.1 hok.2 hact).kept

/-! ## Two directives for one spoke -/

def westRegistration : RegisterSpokeRequest := ⟨lit "west", lit "cluster", [], []⟩

def directiveOf (directiveId : Str) : WatchDirectivesResponse :=
  ⟨some ⟨directiveId, .start, lit "cart", lit "shop"⟩, none⟩

/-- The spoke reconnects between two directives. -/
theorem accepted_directives_kept_west : ∃ s,
    Steps.Reach act (fun a s => OneStream (lit "west") a s ∧ Unbroken (lit "west") a s)
      (start (Server.new.setDirectiveBufferSize 1)) s
    ∧ s.sentTo (lit "west") = [directiveOf (lit "1"), directiveOf (lit "2")]
    ∧ s.Kept (lit "west") := by
  obtain ⟨s, hreach, hsent⟩ :=
    Steps.exists_run act (fun a s => OneStream (lit "west") a s ∧ Unbroken (lit "west") a s)
      (start (Server.new.setDirectiveBufferSize 1))
      [.call none 0 (.registerSpoke westRegistration), .call none 0 (.watchDirectives (lit "west")),
        .find (lit "west") (directiveOf (lit "1")), .offer 0, .take 0, .send 0, .sever 0,
        .leave 0 .canceled, .call none 0 (.watchDirectives (lit "west")),
        .find (lit "west") (directiveOf (lit "2")), .offer 0, .take 1, .send 1]
      (fun s => s.sentTo (lit "west") = [directiveOf (lit "1"), directiveOf (lit "2")])
      (by decide +kernel)
  exact ⟨s, hreach, hsent, accepted_directives_kept (lit "west") 1 hreach⟩

/-- **The stream breaks before the first of two directives is sent, and the spoke gets the
second.** -/
theorem accepted_directive_lost : ∃ s, Steps.Reach act (OneStream (lit "west")) (start Server.new) s
    ∧ s.heldFor (lit "west") = []
    ∧ s.acceptedFor (lit "west") = [directiveOf (lit "1"), directiveOf (lit "2")]
    ∧ s.sentTo (lit "west") = [directiveOf (lit "2")] ∧ s.buffer (lit "west") = []
    ∧ ¬ s.Kept (lit "west") := by
  obtain ⟨s, hreach, hheld, haccepted, hsent, hbuffer⟩ :=
    Steps.exists_run act (OneStream (lit "west")) (start Server.new)
      [.call none 0 (.registerSpoke westRegistration), .call none 0 (.watchDirectives (lit "west")),
        .find (lit "west") (directiveOf (lit "1")), .offer 0,
        .find (lit "west") (directiveOf (lit "2")), .offer 0,
        .take 0, .sever 0, .send 0, .call none 0 (.watchDirectives (lit "west")), .take 1, .send 1]
      (fun s => s.heldFor (lit "west") = []
        ∧ s.acceptedFor (lit "west") = [directiveOf (lit "1"), directiveOf (lit "2")]
        ∧ s.sentTo (lit "west") = [directiveOf (lit "2")] ∧ s.buffer (lit "west") = [])
      (by decide +kernel)
  refine ⟨s, hreach, hheld, haccepted, hsent, hbuffer, fun hkept => ?_⟩
  have heq := hkept hheld
  rw [haccepted, hsent, hbuffer] at heq
  cases heq

end Streams

end Kapture.Hub
