import Kapture.Spoke.AgentSettings

/-!
# Credentials stay out of storage

A capture names the headers whose values must not be stored: a fixed set of credentials,
and those that it lists itself. The list goes through four hands. The spoke joins it with
commas into a variable, the agent splits the variable again, the redactor brings names into
their canonical form, and the handler replaces the values of the headers that match.

Two of them can lose a name. The agent takes the one text `none`, in any case, for the switch
that turns redaction off, so a capture that lists the one header `none` stores every
credential. And the canonical form only sees through the case of names that are HTTP tokens:
any other name has to be spelled the way it is listed, and a name with a comma is listed as
its pieces. `secrets_withheld_iff` says that **nothing else gets through**.

Names are compared ignoring the case of ASCII letters. The headers of a request are any map.
-/

namespace Kapture.Spoke

open Go Storage Hub
open Agent (CapturedHTTPRequest newCaptureHandler newHeaderRedactor defaultRedactHeaders
    redactedValue)

/-! ## What has to be withheld -/

/-- A header that a capture wants redacted. -/
def Secret (settings : CaptureSettings) (name : Str) : Prop :=
  ∃ e ∈ defaultRedactHeaders ++ settings.redactHeaders, name.equalFoldAscii e.trimSpace = true

/-- **The record has no original value of a secret header**, other than the marker itself. -/
def Withheld (settings : CaptureSettings) (req : CapturedHTTPRequest)
    (out : CapturedRequest) : Prop :=
  ∀ h ∈ req.headers, Secret settings h.1 →
    ∀ k ∈ out.headers, k.1 = h.1 → ∀ v ∈ h.2, v ∈ k.2 → v = redactedValue

/-! ## What gets through -/

/-- A list that reads like the switch. -/
def Switch (names : List Str) : Prop :=
  ∃ n, names = [n] ∧ n.trimSpace.equalFold (lit "none") = true

/-- The texts between the commas. -/
def pieces (names : List Str) : List Str := names.flatMap (List.splitOn 44)

/-- A name that is recognised in any spelling, or is spelled the way it is listed. -/
def Recognised (names : List Str) (name : Str) : Prop :=
  name ≠ [] ∧ (name.all Header.isTokenByte = true ∨ name ∈ (pieces names).map Str.trimSpace)

/-! ## The list in the variable -/

variable {names : List Str} {headers : List (Str × List Str)}

theorem comma_notMem_pieces : ∀ p ∈ pieces names, 44 ∉ p := by
  intro p hp
  obtain ⟨n, -, hp⟩ := List.mem_flatMap.mp hp
  exact Str.notMem_splitOn hp

theorem mem_pieces {n : Str} (hn : n ∈ names) (hfree : 44 ∉ n) : n ∈ pieces names :=
  List.mem_flatMap.mpr ⟨n, hn,
    by rw [List.splitOn_eq_singleton hfree]; exact List.mem_singleton_self n⟩

theorem pieces_ne_nil (hne : names ≠ []) : pieces names ≠ [] := by
  obtain ⟨n, rest, rfl⟩ := List.exists_cons_of_ne_nil hne
  rw [pieces, List.flatMap_cons]
  exact List.append_ne_nil_of_left_ne_nil (List.splitOn_ne_nil 44 n) _

theorem intercalate_append {a b : List Str} (ha : a ≠ []) (hb : b ≠ []) :
    [44].intercalate (a ++ b) = [44].intercalate a ++ [44] ++ [44].intercalate b := by
  induction a with
  | nil => exact absurd rfl ha
  | cons x a ih =>
      by_cases hne : a = []
      · subst hne
        rw [List.singleton_append, List.intercalate_cons_of_ne_nil hb, List.intercalate_singleton,
          List.append_assoc]
      · rw [List.cons_append, List.intercalate_cons_of_ne_nil (by simp [hne]), ih hne,
          List.intercalate_cons_of_ne_nil hne]
        simp only [List.append_assoc]

/-- Joined, the pieces are the list. -/
theorem intercalate_pieces (names : List Str) :
    [44].intercalate (pieces names) = [44].intercalate names := by
  induction names with
  | nil => rfl
  | cons n rest ih =>
      by_cases hne : rest = []
      · subst hne
        rw [pieces, List.flatMap_cons, List.flatMap_nil, List.append_nil, List.intercalate_splitOn,
          List.intercalate_singleton]
      · rw [pieces, List.flatMap_cons, ← pieces,
          intercalate_append (List.splitOn_ne_nil 44 n) (pieces_ne_nil hne), ih,
          List.intercalate_splitOn,
          List.intercalate_cons_of_ne_nil hne, List.append_assoc]

/-- **What the agent redacts**: the defaults and the pieces of the list, unless the list reads
like the switch. -/
theorem mem_redactedBy (hoff : ¬ Switch names) (x : Str) :
    x ∈ redactedBy ([44].intercalate names)
      ↔ x ∈ newHeaderRedactor (defaultRedactHeaders ++ pieces names) := by
  by_cases hne : names = []
  · subst hne
    have hdef : redactedBy [] = newHeaderRedactor (defaultRedactHeaders ++ []) := by decide +kernel
    exact iff_of_eq (congrArg (x ∈ ·) hdef)
  · rw [← intercalate_pieces]
    refine redactedBy_join (pieces_ne_nil hne) comma_notMem_pieces (fun n hn => ?_) x
    -- one piece is a list of one name
    by_contra hfold
    rw [Bool.not_eq_false] at hfold
    refine hoff ⟨n, ?_, hfold⟩
    match names, hne with
    | [m], _ =>
        have hjoin := intercalate_pieces [m]
        rw [hn, List.intercalate_singleton, List.intercalate_singleton] at hjoin
        rw [hjoin]
    | m :: l :: rest, _ =>
        have hlen := congrArg List.length hn
        have hm := List.length_pos_of_ne_nil (List.splitOn_ne_nil 44 m)
        have hl := List.length_pos_of_ne_nil (List.splitOn_ne_nil 44 l)
        simp only [pieces, List.flatMap_cons, List.length_append, List.length_singleton] at hlen
        omega

/-- With the switch on nothing is redacted. -/
theorem redactedBy_switch (hon : Switch names) : redactedBy ([44].intercalate names) = [] := by
  obtain ⟨n, rfl, hfold⟩ := hon
  have hne : n.trimSpace ≠ [] := by
    intro hblank
    rw [hblank] at hfold
    exact absurd hfold (by decide)
  rw [List.intercalate_singleton, redactedBy, Agent.parseRedactHeaders]
  simp only [hfold, if_neg hne, if_true]
  rfl

/-! ## One header -/

theorem length_eq_of_equalFoldAscii {s t : Str} (h : s.equalFoldAscii t = true) :
    s.length = t.length := by
  have hmap := congrArg List.length (beq_iff_eq.mp h)
  rwa [List.length_map, List.length_map] at hmap

theorem equalFoldAscii_comm {s t : Str} : s.equalFoldAscii t = t.equalFoldAscii s := by
  rw [Bool.eq_iff_iff, Str.equalFoldAscii, Str.equalFoldAscii, beq_iff_eq, beq_iff_eq]
  exact eq_comm

theorem comma_notMem_token {s : Str} (h : s.all Header.isTokenByte = true) : 44 ∉ s := by
  intro hmem
  exact absurd (List.all_eq_true.mp h 44 hmem) (by decide)

/-- **A secret header is redacted exactly if its name is recognised.** -/
theorem secret_redacted_iff {settings : CaptureSettings} {name : Str}
    (hsecret : Secret settings name) :
    Header.canonicalHeaderKey name
      ∈ newHeaderRedactor (defaultRedactHeaders ++ pieces settings.redactHeaders)
      ↔ Recognised settings.redactHeaders name := by
  rw [mem_newHeaderRedactor]
  constructor
  · rintro ⟨n, hn, hvis, hkey⟩
    rcases Header.canonicalHeaderKey_eq_iff.mp hkey with rfl | ⟨htoken, hfold⟩
    · refine ⟨hvis, ?_⟩
      rcases List.mem_append.mp hn with hn | hn
      · have hdef : ∀ n ∈ defaultRedactHeaders, n.trimSpace.all Header.isTokenByte = true := by
          decide +kernel
        exact Or.inl (hdef n hn)
      · exact Or.inr (List.mem_map_of_mem hn)
    · refine ⟨?_, Or.inl ((Header.all_token_of_equalFoldAscii hfold).symm.trans htoken)⟩
      intro hnil
      rw [hnil] at hfold
      exact hvis (List.eq_nil_of_length_eq_zero (length_eq_of_equalFoldAscii hfold))
  · rintro ⟨hne, htoken | hlisted⟩
    · -- the entry that makes it secret is a spelling of it, so it has no comma
      obtain ⟨e, he, hfold⟩ := hsecret
      have hetoken := (Header.all_token_of_equalFoldAscii hfold).symm.trans htoken
      have hvis : Visible e := by
        intro hblank
        rw [hblank] at hfold
        exact hne (List.eq_nil_of_length_eq_zero (length_eq_of_equalFoldAscii hfold))
      have hkey : Header.canonicalHeaderKey e.trimSpace = Header.canonicalHeaderKey name :=
        Header.canonicalHeaderKey_eq_iff.mpr
          (Or.inr ⟨hetoken, by rw [equalFoldAscii_comm]; exact hfold⟩)
      refine ⟨e, ?_, hvis, hkey⟩
      rcases List.mem_append.mp he with he | he
      · exact List.mem_append_left _ he
      · refine List.mem_append_right _ (mem_pieces he fun hcomma => ?_)
        exact comma_notMem_token hetoken ((Str.mem_trimSpace_iff comma_notMem_space).mpr hcomma)
    · obtain ⟨n, hn, rfl⟩ := List.mem_map.mp hlisted
      exact ⟨n, List.mem_append_right _ hn, hne, rfl⟩

/-! ## The record -/

theorem handle_headers {h : Agent.CaptureHandler} {id : Str} {now : Time} {sample : Int64}
    {req : CapturedHTTPRequest} {out : CapturedRequest}
    (hok : h.handle id now sample req = .ok (some out)) :
    out.headers = Agent.redact h.redactor req.headers := by
  unfold Agent.CaptureHandler.handle at hok
  split at hok
  · cases hok
  · split at hok
    · cases hok
    · cases hok
      rfl

theorem mem_redact {k : Str × List Str} :
    k ∈ Agent.redact names headers ↔ ∃ h ∈ headers, k.1 = h.1
      ∧ k.2 = if Header.canonicalHeaderKey h.1 ∈ names then h.2.map (fun _ => redactedValue)
        else h.2 := by
  rw [Agent.redact, List.mem_map]
  refine exists_congr fun h => and_congr_right fun _ => ?_
  by_cases hmem : Header.canonicalHeaderKey h.1 ∈ names
  · rw [if_pos hmem, if_pos (List.contains_iff_mem.mpr hmem), eq_comm, Prod.ext_iff]
  · rw [if_neg hmem, if_neg (fun hc => hmem (List.contains_iff_mem.mp hc)), eq_comm, Prod.ext_iff]

/-- What the redactor does to the values of one name. -/
theorem redact_withholds_iff {h : Str × List Str} (hh : h ∈ headers) :
    (∀ k ∈ Agent.redact names headers, k.1 = h.1 → ∀ v ∈ h.2, v ∈ k.2 → v = redactedValue)
      ↔ ((∃ v ∈ h.2, v ≠ redactedValue) → Header.canonicalHeaderKey h.1 ∈ names) := by
  constructor
  · rintro hall ⟨v, hv, hne⟩
    by_contra hnot
    exact hne (hall h (mem_redact.mpr ⟨h, hh, rfl, (if_neg hnot).symm⟩) rfl v hv hv)
  · intro hmem k hk hname v hv hvk
    by_contra hne
    obtain ⟨h', -, hname', hvals⟩ := mem_redact.mp hk
    rw [← hname', hname, if_pos (hmem ⟨v, hv, hne⟩)] at hvals
    rw [hvals] at hvk
    obtain ⟨-, -, hv'⟩ := List.mem_map.mp hvk
    exact hne hv'.symm

theorem redactHeaders_main {tc : TrafficCapture} {storage : CaptureStorage} {pod : Str}
    {db : Option Str} {cfg : Agent.AgentConfig}
    (hmain : Agent.main (buildEnvVars tc storage pod db) = .ok cfg) :
    (newCaptureHandler cfg.handler).redactor = redactedBy ((redactEnv tc.capture).getD []) := by
  unfold Agent.main at hmain
  simp only at hmain
  split at hmain
  · cases hmain
  · split at hmain
    · cases hmain
    · split at hmain
      · cases hmain
      · split at hmain
        · cases hmain
        · cases hmain
          rw [newCaptureHandler, getenv_redact, redactedBy]

section Withheld

variable {tc : TrafficCapture} {storage : CaptureStorage} {pod : Str} {db : Option Str}
  {cfg : Agent.AgentConfig}

theorem redactEnv_of_enabled {settings : CaptureSettings}
    (hon : settings.disableHeaderRedaction ≠ some true) :
    (redactEnv settings).getD [] = [44].intercalate settings.redactHeaders := by
  rw [redactEnv, if_neg hon]
  split
  · rfl
  · rename_i hnil
    rw [not_not.mp hnil]
    rfl

/-- **No credential reaches storage exactly if the list does not read like the switch and every
secret header of the request is recognised**: for every capture that does not disable
redaction, every list of headers and every request. -/
theorem secrets_withheld_iff (hon : tc.capture.disableHeaderRedaction ≠ some true)
    (hmain : Agent.main (buildEnvVars tc storage pod db) = .ok cfg)
    {id : Str} {now : Time} {sample : Int64} {req : CapturedHTTPRequest} {out : CapturedRequest}
    (hout : (newCaptureHandler cfg.handler).handle id now sample req = .ok (some out)) :
    Withheld tc.capture req out
      ↔ ∀ h ∈ req.headers, Secret tc.capture h.1 → (∃ v ∈ h.2, v ≠ redactedValue) →
          ¬ Switch tc.capture.redactHeaders ∧ Recognised tc.capture.redactHeaders h.1 := by
  have hheaders := handle_headers hout
  rw [redactHeaders_main hmain, redactEnv_of_enabled hon] at hheaders
  rw [Withheld, hheaders]
  refine forall_congr' fun h => forall_congr' fun hh => forall_congr' fun hsecret => ?_
  rw [redact_withholds_iff hh]
  refine imp_congr_right fun _ => ?_
  by_cases hsw : Switch tc.capture.redactHeaders
  · rw [redactedBy_switch hsw]
    exact ⟨fun hnil => absurd hnil List.not_mem_nil, fun hc => absurd hsw hc.1⟩
  · rw [mem_redactedBy hsw, secret_redacted_iff hsecret]
    exact ⟨fun hr => ⟨hsw, hr⟩, And.right⟩

end Withheld

/-! ## One request -/

/-- A request that the filter of `routeCapture` lets through. -/
def cartRequest : CapturedHTTPRequest where
  method := lit "GET"
  path := lit "/cart/items"
  headers := [(lit "AUTHORIZATION", [lit "Bearer 1"]), (lit "x-SESSION", [lit "a", lit "b"]),
    (lit "x-debug", [lit "true"])]
  body := ⟨[], none⟩
  protocol := lit "HTTP"
  metadata := []

/-- The agent of `routeCapture` runs, and records the request. -/
theorem cartRequest_recorded (settings : CaptureSettings) (h : ∀ n ∈ settings.maxBodyBytes, 0 ≤ n) :
    ∃ cfg out, Agent.main (buildEnvVars (routeCapture settings) routeStorage (lit "cart-0") none)
      = .ok cfg
      ∧ (newCaptureHandler cfg.handler).handle (lit "r-1") 1 0 cartRequest = .ok (some out) := by
  have hadm := routeCapture_admitted h
  obtain ⟨backend, hok, -⟩ :=
    parseStorageConfig_spec (routeCapture settings) (lit "cart-0") none hadm.storage
  have hmain := main_buildEnvVars (lit "cart-0") none hadm hok
  rw [(unnamed_eq_none_iff _).mpr (by
    rintro f ⟨⟩ h hh
    rcases List.mem_singleton.mp hh with rfl
    decide)] at hmain
  exact ⟨_, _, hmain, rfl⟩

theorem cart_secrets_withheld : ∃ cfg out,
    Agent.main (buildEnvVars (routeCapture redactTwo) routeStorage (lit "cart-0") none) = .ok cfg
      ∧ (newCaptureHandler cfg.handler).handle (lit "r-1") 1 0 cartRequest = .ok (some out)
      ∧ Withheld redactTwo cartRequest out := by
  obtain ⟨cfg, out, hmain, hout⟩ := cartRequest_recorded redactTwo (by simp [redactTwo])
  refine ⟨cfg, out, hmain, hout, (secrets_withheld_iff (by decide) hmain hout).mpr ?_⟩
  intro h hh _ _
  have hnames : ∀ h ∈ cartRequest.headers, h.1 ≠ [] ∧ h.1.all Header.isTokenByte = true := by
    decide +kernel
  refine ⟨?_, (hnames h hh).1, Or.inl (hnames h hh).2⟩
  rintro ⟨n, hn, -⟩
  cases hn

/-- A capture that lists one header, `None`. -/
def redactNone : CaptureSettings := ⟨none, none, none, [lit "None"], none⟩

/-- **A header with the name of the switch turns redaction off**: the token of the request is
stored. -/
theorem none_header_disables_redaction : ∃ cfg out,
    Agent.main (buildEnvVars (routeCapture redactNone) routeStorage (lit "cart-0") none) = .ok cfg
      ∧ (newCaptureHandler cfg.handler).handle (lit "r-1") 1 0 cartRequest = .ok (some out)
      ∧ (lit "AUTHORIZATION", [lit "Bearer 1"]) ∈ out.headers
      ∧ ¬ Withheld redactNone cartRequest out := by
  obtain ⟨cfg, out, hmain, hout⟩ := cartRequest_recorded redactNone (by simp [redactNone])
  have hheaders := handle_headers hout
  rw [redactHeaders_main hmain] at hheaders
  have hoff : redactedBy ((redactEnv (routeCapture redactNone).capture).getD []) = [] := by
    decide +kernel
  rw [hoff] at hheaders
  have hstored : (lit "AUTHORIZATION", [lit "Bearer 1"]) ∈ out.headers := by
    rw [hheaders]
    decide +kernel
  refine ⟨cfg, out, hmain, hout, hstored, fun hw => ?_⟩
  have hsecret : Secret redactNone (lit "AUTHORIZATION") :=
    ⟨lit "Authorization", by decide, by decide +kernel⟩
  have hmark :=
    hw (lit "AUTHORIZATION", [lit "Bearer 1"]) (by decide) hsecret _ hstored rfl (lit "Bearer 1")
      (List.mem_singleton_self _) (List.mem_singleton_self _)
  exact absurd hmark (by decide)

end Kapture.Spoke
