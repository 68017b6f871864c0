import Kapture.Hub.CaptureHub
import Kapture.Lib.Steps

/-!
# The life of the hub's server

`ensureServer` creates a server and starts it in a goroutine, which is all that hears of its end:
`Start` returns at once if the address is in use, or later with an error, and the goroutine logs
that and exits. The next call of `ensureServer` compares configurations, and nothing else. So **a
server that is dead stays the current one as long as nobody changes the configuration**; a server
that is not dead, or that is asked to be another, is no problem.

A goroutine reads the reconciler's server when it gets to run, and finds the one that is current
then, which need not be the one that it was made for; or none, which is the end of the process.

Servers are numbered in the order of their creation.
-/

namespace Kapture.Hub

open Go

/-- A goroutine that starts a server. -/
inductive Starter where
  /-- It has not run yet. -/
  | waiting
  /-- In `Start` of a server. -/
  | serving (server : Nat)
  /-- `Start` has returned. -/
  | returned (server : Nat)
deriving DecidableEq, Repr

/-- The process of the hub. -/
structure HubProcess (C P : Type) where
  reconciler : HubReconciler C P
  /-- The server that the reconciler has. -/
  current : Option Nat
  /-- How many servers there were. -/
  created : Nat
  starters : List Starter
  /-- A goroutine found no server. -/
  panicked : Bool

inductive HubAct where
  /-- `ensureServer`, for a hub and what it finds in the cluster. -/
  | ensure (env : HubEnv) (hub : CaptureHub)
  | stopServer
  /-- A goroutine gets to run, and calls `Start`. -/
  | run (i : Nat)
  /-- `Start` returns. -/
  | finish (i : Nat)

namespace HubProcess

variable {C P : Type} (crypto : Crypto C P)

def start (directiveBufferSize : Int) : HubProcess C P :=
  ⟨⟨directiveBufferSize, none, [], false, [], none⟩, none, 0, [], false⟩

/-- The call keeps the server that there is. -/
def keeps (env : HubEnv) (hub : CaptureHub) (s : HubProcess C P) : Bool :=
  match loadTLSSecret env hub with
  | .error _ => true
  | .ok (_, tlsSecret) => s.reconciler.unchanged hub tlsSecret

/-- `ensureServer`, in the process. -/
def ensure (env : HubEnv) (hub : CaptureHub)
    (s : HubProcess C P) : Except ServerError Unit × HubProcess C P :=
  let (res, r) := s.reconciler.ensureServer crypto env hub
  if s.keeps env hub then (res, { s with reconciler := r })
  else
    match res with
    | .error err => (.error err, { s with reconciler := r, current := none })
    | .ok () => (.ok (), { s with
        reconciler := r
        current := some s.created
        created := s.created + 1
        starters := s.starters ++ [.waiting] })

def run (s : HubProcess C P) (i : Nat) : Option (HubProcess C P) :=
  match s.starters[i]?, s.current with
  | some .waiting, some n => some { s with starters := s.starters.set i (.serving n) }
  | some .waiting, none => some { s with panicked := true }
  | _, _ => none

def finish (s : HubProcess C P) (i : Nat) : Option (HubProcess C P) :=
  match s.starters[i]? with
  | some (.serving n) => some { s with starters := s.starters.set i (.returned n) }
  | _ => none

def act (a : HubAct) (s : HubProcess C P) : Option (HubProcess C P) :=
  if s.panicked then none
  else
    match a with
    | .ensure env hub => some (s.ensure crypto env hub).2
    | .stopServer => some { s with reconciler := s.reconciler.stopServer, current := none }
    | .run i => s.run i
    | .finish i => s.finish i

/-- `Start` of this server has returned. -/
def Dead (s : HubProcess C P) (n : Nat) : Prop := .returned n ∈ s.starters

instance (s : HubProcess C P) (n : Nat) : Decidable (s.Dead n) :=
  inferInstanceAs (Decidable (_ ∈ _))

/-- A call without an error does not leave a server that was dead before. -/
def Replaces (env : HubEnv) (hub : CaptureHub) (s : HubProcess C P) : Prop :=
  ∀ s', s.ensure crypto env hub = (.ok (), s') → ∀ n, s'.current = some n → ¬ s.Dead n

/-- The server is dead, its configuration is the one that the hub asks for, and the certificates
need no exchange or can be exchanged. -/
def AskedAlike (env : HubEnv) (hub : CaptureHub) (s : HubProcess C P) : Prop :=
  (∃ n, s.current = some n ∧ s.Dead n)
    ∧ ∃ data tlsSecret, loadTLSSecret env hub = .ok (data, tlsSecret)
    ∧ s.reconciler.unchanged hub tlsSecret = true
    ∧ (s.reconciler.dynamicTLS.isSome = true → hashTLSData crypto data ≠ s.reconciler.tlsDataHash →
      ∃ cfg, buildServerTLSConfig crypto data hub.mtls = .ok cfg)

/-! ## Runs -/

/-- The reconciler's server is the current one, and goroutines are about servers that were
created. -/
structure Numbered (s : HubProcess C P) : Prop where
  server : s.current.isSome = s.reconciler.server.isSome
  current : ∀ n ∈ s.current, n < s.created
  starters : ∀ g ∈ s.starters, ∀ n, g = .serving n ∨ g = .returned n → n < s.created

variable {crypto} {s s' : HubProcess C P} {env : HubEnv} {hub : CaptureHub} {i : Nat}

/-- A call that keeps the server keeps it, whatever it returns. -/
theorem ensureServer_keeps (h : s.keeps env hub = true) :
    (s.reconciler.ensureServer crypto env hub).2.server = s.reconciler.server := by
  unfold keeps at h
  unfold HubReconciler.ensureServer
  cases hload : loadTLSSecret env hub with
  | error err => rfl
  | ok loaded =>
      rw [hload] at h
      dsimp only at h ⊢
      rw [if_pos h]
      split
      · split <;> rfl
      · rfl

/-- A call that does not keep the server leaves another one, or none and an error. -/
theorem ensureServer_replaces (h : s.keeps env hub = false) :
    (s.reconciler.ensureServer crypto env hub).2.server.isSome
      = (s.reconciler.ensureServer crypto env hub).1.isOk := by
  unfold keeps at h
  unfold HubReconciler.ensureServer
  cases hload : loadTLSSecret env hub with
  | error err =>
      rw [hload] at h
      cases h
  | ok loaded =>
      rw [hload] at h
      dsimp only at h ⊢
      rw [if_neg (Bool.eq_false_iff.mp h)]
      split
      · split <;> rfl
      · rfl

theorem Numbered.ensure (h : s.Numbered) (env : HubEnv) (hub : CaptureHub) :
    (s.ensure crypto env hub).2.Numbered := by
  unfold HubProcess.ensure
  dsimp only
  cases hkeeps : s.keeps env hub with
  | true =>
      refine ⟨?_, h.current, h.starters⟩
      show s.current.isSome = (s.reconciler.ensureServer crypto env hub).2.server.isSome
      rw [ensureServer_keeps hkeeps]
      exact h.server
  | false =>
      rw [if_neg Bool.false_ne_true]
      have hserver : (s.reconciler.ensureServer crypto env hub).2.server.isSome
          = (s.reconciler.ensureServer crypto env hub).1.isOk := ensureServer_replaces hkeeps
      cases hres : (s.reconciler.ensureServer crypto env hub).1 with
      | error err =>
          rw [hres] at hserver
          exact ⟨hserver.symm, fun _ hn => (nomatch hn), h.starters⟩
      | ok u =>
          rw [hres] at hserver
          refine ⟨hserver.symm, ?_, ?_⟩
          · rintro n ⟨⟩
            exact Nat.lt_succ_self _
          · intro g hg n hn
            rcases List.mem_append.mp hg with hg | hg
            · exact Nat.lt_succ_of_lt (h.starters g hg n hn)
            · rw [List.mem_singleton.mp hg] at hn
              rcases hn with hn | hn <;> cases hn

/-- A goroutine that is about a created server. -/
theorem Numbered.set (h : s.Numbered) {g : Starter}
    (hg : ∀ n, g = .serving n ∨ g = .returned n → n < s.created) :
    Numbered { s with starters := s.starters.set i g } := by
  refine ⟨h.server, h.current, fun g' hg' => ?_⟩
  rcases List.mem_or_eq_of_mem_set hg' with hmem | rfl
  · exact h.starters g' hmem
  · exact hg

/-- **Every step keeps the numbers.** -/
theorem numbered_act {a : HubAct} (h : s.Numbered) (hact : act crypto a s = some s') :
    s'.Numbered := by
  unfold act at hact
  split at hact
  · cases hact
  · cases a with
    | ensure env hub =>
        cases hact
        exact h.ensure env hub
    | stopServer =>
        cases hact
        exact ⟨rfl, fun _ hn => (nomatch hn), h.starters⟩
    | run i =>
        simp only [run] at hact
        split at hact
        · rename_i n hg hcur
          cases hact
          refine h.set fun m hm => ?_
          rcases hm with hm | hm
          · cases hm
            exact h.current n hcur
          · cases hm
        · cases hact
          exact ⟨h.server, h.current, h.starters⟩
        · cases hact
    | finish i =>
        simp only [finish] at hact
        split at hact
        · rename_i n hg
          cases hact
          refine h.set fun m hm => ?_
          rcases hm with hm | hm
          · cases hm
          · cases hm
            exact h.starters _ (List.mem_of_getElem? hg) n (.inl rfl)
        · cases hact

/-! ## Dead servers -/

/-- When a call that changes nothing returns no error. -/
theorem ensureServer_unchanged {data : SecretData} {tlsSecret : Str}
    (hload : loadTLSSecret env hub = .ok (data, tlsSecret))
    (hsame : s.reconciler.unchanged hub tlsSecret = true) :
    (s.reconciler.ensureServer crypto env hub).1 = .ok () ↔
      (s.reconciler.dynamicTLS.isSome = true → hashTLSData crypto data ≠ s.reconciler.tlsDataHash →
        ∃ cfg, buildServerTLSConfig crypto data hub.mtls = .ok cfg) := by
  unfold HubReconciler.ensureServer
  rw [hload]
  simp only [hsame, if_true]
  by_cases hrotate :
    (s.reconciler.dynamicTLS.isSome && hashTLSData crypto data != s.reconciler.tlsDataHash) = true
  · rw [if_pos hrotate]
    rw [Bool.and_eq_true, bne_iff_ne] at hrotate
    cases hbuild : buildServerTLSConfig crypto data hub.mtls with
    | error err => exact iff_of_false nofun fun h => nomatch (h hrotate.1 hrotate.2)
    | ok cfg => exact iff_of_true rfl fun _ _ => ⟨cfg, rfl⟩
  · rw [if_neg hrotate]
    refine iff_of_true rfl fun hsome hne => absurd ?_ hrotate
    rw [Bool.and_eq_true, bne_iff_ne]
    exact ⟨hsome, hne⟩

/-- A call that keeps the server, and what it returns. -/
theorem ensure_keeps (h : s.keeps env hub = true) :
    s.ensure crypto env hub = ((s.reconciler.ensureServer crypto env hub).1,
      { s with reconciler := (s.reconciler.ensureServer crypto env hub).2 }) := by
  unfold HubProcess.ensure
  dsimp only
  rw [if_pos h]

/-- A call that does not keep it leaves a server that was not there before. -/
theorem ensure_replaces (h : s.keeps env hub = false)
    (hens : s.ensure crypto env hub = (.ok (), s')) : s'.current = some s.created := by
  unfold HubProcess.ensure at hens
  dsimp only at hens
  rw [if_neg (Bool.eq_false_iff.mp h)] at hens
  split at hens
  · cases hens
  · cases hens
    rfl

/-- The conditions under which a call keeps the server and returns no error. -/
theorem keeps_ok_iff :
    (s.keeps env hub = true ∧ (s.reconciler.ensureServer crypto env hub).1 = .ok ()) ↔
    ∃ data tlsSecret, loadTLSSecret env hub = .ok (data, tlsSecret)
      ∧ s.reconciler.unchanged hub tlsSecret = true
      ∧ (s.reconciler.dynamicTLS.isSome = true →
        hashTLSData crypto data ≠ s.reconciler.tlsDataHash →
        ∃ cfg, buildServerTLSConfig crypto data hub.mtls = .ok cfg) := by
  constructor
  · rintro ⟨hkeeps, hok⟩
    cases hload : loadTLSSecret env hub with
    | error err =>
        unfold HubReconciler.ensureServer at hok
        rw [hload] at hok
        cases hok
    | ok loaded =>
        obtain ⟨data, tlsSecret⟩ := loaded
        unfold keeps at hkeeps
        rw [hload] at hkeeps
        exact ⟨data, tlsSecret, rfl, hkeeps, (ensureServer_unchanged hload hkeeps).mp hok⟩
  · rintro ⟨data, tlsSecret, hload, hsame, hrotate⟩
    refine ⟨?_, (ensureServer_unchanged hload hsame).mpr hrotate⟩
    unfold keeps
    rw [hload]
    exact hsame

/-- **A dead server is left exactly if the hub asks for what it was.** -/
theorem replaces_iff (h : s.Numbered) :
    s.Replaces crypto env hub ↔ ¬ s.AskedAlike crypto env hub := by
  unfold Replaces AskedAlike
  rw [← keeps_ok_iff]
  constructor
  · rintro hrep ⟨⟨n, hcur, hdead⟩, hkeeps, hok⟩
    refine hrep { s with reconciler := (s.reconciler.ensureServer crypto env hub).2 } ?_ n
      hcur hdead
    rw [ensure_keeps hkeeps, hok]
  · intro hnot s' hens n hcur hdead
    cases hkeeps : s.keeps env hub with
    | true =>
        rw [ensure_keeps hkeeps, Prod.mk.injEq] at hens
        obtain ⟨hok, rfl⟩ := hens
        exact hnot ⟨⟨n, hcur, hdead⟩, hkeeps, hok⟩
    | false =>
        -- The server is a new one, and no goroutine can have been in it.
        rw [ensure_replaces hkeeps hens] at hcur
        cases hcur
        exact absurd (h.starters _ hdead _ (.inr rfl)) (Nat.lt_irrefl _)

theorem numbered_start (directiveBufferSize : Int) :
    (start directiveBufferSize : HubProcess C P).Numbered :=
  ⟨rfl, fun _ hn => (nomatch hn), fun _ hg => (nomatch hg)⟩

/-- **In every state that the process can be in, a call replaces a dead server exactly if it asks
for something else.** -/
theorem dead_server_replaced_iff (crypto : Crypto C P) (directiveBufferSize : Int)
    (h : Steps.Reach (act crypto) (fun _ _ => True) (start directiveBufferSize) s) (env : HubEnv)
    (hub : CaptureHub) : s.Replaces crypto env hub ↔ ¬ s.AskedAlike crypto env hub :=
  replaces_iff (h.holds (numbered_start directiveBufferSize) fun _ _ _ _ hact hs =>
    numbered_act hs hact)

/-- A hub without TLS. -/
def plainHub : CaptureHub := ⟨lit "main", 7, lit ":9443", none, false⟩

/-- The same hub at another address. -/
def movedHub : CaptureHub := { plainHub with grpcAddress := lit ":9444" }

/-- `Start` of the first server has returned, and the hub moves: the next call starts a second
one. -/
theorem moved_server_replaced :
    ∃ s, Steps.Reach (act HubReconciler.laxCrypto) (fun _ _ => True) (start 0) s
      ∧ s.current = some 0 ∧ s.Dead 0
      ∧ s.Replaces HubReconciler.laxCrypto HubReconciler.keyOnly movedHub
      ∧ (s.ensure HubReconciler.laxCrypto HubReconciler.keyOnly movedHub).1.isOk = true
      ∧ (s.ensure HubReconciler.laxCrypto HubReconciler.keyOnly movedHub).2.current = some 1 := by
  obtain ⟨s, hreach, hcur, hdead, hchanged, hok, hnew⟩ := Steps.exists_run
    (act HubReconciler.laxCrypto) (fun _ _ => True) (start 0)
    [.ensure HubReconciler.keyOnly plainHub, .run 0, .finish 0]
    (fun s => s.current = some 0 ∧ s.Dead 0 ∧ s.reconciler.unchanged movedHub [] = false
      ∧ (s.ensure HubReconciler.laxCrypto HubReconciler.keyOnly movedHub).1.isOk = true
      ∧ (s.ensure HubReconciler.laxCrypto HubReconciler.keyOnly movedHub).2.current = some 1)
    (by decide +kernel)
  refine ⟨s, hreach, hcur, hdead, ?_, hok, hnew⟩
  refine (dead_server_replaced_iff HubReconciler.laxCrypto 0 hreach HubReconciler.keyOnly
    movedHub).mpr ?_
  rintro ⟨-, data, tlsSecret, hload, hsame, -⟩
  cases hload
  rw [hchanged] at hsame
  cases hsame

/-- The address is in use: `Start` of the first server returns, and the next call finds nothing to
do. -/
theorem dead_server_kept :
    ∃ s, Steps.Reach (act HubReconciler.laxCrypto) (fun _ _ => True) (start 0) s
      ∧ s.Dead 0 ∧ (s.ensure HubReconciler.laxCrypto HubReconciler.keyOnly plainHub).1.isOk = true
      ∧ (s.ensure HubReconciler.laxCrypto HubReconciler.keyOnly plainHub).2.current = some 0 := by
  exact Steps.exists_run (act HubReconciler.laxCrypto) (fun _ _ => True) (start 0)
    [.ensure HubReconciler.keyOnly plainHub, .run 0, .finish 0] _ (by decide +kernel)

end HubProcess

end Kapture.Hub
