import Kapture.Hub.Registry
import Kapture.Lib.Least

/-!
# The server of the hub

The gRPC server is one for the process. It follows one `CaptureHub`, the oldest, and
`ensureServer` starts it, exchanges its certificates in place, or stops it and starts another
one when the address, the secret or the mode of TLS changes.

Two promises are looked at here. A new `CaptureHub` does not take over: creation times have
seconds, so it does if it was created in the second of the oldest and its name comes first
(`authoritativeHub_iff`). And an error leaves the server as it is: it does not if the error is
found after the old server was stopped (`ensureServer_harmless_iff`).

What certificates parse to, and the hash, are parameters.
-/

namespace Kapture.Hub

open Go Storage Least

/-! ## Which hub the server follows -/

/-- `gwapiv1.SecretObjectReference`. -/
structure SecretRef where
  name : Str
  ns : Option Str
deriving DecidableEq, Repr

/-- `CaptureHub`, which is not in a namespace. `mtls` is whether the authentication is set and of
type `mTLS`. -/
structure CaptureHub where
  name : Str
  /-- The creation time, in seconds. -/
  created : Int
  grpcAddress : Str
  tls : Option SecretRef
  mtls : Bool
deriving DecidableEq, Repr

/-- The order of the selection: by age, then by name. -/
def Precedes (h active : CaptureHub) : Prop :=
  h.created < active.created ∨ (h.created = active.created ∧ h.name < active.name)

instance : DecidableRel Precedes := fun _ _ => inferInstanceAs (Decidable (_ ∨ _))

def authoritativeHub (items : List CaptureHub) : Option CaptureHub :=
  items.foldl (fun active h =>
    if active.all fun a => decide (Precedes h a) then some h else active) none

theorem authoritativeHub_eq (items : List CaptureHub) :
    authoritativeHub items = least Precedes items := by
  have hround : (fun active h => if Option.all (fun a => decide (Precedes h a)) active then some h
      else active)
      = better Precedes := by
    funext active h
    cases active with
    | none => rfl
    | some a => simp [better]
  rw [authoritativeHub, least, hround]

theorem precedes_trans (a b c : CaptureHub) (h : Precedes a b) (h' : Precedes b c) :
    Precedes a c := by
  rcases h with h | ⟨h, hn⟩
  · rcases h' with h' | ⟨h', -⟩
    · exact Or.inl (lt_trans h h')
    · exact Or.inl (h' ▸ h)
  · rcases h' with h' | ⟨h', hn'⟩
    · exact Or.inl (h ▸ h')
    · exact Or.inr ⟨h.trans h', List.lt_trans hn hn'⟩

theorem not_precedes_self (a : CaptureHub) : ¬ Precedes a a := by
  rintro (h | ⟨-, h⟩)
  · exact lt_irrefl _ h
  · exact List.lt_irrefl _ h

/-- Names are distinct in a cluster, so there are no ties. -/
theorem totalOn_precedes {items : List CaptureHub} (h : (items.map CaptureHub.name).Nodup) :
    TotalOn Precedes items := by
  intro a ha b hb
  by_cases hname : a.name = b.name
  · exact Or.inl (List.inj_on_of_nodup_map h ha hb hname)
  · right
    rcases lt_trichotomy a.created b.created with hlt | heq | hgt
    · exact Or.inl (Or.inl hlt)
    · by_cases hlt : a.name < b.name
      · exact Or.inl (Or.inr ⟨heq, hlt⟩)
      · have hle : b.name ≤ a.name := List.not_lt.mp hlt
        have hlt' : b.name < a.name := by
          by_contra hge
          exact hname (List.le_antisymm (List.not_lt.mp hge) hle)
        exact Or.inr (Or.inr ⟨heq.symm, hlt'⟩)
    · exact Or.inr (Or.inl hgt)

/-- **A hub that is created later leaves the selection as it is exactly if some hub is older, or
as old and first by name**: for every order of the lists. -/
theorem authoritativeHub_iff (items : List CaptureHub) (h : CaptureHub) {items' : List CaptureHub}
    (hnames : ((h :: items).map CaptureHub.name).Nodup)
    (hlater : ∀ g ∈ items, g.created ≤ h.created) (hperm : items'.Perm (h :: items)) :
    authoritativeHub items' = authoritativeHub items
      ↔ ∃ g ∈ items, g.created < h.created ∨ g.name < h.name := by
  have hnew : h ∉ items := fun hmem =>
    (List.nodup_cons.mp hnames).1 (List.mem_map_of_mem hmem)
  rw [authoritativeHub_eq, authoritativeHub_eq,
    least_cons_iff precedes_trans not_precedes_self hperm hnew (totalOn_precedes hnames)]
  refine exists_congr fun g => and_congr_right fun hg => ?_
  constructor
  · exact Or.imp_right And.right
  · rintro (hlt | hlt)
    · exact Or.inl hlt
    · rcases (hlater g hg).lt_or_eq with hage | hage
      · exact Or.inl hage
      · exact Or.inr ⟨hage, hlt⟩

/-- A hub that is only known by its name and age. -/
def hubAt (name : String) (created : Int) : CaptureHub :=
  ⟨lit name, created, lit ":9443", none, false⟩

theorem authoritativeHub_later :
    authoritativeHub [hubAt "a" 8, hubAt "main" 7] = authoritativeHub [hubAt "main" 7] :=
  (authoritativeHub_iff [hubAt "main" 7] (hubAt "a" 8) (by decide) (by decide) (.refl _)).mpr
    (by decide)

/-- **A hub of the same second with a smaller name takes over.** -/
theorem authoritativeHub_same_second : authoritativeHub [hubAt "main" 7] = some (hubAt "main" 7)
    ∧ (hubAt "main" 7).created ≤ (hubAt "a" 7).created
    ∧ authoritativeHub [hubAt "main" 7, hubAt "a" 7] = some (hubAt "a" 7) := by
  decide

/-! ## The server -/

/-- The data of a secret. A nil map is `none`. -/
abbrev SecretData := Option (List (Str × Str))

/-- `secretData[key]`. -/
def SecretData.get (data : SecretData) (key : Str) : Option Str := (data.getD []).lookup key

def tlsCertKey : Str := lit "tls.crt"

def tlsKeyKey : Str := lit "tls.key"

def tlsCAKey : Str := lit "ca.crt"

/-- What the packages for certificates and hashes do. -/
structure Crypto (C P : Type) where
  /-- `tls.X509KeyPair`. -/
  keyPair : Str → Str → Except Error C
  /-- `pool.AppendCertsFromPEM` on an empty pool. -/
  pool : Str → Option P
  sha256 : Str → Str

/-- `tls.Config`, as far as it varies. -/
structure TLSConfig (C P : Type) where
  certificate : C
  clientCAs : Option P
deriving DecidableEq, Repr

inductive TLSError where
  | missing (key : Str)
  | parse (err : Error)
  | mTLSRequires (key : Str)
  | noCertificates (key : Str)
deriving DecidableEq, Repr

/-- The errors of `ensureServer`, with the data of their messages. -/
inductive ServerError where
  | loadSecret (key : Str) (err : Error)
  | rotate (secret : Str) (err : TLSError)
  | secret (secret : Str) (err : TLSError)
deriving DecidableEq, Repr

section

variable {C P : Type} (crypto : Crypto C P)

def buildServerTLSConfig (data : SecretData)
    (requireClientCert : Bool) : Except TLSError (TLSConfig C P) :=
  match data.get tlsCertKey with
  | none => .error (.missing tlsCertKey)
  | some certPEM =>
      match data.get tlsKeyKey with
      | none => .error (.missing tlsKeyKey)
      | some keyPEM =>
          match crypto.keyPair certPEM keyPEM with
          | .error err => .error (.parse err)
          | .ok cert =>
              if requireClientCert then
                match data.get tlsCAKey with
                | none => .error (.mTLSRequires tlsCAKey)
                | some caPEM =>
                    match crypto.pool caPEM with
                    | none => .error (.noCertificates tlsCAKey)
                    | some pool => .ok ⟨cert, some pool⟩
              else .ok ⟨cert, none⟩

/-- `hashTLSData`, without the rendering in hexadecimal digits. -/
def hashTLSData (data : SecretData) : Str :=
  match data with
  | none => []
  | some _ => crypto.sha256
      ([tlsCertKey, tlsKeyKey, tlsCAKey].flatMap fun key => key ++ [0]
        ++ (data.get key).getD [] ++ [0])

end

/-- A running server. `secure` is whether it has TLS, in which case every handshake reads the
reconciler's `dynamicTLS`. -/
structure GRPCServer where
  address : Str
  registry : Server
  secure : Bool

/-- `CaptureHubReconciler`. `tlsSecret` is empty for a server without TLS. -/
structure HubReconciler (C P : Type) where
  directiveBufferSize : Int
  server : Option GRPCServer
  tlsSecret : Str
  tlsMTLS : Bool
  tlsDataHash : Str
  dynamicTLS : Option (TLSConfig C P)

/-- What `ensureServer` finds around it: the secrets of the cluster and `POD_NAMESPACE`. -/
structure HubEnv where
  secret : (ns name : Str) → Except Error SecretData
  podNamespace : Str

def hubSecretNamespace (env : HubEnv) (ref : SecretRef) : Str :=
  if (ref.ns.getD []) ≠ [] then ref.ns.getD []
  else if env.podNamespace ≠ [] then env.podNamespace
  else lit "default"

/-- The data and the name of the secret of a hub. -/
def loadTLSSecret (env : HubEnv) (hub : CaptureHub) : Except ServerError (SecretData × Str) :=
  match hub.tls with
  | none => .ok (none, [])
  | some ref =>
      let ns := hubSecretNamespace env ref
      let key := ns ++ lit "/" ++ ref.name
      match env.secret ns ref.name with
      | .error err => .error (.loadSecret key err)
      | .ok data => .ok (data, key)

def listenAddress (hub : CaptureHub) : Str :=
  if hub.grpcAddress = [] then lit ":9443" else hub.grpcAddress

namespace HubReconciler

variable {C P : Type} (crypto : Crypto C P) (env : HubEnv)

/-- Whether a server is running, and where it listens and how is what the hub asks for. -/
def unchanged (r : HubReconciler C P) (hub : CaptureHub) (tlsSecret : Str) : Bool :=
  r.server.any (·.address == listenAddress hub) && r.tlsSecret == tlsSecret && r.tlsMTLS == hub.mtls

/-- The server stopped, as on a change of its configuration and in `stopServer`. -/
def stopServer (r : HubReconciler C P) : HubReconciler C P := { r with server := none }

/-- A new server, which knows no spokes. -/
def startServer (r : HubReconciler C P) (hub : CaptureHub) (data : SecretData) (tlsSecret : Str)
    (tls : Option (TLSConfig C P)) : HubReconciler C P :=
  { r with
    server := some ⟨listenAddress hub, Server.new.setDirectiveBufferSize r.directiveBufferSize,
      tls.isSome⟩
    tlsSecret := tlsSecret
    tlsMTLS := hub.mtls
    tlsDataHash := hashTLSData crypto data
    dynamicTLS := tls }

def ensureServer (r : HubReconciler C P)
    (hub : CaptureHub) : Except ServerError Unit × HubReconciler C P :=
  match loadTLSSecret env hub with
  | .error err => (.error err, r)
  | .ok (data, tlsSecret) =>
      if r.unchanged hub tlsSecret then
        if r.dynamicTLS.isSome && hashTLSData crypto data != r.tlsDataHash then
          match buildServerTLSConfig crypto data hub.mtls with
          | .error err => (.error (.rotate tlsSecret err), r)
          | .ok cfg =>
              (.ok (), { r with dynamicTLS := some cfg, tlsDataHash := hashTLSData crypto data })
        else (.ok (), r)
      else
        -- the old server is gone before the new one is known to be possible
        let stopped := r.stopServer
        if data.isSome then
          match buildServerTLSConfig crypto data hub.mtls with
          | .error err => (.error (.secret tlsSecret err), stopped)
          | .ok cfg => (.ok (), stopped.startServer crypto hub data tlsSecret (some cfg))
        else (.ok (), stopped.startServer crypto hub data tlsSecret none)

/-- The call stops a running server to start another one, and the data of the secret make no
configuration for it. -/
def StopsForBadSecret (r : HubReconciler C P) (hub : CaptureHub) : Prop :=
  r.server.isSome = true ∧ ∃ data tlsSecret, loadTLSSecret env hub = .ok (data, tlsSecret)
    ∧ r.unchanged hub tlsSecret = false ∧ data.isSome = true
    ∧ ∃ err, buildServerTLSConfig crypto data hub.mtls = .error err

theorem stopServer_eq_self_iff (r : HubReconciler C P) : r.stopServer = r ↔ r.server = none := by
  constructor
  · intro h
    rw [← h]
    rfl
  · intro h
    rw [stopServer, ← h]

/-- **An error leaves the server, its registry, its address and its certificates as they were,
exactly if it is not found after the server was stopped.** -/
theorem ensureServer_harmless_iff (r : HubReconciler C P) (hub : CaptureHub) :
    (∀ err r', r.ensureServer crypto env hub = (.error err, r') → r' = r)
      ↔ ¬ r.StopsForBadSecret crypto env hub := by
  unfold StopsForBadSecret ensureServer
  cases hload : loadTLSSecret env hub with
  | error err =>
      refine iff_of_true (fun e r' h => ?_) ?_
      · cases h
        rfl
      · rintro ⟨-, data, tlsSecret, h, -⟩
        cases h
  | ok x =>
      obtain ⟨data, tlsSecret⟩ := x
      dsimp only
      cases hsame : r.unchanged hub tlsSecret with
      | true =>
          -- the same server goes on, with the certificates it has if the new ones are bad
          refine iff_of_true (fun e r' h => ?_) ?_
          · rw [if_pos rfl] at h
            split at h
            · split at h
              · cases h
                rfl
              · cases h
            · cases h
          · rintro ⟨-, data', tlsSecret', h, hne, -⟩
            cases h
            rw [hsame] at hne
            cases hne
      | false =>
          rw [if_neg Bool.false_ne_true]
          cases hdata : data.isSome with
          | false =>
              refine iff_of_true (fun e r' h => ?_) ?_
              · rw [if_neg Bool.false_ne_true] at h
                cases h
              · rintro ⟨-, data', tlsSecret', h, -, hsome, -⟩
                cases h
                rw [hdata] at hsome
                cases hsome
          | true =>
              rw [if_pos rfl]
              cases hbuild : buildServerTLSConfig crypto data hub.mtls with
              | ok cfg =>
                  refine iff_of_true (fun e r' h => ?_) ?_
                  · cases h
                  · rintro ⟨-, data', tlsSecret', h, -, -, err, herr⟩
                    cases h
                    rw [hbuild] at herr
                    cases herr
              | error err =>
                  have hstop : (∀ e r', (Except.error (.secret tlsSecret err), r.stopServer)
                      = ((.error e, r') : Except ServerError Unit × HubReconciler C P) → r' = r)
                      ↔ r.server = none := by
                    rw [← stopServer_eq_self_iff]
                    constructor
                    · exact fun h => h _ _ rfl
                    · intro h e r' heq
                      cases heq
                      exact h
                  rw [hstop]
                  constructor
                  · intro hnone h
                    rw [hnone] at h
                    cases h.1
                  · intro h
                    by_contra hsome
                    exact h ⟨Option.isSome_iff_ne_none.mpr hsome, data, tlsSecret, rfl, hsame,
                      hdata, err, hbuild⟩

/-! ### A hub that asks for TLS -/

/-- Every certificate parses. -/
def laxCrypto : Crypto Unit Unit := ⟨fun _ _ => .ok (), fun _ => some (), id⟩

/-- A server without TLS at which one spoke is registered. -/
def plainServer : HubReconciler Unit Unit :=
  ⟨0, some ⟨lit ":9443", (Server.new.registerSpoke none 0 ⟨lit "east", lit "east", [], lit "a"⟩).2,
    false⟩, [], false, [], none⟩

/-- The secret exists and has a key without a certificate. -/
def keyOnly : HubEnv := ⟨fun _ _ => .ok (some [(tlsKeyKey, lit "key")]), []⟩

/-- **A secret without a certificate costs the running server**, and with it the spoke. -/
theorem bad_secret_stops_server : ∃ r',
    plainServer.ensureServer laxCrypto keyOnly ⟨lit "main", 7, lit ":9443",
      some ⟨lit "hub-tls", none⟩, false⟩
        = (.error (.secret (lit "default/hub-tls") (.missing tlsCertKey)), r')
      ∧ (plainServer.server.map fun srv => (srv.address, srv.registry.registered.map Prod.fst))
        = some (lit ":9443", [lit "east"])
      ∧ r'.server = none :=
  ⟨_, rfl, by decide +kernel, rfl⟩

end HubReconciler

end Kapture.Hub
