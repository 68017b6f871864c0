import Kapture.Agent.Capture
import Kapture.Replay.Sender

/-!
# The request target from capture to replay

The agent keeps the decoded path of a request target, storage keeps it if it is UTF-8,
and the sender parses it as the end of a URL. So the target survives only if decoding
lost nothing, which means no escaped slash, and if what it decoded to reads the same
as URL text: no `%`, `?`, `#` or control character. The query never survives.

The model starts behind `http.ServeMux`, which redirects a request whose path is not clean:
what is mirrored here is a request that it has passed on.
-/

namespace Kapture.Agent

open Go Header Url Storage Replay

/-- A request as it arrives: its target is still encoded. -/
structure Mirrored where
  method : Str
  /-- The path as it is on the wire. -/
  rawPath : Str
  path : Str
  rawQuery : Str
  host : Str
  remoteAddr : Str
  headers : List (Str × List Str)
  body : List UInt8
  /-- A server accepts only methods that are tokens, -/
  token : method ≠ [] ∧ method.all isTokenByte = true
  /-- and paths that decode. -/
  decoded : unescape rawPath = some path

/-- The request as the server passes it on. -/
def Mirrored.request (m : Mirrored) : HTTPRequest :=
  ⟨m.method, m.path, m.rawQuery, m.host, m.remoteAddr, m.headers, ⟨m.body, none⟩⟩

/-- The request that was issued has the target of the mirrored one. -/
def SameTarget (base : Base) (m : Mirrored) (res : Except Error Issued) : Prop :=
  ∃ i, res = .ok i ∧ i.method = m.method ∧ i.url.scheme = base.scheme ∧ i.url.host = base.host
    ∧ segments i.wirePath = segments m.rawPath ∧ i.url.rawQuery = m.rawQuery ∧ i.body = m.body

/-- The targets that survive. -/
structure Survives (h : CaptureHandler) (m : Mirrored) : Prop where
  rooted : m.path.head? = some Str.slash
  utf8 : ValidUtf8 m.path
  /-- Nothing in the decoded path means something in a URL. -/
  plain : percent ∉ m.path ∧ 63 ∉ m.path ∧ 35 ∉ m.path
  printable : containsCTL m.path = false
  /-- No segment holds a slash. -/
  segments : Url.segments m.rawPath = some (Str.split m.path)
  query : m.rawQuery = []
  /-- A limit at the end of the range of `int64` drops every body. -/
  body : h.maxBodyBytes = Int64.maxValue → m.body = []

variable {h : CaptureHandler} {m : Mirrored} {base : Base} {sender : HTTPSender}
  {req : CapturedRequest} {e : Str}

/-! ## What the sender makes of a path -/

theorem cut_eq_self {c : UInt8} {s : Str} (h : c ∉ s) : (cut c s).1 = s := by
  refine List.takeWhile_eq_self_iff.mpr fun b hb => ?_
  rw [bne_iff_ne]
  rintro rfl
  exact h hb

theorem cut_snd_eq_nil {c : UInt8} {s : Str} (h : c ∉ s) : (cut c s).2 = [] := by
  have hd : s.dropWhile (· != c) = [] := by
    refine List.dropWhile_eq_nil_iff.mpr fun b hb => ?_
    rw [bne_iff_ne]
    rintro rfl
    exact h hb
  rw [cut, hd]
  rfl

theorem notMem_cut (c : UInt8) (s : Str) : c ∉ (cut c s).1 := by
  intro h
  simpa using List.mem_takeWhile_imp h

theorem count_jsonText {c : UInt8} (hc : c < 0x80) (s : Str) :
    (jsonText s).count c = s.count c := by
  refine countP_jsonText (fun b hb => ?_) s
  rw [beq_eq_false_iff_ne]
  rintro rfl
  exact hb hc

/-- **A path that comes out as it went in** is UTF-8 and plain. The argument counts
bytes: decoding keeps the number of percent signs only if each escape stands for one,
and then it brings in no `?`, no `#` and no byte that was replaced in storage. -/
theorem plain_of_pathText {d : Str} (h : unescape (pathText (jsonText d)) = some d) :
    ValidUtf8 d ∧ percent ∉ d ∧ 63 ∉ d ∧ 35 ∉ d := by
  have hsub : (pathText (jsonText d)).Sublist (jsonText d) :=
    (List.takeWhile_prefix _).sublist.trans (List.takeWhile_prefix _).sublist
  obtain ⟨hlen, hcount⟩ := countP_unescape h
  obtain ⟨_, hq⟩ := hcount.resolve_left fun hlt => by
    have hle := hsub.count_le percent
    rw [count_jsonText (by decide)] at hle
    omega
  have hno : ∀ c : UInt8, c < 0x80 → c ≠ 50 → c ≠ 53 → c ∉ pathText (jsonText d) →
      c ∉ d ∧ c ∉ jsonText d := by
    intro c hlow h2 h5 hc
    have hd := hq (· == c) (by simpa using Ne.symm h2) (by simpa using Ne.symm h5)
    have hzero : d.count c = 0 := hd.trans (List.count_eq_zero.mpr hc)
    refine ⟨List.count_eq_zero.mp hzero, List.count_eq_zero.mp ?_⟩
    rw [count_jsonText hlow, hzero]
  obtain ⟨h63, h63'⟩ := hno 63 (by decide) (by decide) (by decide) (notMem_cut 63 _)
  obtain ⟨h35, h35'⟩ := hno 35 (by decide) (by decide) (by decide) fun hm =>
    notMem_cut 35 _ ((List.takeWhile_prefix _).sublist.mem hm)
  -- nothing was cut off
  have hpath : pathText (jsonText d) = jsonText d := by
    rw [pathText, cut_eq_self h35', cut_eq_self h63']
  rw [hpath] at hlen hq
  have hbad := hq isHigh (by decide) (by decide)
  rw [countP_isHigh_jsonText] at hbad
  have hvalid : ValidUtf8 d := by
    unfold ValidUtf8
    omega
  rw [jsonText_eq_self hvalid] at hlen
  exact ⟨hvalid, List.count_eq_zero.mp (by omega), h63, h35⟩

theorem head_jsonText {s : Str} (h : s.head? = some Str.slash) :
    (jsonText s).head? = some Str.slash := by
  cases s with
  | nil => cases h
  | cons c rest =>
      obtain rfl : c = Str.slash := Option.some.inj h
      have hlen : runeLen (Str.slash :: rest) = 1 := by simp [runeLen, Str.slash]
      rw [jsonText, coerceFrom, hlen]
      rfl

theorem send_ok {i : Issued} (h : sender.send req = .ok i) :
    parse (sender.baseURL ++ req.path) = some i.url ∧ i.body = req.body
      ∧ i.method = requestMethod req.method := by
  unfold HTTPSender.send at h
  split at h
  · cases h
  · split at h
    · cases h
    · rename_i url hurl
      cases h
      exact ⟨hurl, rfl, rfl⟩

/-- The text of the path in a URL is empty or starts with a slash, and decodes. -/
theorem parse_some {raw : Str} {url : URL} (h : parse raw = some url) :
    unescape url.text = some url.path ∧ (url.text = [] ∨ url.text.head? = some Str.slash) := by
  unfold parse at h
  dsimp only at h
  split at h
  · cases h
  · split at h
    · cases h
    · split at h
      · cases h
      · obtain ⟨path, hpath, rfl⟩ := Option.map_eq_some_iff.mp h
        refine ⟨hpath, ?_⟩
        cases hd : ((cut 63 (cut 58 (cut 35 raw).1).2).1.drop 2).dropWhile (· != Str.slash) with
        | nil => exact Or.inl rfl
        | cons c rest =>
            have hc := List.head?_dropWhile_not (· != Str.slash)
              ((cut 63 (cut 58 (cut 35 raw).1).2).1.drop 2)
            rw [hd] at hc
            refine Or.inr ?_
            simpa using hc

/-- **The path on the wire** is the path of the URL, or the root if there is none. -/
theorem unescape_wirePath {raw : Str} {i : Issued} (h : parse raw = some i.url) :
    i.url.path = [] ∧ i.wirePath = lit "/"
      ∨ i.url.path.head? = some Str.slash ∧ i.wirePath = escapedPath i.url.text i.url.path := by
  obtain ⟨hun, hnil | hhead⟩ := parse_some h
  · rw [hnil] at hun
    have hpath := (Option.some.inj hun).symm
    refine Or.inl ⟨hpath, ?_⟩
    simp [Issued.wirePath, hnil, hpath, escapedPath, escape, lit]
  · have hpath := head_of_unescape hun hhead
    refine Or.inr ⟨hpath, wirePath_eq hun ?_⟩
    rintro hnil
    rw [hnil] at hpath
    cases hpath

/-- Equal segments are equal decoded paths. -/
theorem unescape_eq_of_segments {p q d : Str} (hq : unescape q = some d)
    (h : segments p = segments q) {w : Str} (hp : unescape p = some w) : w = d := by
  obtain ⟨as, has, _, rfl⟩ := segments_of_unescape hp
  obtain ⟨bs, hbs, _, rfl⟩ := segments_of_unescape hq
  rw [has, hbs] at h
  rw [Option.some.inj h]

theorem jsonText_method (m : Mirrored) : jsonText m.method = m.method := by
  refine jsonText_eq_self (validUtf8_of_ascii fun b hb => ?_)
  have htok := List.all_eq_true.mp m.token.2 b hb
  have hall : ∀ n : Fin 256, isTokenByte (UInt8.ofNat n) = true → UInt8.ofNat n < 0x80 := by
    decide +kernel
  have := hall ⟨b.toNat, b.toNat_lt⟩
  simp only [UInt8.ofNat_toNat] at this
  exact this htok

/-! ## The target -/

/-- What arrives at the sender. -/
structure Restored (h : CaptureHandler) (m : Mirrored) (req : CapturedRequest) : Prop where
  method : req.method = m.method
  path : req.path = jsonText m.path
  body : req.body = if h.maxBodyBytes = Int64.maxValue then [] else m.body

theorem survives_of_same (hreq : Restored h m req) (hs : sender.baseURL = base.text)
    (hsame : SameTarget base m (sender.send req)) : Survives h m := by
  obtain ⟨i, hsend, hmeth, hscheme, hhost, hseg, hquery, hbody⟩ := hsame
  obtain ⟨hparse, hb, _⟩ := send_ok hsend
  -- the path on the wire starts with a slash, so the captured one does
  have hroot : m.path.head? = some Str.slash := by
    rcases unescape_wirePath hparse with ⟨_, hw⟩ | ⟨hhead, hw⟩
    · rw [← unescape_eq_of_segments m.decoded hseg (by rw [hw]; rfl)]
      rfl
    · rw [← unescape_eq_of_segments m.decoded hseg
        (by rw [hw]; exact unescape_escapedPath (parse_some hparse).1)]
      exact hhead
  have hhead : req.path.head? = some Str.slash := by
    rw [hreq.path]
    exact head_jsonText hroot
  rw [hs, parse_base base (Or.inr hhead)] at hparse
  split at hparse
  · cases hparse
  rename_i hctl
  obtain ⟨path, hpath, hurl⟩ := Option.map_eq_some_iff.mp hparse
  have htext : i.url.text = pathText req.path := by rw [← hurl]
  have hun : unescape i.url.text = some i.url.path := by rw [← hurl]; exact hpath
  have hne : i.url.path ≠ [] := by
    intro hnil
    have := head_of_unescape hun (htext ▸ head_pathText hhead)
    rw [hnil] at this
    cases this
  have hwire := wirePath_eq hun hne
  have heq : i.url.path = m.path := unescape_eq_of_segments m.decoded hseg
    (by rw [hwire]; exact unescape_escapedPath hun)
  rw [heq, htext, hreq.path] at hun
  obtain ⟨hvalid, h37, h63, h35⟩ := plain_of_pathText hun
  have hreqpath : req.path = m.path := hreq.path.trans (jsonText_eq_self hvalid)
  have hcut : (cut 35 m.path).1 = m.path := cut_eq_self h35
  have htext' : i.url.text = m.path := by rw [htext, hreqpath, pathText, hcut, cut_eq_self h63]
  refine ⟨hroot, hvalid, ⟨h37, h63, h35⟩, ?_, ?_, ?_, ?_⟩
  · rw [hreqpath, hcut, Bool.or_eq_true, not_or] at hctl
    simpa using hctl.1
  · rw [← hseg, hwire, htext', heq, segments_escapedPath h37]
  · rw [← hquery, ← hurl]
    simp only [hreqpath, queryText, hcut, cut_snd_eq_nil h63]
  · intro hmax
    rw [← hbody, hb, hreq.body, if_pos hmax]

theorem same_of_survives (hreq : Restored h m req) (hs : sender.baseURL = base.text)
    (hsurv : Survives h m) : SameTarget base m (sender.send req) := by
  obtain ⟨h37, h63, h35⟩ := hsurv.plain
  have hpath : req.path = m.path := hreq.path.trans (jsonText_eq_self hsurv.utf8)
  have hcut : (cut 35 m.path).1 = m.path := cut_eq_self h35
  have htext : pathText m.path = m.path := by rw [pathText, hcut, cut_eq_self h63]
  have hquery : queryText m.path = [] := by rw [queryText, hcut, cut_snd_eq_nil h63]
  have hparse : parse (sender.baseURL ++ req.path)
      = some ⟨base.scheme, base.host, m.path, m.path, []⟩ := by
    rw [hs, hpath, parse_base base (Or.inr hsurv.rooted), hcut, hsurv.printable,
      cut_snd_eq_nil h35, htext, hquery, unescape_eq_self h37]
    rfl
  have hmeth : requestMethod req.method = m.method := by
    rw [hreq.method, requestMethod, if_neg m.token.1]
  have hsend : sender.send req = .ok ⟨m.method, ⟨base.scheme, base.host, m.path, m.path, []⟩,
      sentHeaders sender req, req.body⟩ := by
    simp only [HTTPSender.send, hmeth, m.token.2, hparse]
    rfl
  refine ⟨_, hsend, rfl, rfl, rfl, ?_, hsurv.query.symm, ?_⟩
  · have hne : m.path ≠ [] := by
      rintro hnil
      have := hsurv.rooted
      rw [hnil] at this
      cases this
    rw [wirePath_eq (unescape_eq_self h37) hne, segments_escapedPath h37, hsurv.segments]
  · rw [hreq.body]
    split
    · rename_i hmax
      exact (hsurv.body hmax).symm
    · rfl

/--
**Replay keeps the target of a captured request** if and only if the query is empty,
the decoded path starts with a slash, is UTF-8 and has no `%`, `?`, `#` or control
character, no slash was escaped, and the limit of the agent does not overflow.
-/
theorem replay_keeps_target_iff (cfg : CaptureHandlerConfig) (id : Str) (now : Time)
    (sample : Int64) (m : Mirrored) (req : CapturedRequest) (base : Base) (targetBaseURL : Str)
    (overrideHeaders : List (Str × Str)) (sender : HTTPSender)
    (hreq : handleHTTP (newCaptureHandler cfg) id now sample m.request = .ok (some req))
    (hbody : (m.body.length : Int) ≤ (newCaptureHandler cfg).maxBodyBytes.toInt)
    (hsender : newHTTPSender targetBaseURL overrideHeaders = .ok sender)
    (hbase : targetBaseURL.trimRight = base.text) :
    SameTarget base m (sender.send (restored req)) ↔ Survives (newCaptureHandler cfg) m := by
  obtain ⟨hm, hp, hb⟩ := handleHTTP_ok hreq hbody
  have hrest : Restored (newCaptureHandler cfg) m (restored req) := by
    refine ⟨?_, congrArg jsonText hp, hb⟩
    exact (congrArg jsonText hm).trans (jsonText_method m)
  have hs : sender.baseURL = base.text := by
    unfold newHTTPSender at hsender
    split at hsender
    · cases hsender
    · cases hsender
      exact hbase
  exact ⟨survives_of_same hrest hs, same_of_survives hrest hs⟩

/-- A request for `path`, with a query. -/
def getRequest (rawPath path rawQuery : Str) (h : unescape rawPath = some path) : Mirrored where
  method := lit "GET"
  rawPath := rawPath
  path := path
  rawQuery := rawQuery
  host := lit "shop"
  remoteAddr := lit "10.0.0.7:41000"
  headers := []
  body := []
  token := by decide
  decoded := h

/-- The agent with its defaults. -/
def plainHandler : CaptureHandler := newCaptureHandler ⟨0, none, none⟩

def stagingBase : Base := ⟨lit "http", lit "staging:8080", Or.inl rfl, by decide⟩

/-- What is issued for the record of a request. -/
def replayed (m : Mirrored) : Except Error Issued :=
  match handleHTTP plainHandler (lit "a") 1 0 m.request with
  | .ok (some req) => HTTPSender.send ⟨stagingBase.text, []⟩ (restored req)
  | _ => .error (.new "not captured")

def cartRequest : Mirrored :=
  getRequest (lit "/cart%20items") (lit "/cart items") [] (by decide +kernel)

def cartRecord : CapturedRequest :=
  ⟨lit "a", 1, lit "GET", lit "/cart items", [], [], 0, lit "HTTP",
    [(lit "host", lit "shop"), (lit "remoteAddr", lit "10.0.0.7:41000"), (lit "query", [])]⟩

/-- A path with nothing special in it, and no query. -/
theorem replay_keeps_target_iff_cart :
    SameTarget stagingBase cartRequest
      (HTTPSender.send ⟨stagingBase.text, []⟩ (restored cartRecord)) :=
  (replay_keeps_target_iff ⟨0, none, none⟩ (lit "a") 1 0 cartRequest cartRecord stagingBase
    (lit "http://staging:8080/") [] ⟨stagingBase.text, []⟩ (by decide +kernel) (by decide +kernel)
    (by decide +kernel) (by decide +kernel)).mpr
    ⟨by decide +kernel, by decide +kernel, by decide +kernel, by decide +kernel, by decide +kernel,
      rfl, fun _ => rfl⟩

/-- **What is lost**: the query of `/cart?id=7`, the segments of `/a%2Fb`, which arrives
as `/a/b`, and the whole request for `/100%25`, which is no URL once it is decoded. -/
theorem replay_loses_target :
    ((replayed (getRequest (lit "/cart") (lit "/cart") (lit "id=7")
      (by decide +kernel))).toOption.map
        fun i => i.url.rawQuery) = some []
      ∧ ((replayed (getRequest (lit "/a%2Fb") (lit "/a/b") [] (by decide +kernel))).toOption.map
        fun i => segments i.wirePath) = some (some [[], lit "a", lit "b"])
      ∧ segments (lit "/a%2Fb") = some [[], lit "a/b"]
      ∧ (replayed (getRequest (lit "/100%25") (lit "/100%") [] (by decide +kernel))).toOption
        = none := by
  decide +kernel

end Kapture.Agent
