import Kapture.Go.Header
import Kapture.Go.Url
import Kapture.Go.Utf8
import Kapture.Storage.Request

/-!
# The HTTP sender

`HTTPSender.Send` appends the stored path to the base URL of the target, parses the
result as a URL and issues a request to it. The query of the captured request, which
is in the metadata, plays no part.
-/

namespace Kapture.Replay

open Go Header Url Storage

/-- `HTTPSender`, without its client. -/
structure HTTPSender where
  baseURL : Str
  overrideHeaders : List (Str × Str)
deriving DecidableEq, Repr

def newHTTPSender (targetBaseURL : Str) (overrideHeaders : List (Str × Str)) :
    Except Error HTTPSender :=
  if targetBaseURL = [] then .error (.new "target base URL is required")
  else .ok ⟨targetBaseURL.trimRight, overrideHeaders⟩

def hopByHopHeaders : List Str :=
  [lit "Connection", lit "Keep-Alive", lit "Proxy-Connection", lit "Transfer-Encoding", lit "TE",
    lit "Trailer", lit "Upgrade", lit "Host", lit "Content-Length"]

def isHopByHopHeader (name : Str) : Bool := hopByHopHeaders.contains (canonicalHeaderKey name)

/-- The headers of the request that is issued. -/
def sentHeaders (s : HTTPSender) (req : CapturedRequest) : List (Str × List Str) :=
  let captured := (req.headers.filter fun h => !isHopByHopHeader h.1).foldl
    (fun hs h => h.2.foldl (fun hs v => add hs h.1 v) hs) []
  let overridden := s.overrideHeaders.foldl (fun hs h => set hs h.1 h.2) captured
  set (set overridden (lit "X-Kapture-Replay") (lit "true")) (lit "X-Kapture-Request-ID") req.id

/-- A request as it is handed to the client. -/
structure Issued where
  method : Str
  url : URL
  headers : List (Str × List Str)
  body : List UInt8
deriving DecidableEq, Repr

/-- `RequestURI` without the query: the path on the wire. -/
def Issued.wirePath (i : Issued) : Str :=
  if escapedPath i.url.text i.url.path = [] then lit "/" else escapedPath i.url.text i.url.path

/-- The method of `http.NewRequest`. -/
def requestMethod (method : Str) : Str := if method = [] then lit "GET" else method

/-- `HTTPSender.Send`, up to the call of the client. -/
def HTTPSender.send (s : HTTPSender) (req : CapturedRequest) : Except Error Issued :=
  if !(requestMethod req.method).all isTokenByte then
    .error ((Err.new ("net/http: invalid method " ++ req.method.quote)).wrap "create http request")
  else
    match parse (s.baseURL ++ req.path) with
    | none =>
        .error ((Err.new ("parse " ++ (s.baseURL ++ req.path).quote)).wrap "create http request")
    | some url => .ok ⟨requestMethod req.method, url, sentHeaders s req, req.body⟩

/-- A record after it was stored and read back: JSON keeps what is UTF-8. -/
def restored (req : CapturedRequest) : CapturedRequest where
  id := jsonText req.id
  timestamp := req.timestamp
  method := jsonText req.method
  path := jsonText req.path
  headers := req.headers.map fun h => (jsonText h.1, h.2.map jsonText)
  body := req.body
  contentLength := req.contentLength
  protocol := jsonText req.protocol
  metadata := req.metadata.map fun m => (jsonText m.1, jsonText m.2)

theorem wirePath_eq {i : Issued} (h : unescape i.url.text = some i.url.path)
    (hne : i.url.path ≠ []) : i.wirePath = escapedPath i.url.text i.url.path := by
  refine if_neg fun hnil => hne ?_
  have := unescape_escapedPath h
  rw [hnil] at this
  exact (Option.some.inj this).symm

end Kapture.Replay
