import Kapture.Go.Fold
import Kapture.Go.Header
import Kapture.Storage.Request

/-!
# The capture agent

The agent serves mirrored requests and hands each to a `CaptureHandler`, which drops
what its filter does not match, cuts the body at a limit, redacts credentials and
writes the rest. Of the request target it keeps the decoded path; the query goes into
the metadata.
-/

namespace Kapture.Agent

open Go Header Storage

structure HeaderFilter where
  name : Str
  value : Str
deriving DecidableEq, Repr

/-- `RequestFilter`, without its source of random numbers. -/
structure RequestFilter where
  pathPrefix : Str
  headers : List HeaderFilter
  percentage : Int64
deriving DecidableEq, Repr

def newRequestFilter (pathPrefix : Str) (headers : List HeaderFilter) (percentage : Int64) :
    RequestFilter :=
  ⟨pathPrefix, headers, if percentage > 100 then 100 else if percentage < 0 then 0 else percentage⟩

/-- A body as it is read: its bytes, and the error after them. -/
structure Body where
  data : List UInt8
  err : Option Error
deriving DecidableEq, Repr

structure CapturedHTTPRequest where
  method : Str
  path : Str
  headers : List (Str × List Str)
  body : Body
  protocol : Str
  metadata : List (Str × Str)
deriving DecidableEq, Repr

def headerMatches (headers : List (Str × List Str)) (hf : HeaderFilter) : Bool :=
  headers.any fun h => h.1.equalFold hf.name && h.2.contains hf.value

/-- `RequestFilter.Matches`, with the number that the sampling draws. -/
def RequestFilter.matches (f : Option RequestFilter) (sample : Int64) (req : CapturedHTTPRequest) :
    Bool :=
  match f with
  | none => true
  | some f =>
      if f.pathPrefix ≠ [] && !req.path.hasPrefix f.pathPrefix then false
      else if !(f.headers.all (headerMatches req.headers)) then false
      else if f.percentage ≥ 100 then true
      else if f.percentage ≤ 0 then false
      else sample < f.percentage

def redactedValue : Str := lit "[REDACTED]"

def defaultRedactHeaders : List Str :=
  [lit "Authorization", lit "Proxy-Authorization", lit "Cookie", lit "Set-Cookie", lit "X-Api-Key",
    lit "X-Auth-Token"]

/-- `NewHeaderRedactor`: the canonical names. -/
def newHeaderRedactor (names : List Str) : List Str :=
  ((names.map Str.trimSpace).filter (· ≠ [])).map canonicalHeaderKey

/-- `HeaderRedactor.Redact`. -/
def redact (names : List Str) (headers : List (Str × List Str)) : List (Str × List Str) :=
  headers.map fun h =>
    if names.contains (canonicalHeaderKey h.1) then (h.1, h.2.map fun _ => redactedValue) else h

structure CaptureHandlerConfig where
  maxBodyBytes : Int64
  filter : Option RequestFilter
  redactHeaders : Option (List Str)
deriving DecidableEq, Repr

/-- `CaptureHandler`, without its writer and counters. -/
structure CaptureHandler where
  maxBodyBytes : Int64
  filter : Option RequestFilter
  redactor : List Str
deriving DecidableEq, Repr

def newCaptureHandler (cfg : CaptureHandlerConfig) : CaptureHandler where
  maxBodyBytes := if cfg.maxBodyBytes ≤ 0 then 1048576 else cfg.maxBodyBytes
  filter := cfg.filter
  redactor := newHeaderRedactor (cfg.redactHeaders.getD defaultRedactHeaders)

/-- `io.ReadAll(io.LimitReader(body, n))`. -/
def readLimited (n : Int64) (body : Body) : Except Error (List UInt8) :=
  if n ≤ 0 then .ok []
  else if n.toNatClampNeg ≤ body.data.length then .ok (body.data.take n.toNatClampNeg)
  else
    match body.err with
    | some err => .error err
    | none => .ok body.data

/-- The record of a request, from what was read of its body. -/
def capturedRequest (h : CaptureHandler) (id : Str) (now : Time) (req : CapturedHTTPRequest)
    (read : List UInt8) : CapturedRequest :=
  let truncated := (read.length : Int) > h.maxBodyBytes.toInt
  let body := if truncated then read.take h.maxBodyBytes.toNatClampNeg else read
  { id := id
    timestamp := now
    method := req.method
    path := req.path
    headers := redact h.redactor req.headers
    body := body
    contentLength := body.length
    protocol := req.protocol
    metadata := if truncated then req.metadata ++ [(lit "bodyTruncated", lit "true")]
      else req.metadata }

/-- `CaptureHandler.Handle`, up to the write: an error, nothing for a request that is
filtered, or the record. -/
def CaptureHandler.handle (h : CaptureHandler) (id : Str) (now : Time) (sample : Int64)
    (req : CapturedHTTPRequest) : Except Error (Option CapturedRequest) :=
  if !RequestFilter.matches h.filter sample req then .ok none
  else
    match readLimited (h.maxBodyBytes + 1) req.body with
    | .error err => .error err
    | .ok read => .ok (some (capturedRequest h id now req read))

/-- What `Handle` needs of a request to go on without an error: it is filtered, or its body can be
read, as far as the limit lets it be read. -/
def CaptureHandler.Readable (h : CaptureHandler) (sample : Int64)
    (req : CapturedHTTPRequest) : Prop :=
  RequestFilter.matches h.filter sample req = false
    ∨ req.body.err = none ∨ (h.maxBodyBytes + 1).toInt ≤ req.body.data.length
deriving Decidable

theorem readLimited_ok_iff {n : Int64} {body : Body} :
    (∃ read, readLimited n body = .ok read) ↔ body.err = none ∨ n.toInt ≤ body.data.length := by
  have hneg : n ≤ 0 ↔ n.toInt ≤ 0 := Int64.le_iff_toInt_le
  have hclamp : n.toNatClampNeg = n.toInt.toNat := rfl
  unfold readLimited
  by_cases hle : n.toInt ≤ body.data.length
  · refine iff_of_true ?_ (Or.inr hle)
    by_cases hn : n ≤ 0
    · exact ⟨_, if_pos hn⟩
    · rw [if_neg hn, if_pos (show n.toNatClampNeg ≤ body.data.length by omega)]
      exact ⟨_, rfl⟩
  · have hn : ¬ n ≤ 0 := by rw [hneg]; omega
    rw [if_neg hn, if_neg (show ¬ n.toNatClampNeg ≤ body.data.length by omega)]
    cases herr : body.err with
    | none => exact iff_of_true ⟨_, rfl⟩ (Or.inl rfl)
    | some err => simp [hle]

/-- **`Handle` fails on a request exactly if the filter takes it and its body breaks off before
the limit.** -/
theorem CaptureHandler.handle_ok_iff {h : CaptureHandler} {id : Str} {now : Time} {sample : Int64}
    {req : CapturedHTTPRequest} :
    (∃ captured, h.handle id now sample req = .ok captured) ↔ h.Readable sample req := by
  unfold handle Readable
  cases hf : RequestFilter.matches h.filter sample req with
  | false => exact iff_of_true ⟨none, rfl⟩ (Or.inl rfl)
  | true =>
      rw [← readLimited_ok_iff]
      cases hr : readLimited (h.maxBodyBytes + 1) req.body with
      | error err => simp
      | ok read => simp

/-- An `http.Request` as the agent's server passes it on. -/
structure HTTPRequest where
  method : Str
  /-- `r.URL.Path`, decoded. -/
  path : Str
  rawQuery : Str
  host : Str
  remoteAddr : Str
  headers : List (Str × List Str)
  body : Body
deriving DecidableEq, Repr

/-- `AgentServer.handleHTTP`. -/
def handleHTTP (h : CaptureHandler) (id : Str) (now : Time) (sample : Int64) (r : HTTPRequest) :
    Except Error (Option CapturedRequest) :=
  h.handle id now sample
    { method := r.method
      path := r.path
      headers := r.headers
      body := r.body
      protocol := lit "HTTP"
      metadata := [(lit "host", r.host), (lit "remoteAddr", r.remoteAddr),
        (lit "query", r.rawQuery)] }

/-- A call of a gRPC method that the agent does not know, which is any. -/
structure GRPCStream where
  /-- `grpc.MethodFromServerStream`. -/
  fullMethod : Str
  /-- The metadata of the call. -/
  headers : List (Str × List Str)
  /-- What `RecvMsg` returns; at the end of the stream there is no message. -/
  recv : Except Error (Option (List UInt8))

/-- `AgentServer.handleGRPC`. -/
def handleGRPC (h : CaptureHandler) (id : Str) (now : Time) (sample : Int64) (stream : GRPCStream) :
    Except Error (Option CapturedRequest) :=
  match stream.recv with
  | .error err => .error err
  | .ok msg => h.handle id now sample
      { method := lit "POST"
        path := stream.fullMethod
        headers := stream.headers
        body := ⟨msg.getD [], none⟩
        protocol := lit "gRPC"
        metadata := [(lit "grpcMethod", stream.fullMethod)] }

theorem toInt_succ {limit : Int64} (h : limit ≠ Int64.maxValue) :
    (limit + 1).toInt = limit.toInt + 1 := by
  have hlt : limit.toInt < 2 ^ 63 := Int64.toInt_lt limit
  have hge : -2 ^ 63 ≤ limit.toInt := Int64.le_toInt limit
  have hne : limit.toInt ≠ Int64.maxValue.toInt := fun he => h (Int64.toInt_inj.mp he)
  have hm : Int64.maxValue.toInt = 2 ^ 63 - 1 := by decide
  rw [Int64.toInt_add, Int64.toInt_one]
  exact Int.bmod_eq_of_le (by omega) (by omega)

/-- The limit of the reader is negative, and it reads nothing. -/
theorem readLimited_max (body : Body) : readLimited (Int64.maxValue + 1) body = .ok [] := by
  have hneg : Int64.maxValue + 1 ≤ 0 := by decide
  rw [readLimited, if_pos hneg]

theorem readLimited_succ {limit : Int64} {body : Body} {read : List UInt8}
    (hlen : (body.data.length : Int) ≤ limit.toInt)
    (h : readLimited (limit + 1) body = .ok read) :
    read = if limit = Int64.maxValue then [] else body.data := by
  by_cases hmax : limit = Int64.maxValue
  · subst hmax
    rw [readLimited_max] at h
    cases h
    rfl
  · have hsucc := toInt_succ hmax
    have hpos : ¬ limit + 1 ≤ 0 := by
      rw [Int64.le_iff_toInt_le, hsucc, Int64.toInt_zero]
      omega
    have hbig : ¬ (limit + 1).toNatClampNeg ≤ body.data.length := by
      rw [Int64.toNatClampNeg, hsucc]
      omega
    rw [readLimited, if_neg hpos, if_neg hbig] at h
    split at h
    · cases h
    · cases h
      rw [if_neg hmax]

/-- **A body within the limit is kept**, unless the limit plus one overflows. -/
theorem handleHTTP_ok {h : CaptureHandler} {id : Str} {now : Time} {sample : Int64}
    {r : HTTPRequest} {req : CapturedRequest}
    (hok : handleHTTP h id now sample r = .ok (some req))
    (hlen : (r.body.data.length : Int) ≤ h.maxBodyBytes.toInt) :
    req.method = r.method ∧ req.path = r.path
      ∧ req.body = if h.maxBodyBytes = Int64.maxValue then [] else r.body.data := by
  unfold handleHTTP CaptureHandler.handle at hok
  split at hok
  · cases hok
  · split at hok
    · cases hok
    · rename_i read hread
      have hr := readLimited_succ hlen hread
      have hfit : ¬ (read.length : Int) > h.maxBodyBytes.toInt := by
        rw [hr]
        split
        · simp only [List.length_nil]
          omega
        · omega
      cases hok
      simp only [capturedRequest, hfit, if_false]
      exact ⟨trivial, trivial, hr⟩

end Kapture.Agent
