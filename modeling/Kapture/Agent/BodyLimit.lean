import Kapture.Agent.Capture

/-!
# The limit on bodies

The handler reads one byte more than it may keep, to see whether there is one. The limit is
an `int64`, and so is the limit plus one: **with the greatest limit the sum is negative, and
nothing is read of any body**. Below it the arithmetic is right, and what is kept is the
beginning of the body, up to the limit.
-/

namespace Kapture.Agent

open Go Storage

/-- A mirrored request. -/
inductive Arrival where
  | http (r : HTTPRequest)
  | grpc (stream : GRPCStream)

namespace Arrival

/-- The body of a request, if it reads without error. -/
def body : Arrival → Option (List UInt8)
  | .http r => if r.body.err = none then some r.body.data else none
  | .grpc stream => stream.recv.toOption.map (·.getD [])

/-- The request as it comes to `Handle`. -/
def request : Arrival → CapturedHTTPRequest
  | .http r =>
      { method := r.method
        path := r.path
        headers := r.headers
        body := r.body
        protocol := lit "HTTP"
        metadata := [(lit "host", r.host), (lit "remoteAddr", r.remoteAddr),
          (lit "query", r.rawQuery)] }
  | .grpc stream =>
      { method := lit "POST"
        path := stream.fullMethod
        headers := stream.headers
        body := ⟨(stream.recv.toOption.bind id).getD [], none⟩
        protocol := lit "gRPC"
        metadata := [(lit "grpcMethod", stream.fullMethod)] }

end Arrival

/-- What the sinks make of a mirrored request. -/
def capture (h : CaptureHandler) (id : Str) (now : Time) (sample : Int64) :
    Arrival → Except Error (Option CapturedRequest)
  | .http r => handleHTTP h id now sample r
  | .grpc stream => handleGRPC h id now sample stream

/-- What is recorded of a body `b` under a limit. -/
structure BodyKept (limit : Int64) (b : List UInt8) (req : CapturedRequest) : Prop where
  body : req.body = b.take (min limit.toNatClampNeg b.length)
  length : req.contentLength = req.body.length
  truncated : (lit "bodyTruncated", lit "true") ∈ req.metadata ↔ limit.toInt < b.length

theorem capture_eq (h : CaptureHandler) (id : Str) (now : Time) (sample : Int64) {a : Arrival}
    {b : List UInt8} (hb : a.body = some b) :
    capture h id now sample a = h.handle id now sample a.request
      ∧ a.request.body = ⟨b, none⟩ := by
  cases a with
  | http r =>
      simp only [Arrival.body] at hb
      split at hb
      · rename_i herr
        cases hb
        exact ⟨rfl, by rw [← herr]; rfl⟩
      · cases hb
  | grpc stream =>
      obtain ⟨msg, hmsg, rfl⟩ := Option.map_eq_some_iff.mp hb
      cases hrecv : stream.recv with
      | error err =>
          rw [hrecv] at hmsg
          cases hmsg
      | ok msg' =>
          rw [hrecv] at hmsg
          cases hmsg
          simp only [capture, handleGRPC, Arrival.request, hrecv]
          exact ⟨rfl, rfl⟩

/-- The requests do not come with the mark. -/
theorem notMem_metadata (a : Arrival) (v : Str) :
    (lit "bodyTruncated", v) ∉ a.request.metadata := by
  have hhost : lit "bodyTruncated" ≠ lit "host" := by decide
  have haddr : lit "bodyTruncated" ≠ lit "remoteAddr" := by decide
  have hquery : lit "bodyTruncated" ≠ lit "query" := by decide
  have hmethod : lit "bodyTruncated" ≠ lit "grpcMethod" := by decide
  cases a with
  | http r => simp [Arrival.request, hhost, haddr, hquery]
  | grpc stream => simp [Arrival.request, hmethod]

/-- Below the greatest limit, one byte more than the limit is read, if it is there. -/
theorem readLimited_whole {limit : Int64} (hpos : 0 < limit) (hmax : limit ≠ Int64.maxValue)
    (b : List UInt8) :
    readLimited (limit + 1) ⟨b, none⟩ = .ok (b.take (limit.toNatClampNeg + 1)) := by
  have hsucc := toInt_succ hmax
  have hnat : 0 < limit.toInt := by
    rw [Int64.lt_iff_toInt_lt, Int64.toInt_zero] at hpos
    exact hpos
  have hpos' : ¬ limit + 1 ≤ 0 := by
    rw [Int64.le_iff_toInt_le, hsucc, Int64.toInt_zero]
    omega
  have hclamp : (limit + 1).toNatClampNeg = limit.toNatClampNeg + 1 := by
    rw [Int64.toNatClampNeg, Int64.toNatClampNeg, hsucc]
    omega
  rw [readLimited, if_neg hpos', hclamp]
  split
  · rfl
  · rename_i hlen
    have hshort : b.length ≤ limit.toNatClampNeg + 1 := Nat.le_of_lt (Nat.lt_of_not_le hlen)
    rw [List.take_of_length_le hshort]

/-- What is recorded, by what was read. -/
theorem bodyKept_of_read (h : CaptureHandler) (hpos : 0 < h.maxBodyBytes) (id : Str) (now : Time)
    (a : Arrival) (b : List UInt8) :
    BodyKept h.maxBodyBytes b
      (capturedRequest h id now a.request (b.take (h.maxBodyBytes.toNatClampNeg + 1))) := by
  have hnat : h.maxBodyBytes.toInt = h.maxBodyBytes.toNatClampNeg := by
    rw [Int64.lt_iff_toInt_lt, Int64.toInt_zero] at hpos
    rw [Int64.toNatClampNeg]
    omega
  have hlen : (b.take (h.maxBodyBytes.toNatClampNeg + 1)).length
      = min (h.maxBodyBytes.toNatClampNeg + 1) b.length :=
    List.length_take
  by_cases hlong : h.maxBodyBytes.toNatClampNeg < b.length
  · have htrunc : ((b.take (h.maxBodyBytes.toNatClampNeg + 1)).length : Int)
        > h.maxBodyBytes.toInt := by
      rw [hlen]
      omega
    refine ⟨?_, rfl, ?_⟩
    · simp only [capturedRequest, htrunc, if_true, List.take_take]
      congr 1
      omega
    · simp only [capturedRequest, htrunc, if_true]
      exact iff_of_true (List.mem_append_right _ (List.mem_singleton.mpr rfl)) (by omega)
  · have htrunc : ¬ ((b.take (h.maxBodyBytes.toNatClampNeg + 1)).length : Int)
        > h.maxBodyBytes.toInt := by
      rw [hlen]
      omega
    refine ⟨?_, rfl, ?_⟩
    · simp only [capturedRequest, htrunc, if_false]
      rw [List.take_of_length_le (by omega), List.take_of_length_le (by omega)]
    · simp only [capturedRequest, htrunc, if_false]
      exact iff_of_false (notMem_metadata a _) (by omega)

/-- **A request whose body reads without error is recorded, and its body as the limit says if and
only if the limit is not the greatest one or there is no body.** -/
theorem body_kept_iff (cfg : CaptureHandlerConfig) (hpos : 0 < cfg.maxBodyBytes) (id : Str)
    (now : Time) (sample : Int64) (a : Arrival) (b : List UInt8) (hb : a.body = some b)
    (hmatch : RequestFilter.matches cfg.filter sample a.request = true) :
    ∃ req, capture (newCaptureHandler cfg) id now sample a = .ok (some req) ∧
      (BodyKept cfg.maxBodyBytes b req ↔ cfg.maxBodyBytes ≠ Int64.maxValue ∨ b = []) := by
  obtain ⟨hcapture, hbody⟩ := capture_eq (newCaptureHandler cfg) id now sample hb
  have hlimit : (newCaptureHandler cfg).maxBodyBytes = cfg.maxBodyBytes :=
    if_neg (Int64.not_le.mpr hpos)
  have hfilter : ¬ (!RequestFilter.matches (newCaptureHandler cfg).filter sample a.request)
      = true := by
    rw [show (newCaptureHandler cfg).filter = cfg.filter from rfl, hmatch]
    decide
  rw [hcapture, CaptureHandler.handle, if_neg hfilter, hbody, hlimit]
  by_cases hmax : cfg.maxBodyBytes = Int64.maxValue
  · rw [hmax, readLimited_max]
    refine ⟨_, rfl, ?_⟩
    have hnone : (capturedRequest (newCaptureHandler cfg) id now a.request []).body = [] := by
      simp only [capturedRequest, List.take_nil, ite_self]
    constructor
    · intro hkept
      refine .inr ?_
      have hbody := hkept.body
      rw [hnone] at hbody
      have hzero := congrArg List.length hbody
      rw [List.length_take, List.length_nil] at hzero
      have hmaxNat : Int64.maxValue.toNatClampNeg = 2 ^ 63 - 1 := by decide
      exact List.length_eq_zero_iff.mp (by omega)
    · rintro (hne | rfl)
      · exact absurd rfl hne
      · have hkept := bodyKept_of_read (newCaptureHandler cfg) (hlimit ▸ hpos) id now a []
        rw [List.take_nil, hlimit, hmax] at hkept
        exact hkept
  · rw [readLimited_whole hpos hmax]
    refine ⟨_, rfl, iff_of_true ?_ (.inl hmax)⟩
    have hkept := bodyKept_of_read (newCaptureHandler cfg) (hlimit ▸ hpos) id now a b
    rw [hlimit] at hkept
    exact hkept

/-- A small post to the agent. -/
def greeting : HTTPRequest where
  method := lit "POST"
  path := lit "/greet"
  rawQuery := []
  host := lit "agent"
  remoteAddr := lit "10.0.0.1:4000"
  headers := []
  body := ⟨lit "hello", none⟩

theorem greeting_cut : ∃ req,
    capture (newCaptureHandler ⟨2, none, none⟩) (lit "r1") 0 0 (.http greeting) = .ok (some req) ∧
      (BodyKept 2 (lit "hello") req ↔ (2 : Int64) ≠ Int64.maxValue ∨ lit "hello" = []) :=
  body_kept_iff ⟨2, none, none⟩ (by decide) (lit "r1") 0 0 (.http greeting) (lit "hello") rfl rfl

/-- **With the greatest limit the record has no body, and no mark that any of it is missing.** -/
theorem greatest_limit_keeps_nothing :
    0 < Int64.maxValue ∧ (Arrival.http greeting).body = some (lit "hello") ∧
    ∃ req, capture (newCaptureHandler ⟨Int64.maxValue, none, none⟩) (lit "r1") 0 0 (.http greeting)
      = .ok (some req) ∧
      req.body = [] ∧ req.contentLength = 0 ∧ ¬ BodyKept Int64.maxValue (lit "hello") req := by
  refine ⟨by decide, rfl, _, rfl, by decide +kernel, by decide +kernel, ?_⟩
  intro hkept
  have hbody := congrArg List.length hkept.body
  exact absurd hbody (by decide +kernel)

end Kapture.Agent
