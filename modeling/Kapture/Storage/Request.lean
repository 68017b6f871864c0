import Kapture.Go.Err
import Kapture.Go.Rfc3339

/-!
# Captured requests

The record the capture agent stores and the replay side reads back, and the error
values that travel with it.
-/

namespace Kapture

open Go

/-- A `time.Time`, in nanoseconds since the zero time (January 1, year 1, UTC). -/
abbrev Time := Int

/-- A `time.Duration`, in nanoseconds. -/
abbrev Duration := Int

/-- `t.IsZero()`. -/
def Time.isZero (t : Time) : Bool := t == 0

/-- `t.Sub(u)`, which saturates at the bounds of a duration. -/
def Time.sub (t u : Time) : Duration := max (-(2 ^ 63)) (min (t - u) (2 ^ 63 - 1))

/-- The sentinel errors that some caller asks for with `errors.Is`, or that a
library call is documented to return. -/
inductive Sentinel where
  /-- `io.EOF` -/
  | eof
  /-- `io.ErrUnexpectedEOF` -/
  | unexpectedEOF
  /-- `replay.ErrReaderDone` -/
  | readerDone
  /-- `storage.ErrWriterClosed` -/
  | writerClosed
  /-- `context.Canceled` -/
  | canceled
  /-- `gzip.ErrHeader` -/
  | gzipHeader
  /-- `gzip.ErrChecksum` -/
  | gzipChecksum
  /-- `bufio.ErrTooLong` -/
  | tooLong
deriving DecidableEq, Repr

/-- An `error` of this program. -/
abbrev Error := Err Sentinel

/-- `io.EOF`. -/
def eof : Error := .sentinel "EOF" .eof

/-- `io.ErrUnexpectedEOF`. -/
def errUnexpectedEOF : Error := .sentinel "unexpected EOF" .unexpectedEOF

/-- `context.Canceled`, what `ctx.Err()` returns once the context is done. -/
def canceled : Error := .sentinel "context canceled" .canceled

namespace Storage

/-- `storage.CapturedRequest`. A nil map and an empty one are one value. -/
structure CapturedRequest where
  id : Str
  timestamp : Time
  method : Str
  path : Str
  headers : List (Str × List Str)
  body : List UInt8
  contentLength : Int
  protocol : Str
  metadata : List (Str × Str)
deriving DecidableEq, Repr

/-- `storage.ErrWriterClosed`. -/
def errWriterClosed : Error := .sentinel "storage writer is closed" .writerClosed

/--
`encoding/json` at `CapturedRequest`: what `json.Marshal` writes and what
`json.Unmarshal` makes of a line. A decoded request can be encoded again, and
decoding that line gives it back; nothing is promised about requests that were
never decoded, such as one with a path that is not UTF-8.
-/
structure Codec where
  marshal : CapturedRequest → Except Error Str
  unmarshal : Str → Except Error CapturedRequest
  /-- Decoding loses nothing that encoding could not write down again. -/
  roundTrip : ∀ line req, unmarshal line = .ok req →
    ∃ line', marshal req = .ok line' ∧ unmarshal line' = .ok req
  /-- Control characters are escaped, a newline among them. -/
  printable : ∀ req line, marshal req = .ok line → ∀ b ∈ line, 32 ≤ b

/-- The codec that knows the requests of a table, each with its line. -/
def Codec.ofTable (table : List (CapturedRequest × Str))
    (hline : ∀ e ∈ table, table.find? (fun e' => e'.2 = e.2) = some e)
    (hprint : ∀ e ∈ table, ∀ b ∈ e.2, 32 ≤ b) : Codec where
  marshal req :=
    match table.find? fun e => e.1 = req with
    | some e => .ok e.2
    | none => .error (.new "json: unsupported value")
  unmarshal line :=
    match table.find? fun e => e.2 = line with
    | some e => .ok e.1
    | none => .error (.new "unexpected end of JSON input")
  roundTrip := by
    intro line req h
    split at h
    · rename_i e he
      cases h
      have hmem := List.mem_of_find?_eq_some he
      cases hf : table.find? fun e' => e'.1 = e.1 with
      | none => exact absurd (List.find?_eq_none.mp hf e hmem) (by simp)
      | some e' =>
          have h1 : e'.1 = e.1 := by simpa using List.find?_some hf
          exact ⟨e'.2, rfl, by rw [hline e' (List.mem_of_find?_eq_some hf)]; simp [h1]⟩
    · cases h
  printable := by
    intro req line h
    split at h
    · rename_i e he
      cases h
      exact hprint e (List.mem_of_find?_eq_some he)
    · cases h

/-- What `json.Marshal` writes of a request without headers, body and metadata, if no text of it
needs an escape. -/
def plainLine (req : CapturedRequest) : Str :=
  lit "\x7b\"id\":\"" ++ req.id ++ lit "\",\"timestamp\":\"" ++ Rfc3339.formatNano req.timestamp
    ++ lit "\",\"method\":\"" ++ req.method ++ lit "\",\"path\":\"" ++ req.path
    ++ lit "\",\"protocol\":\"" ++ req.protocol ++ lit "\"\x7d"

end Storage

end Kapture
