import Kapture.Lib.Pull
import Kapture.Replay.Options
import Kapture.Storage.Store

/-!
# Readers

The S3, GCS and filesystem readers share one `Next`: scan the current object line
by line, skip what does not decode or does not match, move to the next object at
its end, and say `ErrReaderDone` when no object is left or the limit is reached.

`Reader.next` is that function on an explicit state. What the store answers when
an object is fetched is an argument, so that a consumer that writes to the store
between two calls can be modelled as well.
-/

namespace Kapture.Replay

open Go Storage

/-- `replay.ErrReaderDone`. -/
def errReaderDone : Error := .sentinel "reader: no more requests" .readerDone

/-- The longest token the readers' scanner accepts, plus one. -/
def maxTokenSize : Nat := 10 * 1024 * 1024

/-- `bufio.ScanLines` over all of the input. A last line needs no newline; it is
also what a stream that fails in the middle of a line ends with. -/
def scanTokens : Str → List Str
  | [] => []
  | b :: rest =>
      if b == 10 then [] :: scanTokens rest
      else
        match scanTokens rest with
        | [] => [[b]]
        | line :: lines => (b :: line) :: lines

/-- A line without its carriage return. -/
def dropCR (line : Str) : Str :=
  if line.getLast? = some 13 then line.dropLast else line

/-- A `bufio.Scanner` over a decompressed object: the lines still to come, and
the read error that follows them. -/
structure Scanner where
  lines : List Str
  tail : Option Error
deriving DecidableEq, Repr

/-- `Scanner.Err`: a stream that ends in `io.EOF` itself has ended well. -/
def scannerErr (tail : Option Error) : Option Error :=
  if tail = some eof then none else tail

/-- `gzip.NewReader` followed by `bufio.NewScanner`. An empty stream is `io.EOF`. -/
def gzipNewReader : Payload → Except Error Scanner
  | .empty => .error eof
  | .notGzip err => .error err
  | .gzip data tail => .ok ⟨scanTokens data, tail⟩

/-- What fetching an object by its key returns. -/
abbrev Fetch := Str → Except Error Payload

/-- `openObject`: fetch, then start decompressing. -/
def openObject (fetch : Fetch) (key : Str) : Except Error Scanner :=
  match fetch key with
  | .error err => .error err
  | .ok payload =>
      match gzipNewReader payload with
      | .error err => .error (err.wrap "open gzip reader")
      | .ok sc => .ok sc

/-- The state of a reader. -/
structure Reader where
  /-- What its errors call an object: `object` for S3 and GCS, `file` for the
  filesystem. -/
  noun : String
  opts : ReadOptions
  /-- The keys after the current one. -/
  objects : List Str
  /-- The scanner of the current object and its key. -/
  current : Option (Str × Scanner)
  totalRead : Nat
  opened : Bool
  closed : Bool
  /-- Ghost: the keys of the objects whose scanner came to its end without an
  error. No function of the reader looks at it. -/
  finished : List Str
deriving DecidableEq, Repr

/-- The error of an object that cannot be opened. -/
def openError (noun : String) (key : Str) (err : Error) : Error :=
  err.wrap ("open " ++ noun ++ " " ++ key.quote)

/-- The error of an object that cannot be scanned to its end. -/
def scanError (noun : String) (key : Str) (err : Error) : Error :=
  err.wrap ("scan " ++ noun ++ " " ++ key.quote)

/-- `r.opts.Limit > 0 && r.totalRead >= r.opts.Limit`. -/
def ReadOptions.limitReached (opts : ReadOptions) (totalRead : Nat) : Bool :=
  decide (0 < opts.limit) && decide (opts.limit ≤ totalRead)

/-- What `Next` finds when it scans the lines of one object. -/
inductive Scan where
  /-- A matching request, and the lines after it. -/
  | hit (req : CapturedRequest) (rest : List Str)
  /-- A matching request beyond the limit, and the lines after it. -/
  | limit (rest : List Str)
  /-- A line that does not fit the scanner's buffer. -/
  | tooLong
  /-- No matching request. -/
  | done
deriving DecidableEq, Repr

/-- The inner loop of `Next`. -/
def scanLines (J : Codec) (opts : ReadOptions) (totalRead : Nat) : List Str → Scan
  | [] => .done
  | line :: rest =>
      if maxTokenSize ≤ line.length then .tooLong
      else
        match J.unmarshal (dropCR line) with
        | .error _ => scanLines J opts totalRead rest
        | .ok req =>
            if !matchesReadOptions req opts then scanLines J opts totalRead rest
            else if opts.limitReached totalRead then .limit rest
            else .hit req rest

/-- `bufio.ErrTooLong`. -/
def errTooLong : Error := .sentinel "bufio.Scanner: token too long" .tooLong

/-- The loop of `Next` on the current object; `rest` goes on after its end. -/
def scanCurrent (J : Codec) (key : Str) (sc : Scanner)
    (rest : Reader → Except Error CapturedRequest × Reader) (r : Reader) :
    Except Error CapturedRequest × Reader :=
  match scanLines J r.opts r.totalRead sc.lines with
  | .hit req lines =>
      (.ok req, { r with current := some (key, { sc with lines }), totalRead := r.totalRead + 1 })
  | .limit lines => (.error errReaderDone, { r with current := some (key, { sc with lines }) })
  | .tooLong =>
      (.error (scanError r.noun key errTooLong),
        { r with current := some (key, ⟨[], some errTooLong⟩) })
  | .done =>
      match scannerErr sc.tail with
      | some err =>
          (.error (scanError r.noun key err), { r with current := some (key, ⟨[], some err⟩) })
      | none => rest { r with finished := r.finished ++ [key] }

/-- The loop of `Next` without a current object: open the objects that are left
until one of them yields a request or an error. -/
def nextObject (J : Codec) (fetch : Fetch) :
    List Str → Reader → Except Error CapturedRequest × Reader
  | [], r => (.error errReaderDone, { r with objects := [], current := none })
  | key :: rest, r =>
      match openObject fetch key with
      | .error err =>
          (.error (openError r.noun key err), { r with objects := rest, current := none })
      | .ok sc =>
          scanCurrent J key sc (nextObject J fetch rest)
            { r with objects := rest, current := some (key, sc) }

/-- `Reader.Next`. -/
def Reader.next (J : Codec) (fetch : Fetch) (r : Reader) : Except Error CapturedRequest × Reader :=
  if !r.opened then (.error (.new "reader not opened"), r)
  else if r.closed then (.error errReaderDone, r)
  else
    match r.current with
    | none => nextObject J fetch r.objects r
    | some (key, sc) => scanCurrent J key sc (nextObject J fetch r.objects) r

/-- A reader after `Open`, given the keys its listing returned. -/
def Reader.open (noun : String) (opts : ReadOptions) (objects : List Str) : Reader :=
  ⟨noun, opts, objects, none, 0, true, false, []⟩

end Kapture.Replay
