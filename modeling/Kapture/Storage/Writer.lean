import Kapture.Storage.Names
import Kapture.Storage.Store

/-!
# The buffered object writer

All backends write through one `bufferedObjectWriter`: it collects lines, and
uploads them as one compressed object when the buffer is full, when the flush
interval has passed, and on `Flush` and `Close`. An upload that fails leaves the
buffer as it is.

The clock and the outcome of each upload are arguments. A failed upload may have
stored nothing, the whole object or a part of it: a bucket may report an error
after it stored the object, so may the artifact recorder, and a file is written
in place.
-/

namespace Kapture.Storage

open Go

/-- How much of an object a failed upload left behind. -/
inductive Left where
  | nothing
  | whole
  /-- A part: none of it, less than a header, or a header and so many bytes. -/
  | part (k : Nat)
deriving DecidableEq, Repr

/-- What comes of storing an object. -/
inductive PutOutcome where
  | stored
  | failed (madeDir : Bool) (left : Left) (err : Error)
deriving DecidableEq, Repr

/-- An object of which only a part was written. -/
def Object.torn (k : Nat) : Object → Object
  | .gz (.gzip data _) =>
      .gz (match k with
        | 0 => .empty
        | 1 => .notGzip errUnexpectedEOF
        | k + 2 => .gzip (data.take k) (some errUnexpectedEOF))
  | .gz p => .gz p
  | .raw bytes => .raw (bytes.take k)

/-- The store after a failed upload. -/
def Left.apply (key : Str) (obj : Object) (s : Store) : Left → Store
  | .nothing => s
  | .whole => s.put key obj
  | .part k => s.put key (obj.torn k)

/-- What a program that writes to a store cannot decide itself. -/
structure Env where
  /-- What the `k`-th call of `time.Now` returns. -/
  now : Nat → Time
  /-- What comes of the `k`-th upload. -/
  put : Nat → PutOutcome

/-- A completed upload. -/
structure Put where
  captureID : Str
  key : Str
  obj : Object
deriving DecidableEq, Repr

/-- A store, and how often the clock and the uploader were called. -/
structure World where
  store : Store
  clock : Nat
  puts : Nat
  /-- The uploads that reported success, in order. Nothing reads it. -/
  log : List Put

/-- The configuration of a writer factory. -/
structure WriterFactory where
  backend : Backend
  agentPod : Str
  flushInterval : Duration
  maxBufferBytes : Int
deriving DecidableEq, Repr

structure BufferedObjectWriter where
  captureID : Str
  flushInterval : Duration
  maxBufferBytes : Int
  sequence : Nat
  buffer : Str
  closed : Bool
  lastFlush : Time
deriving DecidableEq, Repr

def defaultFlushInterval : Duration := 5000000000

def defaultMaxBufferSize : Int := 10 * 1024 * 1024

def normalizeFlushInterval (interval : Duration) : Duration :=
  if interval ≤ 0 then defaultFlushInterval else interval

def normalizeMaxBufferBytes (size : Int) : Int := if size ≤ 0 then defaultMaxBufferSize else size

/-- The directory of a file. -/
def dirOf (key : Str) : Str :=
  Path.clean (Str.join (Str.split key).dropLast)

/-- On a volume the directory of a file is made first. -/
def makeDir (b : Backend) (key : Str) (s : Store) : Store :=
  if b.kind = .filesystem then s.mkdirAll (dirOf key) else s

/-- One upload. -/
def upload (env : Env) (b : Backend) (captureID key : Str) (obj : Object) (w : World) :
    Except Error Unit × World :=
  match env.put w.puts with
  | .stored =>
      (.ok (), { w with store := (makeDir b key w.store).put key obj, puts := w.puts + 1,
                        log := w.log ++ [⟨captureID, key, obj⟩] })
  | .failed madeDir left err =>
      let s := if madeDir then makeDir b key w.store else w.store
      (.error err, { w with store := left.apply key obj s, puts := w.puts + 1 })

variable (env : Env) (f : WriterFactory) (J : Codec)

/-- `time.Now()`. -/
def World.tick (w : World) : World := { w with clock := w.clock + 1 }

/-- `WriterFactory.NewWriter`. -/
def newWriter (captureID : Str) (w : World) : Except Error BufferedObjectWriter × World :=
  if captureID = [] then (.error (.new "capture ID is required"), w)
  else
    (.ok ⟨captureID, normalizeFlushInterval f.flushInterval,
      normalizeMaxBufferBytes f.maxBufferBytes, 0, [], false, env.now w.clock⟩, w.tick)

def flushLocked (wr : BufferedObjectWriter) (w : World) :
    Except Error Unit × BufferedObjectWriter × World :=
  if wr.buffer = [] then (.ok (), { wr with lastFlush := env.now w.clock }, w.tick)
  else
    let key := f.backend.objectName wr.captureID f.agentPod (env.now w.clock) (wr.sequence + 1)
    match upload env f.backend wr.captureID key (.gz (.gzip wr.buffer none)) w.tick with
    | (.error err, w') => (.error err, wr, w')
    | (.ok (), w') =>
        (.ok (), { wr with
          buffer := [], sequence := wr.sequence + 1, lastFlush := env.now w'.clock },
          w'.tick)

/-- `bufferedObjectWriter.Write`. -/
def write (req : CapturedRequest) (wr : BufferedObjectWriter) (w : World) :
    Except Error Unit × BufferedObjectWriter × World :=
  match J.marshal req with
  | .error err => (.error (err.wrap "marshal captured request"), wr, w)
  | .ok line =>
      if wr.closed then (.error errWriterClosed, wr, w)
      else
        let wr := { wr with buffer := wr.buffer ++ (line ++ [10]) }
        if wr.maxBufferBytes ≤ wr.buffer.length then flushLocked env f wr w
        else if wr.flushInterval ≤ (env.now w.clock).sub wr.lastFlush then
          flushLocked env f wr w.tick
        else (.ok (), wr, w.tick)

/-- `bufferedObjectWriter.Flush`. -/
def flush (wr : BufferedObjectWriter) (w : World) :
    Except Error Unit × BufferedObjectWriter × World :=
  if wr.closed then (.error errWriterClosed, wr, w) else flushLocked env f wr w

/-- `bufferedObjectWriter.Close`. -/
def close (wr : BufferedObjectWriter) (w : World) :
    Except Error Unit × BufferedObjectWriter × World :=
  if wr.closed then (.ok (), wr, w)
  else
    match flushLocked env f wr w with
    | (.error err, wr', w') => (.error err, wr', w')
    | (.ok (), wr', w') => (.ok (), { wr' with closed := true }, w')

def putManifest (captureID bytes : Str) (w : World) : Except Error Unit × World :=
  if captureID = [] then (.error (.new "capture ID is required"), w)
  else upload env f.backend captureID (f.backend.manifestName captureID) (.raw bytes) w

end Kapture.Storage
