import Kapture.Replay.Drain
import Kapture.Storage.Keys

/-!
# Listing and fetching a capture

`Open` lists the data objects of a capture: a prefix match in a bucket, a
recursive walk on a volume, then the suffix and the date filter, sorted by key.
`Next` fetches them one by one. What can go wrong on the way is an argument.
-/

namespace Kapture.Replay

open Go Path Storage

def dataSuffix : Str := lit ".jsonl.gz"

def buildObjectPrefix (storagePrefix captureID : Str) : Str :=
  let parts := (if storagePrefix.trim = [] then [] else [storagePrefix.trim])
    ++ if captureID = [] then [] else [captureID]
  if parts = [] then [] else Str.join parts ++ [Str.slash]

/-- Whether a walk of the directory `base` comes to the file `key`. The files below
the working directory are the relative ones that do not leave it. -/
def walks (base key : Str) : Bool :=
  key == clean base
    || key.hasPrefix (dirPrefix base)
        && (dirPrefix base != [] || !(key.hasPrefix [Str.slash] || key.hasPrefix (lit "../")))

/-- The directory that `FilesystemReader.Open` walks. -/
def basePath (mountPath captureID : Str) : Str :=
  if captureID = [] then mountPath else joinPath [mountPath, captureID]

/-- Whether `key` is among the objects of a capture. -/
def selects (b : Backend) (captureID key : Str) : Bool :=
  match b.kind with
  | .filesystem => walks (basePath b.root captureID) key
  | _ => key.hasPrefix (buildObjectPrefix b.root captureID)

/-- Whether `listObjects` or `listFiles` keeps `key`. -/
def lists (b : Backend) (opts : ReadOptions) (key : Str) : Bool :=
  selects b opts.captureID key && key.hasSuffix dataSuffix
    && filterObjectByTime key opts.startTime opts.endTime

/-- The keys that a listing returns, sorted. -/
def listing (b : Backend) (s : Store) (opts : ReadOptions) : List Str :=
  Str.sort (s.keys.filter (lists b opts))

/-- Whether a directory of a volume exists: it was made, or something is in it. -/
def dirExists (s : Store) (base : Str) : Bool := s.dirs.any (walks base) || s.keys.any (walks base)

/-- The context of a listing error. -/
def listContext : BackendKind → String
  | .s3 => "list s3 objects"
  | .gcs => "list gcs objects"
  | .filesystem => "list files"

/-- What a reader's errors call an object. -/
def nounOf : BackendKind → String
  | .filesystem => "file"
  | _ => "object"

/-- `Reader.Open`: the keys it will read. `fault` is an error of the listing call. -/
def openCapture (b : Backend) (s : Store) (fault : Option Error) (opts : ReadOptions) :
    Except Error (List Str) :=
  match fault with
  | some err => .error (err.wrap (listContext b.kind))
  | none =>
      if b.kind = .filesystem && !dirExists s (basePath b.root opts.captureID) then
        .error ((Err.new "no such file or directory").wrap (listContext b.kind))
      else .ok (listing b s opts)

/-- What happens to a fetch on its way. -/
inductive ReadFault where
  | none
  /-- The request fails. -/
  | fail (err : Error)
  /-- The stream breaks after so many decompressed bytes. -/
  | cut (n : Nat) (err : Error)
deriving DecidableEq, Repr

/-- `gzip.ErrHeader`. -/
def errHeader : Error := .sentinel "gzip: invalid header" .gzipHeader

/-- The decompressor never reports a stream that breaks off as `io.EOF`. -/
def noEOF (err : Error) : Error := if err = eof then errUnexpectedEOF else err

/-- A stored object as it arrives. -/
def arrives : ReadFault → Payload → Payload
  | .cut n err, .gzip data _ => .gzip (data.take n) (some (noEOF err))
  | _, p => p

/-- `GetObject`, `NewReader` or `os.Open`. -/
def fetchFrom (s : Store) (fault : Str → ReadFault) : Fetch := fun key =>
  match fault key with
  | .fail err => .error err
  | fl =>
      match s.get key with
      | none => .error (.new "object does not exist")
      | some (.raw []) => .ok .empty
      | some (.raw _) => .ok (.notGzip errHeader)
      | some (.gz p) => .ok (arrives fl p)

/-- A whole read of a capture from a store at rest. -/
def readCapture (J : Codec) (b : Backend) (s : Store) (listFault : Option Error)
    (fault : Str → ReadFault) (opts : ReadOptions) : Except Error ReaderRun :=
  (openCapture b s listFault opts).map (drain J (nounOf b.kind) opts (fetchFrom s fault))

/-- `LoadManifest`: the bytes under its key, if there are any. The bucket readers
put a slash after a prefix that ends in one. -/
def loadManifest (b : Backend) (s : Store) (captureID : Str) : Option Object :=
  match b.kind with
  | .filesystem => s.get (joinPath [b.root, captureID, manifestObjectName])
  | _ => s.get (buildObjectPrefix b.root captureID ++ [Str.slash] ++ manifestObjectName)

/-! ## What a write changes -/

variable {opts : ReadOptions} {s : Store}

theorem mem_listing {b : Backend} {k : Str} :
    k ∈ listing b s opts ↔ (s.get k).isSome ∧ lists b opts k = true := by
  rw [listing, Str.mem_sort, List.mem_filter, Store.mem_keys_iff]

theorem nodup_listing (b : Backend) (s : Store) (opts : ReadOptions) :
    (listing b s opts).Nodup :=
  (List.perm_insertionSort _ _).nodup_iff.mpr (s.nodup_keys.filter _)

/-- **A listing depends only on which of its own keys exist.** -/
theorem listing_congr {b : Backend} {t : Store}
    (h : ∀ k, lists b opts k = true → ((s.get k).isSome ↔ (t.get k).isSome)) :
    listing b s opts = listing b t opts := by
  refine Str.sort_eq_of_mem_iff ?_ ?_ ?_
  · exact s.nodup_keys.filter _
  · exact t.nodup_keys.filter _
  · intro k
    rw [List.mem_filter, List.mem_filter, Store.mem_keys_iff, Store.mem_keys_iff]
    constructor
    · rintro ⟨hk, hl⟩
      exact ⟨(h k hl).mp hk, hl⟩
    · rintro ⟨hk, hl⟩
      exact ⟨(h k hl).mpr hk, hl⟩

theorem fetchFrom_congr {t : Store} {fault : Str → ReadFault} {key : Str}
    (h : s.get key = t.get key) : fetchFrom s fault key = fetchFrom t fault key := by
  unfold fetchFrom
  rw [h]

/-- **A read depends only on the objects it lists.** -/
theorem drain_listing_congr (J : Codec) (noun : String) {b : Backend} {t : Store}
    (fault : Str → ReadFault) (h : ∀ k, lists b opts k = true → s.get k = t.get k) :
    drain J noun opts (fetchFrom s fault) (listing b s opts)
      = drain J noun opts (fetchFrom t fault) (listing b t opts) := by
  have hl : listing b s opts = listing b t opts := listing_congr fun k hk => by rw [h k hk]
  rw [hl]
  refine drainObjects_congr fun k hk => fetchFrom_congr (h k ?_)
  exact (mem_listing.mp hk).2

/-! ## Where a reader looks -/

section Places

variable {b : Backend} {captureID : Str}

/-- In a bucket, a reader looks below the literal path of the capture. -/
theorem buildObjectPrefix_eq (hid : captureID ≠ []) (hk : b.kind ≠ .filesystem) :
    buildObjectPrefix b.root captureID = capturePath b captureID ++ [Str.slash] := by
  rw [buildObjectPrefix, capturePath, topOf, if_neg hk]
  by_cases ht : b.root.trim = []
  · simp [ht, hid, Str.join]
  · simp [ht, hid, join_cons]
    simp [Str.join]

/-- On a volume, it looks below the cleaned path. -/
theorem basePath_eq (hid : captureID ≠ []) (hk : b.kind = .filesystem) :
    basePath b.root captureID = clean (capturePath b captureID) := by
  rw [basePath, if_neg hid, capturePath, topOf, if_pos hk]
  by_cases ht : b.root = []
  · simp [joinPath, ht, hid, Str.join]
  · have h := join_cons b.root (List.cons_ne_nil captureID [])
    simp only [joinPath, List.dropWhile_cons, beq_iff_eq, ht, if_false, h]
    simp [Str.join]

end Places

end Kapture.Replay
