import Kapture.Go.Json
import Kapture.Replay.Feeder
import Kapture.Replay.Listing
import Kapture.Storage.Writer

/-!
# Preshard

`Preshard` copies a capture into one slice per shard: a single pass over the
source, one buffered writer per slice, then a manifest for each slice. It reports
success only if every writer closed and every manifest was stored; on any failure
it closes its writers, which publishes what they hold.
-/

namespace Kapture.Dataset

open Go Storage Replay Pull

/-- `dataset.Manifest`. -/
structure Manifest where
  formatVersion : Int
  captureID : Str
  recordCount : Int
  sha256 : Str
  shardIndex : Option Int32
  shardCount : Option Int32
  sourceCaptureID : Str
  createdAt : Time
deriving DecidableEq, Repr

/-- `encoding/json` and `crypto/sha256` at manifests. -/
structure ManifestCodec where
  marshal : Manifest → Except Error Str
  unmarshal : Str → Except Error Manifest
  /-- The hex digest of some bytes. -/
  sha256 : Str → Str
  /-- Encoding fails only on times that JSON cannot express. -/
  total : ∀ m, FourDigitYear m.createdAt.day → ∃ bytes, marshal m = .ok bytes
  /-- What was encoded decodes. -/
  decodes : ∀ m bytes, marshal m = .ok bytes → ∃ m', unmarshal bytes = .ok m'
  /-- Numbers survive the encoding. -/
  recordCount : ∀ m bytes m', marshal m = .ok bytes → unmarshal bytes = .ok m' →
    m'.recordCount = m.recordCount ∧ m'.formatVersion = m.formatVersion
  /-- A JSON object that breaks off does not decode. -/
  whole : ∀ m bytes k m', marshal m = .ok bytes → unmarshal (bytes.take k) = .ok m' →
    bytes.take k = bytes

/-! ### Manifests in JSON -/

def decodeInt (s : Str) : Int :=
  if s.head? = some 45 then -(ofDecimal s.tail : Int) else (ofDecimal s : Int)

theorem decodeInt_itoa (z : Int) : decodeInt (itoa z) = z := by
  unfold itoa
  split
  · simp only [decodeInt, List.head?_cons, List.tail_cons, if_true, ofDecimal_decimal]
    omega
  · rw [decodeInt, if_neg (head_decimal (by decide)), ofDecimal_decimal]
    omega

/-- A member of an object, on a line of its own. One that is left out is none. -/
def member (name : String) (value : Option Str) : Str :=
  value.elim [] fun text => lit ",\n  \"" ++ (lit name ++ (lit "\": " ++ text))

/-- What a tag with `omitempty` does. -/
def omitEmpty (s : Str) : Option Str := if s = [] then none else some (34 :: Json.quote s)

/-- The members of a manifest between `recordCount` and the last one. -/
def optionals (m : Manifest) : List (String × Option Str) :=
  [("sha256", omitEmpty m.sha256), ("shardIndex", m.shardIndex.map fun i => itoa i.toInt),
    ("shardCount", m.shardCount.map fun n => itoa n.toInt),
    ("sourceCaptureID", omitEmpty m.sourceCaptureID)]

def versionKey : Str := lit "\x7b\n  \"formatVersion\": "

/-- The members after `recordCount`. -/
def countsRest (m : Manifest) : Str :=
  ((optionals m).flatMap fun x => member x.1 x.2)
    ++ member "createdAt" (some (34 :: (Rfc3339.formatNano m.createdAt ++ [34])))

/-- `json.MarshalIndent` of a manifest, up to its last line. -/
def countsBody (m : Manifest) : Str :=
  versionKey ++ (itoa m.formatVersion ++ (member "captureID" (some (34 :: Json.quote m.captureID))
    ++ (member "recordCount" (some (itoa m.recordCount)) ++ countsRest m)))

def encodeCounts (m : Manifest) : Str := countsBody m ++ lit "\n\x7d"

/-- Reads the two numbers of a manifest that somebody uses. -/
def decodeCounts (data : Str) : Except Error Manifest :=
  let body := data.drop versionKey.length
  let id := (body.dropWhile (· != 44)).drop (member "captureID" (some [34])).length
  if data.hasSuffix (lit "\n\x7d") then
    match Json.unquote id with
    | some (_, rest) => .ok ⟨decodeInt (body.takeWhile (· != 44)), [],
        decodeInt ((rest.drop (member "recordCount" (some [])).length).takeWhile (· != 44)), [],
        none, none, [], 0⟩
    | none => .error (.new "invalid character")
  else .error (.new "unexpected end of JSON input")

/-! ### What breaks off has no last line -/

/-- Every newline is followed by a space. -/
def indented : Str → Bool
  | [] => true
  | b :: rest => (b != 10 || rest.head? == some 32) && indented rest

theorem indented_append {s t : Str} (hs : indented s = true) (ht : indented t = true) :
    indented (s ++ t) = true := by
  induction s with
  | nil => exact ht
  | cons b s ih =>
      rw [indented, Bool.and_eq_true] at hs
      rw [List.cons_append, indented, ih hs.2, Bool.and_true]
      cases s with
      | nil =>
          have hb : (b != 10) = true := by simpa using hs.1
          rw [hb, Bool.true_or]
      | cons c s => exact hs.1

theorem indented_of_append {s t : Str} (h : indented (s ++ t) = true) : indented t = true := by
  induction s with
  | nil => exact h
  | cons b s ih => exact ih (Bool.and_eq_true_iff.mp h).2

theorem indented_of_bytes {s : Str} (h : ∀ b ∈ s, 32 ≤ b.toNat) : indented s = true := by
  induction s with
  | nil => rfl
  | cons b s ih =>
      have hb : b ≠ 10 := by
        rintro rfl
        exact absurd (h 10 (List.mem_cons_self ..)) (by decide)
      rw [indented, bne_iff_ne.mpr hb, ih fun c hc => h c (List.mem_cons_of_mem _ hc)]
      rfl

theorem indented_itoa (z : Int) : indented (itoa z) = true := by
  refine indented_of_bytes fun b hb => ?_
  rcases itoa_byte hb with rfl | h
  · decide
  · omega

theorem indented_quote (s : Str) : indented (34 :: Json.quote s) = true := by
  refine indented_of_bytes fun b hb => ?_
  rcases List.mem_cons.mp hb with rfl | hb
  · decide
  · exact Json.quote_byte hb

theorem indented_member {name : String} {value : Option Str} (hname : indented (lit name) = true)
    (hvalue : ∀ text ∈ value, indented text = true) : indented (member name value) = true := by
  cases value with
  | none => rfl
  | some text =>
      have htext := hvalue text rfl
      exact indented_append (by decide) (indented_append hname (indented_append (by decide) htext))

theorem indented_countsBody (m : Manifest) : indented (countsBody m) = true := by
  have hsome : ∀ {t text : Str}, indented t = true → text ∈ some t → indented text = true := by
    rintro t text ht ⟨⟩
    exact ht
  have homit : ∀ (s : Str), ∀ text ∈ omitEmpty s, indented text = true := by
    intro s text h
    unfold omitEmpty at h
    split at h
    · cases h
    · exact hsome (indented_quote s) h
  have hnumber : ∀ (v : Option Int32), ∀ text ∈ v.map fun i =>
      itoa i.toInt, indented text = true := by
    intro v text h
    obtain ⟨i, -, rfl⟩ := Option.map_eq_some_iff.mp h
    exact indented_itoa _
  have htime : indented (34 :: (Rfc3339.formatNano m.createdAt ++ [34])) = true := by
    refine indented_of_bytes fun b hb => ?_
    rw [List.mem_cons, List.mem_append, List.mem_singleton] at hb
    rcases hb with rfl | hb | rfl
    · decide
    · exact le_trans (by decide) (Rfc3339.formatNano_byte hb)
    · decide
  refine indented_append (by decide) (indented_append (indented_itoa _) (indented_append ?_
    (indented_append ?_ (indented_append ?_ ?_))))
  · exact indented_member (by decide) fun _ h => hsome (indented_quote _) h
  · exact indented_member (by decide) fun _ h => hsome (indented_itoa _) h
  · rw [optionals]
    simp only [List.flatMap_cons, List.flatMap_nil, List.append_nil]
    exact indented_append (indented_member (by decide) (homit _))
      (indented_append (indented_member (by decide) (hnumber _))
        (indented_append (indented_member (by decide) (hnumber _))
          (indented_member (by decide) (homit _))))
  · exact indented_member (by decide) fun _ h => hsome htime h

/-- A text that breaks off does not decode. -/
theorem decodeCounts_take {m m' : Manifest} {k : Nat}
    (h : decodeCounts ((encodeCounts m).take k) = .ok m') :
    (encodeCounts m).take k = encodeCounts m := by
  by_cases hk : (encodeCounts m).length ≤ k
  · exact List.take_of_length_le hk
  · exfalso
    have hlen : (encodeCounts m).length = (countsBody m).length + 2 := List.length_append
    have hbreak : (encodeCounts m).take k = (countsBody m ++ [10]).take k := by
      have hsplit : encodeCounts m = countsBody m ++ [10] ++ [125] := by
        rw [List.append_assoc]
        rfl
      rw [hsplit, List.take_append_of_le_length]
      rw [List.length_append, List.length_singleton]
      omega
    have hsuffix : Str.hasSuffix ((encodeCounts m).take k) (lit "\n\x7d") = true := by
      unfold decodeCounts at h
      split at h
      · assumption
      · cases h
    -- the last line would follow a newline that is followed by a space
    obtain ⟨front, hfront⟩ := List.isSuffixOf_iff_suffix.mp hsuffix
    have hbody : indented (countsBody m ++ [10] ++ [32]) = true := by
      rw [List.append_assoc]
      exact indented_append (indented_countsBody m) rfl
    rw [← List.take_append_drop k (countsBody m ++ [10]), ← hbreak, ← hfront, List.append_assoc,
      List.append_assoc] at hbody
    exact absurd (indented_of_append hbody) (Bool.eq_false_iff.mp rfl)

/-! ### The numbers are read back -/

/-- After `recordCount` there is another member. -/
theorem exists_countsRest (m : Manifest) : ∃ rest, countsRest m = 44 :: rest := by
  have hstep : ∀ (xs : List (String × Option Str)) (t : Str), (∃ rest, t = 44 :: rest) →
      ∃ rest, (xs.flatMap fun x => member x.1 x.2) ++ t = 44 :: rest := by
    intro xs t ht
    induction xs with
    | nil => exact ht
    | cons x xs ih =>
        obtain ⟨name, value⟩ := x
        rw [List.flatMap_cons, List.append_assoc]
        cases value with
        | none => exact ih
        | some text => exact ⟨_, rfl⟩
  exact hstep _ _ ⟨_, rfl⟩

theorem takeWhile_itoa (z : Int) (rest : Str) :
    (itoa z ++ 44 :: rest).takeWhile (· != 44) = itoa z
      ∧ (itoa z ++ 44 :: rest).dropWhile (· != 44) = 44 :: rest := by
  have hcomma : ∀ b ∈ itoa z, (b != 44) = true := by
    intro b hb
    rw [bne_iff_ne]
    rintro rfl
    rcases itoa_byte hb with h | h <;> exact absurd h (by decide)
  rw [List.takeWhile_append_of_pos hcomma, List.dropWhile_append_of_pos hcomma]
  simp

theorem decodeCounts_encodeCounts (m : Manifest) :
    decodeCounts (encodeCounts m)
      = .ok ⟨m.formatVersion, [], m.recordCount, [], none, none, [], 0⟩ := by
  obtain ⟨rest, hrest⟩ := exists_countsRest m
  have hsuffix : Str.hasSuffix (encodeCounts m) (lit "\n\x7d") = true :=
    List.isSuffixOf_iff_suffix.mpr (List.suffix_append ..)
  have htext : encodeCounts m = versionKey ++ (itoa m.formatVersion
      ++ 44 :: ((member "captureID" (some [34])).tail ++ (Json.quote m.captureID
        ++ (member "recordCount" (some [])
          ++ (itoa m.recordCount ++ 44 :: (rest ++ lit "\n\x7d")))))) := by
    rw [encodeCounts, countsBody, hrest]
    simp [member, lit]
  have hid : ∀ t : Str, (44 :: ((member "captureID" (some [34])).tail ++ t)).drop
      (member "captureID" (some [34])).length = t := fun t => List.drop_left
  unfold decodeCounts
  rw [hsuffix, if_pos rfl, htext, List.drop_left, (takeWhile_itoa _ _).2, hid, Json.unquote_quote]
  dsimp only
  rw [List.drop_left, (takeWhile_itoa _ _).1, (takeWhile_itoa _ _).1, decodeInt_itoa,
    decodeInt_itoa]

/-- A codec that writes manifests as `encoding/json` does. All bytes have one digest. -/
def ManifestCodec.counts : ManifestCodec where
  marshal m := .ok (encodeCounts m)
  unmarshal := decodeCounts
  sha256 _ := List.replicate 64 48
  total _ _ := ⟨_, rfl⟩
  decodes m _ h := ⟨_, Except.ok.inj h ▸ decodeCounts_encodeCounts m⟩
  recordCount m _ m' h h' := by
    obtain rfl := Except.ok.inj h
    rw [decodeCounts_encodeCounts] at h'
    cases h'
    exact ⟨rfl, rfl⟩
  whole m _ _ _ h h' := Except.ok.inj h ▸ decodeCounts_take (m := m) (Except.ok.inj h ▸ h')

def manifestFormatVersion : Int := 1

/-- `Manifest.Validate`. -/
def Manifest.validate (m : Manifest) : Except Error Unit :=
  if m.formatVersion ≤ 0 then .error (.new "manifest has no formatVersion")
  else if m.formatVersion > manifestFormatVersion then
    .error (.new ("manifest formatVersion " ++ toString m.formatVersion
      ++ " is newer than supported version " ++ toString manifestFormatVersion
      ++ "; upgrade the replay engine"))
  else if m.recordCount < 0 then
    .error (.new ("manifest recordCount " ++ toString m.recordCount ++ " is negative"))
  else .ok ()

def parseManifest (M : ManifestCodec) (data : Str) : Except Error Manifest :=
  match M.unmarshal data with
  | .error err => .error (err.wrap "parse manifest")
  | .ok m =>
      match m.validate with
      | .error err => .error err
      | .ok () => .ok m

def shardSliceCaptureID (captureID : Str) (index count : Nat) : Str :=
  captureID ++ lit "/shards/" ++ decimal index ++ lit "-of-" ++ decimal count

structure PreshardResult where
  total : Nat
  shardCounts : List Nat
deriving DecidableEq, Repr

/-- The state of the pass over the source. -/
structure Pass where
  world : World
  writers : List BufferedObjectWriter
  /-- What each slice's digest was fed. -/
  digests : List Str
  result : PreshardResult

variable (env : Env) (f : WriterFactory) (J : Codec) (M : ManifestCodec)

/-- `closeWriters`, which drops every error. -/
def closeWriters : List BufferedObjectWriter → World → World
  | [], w => w
  | wr :: rest, w => closeWriters rest (close env f wr w).2.2

/-- One writer per slice, or an error after closing those that exist. -/
def newWriters (captureID : Str) (count : Nat) :
    List Nat → List BufferedObjectWriter → World → Except Error (List BufferedObjectWriter) × World
  | [], writers, w => (.ok writers, w)
  | i :: rest, writers, w =>
      match newWriter env f (shardSliceCaptureID captureID i count) w with
      | (.error err, w') =>
          (.error (err.wrap ("create shard " ++ toString i ++ " writer")),
            closeWriters env f writers w')
      | (.ok wr, w') => newWriters captureID count rest (writers ++ [wr]) w'

/-- The body of the read loop: one request to its slice. An index outside the
slices would be a panic. -/
def route (shardCount : Int64) (req : CapturedRequest) (p : Pass) : Except Error Unit × Pass :=
  let shard := (shardIndexOf req.id shardCount).toNatClampNeg
  match p.writers[shard]? with
  | none => (.error (.new "index out of range"), p)
  | some wr =>
      match write env f J req wr p.world with
      | (.error err, wr', w') =>
          (.error (err.wrap ("write shard " ++ toString shard)),
            { p with world := w', writers := p.writers.set shard wr' })
      | (.ok (), wr', w') =>
          match J.marshal req with
          | .error err =>
              (.error (err.wrap "marshal request for digest"),
                { p with world := w', writers := p.writers.set shard wr' })
          | .ok line =>
              (.ok (), ⟨w', p.writers.set shard wr',
                p.digests.modify shard (· ++ (line ++ [10])),
                ⟨p.result.total + 1, p.result.shardCounts.modify shard (· + 1)⟩⟩)

/-- Flush and close every slice in turn; `done` are those before. -/
def finishWriters (done : List BufferedObjectWriter) :
    List BufferedObjectWriter → World → Except Error Unit × World
  | [], w => (.ok (), w)
  | wr :: rest, w =>
      match flush env f wr w with
      | (.error err, wr', w') =>
          (.error (err.wrap ("flush shard " ++ toString done.length)),
            closeWriters env f (done ++ wr' :: rest) w')
      | (.ok (), wr', w') =>
          match close env f wr' w' with
          | (.error err, _, w'') =>
              (.error (err.wrap ("close shard " ++ toString done.length)),
                closeWriters env f rest w'')
          | (.ok (), wr'', w'') => finishWriters (done ++ [wr'']) rest w''

/-- The manifest of a slice. -/
def sliceManifest (captureID : Str) (count : Nat) (p : Pass) (now : Time) (i : Nat) : Manifest where
  formatVersion := manifestFormatVersion
  captureID := shardSliceCaptureID captureID i count
  recordCount := p.result.shardCounts.getD i 0
  sha256 := M.sha256 (p.digests.getD i [])
  shardIndex := some (Int32.ofNat i)
  shardCount := some (Int32.ofNat count)
  sourceCaptureID := captureID
  createdAt := now

/-- Publish a manifest per slice. -/
def putManifests (captureID : Str) (count : Nat) (p : Pass) (now : Time) :
    List Nat → World → Except Error Unit × World
  | [], w => (.ok (), w)
  | i :: rest, w =>
      match M.marshal (sliceManifest M captureID count p now i) with
      | .error err => (.error (err.wrap ("marshal shard " ++ toString i ++ " manifest")), w)
      | .ok data =>
          match putManifest env f (shardSliceCaptureID captureID i count) data w with
          | (.error err, w') =>
              (.error (err.wrap ("write shard " ++ toString i ++ " manifest")), w')
          | (.ok (), w') => putManifests captureID count p now rest w'

/-- What follows the pass. -/
def publish (captureID : Str) (count : Nat) (p : Pass) : Except Error PreshardResult × World :=
  match finishWriters env f [] p.writers p.world with
  | (.error err, w) => (.error err, w)
  | (.ok (), w) =>
      match putManifests env f M captureID count p (env.now w.clock) (List.range count) w.tick with
      | (.error err, w') => (.error err, w')
      | (.ok (), w') => (.ok p.result, w')

/-- How a run goes on once its read loop has ended. -/
def conclude (captureID : Str) (count : Nat) (c : Consumed Pass Error) :
    Except Error PreshardResult × World :=
  match c.stop with
  | .refused err => (.error err, closeWriters env f c.world.writers c.world.world)
  | .ended err =>
      if endOfCapture err then publish env f M captureID count c.world
      else (.error (err.wrap "read capture"), closeWriters env f c.world.writers c.world.world)

/-- The pass before its first request. -/
def Pass.start (count : Nat) (writers : List BufferedObjectWriter) (w : World) : Pass :=
  ⟨w, writers, List.replicate count [], ⟨0, List.replicate count 0⟩⟩

/-- `Preshard` with a read loop over what `reader.Open` returned. -/
def preshardLoop {α : Type} (opened : Except Error α) (loop : α → Pass → Consumed Pass Error)
    (captureID : Str) (shardCount : Int64) (w : World) : Except Error PreshardResult × World :=
  let count := shardCount.toNatClampNeg
  if shardCount < 2 then
    (.error (.new ("shard count must be >= 2, got " ++ toString shardCount)), w)
  else if captureID = [] then (.error (.new "capture ID is required"), w)
  else
    match opened with
    | .error err => (.error (err.wrap "open reader"), w)
    | .ok source =>
        match newWriters env f captureID count (List.range count) [] w with
        | (.error err, w') => (.error err, w')
        | (.ok writers, w') =>
            conclude env f M captureID count (loop source (.start count writers w'))

/-- `Preshard`. `fetch` is what the reader's fetches find in the world at their time. -/
def preshard (noun : String) (opts : ReadOptions) (opened : Except Error (List Str))
    (fetch : World → Fetch) (captureID : Str) (shardCount : Int64) (w : World) :
    Except Error PreshardResult × World :=
  preshardLoop env f M opened
    (fun objects => consumeObjects J noun opts (fun p : Pass => fetch p.world)
    (route env f J shardCount) objects 0) captureID shardCount w

/-- **The pass is the loop over `Next`**: each request is routed before the next one is read, and
what that read fetches is what the writers have left. -/
theorem preshard_drives {noun : String} {opts : ReadOptions} {fetch : World → Fetch}
    {captureID : Str} {n : Int64} {w w' : World} {writers : List BufferedObjectWriter}
    (objects : List Str) (hn : ¬ n < 2) (hid : captureID ≠ [])
    (hw : newWriters env f captureID n.toNatClampNeg (List.range n.toNatClampNeg) [] w
      = (.ok writers, w')) :
    ∃ c r, Drives (fun p => Reader.next J (fetch p.world)) (route env f J n)
        (.start n.toNatClampNeg writers w') (.open noun opts objects) c.stop c.world r
      ∧ preshard env f J M noun opts (.ok objects) fetch captureID n w
        = conclude env f M captureID n.toNatClampNeg c := by
  obtain ⟨r, hdrives, -⟩ := drives_open objects (Pass.start n.toNatClampNeg writers w')
  refine ⟨_, r, hdrives, ?_⟩
  simp only [preshard, preshardLoop, if_neg hn, if_neg hid, hw]

/-- The factory of the `kapture-preshard` command. -/
def commandFactory (b : Backend) : WriterFactory := ⟨b, lit "kapture-preshard", 0, 0⟩

/-- What the reader of a run meets. -/
structure ReadEnv where
  listFault : Option Error
  fault : Str → ReadFault

/-- The `kapture-preshard` command: it reads the whole capture from the store it
writes the slices to. -/
def runCommand (renv : ReadEnv) (b : Backend) (captureID : Str) (shardCount : Int64) (s : Store) :
    Except Error PreshardResult × World :=
  preshard env (commandFactory b) J M (nounOf b.kind) (.all captureID)
    (openCapture b s renv.listFault (.all captureID)) (fun w => fetchFrom w.store renv.fault)
    captureID shardCount ⟨s, 0, 0, []⟩

end Kapture.Dataset
