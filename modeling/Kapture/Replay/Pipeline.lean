import Kapture.Replay.Listing

/-!
# What the readers are for

A reader is opened, and then asked for one request after the other. What it answers has a short
description that knows nothing of scanners, current objects and counters: take the objects of the
listing in key order, put their lines one after the other, drop those that do not parse and those
that do not match, and stop at the limit. **All three readers answer with that list, and then with
`ErrReaderDone` for ever**, as long as their objects can be read.

Between two calls the reader is somewhere in an object. What is left of the list is what the lines
of that object and of the objects after it come to, and each call takes its first request (`Left`).
-/

namespace Kapture.Replay

open Go Storage Pull

/-- The requests that a capture with these lines comes to. -/
def pipeline (J : Codec) (opts : ReadOptions) (contents : List (List Str)) : List CapturedRequest :=
  let parsed := contents.flatten.filterMap fun line => (J.unmarshal line).toOption
  let accepted := parsed.filter fun req => matchesReadOptions req opts
  if 0 < opts.limit then accepted.take opts.limit.toNat else accepted

/-- The lines of a stored object. -/
def objectLines (s : Store) (key : Str) : List Str :=
  match s.get key with
  | some (.gz (.gzip data _)) => (scanTokens data).map dropCR
  | _ => []

/-- A scanner that comes to the end of its object. -/
structure Scanner.Whole (sc : Scanner) : Prop where
  ends : scannerErr sc.tail = none
  fits : ∀ line ∈ sc.lines, line.length < maxTokenSize

/-- A capture whose listing succeeds, and whose objects all open, decompress and have lines that fit
the scanner. -/
structure Source (opts : ReadOptions) where
  backend : Backend
  store : Store
  keys : List Str
  opened : openCapture backend store none opts = .ok keys
  whole : ∀ key ∈ keys, ∃ data tail, store.get key = some (.gz (.gzip data tail))
    ∧ (Scanner.mk (scanTokens data) tail).Whole

namespace Source

variable {opts : ReadOptions}

def contents (src : Source opts) : List (List Str) := src.keys.map (objectLines src.store)

/-- The answers to `n` calls of `Next` after `Open`, and the reader after them. -/
def answers (J : Codec) (src : Source opts)
    (n : Nat) : List (Except Error CapturedRequest) × Reader :=
  pulls (Reader.next J (fetchFrom src.store fun _ => .none)) n
    (Reader.open (nounOf src.backend.kind) opts src.keys)

end Source

/-! ## The lines that are left -/

section Left

variable {J : Codec} {opts : ReadOptions} {fetch : Fetch}

/-- The lines of an object that can be opened. -/
def fetchedLines (fetch : Fetch) (key : Str) : List Str :=
  match openObject fetch key with
  | .ok sc => sc.lines
  | .error _ => []

/-- The object can be read. -/
def Readable (fetch : Fetch) (key : Str) : Prop := ∃ sc, openObject fetch key = .ok sc ∧ sc.Whole

/-- A reader that can go on, with these requests left in its objects. -/
structure Left (J : Codec) (opts : ReadOptions) (fetch : Fetch) (reqs : List CapturedRequest)
    (r : Reader) : Prop where
  active : r.opened = true ∧ r.closed = false ∧ r.opts = opts
  current : ∀ key sc, r.current = some (key, sc) → sc.Whole
  objects : ∀ key ∈ r.objects, Readable fetch key
  reqs : ((r.current.elim [] fun c => c.2.lines)
    ++ r.objects.flatMap (fetchedLines fetch)).filterMap (lineMatch J opts) = reqs

/-- What `Next` finds when `reqs` is left and `n` were returned. -/
def due (opts : ReadOptions) (n : Nat) (reqs : List CapturedRequest) : Option CapturedRequest :=
  if opts.limitReached n then none else reqs.head?

/-- An answer of `Next`: the first request that is left, unless the limit is reached. -/
structure Answers (J : Codec) (opts : ReadOptions) (fetch : Fetch) (n : Nat)
    (reqs : List CapturedRequest)
    (p : Except Error CapturedRequest × Reader) : Prop where
  answer : p.1 = (due opts n reqs).elim (.error errReaderDone) .ok
  total : p.2.totalRead = n + (due opts n reqs).toList.length
  left : Left J opts fetch reqs.tail p.2

/-- The inner loop comes to the first line with a request that matches. -/
theorem scanLines_cases (J : Codec) (opts : ReadOptions) (n : Nat) {lines : List Str}
    (h : ∀ line ∈ lines, line.length < maxTokenSize) :
    lines.filterMap (lineMatch J opts) = [] ∧ scanLines J opts n lines = .done
    ∨ ∃ req rest, lines.filterMap (lineMatch J opts) = req :: rest.filterMap (lineMatch J opts)
      ∧ (∀ line ∈ rest, line ∈ lines)
      ∧ scanLines J opts n lines = if opts.limitReached n then .limit rest else .hit req rest := by
  induction lines with
  | nil => exact Or.inl ⟨rfl, rfl⟩
  | cons line lines ih =>
      have hfits : ¬ maxTokenSize ≤ line.length := Nat.not_le.mpr (h line (List.mem_cons_self ..))
      have ih := ih fun l hl => h l (List.mem_cons_of_mem _ hl)
      -- a line that is skipped leaves the rest of the loop
      have hskip : lineMatch J opts line = none →
          scanLines J opts n (line :: lines) = scanLines J opts n lines →
          (line :: lines).filterMap (lineMatch J opts) = []
            ∧ scanLines J opts n (line :: lines) = .done
          ∨ ∃ req rest, (line :: lines).filterMap (lineMatch J opts)
            = req :: rest.filterMap (lineMatch J opts)
            ∧ (∀ l ∈ rest, l ∈ line :: lines)
            ∧ scanLines J opts n (line :: lines) = if opts.limitReached n then .limit rest
              else .hit req rest := by
        intro hnone hscan
        rw [List.filterMap_cons_none hnone, hscan]
        rcases ih with ih | ⟨req, rest, hreqs, hmem, hscan⟩
        · exact Or.inl ih
        · exact Or.inr ⟨req, rest, hreqs, fun l hl => List.mem_cons_of_mem _ (hmem l hl), hscan⟩
      cases hj : J.unmarshal (dropCR line) with
      | error err =>
          refine hskip ?_ ?_
          · rw [lineMatch, hj]
            rfl
          · rw [scanLines, if_neg hfits, hj]
      | ok req =>
          by_cases hm : matchesReadOptions req opts = true
          · have hsome : lineMatch J opts line = some req := by
              rw [lineMatch, hj]
              exact Option.filter_some_pos hm
            refine Or.inr ⟨req, lines, List.filterMap_cons_some hsome,
              fun l hl => List.mem_cons_of_mem _ hl, ?_⟩
            rw [scanLines, if_neg hfits, hj]
            simp only [hm, Bool.not_true, Bool.false_eq_true, if_false]
          · rw [Bool.not_eq_true] at hm
            refine hskip ?_ ?_
            · rw [lineMatch, hj]
              exact Option.filter_some_neg hm
            · rw [scanLines, if_neg hfits, hj]
              simp only [hm, Bool.not_false, if_true]

/-- The current object, when the objects after it are answered for. -/
theorem answers_scanCurrent {r : Reader} {key : Str} {sc : Scanner} {reqs : List CapturedRequest}
    {rest : Reader → Except Error CapturedRequest × Reader}
    (hactive : r.opened = true ∧ r.closed = false ∧ r.opts = opts) (hsc : sc.Whole)
    (hobjects : ∀ key ∈ r.objects, Readable fetch key)
    (hreqs : (r.objects.flatMap (fetchedLines fetch)).filterMap (lineMatch J opts) = reqs)
    (hrest : Answers J opts fetch r.totalRead reqs (rest { r with
      finished := r.finished ++ [key] })) :
    Answers J opts fetch r.totalRead (sc.lines.filterMap (lineMatch J opts) ++ reqs)
      (scanCurrent J key sc rest r) := by
  obtain ⟨hopened, hclosed, rfl⟩ := hactive
  unfold scanCurrent
  rcases scanLines_cases J r.opts r.totalRead hsc.fits
    with ⟨hnil, hscan⟩ | ⟨req, lines, hlines, hmem, hscan⟩
  · rw [hnil, hscan, List.nil_append]
    simp only [hsc.ends]
    exact hrest
  · -- a request is there; the reader stays in this object
    have hleft : ∀ n, Left J r.opts fetch (lines.filterMap (lineMatch J r.opts) ++ reqs)
        { r with current := some (key, { sc with lines := lines }), totalRead := n } := by
      intro n
      refine ⟨⟨hopened, hclosed, rfl⟩, ?_, hobjects, ?_⟩
      · rintro key' sc' ⟨⟩
        exact ⟨hsc.ends, fun line hl => hsc.fits line (hmem line hl)⟩
      · rw [← hreqs, ← List.filterMap_append]
        rfl
    rw [hlines, hscan]
    cases hlimit : r.opts.limitReached r.totalRead with
    | true =>
        refine ⟨?_, ?_, ?_⟩
        · simp [due, hlimit]
        · simp [due, hlimit]
        · simpa using hleft r.totalRead
    | false =>
        refine ⟨?_, ?_, ?_⟩
        · simp [due, hlimit]
        · simp [due, hlimit]
        · simpa using hleft (r.totalRead + 1)

theorem fetchedLines_of_open {key : Str} {sc : Scanner} (h : openObject fetch key = .ok sc) :
    fetchedLines fetch key = sc.lines := by
  rw [fetchedLines, h]

theorem answers_nextObject {keys : List Str} (r : Reader)
    (hactive : r.opened = true ∧ r.closed = false ∧ r.opts = opts)
    (hkeys : ∀ key ∈ keys, Readable fetch key) :
    Answers J opts fetch r.totalRead
      ((keys.flatMap (fetchedLines fetch)).filterMap (lineMatch J opts))
      (nextObject J fetch keys r) := by
  induction keys generalizing r with
  | nil =>
      have hdue : due opts r.totalRead [] = none := by
        unfold due
        split <;> rfl
      refine ⟨?_, ?_, ⟨hactive, nofun, nofun, rfl⟩⟩
      · rw [List.flatMap_nil, List.filterMap_nil, hdue]
        rfl
      · rw [List.flatMap_nil, List.filterMap_nil, hdue]
        rfl
  | cons key keys ih =>
      obtain ⟨sc, hopen, hsc⟩ := hkeys key (List.mem_cons_self ..)
      have hrest : ∀ k ∈ keys, Readable fetch k := fun k hk => hkeys k (List.mem_cons_of_mem _ hk)
      rw [nextObject, hopen, List.flatMap_cons, List.filterMap_append, fetchedLines_of_open hopen]
      refine answers_scanCurrent (r := { r with objects := keys, current := some (key, sc) })
        hactive hsc hrest rfl ?_
      exact ih { r with objects := keys, current := some (key, sc),
                        finished := r.finished ++ [key] } hactive hrest

/-- **One call of `Next`.** -/
theorem Left.next {reqs : List CapturedRequest} {r : Reader} (h : Left J opts fetch reqs r) :
    Answers J opts fetch r.totalRead reqs (r.next J fetch) := by
  obtain ⟨hactive, hcurrent, hobjects, hreqs⟩ := h
  obtain ⟨hopened, hclosed, hopts⟩ := hactive
  unfold Reader.next
  rw [hopened, hclosed]
  simp only [Bool.not_true, Bool.false_eq_true, if_false]
  rw [List.filterMap_append] at hreqs
  cases hc : r.current with
  | none =>
      rw [hc] at hreqs
      subst hreqs
      exact answers_nextObject r ⟨hopened, hclosed, hopts⟩ hobjects
  | some c =>
      rw [hc] at hreqs
      subst hreqs
      refine answers_scanCurrent ⟨hopened, hclosed, hopts⟩ (hcurrent c.1 c.2 hc) hobjects rfl ?_
      exact answers_nextObject { r with finished := r.finished ++ [c.1] } ⟨hopened, hclosed, hopts⟩
        hobjects

/-! ## All calls -/

/-- What the limit leaves of these requests, when `n` were returned before them. -/
def truncated (opts : ReadOptions) (n : Nat) (reqs : List CapturedRequest) : List CapturedRequest :=
  if 0 < opts.limit then reqs.take (opts.limit.toNat - n) else reqs

theorem truncated_of_reached {n : Nat} (h : opts.limitReached n = true)
    (reqs : List CapturedRequest) : truncated opts n reqs = [] := by
  have hpos : 0 < opts.limit := by
    simp only [ReadOptions.limitReached, Bool.and_eq_true, decide_eq_true_eq] at h
    exact h.1
  rw [truncated, if_pos hpos, limit_sub_eq_zero h, List.take_zero]

theorem truncated_cons {n : Nat} (h : opts.limitReached n = false) (req : CapturedRequest)
    (reqs : List CapturedRequest) :
    truncated opts n (req :: reqs) = req :: truncated opts (n + 1) reqs := by
  unfold truncated
  split
  · rename_i hpos
    rw [limit_sub_eq_succ hpos h, List.take_succ_cons]
  · rfl

theorem truncated_nil (n : Nat) : truncated opts n [] = [] := by
  unfold truncated
  split
  · exact List.take_nil
  · rfl

/-- `reqs` is still to be returned, of `total` requests in all. -/
def Stands (J : Codec) (opts : ReadOptions) (fetch : Fetch) (total : Nat)
    (reqs : List CapturedRequest) (r : Reader) : Prop :=
  r.totalRead + reqs.length = total ∧ ∃ all, Left J opts fetch all r
    ∧ truncated opts r.totalRead all = reqs

theorem stands_nil {total : Nat} {r : Reader} (h : Stands J opts fetch total [] r) :
    (r.next J fetch).1 = .error errReaderDone
      ∧ Stands J opts fetch total [] (r.next J fetch).2 := by
  obtain ⟨htotal, all, hleft, hnone⟩ := h
  obtain ⟨hanswer, hread, hrest⟩ := hleft.next
  cases hlimit : opts.limitReached r.totalRead with
  | true =>
      rw [due, if_pos hlimit] at hanswer hread
      refine ⟨hanswer, ?_, all.tail, hrest, ?_⟩
      · rw [hread]
        exact htotal
      · rw [hread]
        exact truncated_of_reached hlimit _
  | false =>
      cases all with
      | nil =>
          rw [due, if_neg (by rw [hlimit]; decide)] at hanswer hread
          refine ⟨hanswer, ?_, [], hrest, truncated_nil _⟩
          rw [hread]
          exact htotal
      | cons req all =>
          rw [truncated_cons hlimit] at hnone
          cases hnone

theorem stands_cons {total : Nat} {r : Reader} {req : CapturedRequest} {reqs : List CapturedRequest}
    (h : Stands J opts fetch total (req :: reqs) r) :
    (r.next J fetch).1 = .ok req ∧ Stands J opts fetch total reqs (r.next J fetch).2 := by
  obtain ⟨htotal, all, hleft, hsome⟩ := h
  obtain ⟨hanswer, hread, hrest⟩ := hleft.next
  cases hlimit : opts.limitReached r.totalRead with
  | true =>
      rw [truncated_of_reached hlimit] at hsome
      cases hsome
  | false =>
      rw [due, if_neg (by rw [hlimit]; decide)] at hanswer hread
      cases all with
      | nil =>
          rw [truncated_nil] at hsome
          cases hsome
      | cons first all =>
          rw [truncated_cons hlimit] at hsome
          obtain ⟨rfl, rfl⟩ := List.cons.inj hsome
          have hnext : (r.next J fetch).2.totalRead = r.totalRead + 1 := hread
          refine ⟨hanswer, ?_, all, hrest, ?_⟩
          · rw [hnext, ← htotal, List.length_cons]
            omega
          · rw [hnext]

end Left

namespace Source

variable {J : Codec} {opts : ReadOptions}

theorem openObject_key (src : Source opts) {key : Str} (h : key ∈ src.keys) :
    ∃ sc, openObject (fetchFrom src.store fun _ => .none) key = .ok sc ∧ sc.Whole
      ∧ sc.lines.map dropCR = objectLines src.store key := by
  obtain ⟨data, tail, hget, hwhole⟩ := src.whole key h
  refine ⟨_, ?_, hwhole, ?_⟩
  · simp only [openObject, fetchFrom, hget]
    rfl
  · rw [objectLines, hget]

/-- What the lines of all objects come to. -/
theorem filterMap_lines (J : Codec) (src : Source opts) :
    (src.keys.flatMap (fetchedLines (fetchFrom src.store fun _ => .none))).filterMap
      (lineMatch J opts)
      = (src.contents.flatten.filterMap fun line => (J.unmarshal line).toOption).filter
          fun req => matchesReadOptions req opts := by
  have hlines : src.contents.flatten
      = (src.keys.flatMap (fetchedLines (fetchFrom src.store fun _ => .none))).map dropCR := by
    rw [contents, ← List.flatMap_def, List.map_flatMap]
    refine List.flatMap_congr fun key hkey => ?_
    obtain ⟨sc, hopen, -, hsc⟩ := src.openObject_key hkey
    rw [fetchedLines_of_open hopen, hsc]
  rw [hlines, List.filterMap_map, List.filter_filterMap]
  rfl

theorem stands_open (J : Codec) (src : Source opts) :
    Stands J opts (fetchFrom src.store fun _ => .none) (pipeline J opts src.contents).length
      (pipeline J opts src.contents)
      (Reader.open (nounOf src.backend.kind) opts src.keys) := by
  refine ⟨Nat.zero_add _, _, ⟨⟨rfl, rfl, rfl⟩, nofun, ?_, rfl⟩, ?_⟩
  · intro key hkey
    obtain ⟨sc, hopen, hsc, -⟩ := src.openObject_key hkey
    exact ⟨sc, hopen, hsc⟩
  · exact congrArg (truncated opts 0) (src.filterMap_lines J)

theorem answers_eq (J : Codec) (src : Source opts) (n : Nat) :
    (src.answers J n).1 = ((pipeline J opts src.contents).take n).map .ok
        ++ List.replicate (n - (pipeline J opts src.contents).length) (.error errReaderDone)
      ∧ (src.answers J n).2.totalRead = min n (pipeline J opts src.contents).length := by
  obtain ⟨hanswers, htotal, -⟩ :=
    pulls_eq (fun _ => stands_nil) (fun _ _ _ => stands_cons) n (src.stands_open J)
  refine ⟨hanswers, ?_⟩
  rw [List.length_drop] at htotal
  have : (src.answers J n).2.totalRead + ((pipeline J opts src.contents).length - n)
      = (pipeline J opts src.contents).length :=
    htotal
  omega

theorem keys_eq (src : Source opts) : src.keys = listing src.backend src.store opts := by
  have h := src.opened
  simp only [openCapture] at h
  split at h
  · cases h
  · exact (Except.ok.inj h).symm

/-- Of the answers, as many are requests as the list has, and the limit allows. -/
theorem countP_answers (J : Codec) (src : Source opts) (n : Nat) :
    (src.answers J n).1.countP Except.isOk = min n (pipeline J opts src.contents).length := by
  rw [(src.answers_eq J n).1, List.countP_append, List.countP_map, List.countP_replicate]
  have hall : (((pipeline J opts src.contents).take n).countP fun req =>
      (Except.ok (ε := Error) req).isOk)
      = ((pipeline J opts src.contents).take n).length := List.countP_eq_length.mpr fun _ _ => rfl
  exact hall.trans List.length_take

end Source

/-- **The three readers have one specification.** They read the objects of the capture that the date
filter leaves, in key order; the answers are the pipeline's requests and then the end, again and
again; `TotalRead` counts the requests; and readers of the same lines answer alike. -/
theorem readers_agree (J : Codec) (opts : ReadOptions) (src : Source opts) :
    src.keys = Str.sort (src.store.keys.filter (lists src.backend opts))
    ∧ (∀ n, (src.answers J n).1 = ((pipeline J opts src.contents).take n).map .ok
        ++ List.replicate (n - (pipeline J opts src.contents).length) (.error errReaderDone))
    ∧ (∀ n, (src.answers J n).2.totalRead = (src.answers J n).1.countP Except.isOk)
    ∧ ∀ src' : Source opts, src'.contents = src.contents →
      ∀ n, (src'.answers J n).1 = (src.answers J n).1 := by
  refine ⟨src.keys_eq, fun n => (src.answers_eq J n).1, fun n => ?_, fun src' h n => ?_⟩
  · rw [(src.answers_eq J n).2, src.countP_answers]
  · rw [(src'.answers_eq J n).1, (src.answers_eq J n).1, h]

/-! ## One capture in three places -/

def storedRequest : CapturedRequest := ⟨lit "a", 0, lit "GET", lit "/", [], [], 0, lit "HTTP", []⟩

def storedLine : Str := plainLine storedRequest

def storedCodec : Codec :=
  .ofTable [(storedRequest, storedLine)] (by decide +kernel) (by decide +kernel)

/-- Two objects with three requests and a line that does not parse. -/
def cartObjects (dir : Str) : Store :=
  (Store.empty.put (dir ++ lit "/2026-01-04/a.jsonl.gz")
    (.gz (.gzip (storedLine ++ lit "\r\n" ++ storedLine) none))).put
    (dir ++ lit "/2026-01-03/a.jsonl.gz") (.gz (.gzip (storedLine ++ lit "\nx\n") none))

def cartKeys (dir : Str) : List Str :=
  [dir ++ lit "/2026-01-03/a.jsonl.gz", dir ++ lit "/2026-01-04/a.jsonl.gz"]

/-- The first two requests of the capture. -/
def firstTwo : ReadOptions := ⟨lit "shop/cart", 0, 0, [], [], 2⟩

theorem whole_cartObjects {dir : Str}
    (h : (cartObjects dir).get (dir ++ lit "/2026-01-04/a.jsonl.gz")
      = some (.gz (.gzip (storedLine ++ lit "\r\n" ++ storedLine) none))) :
    ∀ key ∈ cartKeys dir, ∃ data tail, (cartObjects dir).get key = some (.gz (.gzip data tail))
      ∧ (Scanner.mk (scanTokens data) tail).Whole := by
  intro key hkey
  rcases List.mem_pair.mp hkey with rfl | rfl
  · exact ⟨_, _, AList.lookup_insert _, rfl, by decide +kernel⟩
  · exact ⟨_, _, h, rfl, by decide +kernel⟩

theorem whole_bucket : ∀ key ∈ cartKeys (lit "data/shop/cart"), ∃ data tail,
    (cartObjects (lit "data/shop/cart")).get key = some (.gz (.gzip data tail))
      ∧ (Scanner.mk (scanTokens data) tail).Whole := whole_cartObjects (by decide +kernel)

theorem whole_volume : ∀ key ∈ cartKeys (lit "/data/shop/cart"), ∃ data tail,
    (cartObjects (lit "/data/shop/cart")).get key = some (.gz (.gzip data tail))
      ∧ (Scanner.mk (scanTokens data) tail).Whole := whole_cartObjects (by decide +kernel)

theorem opened_s3 : openCapture ⟨.s3, lit "data"⟩ (cartObjects (lit "data/shop/cart")) none firstTwo
    = .ok (cartKeys (lit "data/shop/cart")) := by decide +kernel

theorem opened_gcs :
    openCapture ⟨.gcs, lit "data"⟩ (cartObjects (lit "data/shop/cart")) none firstTwo
    = .ok (cartKeys (lit "data/shop/cart")) := by decide +kernel

theorem opened_volume :
    openCapture ⟨.filesystem, lit "/data"⟩ (cartObjects (lit "/data/shop/cart")) none firstTwo
    = .ok (cartKeys (lit "/data/shop/cart")) := by decide +kernel

def s3Cart : Source firstTwo := ⟨_, _, _, opened_s3, whole_bucket⟩

def gcsCart : Source firstTwo := ⟨_, _, _, opened_gcs, whole_bucket⟩

def volumeCart : Source firstTwo := ⟨_, _, _, opened_volume, whole_volume⟩

/-- Of three requests the limit lets two through, wherever they are stored. -/
theorem readers_agree_on_cart : (s3Cart.answers storedCodec 4).1
      = [.ok storedRequest, .ok storedRequest, .error errReaderDone, .error errReaderDone]
    ∧ (gcsCart.answers storedCodec 4).1 = (s3Cart.answers storedCodec 4).1
    ∧ volumeCart.contents = s3Cart.contents
    ∧ (volumeCart.answers storedCodec 4).1 = (s3Cart.answers storedCodec 4).1 := by
  have hsame : volumeCart.contents = s3Cart.contents := by decide +kernel
  obtain ⟨-, hanswers, -, hagree⟩ := readers_agree storedCodec firstTwo s3Cart
  refine ⟨(hanswers 4).trans (by decide +kernel), hagree gcsCart rfl 4, hsame,
    hagree volumeCart hsame 4⟩

end Kapture.Replay
