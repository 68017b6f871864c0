import Kapture.Dataset.Manifests
import Kapture.Lib.Pick
import Kapture.Worker.Run

/-!
# What the filters leave of a capture

The time filter works twice, on the dates in the keys of objects and on the
timestamps of requests, and the limit counts what both have let through. A worker
that reads the whole capture applies its shard after that; a slice was cut before it.
Both are selections from the capture, each request marked with the key of its object.
-/

namespace Kapture.Worker

open Go Storage Replay Dataset Pick

variable {J : Codec} {b : Backend} {s : Store} {captureID : Str} {opts : ReadOptions}

/-- The requests of a capture, each with the key of its object. -/
def marked (J : Codec) (b : Backend) (captureID : Str) (s : Store) : List (Str × CapturedRequest) :=
  (listing b s (.all captureID)).flatMap fun key =>
    (objectRequests J (fetchFrom s fun _ => .none) key).map (key, ·)

/-- An object is listed in spite of the time filter. -/
def visible (opts : ReadOptions) (key : Str) : Bool :=
  filterObjectByTime key opts.startTime opts.endTime

/-- A request that the reader of the whole capture returns, but for the limit. -/
def seen (opts : ReadOptions) (x : Str × CapturedRequest) : Bool :=
  visible opts x.1 && matchesReadOptions x.2 opts

/-- A request of the shard that matches. -/
def mine (opts : ReadOptions) (index count : Int64) (x : Str × CapturedRequest) : Bool :=
  shardOwns x.2.id index count && matchesReadOptions x.2 opts

/-- What the worker with the hash filter sends: the limit counts every request seen. -/
def hashKeeps (opts : ReadOptions) (index count : Int64) (before : List (Str × CapturedRequest))
    (x : Str × CapturedRequest) : Bool :=
  seen opts x && !opts.limitReached (before.countP (seen opts)) && shardOwns x.2.id index count

/-- What the worker on a slice sends: the limit counts the requests of the shard.
`listed` is whether the objects of the slice are visible. -/
def sliceKeeps (opts : ReadOptions) (listed : Bool) (index count : Int64)
    (before : List (Str × CapturedRequest)) (x : Str × CapturedRequest) : Bool :=
  listed && (mine opts index count x && !opts.limitReached (before.countP (mine opts index count)))

/-! ## Reading with filters -/

theorem map_snd_marked : (marked J b captureID s).map Prod.snd = captured J b captureID s := by
  simp [marked, captured, List.map_flatMap, Function.comp_def]

theorem listing_eq_filter (b : Backend) (s : Store) (opts : ReadOptions) :
    listing b s opts = (listing b s (.all opts.captureID)).filter (visible opts) := by
  have hmem : ∀ k, k ∈ (s.keys.filter (lists b opts))
      ↔ k ∈ (listing b s (.all opts.captureID)).filter (visible opts) := by
    intro k
    rw [List.mem_filter, List.mem_filter, mem_listing, lists_all, Store.mem_keys_iff]
    simp only [lists, visible, Bool.and_eq_true]
    tauto
  have hsorted : ((listing b s (.all opts.captureID)).filter (visible opts)).Pairwise (· ≤ ·) :=
    (Str.sorted_sort _).filter _
  have hself : Str.sort ((listing b s (.all opts.captureID)).filter (visible opts))
      = (listing b s (.all opts.captureID)).filter (visible opts) :=
    List.Pairwise.insertionSort_eq hsorted
  rw [← hself]
  exact Str.sort_eq_of_mem_iff (s.nodup_keys.filter _) ((nodup_listing b s _).filter _) hmem

theorem requests_listing (hopts : opts.captureID = captureID) :
    (listing b s opts).flatMap (objectRequests J (fetchFrom s fun _ => .none))
      = ((marked J b captureID s).filter fun x => visible opts x.1).map Prod.snd := by
  rw [listing_eq_filter, hopts, marked]
  induction listing b s (.all captureID) with
  | nil => rfl
  | cons key rest ih =>
      have hkey : ∀ reqs : List CapturedRequest,
          ((reqs.map (key, ·)).filter fun x => visible opts x.1).map Prod.snd
            = if visible opts key then reqs else [] := by
        intro reqs
        rw [List.filter_map, List.map_map]
        cases hv : visible opts key <;> simp [Function.comp_def, hv]
      rw [List.flatMap_cons, List.filter_append, List.map_append, hkey, ← ih]
      cases hv : visible opts key with
      | false => rw [List.filter_cons_of_neg (by simp [hv])]; rfl
      | true => rw [List.filter_cons_of_pos hv, List.flatMap_cons, if_pos rfl]

/-- A reader whose objects can all be read returns what is there, up to the limit. -/
theorem drain_of_no_failure {noun : String} {g : Fetch} {objects : List Str}
    (h : firstFailure noun g objects = none) :
    (drain J noun opts g objects).reqs = wholeCapture J opts g objects
      ∧ (drain J noun opts g objects).last = errReaderDone := by
  rw [wholeCapture, ← stored_eq h]
  by_cases hcut : Cut opts 0 (matching opts (stored J noun g objects))
  · obtain ⟨hreqs, hlast⟩ := drainObjects_of_cut objects 0 hcut
    exact ⟨by rw [drain, hreqs, takeLimit, if_pos hcut.1, Nat.sub_zero], hlast⟩
  · obtain ⟨hreqs, hlast, _⟩ := drainObjects_of_not_cut objects 0 hcut
    exact ⟨by rw [drain, hreqs, takeLimit_of_not_cut hcut], by rw [drain, hlast, h]; rfl⟩

/-- **A read of a readable capture**, whatever the filters. -/
theorem readCapture_of_readable (hopts : opts.captureID = captureID) (h : Readable b captureID s)
    (hdir : b.kind = .filesystem → dirExists s (basePath b.root captureID) = true) :
    ∃ run, readCapture J b s none (fun _ => .none) opts = .ok run
      ∧ run.reqs = wholeCapture J opts (fetchFrom s fun _ => .none) (listing b s opts)
      ∧ run.last = errReaderDone := by
  have hopen : openCapture b s none opts = .ok (listing b s opts) := by
    simp only [openCapture, hopts]
    by_cases hk : b.kind = .filesystem
    · simp [hdir hk]
    · simp [hk]
  have hnone : firstFailure (nounOf b.kind) (fetchFrom s fun _ => .none)
      (listing b s opts) = none := by
    rw [listing_eq_filter, hopts]
    refine List.findSome?_eq_none_iff.mpr fun k hk => ?_
    exact List.findSome?_eq_none_iff.mp h k (List.mem_of_mem_filter hk)
  obtain ⟨hreqs, hlast⟩ := drain_of_no_failure (J := J) hnone
  exact ⟨_, by rw [readCapture, hopen]; rfl, hreqs, hlast⟩

/-! ## The limit as a selection -/

/-- The first `Limit` of the elements that pass `p`. -/
theorem takeLimit_filter {α : Type} (f : α → CapturedRequest) (p : α → Bool) (xs : List α) :
    takeLimit opts ((xs.filter p).map f)
      = (pick (fun ys x => p x && !opts.limitReached (ys.countP p)) [] xs).map f := by
  unfold takeLimit
  split
  · rename_i hpos
    have htake := take_filter_eq_pick (p := p) opts.limit.toNat [] xs
    rw [List.countP_nil, Nat.sub_zero] at htake
    rw [← List.map_take, htake]
    refine congrArg _ (pick_congr [] xs fun j hj => ?_)
    congr 1
    rw [Bool.eq_iff_iff]
    simp only [ReadOptions.limitReached, decide_eq_true_eq, Bool.not_eq_true',
      Bool.and_eq_false_iff, decide_eq_false_iff_not]
    omega
  · rename_i hpos
    rw [filter_eq_pick []]
    refine congrArg _ (pick_congr [] xs fun j hj => ?_)
    simp [ReadOptions.limitReached, hpos]

theorem matching_map (xs : List (Str × CapturedRequest)) :
    matching opts (xs.map Prod.snd)
      = (xs.filter fun x => matchesReadOptions x.2 opts).map Prod.snd := by
  rw [matching, List.filter_map]
  rfl

/-- **What the hash filter leaves.** -/
theorem hash_requests (index count : Int64) (hopts : opts.captureID = captureID) :
    (wholeCapture J opts (fetchFrom s fun _ => .none) (listing b s opts)).filter
        (fun req => shardOwns req.id index count)
      = (pick (hashKeeps opts index count) [] (marked J b captureID s)).map Prod.snd := by
  rw [wholeCapture, requests_listing hopts, matching_map, List.filter_filter]
  have hseen : (fun x : Str × CapturedRequest => matchesReadOptions x.2 opts && visible opts x.1)
      = seen opts := by
    funext x
    rw [seen, Bool.and_comm]
  rw [hseen, takeLimit_filter, List.filter_map, filter_pick]
  rfl

theorem takeLimit_eq_nil_iff (reqs : List CapturedRequest) :
    takeLimit opts reqs = [] ↔ reqs = [] := by
  unfold takeLimit
  split
  · rw [List.take_eq_nil_iff]
    constructor
    · rintro (h | h)
      · omega
      · exact h
    · exact Or.inr
  · rfl

theorem wholeCapture_ne_nil_iff (hopts : opts.captureID = captureID) :
    wholeCapture J opts (fetchFrom s fun _ => .none) (listing b s opts) ≠ []
      ↔ ∃ x ∈ marked J b captureID s, seen opts x = true := by
  rw [wholeCapture, requests_listing hopts, matching_map, List.filter_filter, ne_eq,
    takeLimit_eq_nil_iff, List.map_eq_nil_iff, List.filter_eq_nil_iff]
  simp [seen, and_comm]

end Kapture.Worker
