import Kapture.Go.Fold
import Kapture.Storage.Names

/-!
# Read options

What a `Reader` is asked to load, and the two filters that apply it: one on
object keys before anything is opened, one on every decoded request.
-/

namespace Kapture

open Go

/-- `t.Truncate(24 * time.Hour)`: down to a multiple of a day since the zero time. -/
def Time.truncateDay (t : Time) : Time := t - t % dayDuration

namespace Replay

open Storage

/-- `replay.ReadOptions`. A zero time is no bound, a limit of zero is no limit. -/
structure ReadOptions where
  captureID : Str
  startTime : Time
  endTime : Time
  pathPrefix : Str
  methods : List Str
  limit : Int
deriving DecidableEq, Repr

/-- Options that select a whole capture. -/
def ReadOptions.all (captureID : Str) : ReadOptions := ⟨captureID, 0, 0, [], [], 0⟩

/-- The first path component of a key that is a date, as midnight UTC. -/
def keyDate (key : Str) : Option Time :=
  (Str.split key).findSome? fun part => (parseDate part).map (· * dayDuration)

/-- Whether an object key's date component falls within the time range. Keys
without a date are kept. -/
def filterObjectByTime (key : Str) (startTime endTime : Time) : Bool :=
  if startTime.isZero && endTime.isZero then true
  else
    match keyDate key with
    | none => true
    | some t =>
        if !startTime.isZero && decide (t < startTime.truncateDay) then false
        else if !endTime.isZero && decide (endTime.truncateDay < t) then false
        else true

/-- Whether a request matches the filter criteria. -/
def matchesReadOptions (req : CapturedRequest) (opts : ReadOptions) : Bool :=
  if !opts.startTime.isZero && decide (req.timestamp < opts.startTime) then false
  else if !opts.endTime.isZero && decide (opts.endTime < req.timestamp) then false
  else if !opts.pathPrefix.isEmpty && !req.path.hasPrefix opts.pathPrefix then false
  else opts.methods.isEmpty || opts.methods.any fun m => req.method.equalFold m

/-- The options of a whole capture match everything. -/
theorem matchesReadOptions_all (req : CapturedRequest) (captureID : Str) :
    matchesReadOptions req (.all captureID) = true := rfl

/-! ## Windows -/

/-- The same options for another range of time. -/
def ReadOptions.window (opts : ReadOptions) (startTime endTime : Time) : ReadOptions :=
  { opts with startTime := startTime, endTime := endTime }

/-- **Both ends of a range belong to it**, and a zero time is no end. -/
def Within (a b t : Int) : Prop := (a = 0 ∨ a ≤ t) ∧ (b = 0 ∨ t ≤ b)

theorem before_start_iff (a t : Time) :
    (!a.isZero && decide (t < a)) = true ↔ ¬ (a = 0 ∨ a ≤ t) := by
  rw [Bool.and_eq_true, Bool.not_eq_true', decide_eq_true_iff, not_or, Int.not_le, Time.isZero,
    beq_eq_false_iff_ne]

theorem after_end_iff (b t : Time) : (!b.isZero && decide (b < t)) = true ↔ ¬ (b = 0 ∨ t ≤ b) := by
  rw [Bool.and_eq_true, Bool.not_eq_true', decide_eq_true_iff, not_or, Int.not_le, Time.isZero,
    beq_eq_false_iff_ne]

theorem matches_window_iff (req : CapturedRequest) (opts : ReadOptions) (a b : Time) :
    matchesReadOptions req (opts.window a b) = true ↔
      Within a b req.timestamp ∧ matchesReadOptions req (opts.window 0 0) = true := by
  show (if !a.isZero && decide (req.timestamp < a) then false
    else if !b.isZero && decide (b < req.timestamp) then false
    else matchesReadOptions req (opts.window 0 0)) = true ↔ _
  simp only [before_start_iff, after_end_iff]
  split
  · rename_i hlow
    exact iff_of_false (by decide) fun h => hlow h.1.1
  · rename_i hlow
    split
    · rename_i hhigh
      exact iff_of_false (by decide) fun h => hhigh h.1.2
    · rename_i hhigh
      exact ⟨fun h => ⟨⟨not_not.mp hlow, not_not.mp hhigh⟩, h⟩, fun h => h.2⟩

/-- What two adjacent windows do to one time. -/
theorem within_tile_iff {a b c : Int} (hab : a ≤ b) (hbc : b ≤ c) (t : Int) :
    ((Within a c t ↔ Within a b t ∨ Within b c t) ∧ ¬ (Within a b t ∧ Within b c t)) ↔
      b ≠ 0 ∧ t ≠ b := by
  unfold Within
  omega

/-- **Two windows tile a third**: each request of it is in one of them, and no request is in
both. -/
structure Tiles (opts : ReadOptions) (a b c : Time) (reqs : List CapturedRequest) : Prop where
  together : ∀ req ∈ reqs, matchesReadOptions req (opts.window a c) = true ↔
    matchesReadOptions req (opts.window a b) = true
      ∨ matchesReadOptions req (opts.window b c) = true
  apart : ∀ req ∈ reqs, ¬ (matchesReadOptions req (opts.window a b) = true ∧
    matchesReadOptions req (opts.window b c) = true)

/-- **Adjacent windows tile if and only if nothing lies on their boundary**, and it is one:
a zero time is not. -/
theorem windows_tile_iff (opts : ReadOptions) {a b c : Time} (hab : a ≤ b) (hbc : b ≤ c)
    (reqs : List CapturedRequest) :
    Tiles opts a b c reqs ↔ ∀ req ∈ reqs, matchesReadOptions req (opts.window 0 0) = true →
      b ≠ 0 ∧ req.timestamp ≠ b := by
  constructor
  · intro h req hreq hrest
    have htog := h.together req hreq
    have hapart := h.apart req hreq
    rw [matches_window_iff req opts a c, matches_window_iff req opts a b,
      matches_window_iff req opts b c] at htog
    rw [matches_window_iff req opts a b, matches_window_iff req opts b c] at hapart
    simp only [hrest, and_true] at htog hapart
    exact (within_tile_iff hab hbc req.timestamp).mp ⟨htog, hapart⟩
  · intro h
    have key : ∀ req ∈ reqs, matchesReadOptions req (opts.window 0 0) = true →
        (Within a c req.timestamp ↔ Within a b req.timestamp ∨ Within b c req.timestamp) ∧
          ¬ (Within a b req.timestamp ∧ Within b c req.timestamp) :=
      fun req hreq hrest => (within_tile_iff hab hbc req.timestamp).mpr (h req hreq hrest)
    refine ⟨fun req hreq => ?_, fun req hreq => ?_⟩
    · rw [matches_window_iff req opts a c, matches_window_iff req opts a b,
        matches_window_iff req opts b c, ← or_and_right]
      exact and_congr_left fun hrest => (key req hreq hrest).1
    · rw [matches_window_iff req opts a b, matches_window_iff req opts b c]
      rintro ⟨⟨hfirst, hrest⟩, hsecond, _⟩
      exact (key req hreq hrest).2 ⟨hfirst, hsecond⟩

/-- A request at a time. -/
def seenAt (t : Time) : CapturedRequest :=
  ⟨lit "a", t, lit "GET", lit "/", [], [], 0, lit "HTTP/1.1", []⟩

theorem windows_tile_apart : Tiles (.all []) 10 20 30 [seenAt 10, seenAt 19, seenAt 30] :=
  (windows_tile_iff (.all []) (by decide) (by decide) _).mpr (by decide +kernel)

/-- A request on the boundary is in both windows. -/
theorem windows_overlap : ¬ Tiles (.all []) 10 20 30 [seenAt 20] :=
  fun h => h.apart (seenAt 20) (List.mem_singleton.mpr rfl) ⟨by decide +kernel, by decide +kernel⟩

end Replay

end Kapture
