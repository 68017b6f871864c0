import Kapture.Replay.Listing
import Kapture.Storage.Session

/-!
# Reading back what a writer wrote

A writer appends one line of JSON per request and no byte below a space except the
newline, so the scanner finds the lines again. A line as long as the scanner's
buffer is the one thing that can go wrong with an object that was stored whole.
-/

namespace Kapture.Replay

open Go Storage

variable {J : Codec} {noun : String} {g : Fetch} {key : Str} {reqs : List CapturedRequest}
  {req : CapturedRequest}

/-- A request that came out of a capture. -/
def Decoded (J : Codec) (req : CapturedRequest) : Prop := ∃ line, J.unmarshal line = .ok req

/-- The line of a request, without its newline. -/
def lineOf (J : Codec) (req : CapturedRequest) : Str :=
  match J.marshal req with
  | .ok line => line
  | .error _ => []

theorem Decoded.line (h : Decoded J req) :
    J.marshal req = .ok (lineOf J req) ∧ J.unmarshal (lineOf J req) = .ok req := by
  obtain ⟨line, hl⟩ := h
  obtain ⟨line', hm, hu⟩ := J.roundTrip line req hl
  have hline : lineOf J req = line' := by simp [lineOf, hm]
  rw [hline]
  exact ⟨hm, hu⟩

theorem Decoded.marshals (h : Decoded J req) : Marshals J req :=
  ⟨_, h.line.1⟩

/-- **What was read can be written again.** -/
theorem decoded_of_mem_objectRequests (h : req ∈ objectRequests J g key) : Decoded J req := by
  unfold objectRequests at h
  split at h
  · cases h
  · obtain ⟨line, _, hl⟩ := List.mem_filterMap.mp h
    cases hu : J.unmarshal (dropCR line) with
    | error err => simp [hu, Except.toOption] at hl
    | ok r =>
        simp only [hu, Except.toOption, Option.some.injEq] at hl
        exact ⟨_, hl ▸ hu⟩

theorem objectFailure_congr {g' : Fetch} (h : g' key = g key) :
    objectFailure noun g' key = objectFailure noun g key := by
  simp only [objectFailure, openObject, h]

theorem objectRequests_congr {g' : Fetch} (h : g' key = g key) :
    objectRequests J g' key = objectRequests J g key := by
  simp only [objectRequests, openObject, h]

theorem scanTokens_line {line : Str} (h : 10 ∉ line) (rest : Str) :
    scanTokens (line ++ 10 :: rest) = line :: scanTokens rest := by
  induction line with
  | nil => simp [scanTokens]
  | cons c line ih =>
      have hc : c ≠ 10 := fun hc => h (by simp [hc])
      have hl : 10 ∉ line := fun hl => h (List.mem_cons_of_mem _ hl)
      simp [scanTokens, hc, ih hl]

theorem scanTokens_encode (h : ∀ req ∈ reqs, Marshals J req) :
    scanTokens (encode J reqs) = reqs.map (lineOf J) := by
  induction reqs with
  | nil => rfl
  | cons req rest ih =>
      obtain ⟨line, hl⟩ := h req (List.mem_cons_self ..)
      have hnl : 10 ∉ line := fun hm => absurd (J.printable req line hl 10 hm) (by decide)
      have hline : jsonLine J req = line ++ [10] := by simp [jsonLine, hl]
      have hof : lineOf J req = line := by simp [lineOf, hl]
      have ih' : scanTokens (rest.flatMap (jsonLine J)) = rest.map (lineOf J) :=
        ih fun r hr => h r (List.mem_cons_of_mem _ hr)
      rw [encode, List.flatMap_cons, hline, List.append_assoc, List.singleton_append,
        scanTokens_line hnl, ih', List.map_cons, hof]

theorem dropCR_lineOf (h : Marshals J req) : dropCR (lineOf J req) = lineOf J req := by
  obtain ⟨line, hl⟩ := h
  have hof : lineOf J req = line := by simp [lineOf, hl]
  rw [hof, dropCR, if_neg]
  intro hlast
  exact absurd (J.printable req line hl 13 (List.mem_of_getLast? hlast)) (by decide)

/-- The line fits into the scanner's buffer. -/
def Fits (J : Codec) (req : CapturedRequest) : Prop := (lineOf J req).length < maxTokenSize

instance (req : CapturedRequest) : Decidable (Fits J req) :=
  inferInstanceAs (Decidable (_ < _))

theorem openObject_chunk (hg : g key = .ok (.gzip (encode J reqs) none))
    (h : ∀ req ∈ reqs, Decoded J req) :
    openObject g key = .ok ⟨reqs.map (lineOf J), none⟩ := by
  rw [openObject, hg]
  simp only [gzipNewReader]
  rw [scanTokens_encode fun req hreq => (h req hreq).marshals]

/-- **A stored chunk is read back as it was written.** -/
theorem objectRequests_chunk (hg : g key = .ok (.gzip (encode J reqs) none))
    (h : ∀ req ∈ reqs, Decoded J req) (hfit : ∀ req ∈ reqs, Fits J req) :
    objectRequests J g key = reqs := by
  simp only [objectRequests, openObject_chunk hg h, lineRequests]
  have htake : (reqs.map (lineOf J)).takeWhile (fun line => line.length < maxTokenSize)
      = reqs.map (lineOf J) := by
    refine List.takeWhile_eq_self_iff.mpr fun line hl => ?_
    obtain ⟨req, hreq, rfl⟩ := List.mem_map.mp hl
    exact decide_eq_true (hfit req hreq)
  rw [htake, List.filterMap_map]
  have hsome : ∀ req ∈ reqs, (J.unmarshal (dropCR (lineOf J req))).toOption = some req := by
    intro req hreq
    rw [dropCR_lineOf (h req hreq).marshals, (h req hreq).line.2]
    rfl
  exact (List.filterMap_congr hsome).trans List.filterMap_some

theorem objectFailure_chunk (hg : g key = .ok (.gzip (encode J reqs) none))
    (h : ∀ req ∈ reqs, Decoded J req) :
    objectFailure noun g key
      = if ∀ req ∈ reqs, Fits J req then none else some (scanError noun key errTooLong) := by
  simp only [objectFailure, openObject_chunk hg h, lineFailure, scannerErr]
  by_cases hfit : ∀ req ∈ reqs, Fits J req
  · have hany : (reqs.map (lineOf J)).any (fun line => decide (maxTokenSize ≤ line.length))
        = false := by
      rw [List.any_eq_false]
      intro line hl
      obtain ⟨req, hreq, rfl⟩ := List.mem_map.mp hl
      have := hfit req hreq
      simp only [Fits] at this
      simpa using this
    rw [hany, if_pos hfit]
    rfl
  · have hany : (reqs.map (lineOf J)).any (fun line => decide (maxTokenSize ≤ line.length))
        = true := by
      push Not at hfit
      obtain ⟨req, hreq, hlong⟩ := hfit
      simp only [Fits, not_lt] at hlong
      rw [List.any_eq_true]
      exact ⟨_, List.mem_map_of_mem hreq, decide_eq_true hlong⟩
    rw [hany, if_neg hfit]
    rfl

end Kapture.Replay
