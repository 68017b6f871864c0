import Kapture.Replay.Reader

/-!
# Reading a capture to its end

A consumer calls `Next` until it returns an error. `consumeObjects` computes such
a loop by recursion over the objects and their lines, and `drives_open` says that
it does what the calls do. While nobody writes to the objects that are read, the
loop is a walk over a fixed list of requests (`consumeObjects_eq_walk`), which
`drain` computes.

`drainObjects_of_not_cut` and `drainObjects_of_cut` are the specification: the
requests of the objects up to the first one that fails, filtered, and cut at the
limit.
-/

namespace Kapture.Replay

open Go Storage Pull

variable {ω δ : Type}

/-- A consumer's loop over `Next`, run to its end. -/
structure Consumed (ω δ : Type) where
  stop : Stop Error δ
  world : ω
  /-- The keys of the objects that were read to their end. -/
  finished : List Str

def Consumed.finish (key : Str) (c : Consumed ω δ) : Consumed ω δ :=
  { c with finished := key :: c.finished }

section Consume

variable (J : Codec) (noun : String) (opts : ReadOptions) (fetch : ω → Fetch)
  (consume : CapturedRequest → ω → Except δ Unit × ω)

/-- The loop over the lines of one object, and `rest` after its end. -/
def consumeLines (key : Str) (err : Option Error) (rest : Nat → ω → Consumed ω δ) :
    List Str → Nat → ω → Consumed ω δ
  | [], n, w =>
      match err with
      | some e => ⟨.ended (scanError noun key e), w, []⟩
      | none => (rest n w).finish key
  | line :: lines, n, w =>
      if maxTokenSize ≤ line.length then ⟨.ended (scanError noun key errTooLong), w, []⟩
      else
        match J.unmarshal (dropCR line) with
        | .error _ => consumeLines key err rest lines n w
        | .ok req =>
            if !matchesReadOptions req opts then consumeLines key err rest lines n w
            else if opts.limitReached n then ⟨.ended errReaderDone, w, []⟩
            else
              match consume req w with
              | (.error e, w') => ⟨.refused e, w', []⟩
              | (.ok (), w') => consumeLines key err rest lines (n + 1) w'

/-- The loop over these objects, after `n` requests. Each is fetched when its turn
comes. -/
def consumeObjects : List Str → Nat → ω → Consumed ω δ
  | [], _, w => ⟨.ended errReaderDone, w, []⟩
  | key :: rest, n, w =>
      match openObject (fetch w) key with
      | .error err => ⟨.ended (openError noun key err), w, []⟩
      | .ok sc =>
          consumeLines J noun opts consume key (scannerErr sc.tail) (consumeObjects rest)
            sc.lines n w

end Consume

/-! ## The loop does what the calls of `Next` do -/

section Drives

variable {J : Codec} {noun : String} {opts : ReadOptions} {fetch : ω → Fetch}
  {consume : CapturedRequest → ω → Except δ Unit × ω}

/-- Calling `Next` from `r` on, and consuming what it returns, comes to `c`. -/
def Runs (J : Codec) (fetch : ω → Fetch) (consume : CapturedRequest → ω → Except δ Unit × ω)
    (w : ω) (r : Reader) (c : Consumed ω δ) : Prop :=
  ∃ r', Drives (fun w => Reader.next J (fetch w)) consume w r c.stop c.world r'
    ∧ r'.finished = r.finished ++ c.finished

/-- A reader between `Open` and `Close`. -/
def Active (noun : String) (opts : ReadOptions) (r : Reader) : Prop :=
  r.opened = true ∧ r.closed = false ∧ r.noun = noun ∧ r.opts = opts

theorem Runs.of_next_eq {w : ω} {r t : Reader} {c : Consumed ω δ}
    (h : r.next J (fetch w) = t.next J (fetch w)) (hf : r.finished = t.finished)
    (ht : Runs J fetch consume w t c) : Runs J fetch consume w r c := by
  obtain ⟨r', hd, hfin⟩ := ht
  exact ⟨r', hd.of_next_eq h, by rw [hf, hfin]⟩

theorem runs_ended {w : ω} {r r' : Reader} {err : Error}
    (h : r.next J (fetch w) = (.error err, r')) (hf : r'.finished = r.finished) :
    Runs J fetch consume w r ⟨.ended err, w, []⟩ :=
  ⟨r', .ended h, by simp [hf]⟩

theorem runs_refused {w w' : ω} {r r' : Reader} {req : CapturedRequest} {err : δ}
    (h : r.next J (fetch w) = (.ok req, r')) (hf : r'.finished = r.finished)
    (hc : consume req w = (.error err, w')) :
    Runs J fetch consume w r ⟨.refused err, w', []⟩ :=
  ⟨r', .refused h hc, by simp [hf]⟩

theorem Runs.item {w w' : ω} {r r' : Reader} {req : CapturedRequest} {c : Consumed ω δ}
    (h : r.next J (fetch w) = (.ok req, r')) (hf : r'.finished = r.finished)
    (hc : consume req w = (.ok (), w')) (hr : Runs J fetch consume w' r' c) :
    Runs J fetch consume w r c := by
  obtain ⟨r'', hd, hfin⟩ := hr
  exact ⟨r'', .item h hc hd, by rw [hfin, hf]⟩

/-- Where the reader stood does not matter to the objects that are left. -/
theorem nextObject_congr (f : Fetch) (objs : List Str) (c : Option (Str × Scanner)) (r : Reader) :
    nextObject J f objs { r with current := c } = nextObject J f objs r := by
  cases objs with
  | nil => rfl
  | cons key rest => rfl

theorem next_of_some {f : Fetch} {r : Reader} (ha : Active noun opts r) {key : Str} {sc : Scanner}
    (hc : r.current = some (key, sc)) :
    r.next J f = scanCurrent J key sc (nextObject J f r.objects) r := by
  obtain ⟨ho, hcl, _, _⟩ := ha
  simp only [Reader.next, ho, hcl, hc, Bool.not_true, Bool.false_eq_true, if_false]

theorem next_of_none {f : Fetch} {r : Reader} (ha : Active noun opts r) (hc : r.current = none) :
    r.next J f = nextObject J f r.objects r := by
  obtain ⟨ho, hcl, _, _⟩ := ha
  simp only [Reader.next, ho, hcl, hc, Bool.not_true, Bool.false_eq_true, if_false]

/-- Skipping a line of the current object is invisible. -/
theorem next_skip {f : Fetch} {r : Reader} (ha : Active noun opts r) {key line : Str}
    {lines : List Str} {tail : Option Error}
    (hc : r.current = some (key, ⟨line :: lines, tail⟩))
    (h : scanLines J opts r.totalRead (line :: lines) = scanLines J opts r.totalRead lines) :
    r.next J f = Reader.next J f { r with current := some (key, ⟨lines, tail⟩) } := by
  have hs : Active noun opts { r with current := some (key, ⟨lines, tail⟩) } := ha
  rw [next_of_some ha hc, next_of_some hs rfl]
  rw [← ha.2.2.2] at h
  simp only [scanCurrent, h]
  cases scanLines J r.opts r.totalRead lines with
  | hit req rest => rfl
  | limit rest => rfl
  | tooLong => rfl
  | done =>
      cases scannerErr tail with
      | some err => rfl
      | none =>
          exact (nextObject_congr f r.objects _ { r with finished := r.finished ++ [key] }).symm

/-- **Scanning one object**: the calls do what `consumeLines` computes, if they do so
for the objects after it. -/
theorem runs_consumeLines {objs : List Str} {key : Str} {tail : Option Error}
    (hrest : ∀ (w : ω) (r : Reader), Active noun opts r → r.current = none → r.objects = objs →
      Runs J fetch consume w r (consumeObjects J noun opts fetch consume objs r.totalRead w))
    (lines : List Str) (w : ω) (r : Reader) (ha : Active noun opts r)
    (hc : r.current = some (key, ⟨lines, tail⟩)) (ho : r.objects = objs) :
    Runs J fetch consume w r (consumeLines J noun opts consume key (scannerErr tail)
      (consumeObjects J noun opts fetch consume objs) lines r.totalRead w) := by
  induction lines generalizing w r with
  | nil =>
      have hn := next_of_some (J := J) (f := fetch w) ha hc
      obtain ⟨_, _, rfl, rfl⟩ := id ha
      simp only [scanCurrent, scanLines] at hn
      simp only [consumeLines]
      cases herr : scannerErr tail with
      | some err =>
          simp only [herr] at hn
          exact runs_ended hn rfl
      | none =>
          simp only [herr] at hn
          -- the next call goes on exactly as from a reader without a current object
          have hs : Active r.noun r.opts
              { r with current := none, finished := r.finished ++ [key] } := ha
          obtain ⟨r', hd, hfin⟩ := hrest w _ hs rfl ho
          refine ⟨r', hd.of_next_eq ?_, by rw [hfin]; simp [Consumed.finish]⟩
          rw [hn, next_of_none hs rfl]
          exact (nextObject_congr _ r.objects none { r with finished := r.finished ++ [key] }).symm
  | cons line lines ih =>
      have hskip : scanLines J opts r.totalRead (line :: lines)
            = scanLines J opts r.totalRead lines →
          Runs J fetch consume w r (consumeLines J noun opts consume key (scannerErr tail)
            (consumeObjects J noun opts fetch consume objs) lines r.totalRead w) := fun h =>
        (ih w { r with current := some (key, ⟨lines, tail⟩) } ha rfl ho).of_next_eq
          (next_skip ha hc h) rfl
      have hn := next_of_some (J := J) (f := fetch w) ha hc
      obtain ⟨_, _, rfl, rfl⟩ := id ha
      simp only [scanCurrent, scanLines] at hn
      simp only [scanLines] at hskip
      simp only [consumeLines]
      split
      · rename_i hlong
        simp only [hlong, if_true] at hn
        exact runs_ended hn rfl
      · rename_i hlong
        simp only [hlong, if_false] at hn hskip
        split
        · rename_i hj
          simp only [hj] at hskip
          exact hskip trivial
        · rename_i req hj
          simp only [hj] at hn hskip
          split
          · rename_i hm
            simp only [hm, if_true] at hskip
            exact hskip trivial
          · rename_i hm
            split
            · rename_i hl
              simp only [hm, hl, if_true] at hn
              exact runs_ended hn rfl
            · rename_i hl
              simp only [hm, hl] at hn
              split
              · rename_i e w' hcons
                exact runs_refused hn rfl hcons
              · rename_i w' hcons
                exact Runs.item hn rfl hcons
                  (ih w' { r with current := some (key, ⟨lines, tail⟩),
                                  totalRead := r.totalRead + 1 } ha rfl ho)

/-- **Reading the objects that are left.** -/
theorem runs_consumeObjects (objs : List Str) (w : ω) (r : Reader) (ha : Active noun opts r)
    (hc : r.current = none) (ho : r.objects = objs) :
    Runs J fetch consume w r (consumeObjects J noun opts fetch consume objs r.totalRead w) := by
  induction objs generalizing w r with
  | nil =>
      have hn := next_of_none (J := J) (f := fetch w) ha hc
      rw [ho] at hn
      exact runs_ended hn rfl
  | cons key rest ih =>
      have hn := next_of_none (J := J) (f := fetch w) ha hc
      rw [ho] at hn
      simp only [nextObject] at hn
      simp only [consumeObjects]
      split
      · rename_i err hop
        simp only [hop, ha.2.2.1] at hn
        exact runs_ended hn rfl
      · rename_i sc hop
        simp only [hop] at hn
        have hs : Active noun opts { r with objects := rest, current := some (key, sc) } := ha
        have hcur := runs_consumeLines (J := J) ih sc.lines w _ hs rfl rfl
        exact hcur.of_next_eq (hn.trans (next_of_some hs rfl).symm) rfl

/-- **`consumeObjects` is what a consumer's loop over `Next` does.** -/
theorem drives_open (objects : List Str) (w : ω) :
    ∃ r', Drives (fun w => Reader.next J (fetch w)) consume w (.open noun opts objects)
        (consumeObjects J noun opts fetch consume objects 0 w).stop
        (consumeObjects J noun opts fetch consume objects 0 w).world r'
      ∧ r'.finished = (consumeObjects J noun opts fetch consume objects 0 w).finished := by
  obtain ⟨r', hd, hfin⟩ := runs_consumeObjects objects w
    (.open noun opts objects) ⟨rfl, rfl, rfl, rfl⟩ rfl rfl
  exact ⟨r', hd, hfin⟩

end Drives

/-! ## A capture nobody writes to -/

/-- All that the calls of `Next` on one reader return. -/
structure ReaderRun where
  /-- The requests, in order. -/
  reqs : List CapturedRequest
  /-- The error of the last call. -/
  last : Error
  /-- The keys of the objects that were read to their end. -/
  finished : List Str
deriving DecidableEq, Repr

namespace ReaderRun

def stop (err : Error) : ReaderRun := ⟨[], err, []⟩

def push (req : CapturedRequest) (run : ReaderRun) : ReaderRun :=
  { run with reqs := req :: run.reqs }

def finish (key : Str) (run : ReaderRun) : ReaderRun :=
  { run with finished := key :: run.finished }

def pushAll (reqs : List CapturedRequest) (run : ReaderRun) : ReaderRun :=
  { run with reqs := reqs ++ run.reqs }

theorem push_pushAll (req : CapturedRequest) (reqs : List CapturedRequest) (run : ReaderRun) :
    (run.pushAll reqs).push req = run.pushAll (req :: reqs) := rfl

end ReaderRun

variable (J : Codec) (noun : String) (opts : ReadOptions) (f : Fetch)

/-- The calls that scan the lines of one object, and `rest` after its end. -/
def drainLines (key : Str) (err : Option Error) (rest : Nat → ReaderRun) :
    List Str → Nat → ReaderRun
  | [], n =>
      match err with
      | some e => .stop (scanError noun key e)
      | none => (rest n).finish key
  | line :: lines, n =>
      if maxTokenSize ≤ line.length then .stop (scanError noun key errTooLong)
      else
        match J.unmarshal (dropCR line) with
        | .error _ => drainLines key err rest lines n
        | .ok req =>
            if !matchesReadOptions req opts then drainLines key err rest lines n
            else if opts.limitReached n then .stop errReaderDone
            else (drainLines key err rest lines (n + 1)).push req

/-- The calls that read these objects, after `n` requests. -/
def drainObjects : List Str → Nat → ReaderRun
  | [], _ => .stop errReaderDone
  | key :: rest, n =>
      match openObject f key with
      | .error err => .stop (openError noun key err)
      | .ok sc => drainLines J noun opts key (scannerErr sc.tail) (drainObjects rest) sc.lines n

/-- All that `Next` returns on a reader that was opened on these objects. -/
def drain (objects : List Str) : ReaderRun := drainObjects J noun opts f objects 0

variable {J noun opts f} in
/-- Only the objects that are read matter. -/
theorem drainObjects_congr {g : Fetch} {objs : List Str} {n : Nat}
    (h : ∀ key ∈ objs, f key = g key) :
    drainObjects J noun opts f objs n = drainObjects J noun opts g objs n := by
  induction objs generalizing n with
  | nil => rfl
  | cons key rest ih =>
      have hop : openObject f key = openObject g key := by
        simp only [openObject, h key (List.mem_cons_self ..)]
      have hrest : drainObjects J noun opts f rest = drainObjects J noun opts g rest := by
        funext n
        exact ih fun k hk => h k (List.mem_cons_of_mem _ hk)
      rw [drainObjects, drainObjects, hop, hrest]

section Walk

variable {J noun opts f} {fetch : ω → Fetch} {consume : CapturedRequest → ω → Except δ Unit × ω}
  {P : ω → Prop}

/-- How a loop over a fixed run ends. -/
def Ends (consume : CapturedRequest → ω → Except δ Unit × ω) (run : ReaderRun) (w : ω)
    (c : Consumed ω δ) : Prop :=
  match walk consume run.reqs w with
  | (.error err, w') => c.stop = .refused err ∧ c.world = w'
  | (.ok (), w') => c = ⟨.ended run.last, w', run.finished⟩

theorem Ends.finish {run : ReaderRun} {w : ω} {c : Consumed ω δ} (key : Str)
    (h : Ends consume run w c) : Ends consume (run.finish key) w (c.finish key) := by
  unfold Ends at h ⊢
  simp only [ReaderRun.finish]
  split at h
  · exact h
  · rw [h]
    rfl

theorem Ends.push {run : ReaderRun} {w w' : ω} {req : CapturedRequest} {c : Consumed ω δ}
    (hc : consume req w = (.ok (), w')) (h : Ends consume run w' c) :
    Ends consume (run.push req) w c := by
  unfold Ends at h ⊢
  simp only [ReaderRun.push, walk, hc]
  exact h

theorem ends_consumeLines {key : Str} {err : Option Error} {rest : Nat → ω → Consumed ω δ}
    {drained : Nat → ReaderRun}
    (hrest : ∀ n w, (∀ req ∈ (drained n).reqs, ∀ w, P w → P (consume req w).2) → P w →
      Ends consume (drained n) w (rest n w)) (lines : List Str) (n : Nat) (w : ω)
    (hP : ∀ req ∈ (drainLines J noun opts key err drained lines n).reqs,
      ∀ w, P w → P (consume req w).2) (hw : P w) :
    Ends consume (drainLines J noun opts key err drained lines n) w
      (consumeLines J noun opts consume key err rest lines n w) := by
  induction lines generalizing n w with
  | nil =>
      simp only [drainLines, consumeLines] at hP ⊢
      cases err with
      | some e => exact rfl
      | none => exact (hrest n w hP hw).finish key
  | cons line lines ih =>
      simp only [drainLines, consumeLines] at hP ⊢
      split
      · exact rfl
      · rename_i hlen
        rw [if_neg hlen] at hP
        split
        · rename_i err' hu
          simp only [hu] at hP
          exact ih n w hP hw
        · rename_i req hu
          simp only [hu] at hP
          split
          · rename_i hm
            rw [if_pos hm] at hP
            exact ih n w hP hw
          · rename_i hm
            rw [if_neg hm] at hP
            split
            · exact rfl
            · rename_i hlim
              rw [if_neg hlim] at hP
              split
              · rename_i e w' hc
                simp only [Ends, ReaderRun.push, walk, hc]
                exact ⟨trivial, trivial⟩
              · rename_i w' hc
                have hw' : P w' := by
                  have := hP req (List.mem_cons_self ..) w hw
                  rw [hc] at this
                  exact this
                exact (ih (n + 1) w' (fun r hr => hP r (List.mem_cons_of_mem _ hr)) hw').push hc

/-- **While the consumer leaves the objects alone, its loop walks the requests that
were there from the start.** -/
theorem consumeObjects_eq_walk (objs : List Str)
    (hf : ∀ w, P w → ∀ key ∈ objs, fetch w key = f key) (n : Nat) (w : ω)
    (hP : ∀ req ∈ (drainObjects J noun opts f objs n).reqs, ∀ w, P w → P (consume req w).2)
    (hw : P w) :
    Ends consume (drainObjects J noun opts f objs n) w
      (consumeObjects J noun opts fetch consume objs n w) := by
  induction objs generalizing n w with
  | nil => exact rfl
  | cons key rest ih =>
      have hop : openObject (fetch w) key = openObject f key := by
        simp only [openObject, hf w hw key (List.mem_cons_self ..)]
      simp only [drainObjects, consumeObjects, hop] at hP ⊢
      cases hob : openObject f key with
      | error err => exact rfl
      | ok sc =>
          simp only [hob] at hP
          refine ends_consumeLines ?_ sc.lines n w hP hw
          intro m u hPu hu
          exact ih (fun w hw k hk => hf w hw k (List.mem_cons_of_mem _ hk)) m u hPu hu

end Walk

/-! ## What is read -/

/-- The requests on the lines of an object, up to the first line that is too long. -/
def lineRequests (lines : List Str) : List CapturedRequest :=
  (lines.takeWhile fun line => line.length < maxTokenSize).filterMap fun line =>
    (J.unmarshal (dropCR line)).toOption

/-- The error that ends the scan of an object, as `Next` reports it. -/
def lineFailure (key : Str) (err : Option Error) (lines : List Str) : Option Error :=
  if lines.any fun line => maxTokenSize ≤ line.length then some (scanError noun key errTooLong)
  else err.map (scanError noun key)

/-- The requests of an object, up to where it fails. -/
def objectRequests (key : Str) : List CapturedRequest :=
  match openObject f key with
  | .error _ => []
  | .ok sc => lineRequests J sc.lines

/-- The error of an object that cannot be read to its end, as `Next` reports it. -/
def objectFailure (key : Str) : Option Error :=
  match openObject f key with
  | .error err => some (openError noun key err)
  | .ok sc => lineFailure noun key (scannerErr sc.tail) sc.lines

/-- The requests of a capture, up to where an object fails. -/
def stored : List Str → List CapturedRequest
  | [] => []
  | key :: rest =>
      objectRequests J f key ++ if (objectFailure noun f key).isNone then stored rest else []

/-- The first failure of a capture. -/
def firstFailure (objects : List Str) : Option Error :=
  objects.findSome? (objectFailure noun f)

/-- The requests that pass the filters. -/
def matching (reqs : List CapturedRequest) : List CapturedRequest :=
  reqs.filter fun req => matchesReadOptions req opts

/-- The limit cuts these requests short, when `n` were returned before them. -/
def Cut (n : Nat) (reqs : List CapturedRequest) : Prop :=
  0 < opts.limit ∧ opts.limit.toNat - n < reqs.length

instance (n : Nat) (reqs : List CapturedRequest) : Decidable (Cut opts n reqs) :=
  inferInstanceAs (Decidable (_ ∧ _))

variable {J noun opts f}

theorem not_cut_nil (n : Nat) : ¬ Cut opts n [] := by
  simp [Cut]

theorem cut_cons_iff {n : Nat} {req : CapturedRequest} {reqs : List CapturedRequest}
    (h : opts.limitReached n = false) : Cut opts n (req :: reqs) ↔ Cut opts (n + 1) reqs := by
  simp only [ReadOptions.limitReached, Bool.and_eq_false_iff, decide_eq_false_iff_not] at h
  simp only [Cut, List.length_cons]
  omega

theorem limitReached_of_not_cut {n : Nat} {req : CapturedRequest} {reqs : List CapturedRequest}
    (h : ¬ Cut opts n (req :: reqs)) : opts.limitReached n = false := by
  simp only [Cut, List.length_cons] at h
  simp only [ReadOptions.limitReached, Bool.and_eq_false_iff, decide_eq_false_iff_not]
  omega

theorem limit_sub_eq_zero {n : Nat} (h : opts.limitReached n = true) :
    opts.limit.toNat - n = 0 := by
  simp only [ReadOptions.limitReached, Bool.and_eq_true, decide_eq_true_eq] at h
  omega

theorem limit_sub_eq_succ {n : Nat} (hpos : 0 < opts.limit) (h : opts.limitReached n = false) :
    opts.limit.toNat - n = (opts.limit.toNat - (n + 1)) + 1 := by
  simp only [ReadOptions.limitReached, Bool.and_eq_false_iff, decide_eq_false_iff_not] at h
  omega

theorem cut_append_iff {n : Nat} {as bs : List CapturedRequest} (h : ¬ Cut opts n as) :
    Cut opts n (as ++ bs) ↔ Cut opts (n + as.length) bs := by
  simp only [Cut, List.length_append] at h ⊢
  omega

/-- The request on a line, if it decodes and passes the filters. -/
def lineMatch (J : Codec) (opts : ReadOptions) (line : Str) : Option CapturedRequest :=
  (J.unmarshal (dropCR line)).toOption.filter fun req => matchesReadOptions req opts

theorem matching_lineRequests_cons {line : Str} (lines : List Str)
    (h : line.length < maxTokenSize) :
    matching opts (lineRequests J (line :: lines))
      = (lineMatch J opts line).toList ++ matching opts (lineRequests J lines) := by
  cases hj : J.unmarshal (dropCR line) with
  | error e => simp [matching, lineRequests, lineMatch, h, hj, Except.toOption]
  | ok req =>
      cases hm : matchesReadOptions req opts with
      | false => simp [matching, lineRequests, lineMatch, h, hj, hm, Except.toOption, Option.filter]
      | true => simp [matching, lineRequests, lineMatch, h, hj, hm, Except.toOption, Option.filter]

theorem drainLines_cons {key line : Str} {err : Option Error} {rest : Nat → ReaderRun}
    (lines : List Str) (n : Nat) (h : line.length < maxTokenSize) :
    drainLines J noun opts key err rest (line :: lines) n
      = match lineMatch J opts line with
        | none => drainLines J noun opts key err rest lines n
        | some req =>
            if opts.limitReached n then .stop errReaderDone
            else (drainLines J noun opts key err rest lines (n + 1)).push req := by
  have hlong : ¬ maxTokenSize ≤ line.length := Nat.not_le.mpr h
  cases hj : J.unmarshal (dropCR line) with
  | error e => simp [drainLines, lineMatch, hlong, hj, Except.toOption]
  | ok req =>
      cases hm : matchesReadOptions req opts with
      | false => simp [drainLines, lineMatch, hlong, hj, hm, Except.toOption, Option.filter]
      | true => simp [drainLines, lineMatch, hlong, hj, hm, Except.toOption, Option.filter]

/-- **One object, within the limit**: all its matching requests, then its failure or
whatever comes after it. -/
theorem drainLines_of_not_cut {key : Str} {err : Option Error} {rest : Nat → ReaderRun}
    (lines : List Str) (n : Nat) (h : ¬ Cut opts n (matching opts (lineRequests J lines))) :
    drainLines J noun opts key err rest lines n
      = ReaderRun.pushAll (matching opts (lineRequests J lines))
          (match lineFailure noun key err lines with
          | some e => .stop e
          | none => (rest (n + (matching opts (lineRequests J lines)).length)).finish key) := by
  induction lines generalizing n with
  | nil =>
      cases err with
      | none => rfl
      | some e => rfl
  | cons line lines ih =>
      by_cases hfit : line.length < maxTokenSize
      · have hfail : lineFailure noun key err (line :: lines) = lineFailure noun key err lines := by
          simp [lineFailure, Nat.not_le.mpr hfit]
        rw [hfail, drainLines_cons lines n hfit]
        rw [matching_lineRequests_cons lines hfit] at h ⊢
        cases hm : lineMatch J opts line with
        | none =>
            rw [hm] at h
            exact ih n h
        | some req =>
            rw [hm] at h
            -- a limit that is reached already would cut this very request
            have hl : opts.limitReached n = false := limitReached_of_not_cut h
            simp only [hl, Option.toList_some, List.singleton_append, Bool.false_eq_true, if_false]
            rw [ih (n + 1) (fun hc => h ((cut_cons_iff hl).mpr hc)), ReaderRun.push_pushAll,
              List.length_cons, Nat.add_assoc, Nat.add_comm 1]
      · simp [drainLines, lineRequests, lineFailure, matching, hfit, Nat.not_lt.mp hfit,
          ReaderRun.pushAll, ReaderRun.stop]

/-- **One object, cut by the limit.** -/
theorem drainLines_of_cut {key : Str} {err : Option Error} {rest : Nat → ReaderRun}
    (lines : List Str) (n : Nat) (h : Cut opts n (matching opts (lineRequests J lines))) :
    drainLines J noun opts key err rest lines n
      = ReaderRun.pushAll ((matching opts (lineRequests J lines)).take (opts.limit.toNat - n))
          (.stop errReaderDone) := by
  induction lines generalizing n with
  | nil => exact absurd h (not_cut_nil n)
  | cons line lines ih =>
      by_cases hfit : line.length < maxTokenSize
      · rw [drainLines_cons lines n hfit]
        rw [matching_lineRequests_cons lines hfit] at h ⊢
        cases hm : lineMatch J opts line with
        | none =>
            rw [hm] at h
            exact ih n h
        | some req =>
            rw [hm] at h
            simp only [Option.toList_some, List.singleton_append]
            split
            · rename_i hl
              rw [limit_sub_eq_zero hl]
              rfl
            · rename_i hl
              have hl : opts.limitReached n = false := Bool.eq_false_iff.mpr hl
              rw [ih (n + 1) ((cut_cons_iff hl).mp h), ReaderRun.push_pushAll,
                limit_sub_eq_succ h.1 hl, List.take_succ_cons]
      · simp [Cut, lineRequests, matching, hfit] at h

theorem drainObjects_cons_of_not_cut (key : Str) (rest : List Str) (n : Nat)
    (h : ¬ Cut opts n (matching opts (objectRequests J f key))) :
    drainObjects J noun opts f (key :: rest) n
      = ReaderRun.pushAll (matching opts (objectRequests J f key))
          (match objectFailure noun f key with
          | some e => .stop e
          | none =>
              (drainObjects J noun opts f rest
                (n + (matching opts (objectRequests J f key)).length)).finish key) := by
  simp only [objectRequests] at h ⊢
  rw [drainObjects, objectFailure]
  cases hop : openObject f key with
  | error err => rfl
  | ok sc =>
      simp only [hop] at h
      exact drainLines_of_not_cut sc.lines n h

theorem drainObjects_cons_of_cut (key : Str) (rest : List Str) (n : Nat)
    (h : Cut opts n (matching opts (objectRequests J f key))) :
    drainObjects J noun opts f (key :: rest) n
      = ReaderRun.pushAll ((matching opts (objectRequests J f key)).take (opts.limit.toNat - n))
          (.stop errReaderDone) := by
  simp only [objectRequests] at h ⊢
  rw [drainObjects]
  cases hop : openObject f key with
  | error err =>
      simp only [hop] at h
      exact absurd h (not_cut_nil n)
  | ok sc =>
      simp only [hop] at h
      exact drainLines_of_cut sc.lines n h

theorem matching_append (as bs : List CapturedRequest) :
    matching opts (as ++ bs) = matching opts as ++ matching opts bs := by
  simp [matching]

theorem cut_of_cut_left {n : Nat} {as bs : List CapturedRequest} (h : Cut opts n as) :
    Cut opts n (as ++ bs) := by
  simp only [Cut, List.length_append] at h ⊢
  omega

/-- **A capture within the limit**: every matching request up to the first object
that fails, then that failure or the end of the capture. -/
theorem drainObjects_of_not_cut (objs : List Str) (n : Nat)
    (h : ¬ Cut opts n (matching opts (stored J noun f objs))) :
    (drainObjects J noun opts f objs n).reqs = matching opts (stored J noun f objs)
      ∧ (drainObjects J noun opts f objs n).last = (firstFailure noun f objs).getD errReaderDone
      ∧ (firstFailure noun f objs = none →
          (drainObjects J noun opts f objs n).finished = objs) := by
  induction objs generalizing n with
  | nil => exact ⟨rfl, rfl, fun _ => rfl⟩
  | cons key rest ih =>
      simp only [stored, matching_append] at h ⊢
      have hsrc : ¬ Cut opts n (matching opts (objectRequests J f key)) :=
        fun hc => h (cut_of_cut_left hc)
      rw [cut_append_iff hsrc] at h
      rw [drainObjects_cons_of_not_cut key rest n hsrc]
      cases hf : objectFailure noun f key with
      | some e => simp [firstFailure, hf, ReaderRun.pushAll, ReaderRun.stop, matching]
      | none =>
          simp only [hf, Option.isNone_none, if_true] at h
          obtain ⟨hreqs, hlast, hfin⟩ := ih _ h
          simp only [firstFailure] at hlast hfin ⊢
          simp only [ReaderRun.pushAll, ReaderRun.finish, List.findSome?_cons, hf, hreqs,
            Option.isNone_none, if_true]
          exact ⟨trivial, hlast, fun hn => by rw [hfin hn]⟩

/-- **A capture cut by the limit.** -/
theorem drainObjects_of_cut (objs : List Str) (n : Nat)
    (h : Cut opts n (matching opts (stored J noun f objs))) :
    (drainObjects J noun opts f objs n).reqs
        = (matching opts (stored J noun f objs)).take (opts.limit.toNat - n)
      ∧ (drainObjects J noun opts f objs n).last = errReaderDone := by
  induction objs generalizing n with
  | nil => exact absurd h (not_cut_nil n)
  | cons key rest ih =>
      simp only [stored, matching_append] at h ⊢
      by_cases hsrc : Cut opts n (matching opts (objectRequests J f key))
      · rw [drainObjects_cons_of_cut key rest n hsrc,
          List.take_append_of_le_length (le_of_lt hsrc.2)]
        simp [ReaderRun.pushAll, ReaderRun.stop]
      · rw [cut_append_iff hsrc] at h
        rw [drainObjects_cons_of_not_cut key rest n hsrc]
        cases hf : objectFailure noun f key with
        | some e =>
            simp only [hf, Option.isNone_some, Bool.false_eq_true, if_false] at h
            exact absurd h (not_cut_nil _)
        | none =>
            simp only [hf, Option.isNone_none, if_true] at h ⊢
            obtain ⟨hreqs, hlast⟩ := ih _ h
            have hle : (matching opts (objectRequests J f key)).length ≤ opts.limit.toNat - n := by
              have h1 := h.1
              simp only [Cut] at hsrc
              omega
            refine ⟨?_, hlast⟩
            simp only [ReaderRun.pushAll, ReaderRun.finish, hreqs]
            rw [List.take_append, List.take_of_length_le hle, Nat.sub_sub]

/-- An object that fails is never finished, nor is any after it. -/
theorem length_finished_lt (objs : List Str) (n : Nat) (h : firstFailure noun f objs ≠ none) :
    (drainObjects J noun opts f objs n).finished.length < objs.length := by
  induction objs generalizing n with
  | nil => exact absurd rfl h
  | cons key rest ih =>
      by_cases hsrc : Cut opts n (matching opts (objectRequests J f key))
      · rw [drainObjects_cons_of_cut key rest n hsrc]
        simp [ReaderRun.pushAll, ReaderRun.stop]
      · rw [drainObjects_cons_of_not_cut key rest n hsrc]
        cases hf : objectFailure noun f key with
        | some e => simp [ReaderRun.pushAll, ReaderRun.stop]
        | none =>
            have hrest : firstFailure noun f rest ≠ none := by
              simpa [firstFailure, hf] using h
            have := ih (n + (matching opts (objectRequests J f key)).length) hrest
            simp only [ReaderRun.pushAll, ReaderRun.finish, List.length_cons]
            omega

end Kapture.Replay
