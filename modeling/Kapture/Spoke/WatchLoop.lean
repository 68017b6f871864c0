import Kapture.Spoke.HubClient

/-!
# The loop that watches for directives

`watchDirectivesLoop` opens a stream, handles the directives that come, and opens the next one. When
a stream does not open it sleeps, for twice as long each time, up to a minute. But a stream of gRPC
opens before the hub has said anything: a refusal comes with the first `Recv`. **The loop takes the
open stream for a success**: it sets the back-off to one second, and when `Recv` fails it goes on
with the next attempt at once.

So the loop is paced exactly if every stream that opens delivers something.
-/

namespace Kapture.Spoke

open Go Hub Rfc3339 Storage

/-- What opening a stream and receiving on it comes to. -/
inductive WatchOutcome where
  | openError
  /-- The directives that came before the error. -/
  | stream (directives : List WatchDirectivesResponse)

/-- What one turn of the loop finds. -/
inductive WatchTurn where
  /-- The client is not connected. -/
  | noClient
  | attempt (o : WatchOutcome)

/-- What one turn of the loop does. The durations are the arguments of `sleep`, before the
jitter. -/
inductive WatchEvent where
  | idle (d : Duration)
  /-- An attempt, with the directives that it delivered and the sleep after it, if there was one. -/
  | attempt (directives : List WatchDirectivesResponse) (backoff : Option Duration)

/-- One turn of the loop, and the back-off after it. -/
def watchTurn (backoff : Duration) : WatchTurn → WatchEvent × Duration
  | .noClient => (.idle backoff, backoff)
  | .attempt .openError => (.attempt [] (some backoff), min (backoff * 2) (60 * second))
  | .attempt (.stream directives) => (.attempt directives none, second)

/-- `watchDirectivesLoop` from some back-off on, until the context ends or the loop is stopped. -/
def watchLoop : Duration → List WatchTurn → List WatchEvent
  | _, [] => []
  | backoff, t :: ts => (watchTurn backoff t).1 :: watchLoop (watchTurn backoff t).2 ts

def watchDirectivesLoop (ts : List WatchTurn) : List WatchEvent := watchLoop second ts

/-! ## What the loop should do -/

/-- The number of attempts since the last one that delivered a directive. -/
def fruitless (n : Nat) : WatchEvent → Nat
  | .idle _ => n
  | .attempt [] _ => n + 1
  | .attempt (_ :: _) _ => 0

/-- The back-off after `n` attempts that delivered nothing, and one more. -/
def nominalBackoff (n : Nat) : Duration := min (2 ^ n) 60 * second

structure Paced (log : List WatchEvent) : Prop where
  /-- The loop sleeps between two attempts that delivered nothing. -/
  sleeps : ∀ before b between b' after,
    log = before ++ .attempt [] b :: between ++ .attempt [] b' :: after →
      (∀ e ∈ between, ∃ d, e = .idle d) →
      b.isSome = true ∨ ∃ d, .idle d ∈ between
  /-- And it doubles the time in a run of such attempts. -/
  doubles : ∀ before b after, log = before ++ .attempt [] b :: after →
    b = some (nominalBackoff (before.foldl fruitless 0))

/-! ## What it does -/

theorem nominalBackoff_zero : nominalBackoff 0 = second := by decide

theorem nominalBackoff_succ (n : Nat) :
    min (nominalBackoff n * 2) (60 * second) = nominalBackoff (n + 1) := by
  unfold nominalBackoff second
  rw [Int.pow_succ]
  generalize (2 : Int) ^ n = p
  change min (min p 60 * 1000000000 * 2) (60 * 1000000000) = min (p * 2) 60 * 1000000000
  omega

/-- Without streams that deliver nothing, the back-off follows the run. -/
theorem watchTurn_backoff {t : WatchTurn} (h : t ≠ .attempt (.stream [])) (n : Nat) :
    (watchTurn (nominalBackoff n) t).2
      = nominalBackoff (fruitless n (watchTurn (nominalBackoff n) t).1) := by
  cases t with
  | noClient => rfl
  | attempt o =>
      cases o with
      | openError => exact nominalBackoff_succ n
      | stream directives =>
          cases directives with
          | nil => exact absurd rfl h
          | cons d ds => exact nominalBackoff_zero.symm

theorem watchTurn_fruitless {t : WatchTurn} (h : t ≠ .attempt (.stream [])) {backoff : Duration}
    {b : Option Duration} (hb : (watchTurn backoff t).1 = .attempt [] b) : b = some backoff := by
  cases t with
  | noClient => cases hb
  | attempt o =>
      cases o with
      | openError =>
          cases hb
          rfl
      | stream directives =>
          cases hb
          exact absurd rfl h

/-- The induction is on the turns, from any point of a run on. -/
theorem watchLoop_doubles {ts : List WatchTurn} (h : .attempt (.stream []) ∉ ts) (n : Nat)
    {before after : List WatchEvent} {b : Option Duration}
    (hlog : watchLoop (nominalBackoff n) ts = before ++ .attempt [] b :: after) :
    b = some (nominalBackoff (before.foldl fruitless n)) := by
  induction ts generalizing n before with
  | nil =>
      have hnil := congrArg List.length hlog
      rw [List.length_append, List.length_cons, watchLoop, List.length_nil] at hnil
      omega
  | cons t ts ih =>
      rw [List.mem_cons, not_or] at h
      have ht : t ≠ .attempt (.stream []) := fun heq => h.1 heq.symm
      rw [watchLoop, watchTurn_backoff ht] at hlog
      cases before with
      | nil =>
          rw [List.nil_append, List.cons.injEq] at hlog
          exact watchTurn_fruitless ht hlog.1
      | cons e before =>
          rw [List.cons_append, List.cons.injEq] at hlog
          rw [List.foldl_cons, ← hlog.1]
          exact ih h.2 _ hlog.2

/-- A stream that delivers nothing is not followed by a sleep. -/
theorem mem_watchLoop {ts : List WatchTurn} (h : .attempt (.stream []) ∈ ts) (backoff : Duration) :
    .attempt [] none ∈ watchLoop backoff ts := by
  induction ts generalizing backoff with
  | nil => cases h
  | cons t ts ih =>
      rw [watchLoop, List.mem_cons]
      rcases List.mem_cons.mp h with rfl | h
      · exact .inl rfl
      · exact .inr (ih h _)

/-- **The loop is paced if and only if every stream that opens delivers a directive.** -/
theorem watchDirectivesLoop_paced_iff (ts : List WatchTurn) :
    Paced (watchDirectivesLoop ts) ↔ .attempt (.stream []) ∉ ts := by
  constructor
  · intro hpaced hmem
    obtain ⟨before, after, hlog⟩ := List.append_of_mem (mem_watchLoop hmem second)
    cases hpaced.doubles before none after hlog
  · intro h
    have hdoubles : ∀ before b after, watchDirectivesLoop ts = before ++ .attempt [] b :: after →
        b = some (nominalBackoff (before.foldl fruitless 0)) := by
      intro before b after hlog
      rw [watchDirectivesLoop, ← nominalBackoff_zero] at hlog
      exact watchLoop_doubles h 0 hlog
    refine ⟨fun before b between b' after hlog _ => .inl ?_, hdoubles⟩
    rw [List.append_assoc, List.cons_append] at hlog
    rw [hdoubles before b _ hlog]
    rfl

/-! ## A hub that was restarted -/

/-- What the loop sees of the answer of the hub: it comes on the open stream. -/
def outcomeOf (answer : Except StatusError Reply)
    (directives : List WatchDirectivesResponse) : WatchOutcome :=
  match answer with
  | .error _ => .stream []
  | .ok _ => .stream directives

/-- What the process finds in a turn of the loop in which it reaches a hub. -/
def Process.watched (p : Process) (s : Server) (now : Time) : WatchTurn :=
  .attempt (outcomeOf (p.exchange s (.watch now)).1 [])

/-- **A restarted hub refuses each of the streams, and the loop asks it again and again without a
pause.** -/
theorem restarted_hub_stormed :
    watchDirectivesLoop [westProcess.watched Server.new 1, westProcess.watched Server.new 2,
        westProcess.watched Server.new 3] = [.attempt [] none, .attempt [] none, .attempt [] none]
      ∧ ¬ Paced (watchDirectivesLoop [westProcess.watched Server.new 1,
        westProcess.watched Server.new 2,
        westProcess.watched Server.new 3]) := by
  refine ⟨rfl, fun hpaced => ?_⟩
  rcases hpaced.sleeps [] none [] none [.attempt [] none] rfl (by simp) with hsome | ⟨d, hd⟩
  · cases hsome
  · cases hd

end Kapture.Spoke
