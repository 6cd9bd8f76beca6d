import BusRelay.Proofs.Sink.Acknowledgment
import Mathlib.Logic.Function.Iterate
import Mathlib.Order.Bounds.Basic
/-!
# How often an event is posted

An event is posted until it is settled, by an answer after which no other attempt is worth while, or until
no tries are left (`tryAgain_run`). Each attempt makes the same request, where the one before left the sink,
and the pauses between them double up to the longest duration (`Duration.doubled_iterate`). `send_tries` says
for every sink what is sent, answered and recorded.
-/

namespace BusRelay

open Http (Request)

/-! ## Attempts -/

/-- After such an answer there is no other attempt: the event is taken, or it would not be the next time. -/
def SendAnswer.IsFinal : SendAnswer → Prop
  | .ok () => True
  | .error fault => fault.isRetryable = false

section

variable {σ : Type} (attempt : σ → SendAnswer × σ)

/-- The attempt after `n` others, if all of these are made. -/
def attemptAfter (state : σ) : Nat → SendAnswer × σ
  | 0 => attempt state
  | n + 1 => attempt (attemptAfter state n).2

theorem attemptAfter_succ (state : σ) (n : Nat) :
    attemptAfter attempt state (n + 1) = attemptAfter attempt (attempt state).2 n := by
  induction n with
  | zero => rfl
  | succ n ih => exact congrArg (fun made => attempt made.2) ih

/-- The first number of a kind is the first of those after zero, if zero is not of the kind. -/
theorem isLeast_succ {p : Nat → Prop} (zero : ¬p 0) {k : Nat} (least : IsLeast {n | p (n + 1)} k) :
    IsLeast {n | p n} (k + 1) := by
  refine ⟨least.1, fun n holds => ?_⟩
  cases n with
  | zero => exact absurd holds zero
  | succ n => exact Nat.succ_le_succ (least.2 holds)

/-- What is tried again ends with the first attempt that settles it, or with the last one that is left. -/
theorem tryAgain_run (left : Nat) (pause : Duration) (state : σ) :
    ∃ k, IsLeast {n | SendAnswer.IsFinal (attemptAfter attempt state n).1 ∨ n = left} k ∧
      (tryAgain attempt left pause state).answer = (attemptAfter attempt state k).1 ∧
      (tryAgain attempt left pause state).state = (attemptAfter attempt state k).2 ∧
      (tryAgain attempt left pause state).pauses.map Prod.snd =
        (List.range k).map fun n => Duration.doubled^[n] pause := by
  fun_induction tryAgain attempt left pause state with
  | case1 pause state fault after left tried retryable rest ih =>
    obtain ⟨k, least, answer, final, pauses⟩ := ih
    have later (n : Nat) : attemptAfter attempt state (n + 1) = attemptAfter attempt after n := by
      rw [attemptAfter_succ, tried]
    refine ⟨k + 1, isLeast_succ ?_ ?_, ?_, ?_, ?_⟩
    · rintro (final | zero)
      · rw [attemptAfter, tried] at final
        exact absurd (final.symm.trans retryable) Bool.false_ne_true
      · cases zero
    · simp only [later, Nat.succ_eq_add_one, Nat.add_right_cancel_iff]
      exact least
    · rw [later]
      exact answer
    · rw [later]
      exact final
    · rw [List.range_succ_eq_map, List.map_cons, List.map_cons, List.map_map]
      exact congrArg (pause :: ·) pauses
  | case2 pause state fault after left tried blames =>
    refine ⟨0, ⟨.inl ?_, fun n _ => Nat.zero_le n⟩, ?_, ?_, rfl⟩
    · rw [attemptAfter, tried]
      exact Bool.eq_false_iff.2 blames
    · rw [attemptAfter, tried]
    · rw [attemptAfter, tried]
  | case3 left pause state answer after tried other =>
    refine ⟨0, ⟨?_, fun n _ => Nat.zero_le n⟩, ?_, ?_, rfl⟩
    · change SendAnswer.IsFinal (attempt state).1 ∨ 0 = left
      rw [tried]
      cases answer with
      | ok => exact .inl trivial
      | error fault =>
        cases left with
        | zero => exact .inr rfl
        | succ left => exact (other fault left rfl rfl).elim
    · rw [attemptAfter, tried]
    · rw [attemptAfter, tried]

end

/-! ## Pauses -/

/-- A pause that doubles again and again grows by powers of two up to the longest duration. -/
theorem Duration.doubled_iterate {d : Duration} (fits : d.nanoseconds ≤ max.nanoseconds) (n : Nat) :
    doubled^[n] d = ⟨min (d.nanoseconds * Nat.pow 2 n) max.nanoseconds⟩ := by
  induction n with
  | zero =>
    have once : min (d.nanoseconds * 1) max.nanoseconds = d.nanoseconds := by
      rw [Nat.mul_one, Nat.min_eq_left fits]
    exact congrArg Duration.mk once.symm
  | succ n ih =>
    have grows : d.nanoseconds * Nat.pow 2 (n + 1) = d.nanoseconds * Nat.pow 2 n * 2 := (Nat.mul_assoc _ _ _).symm
    rw [Function.iterate_succ_apply', ih, grows, doubled]
    generalize d.nanoseconds * Nat.pow 2 n = length
    split
    · rename_i short
      have twice : 2 * min length max.nanoseconds = min (length * 2) max.nanoseconds := by
        dsimp only at short
        omega
      exact congrArg Duration.mk twice
    · rename_i long
      have capped : max.nanoseconds = min (length * 2) max.nanoseconds := by
        dsimp only at long
        omega
      exact congrArg Duration.mk capped

/-! ## What is posted -/

namespace Sender

section

variable {σ : Type} (posting : Posting) (peer : Http.Peer σ)

/-- The attempts to carry out a request, each where the one before left the peer. -/
def attempts (r : Request) (state : σ) : Nat → Http.Exchange σ
  | 0 => Http.carryOut peer state r
  | n + 1 => Http.carryOut peer (attempts r state n).state r

/-- Posting the same request again adds what is sent to what was sent before. -/
theorem attemptAfter_attempt (r : Request) (state : σ) (n : Nat) :
    (attemptAfter (attempt peer r) { peer := state } n).1 = answerOf (attempts peer r state n).result ∧
      (attemptAfter (attempt peer r) { peer := state } n).2.peer = (attempts peer r state n).state ∧
      (attemptAfter (attempt peer r) { peer := state } n).2.sent =
        (List.range (n + 1)).flatMap fun j => (attempts peer r state j).sent := by
  induction n with
  | zero => exact ⟨rfl, rfl, (List.append_nil _).symm⟩
  | succ n ih =>
    obtain ⟨-, left, sent⟩ := ih
    rw [attemptAfter, attempt, left, sent, List.range_succ (n := n + 1), List.flatMap_append,
      List.flatMap_singleton]
    exact ⟨rfl, rfl, rfl⟩

/-- A request that can be made at all is the first that is sent in every attempt. -/
theorem attempts_first {r first : Request} (prepared : Http.prepare r = .ok first) (state : σ) (n : Nat) :
    ∃ reply more, (attempts peer r state n).sent = (first, reply) :: more := by
  cases n with
  | zero => exact Http.carryOut_first peer state prepared
  | succ n => exact Http.carryOut_first peer (attempts peer r state n).state prepared

/-- What posting an event with these headers comes to, attempt by attempt. -/
theorem send_run (fits : posting.pause.nanoseconds ≤ Duration.max.nanoseconds) (state : σ) {e : Event}
    {headers : Dict String} (written : EventHeaders.headers e = .ok headers) :
    let made := attempts peer (request posting.target headers e) state
    ∃ k, IsLeast {n | SendAnswer.IsFinal (answerOf (made n).result) ∨ n = posting.retries} k ∧
      (send posting peer state e).answer = answerOf (made k).result ∧
      (send posting peer state e).sent = (List.range (k + 1)).flatMap (fun n => (made n).sent) ∧
      (send posting peer state e).state = (made k).state ∧
      (send posting peer state e).pauses = (List.range k).map (fun n =>
        ⟨min (posting.pause.nanoseconds * Nat.pow 2 n) Duration.max.nanoseconds⟩) := by
  intro made
  obtain ⟨k, least, answer, final, pauses⟩ := tryAgain_run
    (attempt peer (request posting.target headers e)) posting.retries posting.pause { peer := state }
  obtain ⟨answered, left, sent⟩ := attemptAfter_attempt peer (request posting.target headers e) state k
  rw [send, written]
  refine ⟨k, ?_, ?_, ?_, ?_, ?_⟩
  · simp only [attemptAfter_attempt] at least
    exact least
  · exact answer.trans answered
  · exact (congrArg Progress.sent final).trans sent
  · exact (congrArg Progress.peer final).trans left
  · simp only [Duration.doubled_iterate fits] at pauses
    exact pauses

end

namespace Sample

end Sample

end Sender

end BusRelay
