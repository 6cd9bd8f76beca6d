import BusRelay.Handling.Fault
import BusRelay.Time.Duration
/-!
# Trying again

An attempt that failed is repeated if the failure may pass, a limited number of times and after
pauses that double.
-/

namespace BusRelay

/-- What came of repeated attempts. -/
structure Tried (σ : Type) where
  /-- What every attempt came to, in order. The last one is the answer. -/
  outcomes : List SendAnswer
  answer : SendAnswer
  /-- The failures after which it was tried again, and the pauses after them. -/
  pauses : List (SendFault × Duration)
  state : σ

/-- Tries again for as long as a failure may pass and tries are left. -/
def tryAgain {σ : Type} (attempt : σ → SendAnswer × σ) :
    (left : Nat) → (pause : Duration) → σ → Tried σ
  | left, pause, state =>
    match attempt state, left with
    | (.error fault, state), left + 1 =>
      if fault.isRetryable then
        let after := tryAgain attempt left pause.doubled state
        { after with
          outcomes := .error fault :: after.outcomes
          pauses := (fault, pause) :: after.pauses }
      else ⟨[.error fault], .error fault, [], state⟩
    | (answer, state), _ => ⟨[answer], answer, [], state⟩

end BusRelay
