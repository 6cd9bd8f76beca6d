import BusRelay.Proofs.Relay.Step
import BusRelay.Relay.VirtualTime
/-!
# Runs that follow a script

A run in virtual time makes moves of the machine and nothing else (`runScript_reachable`), so that what
holds of every run of the machine holds of it.
-/

namespace BusRelay.Relay

variable {σ : Type}

namespace Clockwork

variable (w : World σ) (script : Script) (c : Clockwork σ)

@[simp] theorem state_sleep (till : Nat) (sleeper : Sleeper) : (c.sleep till sleeper).state = c.state := by
  unfold sleep
  split <;> rfl

@[simp] theorem state_wake (sleepers : List Sleeper) : (c.wake sleepers).state = c.state := rfl

@[simp] theorem state_takeItem : (c.takeItem script).state = c.state := by
  unfold takeItem
  split <;> rfl

/-- What the loop begins to wait for does not change the machine. -/
theorem state_afterLoopMove (move : Move) : (c.afterLoopMove script move).state = c.state := by
  unfold afterLoopMove
  split
  · simp
  · rfl
  · split <;> simp

theorem leads_pollLoop (fuel : Nat) : Leads w c.state (pollLoop w script fuel c).state := by
  induction fuel generalizing c with
  | zero => exact .refl c.state
  | succ fuel ih =>
    cases next : c.loopMove? with
    | none =>
      rw [pollLoop, next]
      exact .refl c.state
    | some move =>
      cases made : c.state.step w move with
      | none =>
        rw [pollLoop, next]
        simp only [made]
        exact .refl c.state
      | some s =>
        rw [pollLoop, next]
        simp only [made]
        have rest := ih ({ c with state := s }.afterLoopMove script move)
        rw [state_afterLoopMove] at rest
        exact .trans (.single (State.step_cases made)) rest

theorem leads_pollHandler (number fuel : Nat) : Leads w c.state (pollHandler w number fuel c).state := by
  induction fuel generalizing c with
  | zero => exact .refl c.state
  | succ fuel ih =>
    simp only [pollHandler]
    split
    · exact .trans (.single (State.step_cases ‹_›)) (ih _)
    · split
      · rw [state_sleep]
        exact .refl c.state
      · exact .refl c.state

theorem leads_poll (fuel : Nat) (sleeper : Sleeper) : Leads w c.state (poll w script fuel c sleeper).state := by
  cases sleeper with
  | loop => exact .refl c.state
  | handler number => exact leads_pollHandler w c number fuel
  | canceller =>
    simp only [poll]
    split
    · exact .refl c.state
    · split
      · rw [state_sleep]
        exact .refl c.state
      · split
        · exact .single (State.step_cases ‹_›)
        · exact .refl c.state

theorem leads_polls (fuel : Nat) (turn : List Sleeper) :
    Leads w c.state (turn.foldl (poll w script fuel) c).state := by
  induction turn generalizing c with
  | nil => exact .refl c.state
  | cons sleeper rest ih => exact .trans (leads_poll w script c fuel sleeper) (ih _)

theorem leads_tick (till : Nat) : Leads w c.state (c.tick w till).state := by
  unfold tick
  split
  · exact .refl c.state
  · exact .single (State.step_cases ‹_›)

theorem leads_turns (perTurn fuel : Nat) : Leads w c.state (turns w script perTurn fuel c).state := by
  induction fuel generalizing c with
  | zero => exact .refl c.state
  | succ fuel ih =>
    have polled := leads_pollLoop w script c perTurn
    simp only [turns]
    split
    · exact polled
    · split
      · split
        · exact polled
        · exact .trans polled (.trans (leads_tick w _ _) (ih _))
      · let d := pollLoop w script perTurn c
        have turn := leads_polls w script { d with queue := d.queue.drop turnLength } perTurn
          (d.queue.take turnLength)
        exact .trans polled (.trans turn (ih _))

end Clockwork

/-- A run that follows a script is a run of the machine. -/
theorem runScript_reachable (w : World σ) (script : Script) (sink : σ) :
    Reachable w sink (runScript w script sink) := by
  refine .trans ?_ (Clockwork.leads_turns ..)
  change Leads w (State.initial sink) (if script.cancelAt = some 0 then _ else _)
  split
  · exact .single .cancel
  · exact .refl _

/-! ## A small relay

Three deliveries come to three different ends. -/

namespace Sample

/-- Takes the first event, crashes on the second, and never answers to another. -/
def sink : TimedSink Nat
  | 0, _ => ({ answer := some (.ok ()) }, 1)
  | 1, _ => ({ answer := none }, 2)
  | calls, _ => ({ delay := none, answer := none }, calls + 1)

/-- Makes one event of every message and handles three at a time. -/
def world : World Nat where
  settings := { concurrency := 3, drain := 10 }
  processor := fun m => .ok [{ id := m.id.text, source := "queue", kind := "message", time := .epoch }]
  sink := sink

def first : Handout := { delivery := { message := { id := ⟨"first", by decide⟩, body := [] } } }

def second : Handout := { delivery := { message := { id := ⟨"second", by decide⟩, body := [] } } }

def third : Handout := { delivery := { message := { id := ⟨"third", by decide⟩, body := [] } } }

/-- Hands out three messages and then nothing more. The relay may be cancelled just before the last. -/
def script (cancels : Bool) : Script where
  items := [{ receipt := .handout first }, { receipt := .handout second },
    { delay := 5, cancels, receipt := .handout third }]
  hangs := true

/-- How far the relay gets. -/
def last (cancels : Bool) : State Nat := runScript world (script cancels) 0

theorem reachable_last (cancels : Bool) : Reachable world 0 (last cancels) := runScript_reachable ..

end Sample

end BusRelay.Relay
