import BusRelay.Proofs.Relay.Remaining
/-!
# Prompt runs

In virtual time the clock stands still as long as anyone can go on, and then it does not run past a time
at which something is due. `State.runPromptly` makes the moves of a run that keeps to this. In such a run
no handler is ever overdue (`Punctual.step`). What comes from outside, an answer of the broker or a
cancellation, may come at any time.
-/

namespace BusRelay.Relay

variable {σ : Type}

namespace State

/-- Nobody can go on now: no handler, and the loop neither. -/
def isQuiet (s : State σ) : Bool :=
  s.tasks.all (!·.work.isReady s.now) && match s.phase with
    | .idle | .stopped _ | .crashed => true
    | .joining | .ready | .aborting _ => false
    | .acquiring => !s.cancelled && s.free == 0
    | .receiving => !s.cancelled
    | .pausing till => !s.cancelled && s.now < till
    | .draining deadline _ => s.now < deadline && !s.unjoined.isEmpty && s.unjoined.all (·.isLive)

/-- Whether a move keeps to virtual time. A loop that waits for handlers is woken by one that has ended, and
goes on when there is none left. -/
def isTimely (s : State σ) : Move → Bool
  | .wait till => s.isQuiet && s.now < till && s.dues.all (till ≤ ·)
  | .join => match s.phase with
    | .draining .. | .aborting _ => s.unjoined.isEmpty || s.unjoined.any (!·.isLive)
    | _ => true
  | _ => true

/-- The state after a list of moves, if all of them are possible and keep to virtual time. -/
def runPromptly (w : World σ) (s : State σ) : List Move → Option (State σ)
  | [] => some s
  | move :: rest => if s.isTimely move then (s.step w move).bind (·.runPromptly w rest) else none

variable {w : World σ} {s s' : State σ} {move : Move} {moves : List Move}

theorem runPromptly_cons (run : s.runPromptly w (move :: moves) = some s') :
    s.isTimely move = true ∧ ∃ mid, Step w s move mid ∧ mid.runPromptly w moves = some s' := by
  simp only [runPromptly] at run
  split at run
  · obtain ⟨mid, made, rest⟩ := Option.bind_eq_some_iff.1 run
    exact ⟨‹_›, mid, step_cases made, rest⟩
  · cases run

/-- A prompt run is a run. -/
theorem leads_of_runPromptly (run : s.runPromptly w moves = some s') : Leads w s s' := by
  induction moves generalizing s with
  | nil =>
    cases run
    exact .refl _
  | cons move rest ih =>
    obtain ⟨-, mid, made, run⟩ := runPromptly_cons run
    exact .trans (.single made) (ih run)

/-- Nobody waits for a time that has passed. -/
def Punctual (s : State σ) : Prop :=
  ∀ (i : Nat) (t : Task), s.tasks[i]? = some t → ∀ due, t.work.due? = some due → s.now ≤ due

theorem due_mem_dues {i : Nat} {t : Task} (found : s.tasks[i]? = some t) {due : Nat}
    (waits : t.work.due? = some due) : due ∈ s.dues := by
  have live : t.isLive = true := by
    unfold Task.isLive
    cases work : t.work <;> simp_all [Work.due?, Work.isEnded]
  refine List.mem_append_left _ (List.mem_filterMap.2 ⟨t, ?_, waits⟩)
  exact List.mem_filter.2 ⟨List.mem_of_getElem? found, live⟩

end State

/-- What the clock shows after a move. -/
def Move.clock (now : Nat) : Move → Nat
  | wait till => till
  | _ => now

section

variable {w : World σ} {s s' : State σ} {move : Move}

theorem Step.now (h : Step w s move s') : s'.now = move.clock s.now := by
  cases h with
  | nothing receiving on cancels => exact State.answered_now s .nothing cancels
  | handout receiving on h cancels => exact State.answered_now s (.handout h) cancels
  | fatal receiving on reason cancels => exact State.answered_now s (.fault (.fatal reason)) cancels
  | transient receiving on reason cancels =>
    exact State.answered_now s (.fault (.transient reason)) cancels
  | _ => rfl

/-- In virtual time the clock passes no time at which a handler can go on. -/
theorem State.Punctual.step (p : s.Punctual) (timely : s.isTimely move = true) (h : Step w s move s') :
    s'.Punctual := by
  intro i t found due waits
  rw [h.now]
  cases was : s.tasks[i]? with
  | none =>
    rw [h.fresh was found] at waits
    cases waits
  | some before =>
    obtain ⟨after, did, hs, now, conduct, -, -⟩ := h.conduct was
    obtain rfl : after = t := Option.some.inj (now.symm.trans found)
    cases conduct with
    | rests idle handout work =>
      rw [work] at waits
      cases move with
      | wait till =>
        simp only [State.isTimely, Bool.and_eq_true, List.all_eq_true, decide_eq_true_eq] at timely
        exact timely.2 due (State.due_mem_dues was waits)
      | _ => exact p i before was due waits
    | proceeds ready => exact due?_proceed w.sink s.now before.handout s.sink w.processor before.work waits
    | aborted aborting live => cases waits

end

/-- In a prompt run nobody is ever overdue. -/
theorem State.punctual_of_runPromptly {w : World σ} {s s' : State σ} {moves : List Move} (p : s.Punctual)
    (run : s.runPromptly w moves = some s') : s'.Punctual := by
  induction moves generalizing s with
  | nil =>
    cases run
    exact p
  | cons move rest ih =>
    obtain ⟨timely, mid, made, run⟩ := runPromptly_cons run
    exact ih (p.step timely made) run

end BusRelay.Relay
