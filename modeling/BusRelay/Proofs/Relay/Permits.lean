import BusRelay.Proofs.Relay.Scripted
/-!
# Permits

A permit is free, or the loop has it, or a handler that has not ended. `permits_conserved` says that
their number is always the same, and what follows: no more handlers at a time than permits, a permit
back from every path, and a loop that waits for a permit only while as many handlers are at work.
-/

namespace BusRelay.Relay

variable {σ : Type}

/-! ## The live handlers -/

/-- Joining does not change which handlers are live. -/
theorem live_map_join (tasks : List Task) :
    ((tasks.map Task.join).filter Task.isLive).length = (tasks.filter Task.isLive).length := by
  rw [List.filter_map, List.length_map]
  rfl

/-- One live handler less if its work has ended. -/
theorem live_modify {tasks : List Task} {handler : Nat} {t : Task} (work : Work)
    (found : tasks[handler]? = some t) (live : t.isLive = true) :
    ((tasks.modify handler fun t => { t with work }).filter Task.isLive).length +
      (if work.isEnded then 1 else 0) = (tasks.filter Task.isLive).length := by
  induction tasks generalizing handler with
  | nil => simp at found
  | cons head rest ih =>
    cases handler with
    | zero =>
      obtain rfl : head = t := by simpa using found
      have working : head.work.isEnded = false := by simpa [Task.isLive] using live
      cases ends : work.isEnded <;> simp [Task.isLive, ends, working]
    | succ handler =>
      have kept := ih (by simpa using found)
      rw [List.modify_succ_cons, List.filter_cons, List.filter_cons]
      split
      · simp only [List.length_cons]
        omega
      · exact kept

namespace State

variable (s : State σ)

theorem live_joinEnded : s.joinEnded.live.length = s.live.length := live_map_join s.tasks

/-- What a handler gives up when it ends becomes free. -/
theorem live_setWork {handler : Nat} {t : Task} (work : Work) (found : s.tasks[handler]? = some t)
    (live : t.isLive = true) :
    (s.setWork handler work).free + (s.setWork handler work).live.length = s.free + s.live.length := by
  have kept := live_modify work found live
  simp only [setWork, State.live]
  omega

end State

/-! ## Conservation -/

/-- The permits of a relay that has started are where they can be; before, there is no handler. -/
structure Conserved (w : World σ) (s : State σ) : Prop where
  idle : s.phase = .idle → s.tasks = []
  crashed : s.phase = .crashed → maxPermits < w.settings.permits
  total : s.phase ≠ .idle → s.phase ≠ .crashed →
    s.free + s.phase.held + s.live.length = w.settings.permits

theorem Conserved.initial (w : World σ) (sink : σ) : Conserved w (State.initial sink) :=
  ⟨fun _ => rfl, nofun, fun h => absurd rfl h⟩

namespace Conserved

variable {w : World σ} {s s' : State σ} {move : Move}

/-- What else the state tells does not matter. -/
theorem of_eq (c : Conserved w s) (phase : s'.phase = s.phase) (free : s'.free = s.free)
    (tasks : s'.tasks = s.tasks) : Conserved w s' := by
  refine ⟨?_, ?_, ?_⟩
  · rw [phase, tasks]
    exact c.idle
  · rw [phase]
    exact c.crashed
  · rw [phase, free, State.live, tasks]
    exact c.total

/-- The loop may take a permit and give one back. -/
theorem loop (c : Conserved w s) (started : s.phase ≠ .idle ∧ s.phase ≠ .crashed)
    (working : s'.phase ≠ .idle ∧ s'.phase ≠ .crashed) (tasks : s'.tasks = s.tasks)
    (same : s'.free + s'.phase.held = s.free + s.phase.held) : Conserved w s' := by
  refine ⟨fun h => absurd h working.1, fun h => absurd h working.2, fun _ _ => ?_⟩
  have total := c.total started.1 started.2
  rw [State.live, tasks, same]
  exact total

/-- The loop gives its permit back when it ends. -/
theorem leave (c : Conserved w s) (outcome : Outcome) (started : s.phase ≠ .idle ∧ s.phase ≠ .crashed) :
    Conserved w (s.leave w outcome) :=
  c.loop started (by simp [State.leave]) rfl rfl

theorem joinEnded (c : Conserved w s) : Conserved w s.joinEnded := by
  refine ⟨fun idle => ?_, c.crashed, fun idle crashed => ?_⟩
  · simp [State.joinEnded, c.idle idle]
  · rw [s.live_joinEnded]
    exact c.total idle crashed

/-- A live handler may go on or end. -/
theorem setWork (c : Conserved w s) {handler : Nat} {t : Task} (work : Work)
    (found : s.tasks[handler]? = some t) (live : t.isLive = true) :
    Conserved w (s.setWork handler work) := by
  have kept := s.live_setWork work found live
  have started : s.phase ≠ .idle := fun idle => by simp [c.idle idle] at found
  refine ⟨fun idle => absurd idle started, c.crashed, fun idle crashed => ?_⟩
  have total := c.total idle crashed
  change (s.setWork handler work).free + s.phase.held + (s.setWork handler work).live.length = _
  omega

theorem step (c : Conserved w s) (h : Step w s move s') : Conserved w s' := by
  cases h with
  | start idle fits =>
    refine ⟨by simp, by simp, fun _ _ => ?_⟩
    simp [State.live, c.idle idle, Phase.held]
  | overflow idle exceeds => exact ⟨by simp, fun _ => exceeds, fun _ h => absurd rfl h⟩
  | cancel | wait => exact c.of_eq rfl rfl rfl
  | join joining =>
    exact c.joinEnded.loop (by simp [joining]) (by simp) rfl (by simp [joining, Phase.held])
  | joinSome ending left => exact c.joinEnded
  | joinLast ending none =>
    obtain ⟨started, held⟩ := Phase.started_of_ending ending
    exact c.joinEnded.loop started (by simp [State.stop]) rfl (by rw [s.joinEnded_phase, held]; rfl)
  | acquire acquiring on free =>
    refine c.loop (by simp [acquiring]) (by simp) rfl ?_
    simp only [acquiring, Phase.held]
    omega
  | call ready on => exact c.loop (by simp [ready]) (by simp) rfl (by simp [ready, Phase.held])
  | nothing receiving on cancels =>
    exact c.loop (by simp [receiving]) (by simp [State.again]) (by simp [State.again])
      (by simp [State.again, Phase.held])
  | handout receiving on h cancels =>
    refine ⟨by simp, by simp, fun _ _ => ?_⟩
    have total := c.total (by simp [receiving]) (by simp [receiving])
    simp [receiving, Phase.held, State.live, Task.isLive, Work.isEnded] at total ⊢
    omega
  | transient receiving on reason cancels =>
    exact c.loop (by simp [receiving]) (by simp) (by simp) (by simp [receiving, Phase.held])
  | fatal receiving on reason cancels =>
    have answered : Conserved w (s.answered (.fault (.fatal reason)) cancels) :=
      c.of_eq (by simp) (by simp) (by simp)
    exact answered.leave _ (by simp [receiving])
  | resume pausing on passed =>
    exact c.loop (by simp [pausing]) (by simp [State.again]) rfl (by simp [State.again, Phase.held])
  | interrupt waiting off => exact c.leave _ (Phase.started_of_isWaiting waiting)
  | expireLast draining passed none =>
    exact c.joinEnded.loop (by simp [draining]) (by simp [State.stop]) rfl
      (by simp [State.stop, draining, Phase.held])
  | giveUp draining passed left =>
    exact c.joinEnded.loop (by simp [draining]) (by simp) rfl (by simp [draining, Phase.held])
  | proceed found ready => exact (c.setWork _ found (Task.isLive_of_isReady ready)).of_eq rfl rfl rfl
  | abort aborting found live => exact (c.setWork _ found live).of_eq rfl rfl rfl

end Conserved

/-- The permits are where they can be in every state of every run. -/
theorem Reachable.conserved {w : World σ} {sink : σ} {s : State σ} (reach : Reachable w sink s) :
    Conserved w s :=
  Leads.induction (.initial w sink) Conserved.step reach

/-! ## Taking and returning -/

/-- Whether a move takes a permit. -/
def Move.takes : Move → Bool
  | acquire => true
  | _ => false

/-- Whether a move that leads from one state to another returns a permit: a handler has ended, in
whatever way, or the loop has no use for its own. -/
def Move.returns (s s' : State σ) : Move → Bool
  | proceed handler | abort handler => s'.tasks[handler]?.any (!·.isLive)
  | receive .nothing _ | receive (.fault (.fatal _)) _ | resume => true
  | interrupt => s.phase.held = 1
  | _ => false

section

variable {w : World σ} {s s' : State σ} {move : Move}

theorem any_setWork {handler : Nat} {t : Task} (work : Work) (found : s.tasks[handler]? = some t) :
    (s.setWork handler work).tasks[handler]?.any (!·.isLive) = work.isEnded := by
  simp [State.setWork, found, Task.isLive]

/-- A relay that has started has one permit more or less by what is taken or returned. -/
theorem Step.free (h : Step w s move s') (started : s.phase ≠ .idle) :
    s'.free + (if move.takes then 1 else 0) = s.free + if move.returns s s' then 1 else 0 := by
  cases h with
  | start idle | overflow idle => exact absurd idle started
  | acquire acquiring on free =>
    change s.free - 1 + 1 = s.free + 0
    omega
  | nothing receiving on cancels | fatal receiving on reason cancels =>
    simp [Move.takes, Move.returns, State.again, State.leave, receiving, Phase.held]
  | resume pausing on passed => simp [Move.takes, Move.returns, State.again, pausing, Phase.held]
  | interrupt waiting off =>
    cases phase : s.phase <;> simp [Move.takes, Move.returns, State.leave, phase, Phase.held]
  | @proceed handler t found ready =>
    let after := Relay.proceed w.processor w.sink s.now t.handout s.sink t.work
    have ended : (Move.proceed handler).returns s (s.advance w handler t) = after.work.isEnded :=
      any_setWork (s := { s with sink := after.sink }) after.work found
    rw [ended]
    rfl
  | @abort handler t outcome aborting found live =>
    have ended : (Move.abort handler).returns s (s.cut handler) = true :=
      any_setWork (.ended .aborted) found
    rw [ended]
    rfl
  | _ => simp [Move.takes, Move.returns, State.stop]

/-! ## The way to the next receipt -/

/-- The moves by which the loop, while it receives, gets to its next receipt. -/
def Phase.approach? (now : Nat) : Phase → Option (List Move)
  | joining => some [.join, .acquire, .call]
  | acquiring => some [.acquire, .call]
  | ready => some [.call]
  | receiving => some []
  | pausing till => some [.wait (max now till), .resume, .join, .acquire, .call]
  | _ => none

/-- A loop that waits for a permit gets one just when fewer handlers than permits are live. -/
theorem Conserved.acquire_iff (c : Conserved w s) (acquiring : s.phase = .acquiring)
    (on : s.cancelled = false) :
    (s.step w .acquire).isSome ↔ s.live.length < w.settings.permits := by
  have total := c.total (by simp [acquiring]) (by simp [acquiring])
  simp only [acquiring, Phase.held] at total
  by_cases free : s.free = 0
  · simp [State.step, acquiring, on, free]
    omega
  · simp [State.step, acquiring, on, free]
    omega

theorem receives_ready (ready : s.phase = .ready) (on : s.cancelled = false) :
    ∃ s', s.run w [.call] = some s' ∧ s'.phase = .receiving :=
  ⟨_, State.run_cons (.call ready on) rfl, rfl⟩

theorem Conserved.receives_acquiring (c : Conserved w s) (acquiring : s.phase = .acquiring)
    (on : s.cancelled = false) (room : s.live.length < w.settings.permits) :
    ∃ s', s.run w [.acquire, .call] = some s' ∧ s'.phase = .receiving := by
  have total := c.total (by simp [acquiring]) (by simp [acquiring])
  simp only [acquiring, Phase.held] at total
  have first := Step.acquire (w := w) acquiring on (by omega)
  obtain ⟨s', rest, receiving⟩ := receives_ready (w := w) (s := { s with phase := .ready, free := _ }) rfl on
  exact ⟨s', State.run_cons first rest, receiving⟩

theorem Conserved.receives_joining (c : Conserved w s) (joining : s.phase = .joining)
    (on : s.cancelled = false) (room : s.live.length < w.settings.permits) :
    ∃ s', s.run w [.join, .acquire, .call] = some s' ∧ s'.phase = .receiving := by
  have first := Step.join (w := w) joining
  rw [← s.live_joinEnded] at room
  obtain ⟨s', rest, receiving⟩ := (c.step first).receives_acquiring rfl on room
  exact ⟨s', State.run_cons first rest, receiving⟩

theorem Conserved.receives_pausing (c : Conserved w s) {till : Nat} (pausing : s.phase = .pausing till)
    (on : s.cancelled = false) (room : s.live.length < w.settings.permits) :
    ∃ s', s.run w [.wait (max s.now till), .resume, .join, .acquire, .call] = some s' ∧
      s'.phase = .receiving := by
  have first := Step.wait (w := w) (Nat.le_max_left s.now till)
  have second := Step.resume (w := w) (s := { s with now := max s.now till }) pausing on
    (Nat.le_max_right s.now till)
  obtain ⟨s', rest, receiving⟩ := ((c.step first).step second).receives_joining rfl on room
  exact ⟨s', State.run_cons first (State.run_cons second rest), receiving⟩

/-- Whatever has happened before, a loop that is not cancelled gets to its next receipt by its own moves
while fewer handlers than permits are live. -/
theorem Conserved.receives (c : Conserved w s) (on : s.cancelled = false)
    (room : s.live.length < w.settings.permits) {moves : List Move}
    (way : s.phase.approach? s.now = some moves) :
    ∃ s', s.run w moves = some s' ∧ s'.phase = .receiving := by
  cases phase : s.phase <;> cases phase ▸ way
  case joining => exact c.receives_joining phase on room
  case acquiring => exact c.receives_acquiring phase on room
  case ready => exact receives_ready phase on
  case receiving => exact ⟨s, rfl, phase⟩
  case pausing => exact c.receives_pausing phase on room

end

/-- **Conservation of permits.** A relay that can have its permits and has started has each of them
free, with the loop, or with a handler that has not ended. So there are never more live handlers than
permits, and fewer when the broker is called. Only `acquire` takes a permit, and one comes back with
every end of a handler, of an empty or a fatal receipt, of a pause, and of the loop. If not as many
handlers are live, a loop that waits for a permit gets one, and it always has a way to its next
receipt. -/
theorem permits_conserved (w : World σ) (sink : σ) (s : State σ)
    (fits : w.settings.concurrency ≤ maxPermits) (reach : Reachable w sink s)
    (started : s.phase ≠ .idle) :
    s.free + s.phase.held + s.live.length = max 1 w.settings.concurrency ∧
      s.live.length ≤ max 1 w.settings.concurrency ∧
      (∀ s', s.step w .call = some s' → s.live.length < max 1 w.settings.concurrency) ∧
      (∀ move s', s.step w move = some s' →
        s'.free + (if move.takes then 1 else 0) = s.free + if move.returns s s' then 1 else 0) ∧
      (s.phase = .acquiring → s.cancelled = false →
        ((s.step w .acquire).isSome ↔ s.live.length < max 1 w.settings.concurrency)) ∧
      (∀ moves, s.phase.approach? s.now = some moves → s.cancelled = false →
        s.live.length < max 1 w.settings.concurrency →
        ∃ s', s.run w moves = some s' ∧ s'.phase = .receiving) := by
  have c := reach.conserved
  have works : s.phase ≠ .crashed := by
    intro crashed
    have exceeds := c.crashed crashed
    have one : 1 ≤ maxPermits := by decide
    simp only [Settings.permits] at exceeds
    omega
  have total := c.total started works
  refine ⟨total, ?_, ?_, ?_, ?_, ?_⟩
  · simp only [Settings.permits] at total
    omega
  · intro s' called
    cases State.step_cases called with
    | call ready on =>
      simp only [ready, Phase.held, Settings.permits] at total
      omega
  · exact fun move s' h => (State.step_cases h).free started
  · exact c.acquire_iff
  · exact fun moves way on room => c.receives on room way

/-- One permit is free, the loop has one while it waits for the broker, and one handler hangs. -/
theorem permits_conserved_hanging :
    Sample.world.settings.concurrency ≤ maxPermits ∧ (Sample.last false).phase = .receiving ∧
      (Sample.last false).free = 1 ∧ (Sample.last false).live.length = 1 ∧
      (Sample.last false).free + (Sample.last false).phase.held + (Sample.last false).live.length = 3 := by
  have fits : Sample.world.settings.concurrency ≤ maxPermits := by decide
  have receiving : (Sample.last false).phase = .receiving := rfl
  have conserved := permits_conserved Sample.world 0 (Sample.last false) fits
    (Sample.reachable_last false) (by simp [receiving])
  exact ⟨fits, receiving, rfl, rfl, conserved.1⟩

end BusRelay.Relay
