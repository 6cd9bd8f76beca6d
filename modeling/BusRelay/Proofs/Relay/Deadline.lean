import BusRelay.Proofs.Relay.Completion
import BusRelay.Proofs.Relay.Lifecycle
import BusRelay.Proofs.Relay.Upshot
/-!
# The deadline

`drains_in_time` says of every run in virtual time what becomes of the handlers that are at work when the
loop ends: those that need less than the time to drain run to their end, those that need more are
aborted, and the relay has stopped by the deadline, after all of them.
-/

namespace BusRelay.Relay

variable {σ : Type}

/-- If the sink saw only success, it took every event. -/
theorem allTaken_of_prepared {x : Exchange} {events : List Event}
    (taken : x.prepared = events.map fun e => (e.prepare.1, .ok ())) : x.allTaken = true := by
  refine Exchange.allTaken_iff.2 fun p mem => ?_
  have seen : (p.1.prepare.1, p.2) ∈ x.prepared := List.mem_map_of_mem mem
  rw [taken] at seen
  obtain ⟨event, -, same⟩ := List.mem_map.1 seen
  exact (congrArg Prod.snd same).symm

/-- The broker is called for a handler that reports just if the sink has taken every event. -/
theorem Trail.completing_iff {processor : Processor} {h : Handout} {deeds : List Deed}
    {result : HandlingResult} (trail : Trail processor h (.ended (.reported result)) deeds) :
    .completing ∈ deeds ↔ ∃ events, processor h.delivery.message = .ok events ∧
      exchangedOf deeds = events.map fun e => (e.prepare.1, .ok ()) := by
  have recorded (records : List Log.Record) : .completing ∉ recordDeeds h.id records :=
    not_mem_of_plain (plain_recordDeeds h.id records) rfl
  have dispatched (x : Exchange) : .completing ∉ h.dispatched x :=
    not_mem_of_plain (plain_dispatched h x) rfl
  cases trail with
  | refused no => simp [no, recorded]
  | @undelivered x yes some =>
    have exchanged : exchangedOf (h.dispatched x ++ recordDeeds h.id [unsettledRecord h.id x.failures.length] ++
        [.ended (.reported (.error (.undelivered x.failures)))]) = x.prepared := by
      simp [exchangedOf_dispatched, exchangedOf_cons, Deed.exchanged?]
    refine iff_of_false (by simp [dispatched, recorded]) ?_
    rintro ⟨events, -, taken⟩
    rw [exchanged] at taken
    exact absurd (allTaken_of_prepared taken) (by simp [some])
  | @completed x yes all =>
    refine iff_of_true (by simp) ⟨x.events, yes, ?_⟩
    simp [exchangedOf_dispatched, exchangedOf_cons, Deed.exchanged?, Action.exchanged?,
      Exchange.prepared_of_allTaken all]
  | cut trail live cut => cases cut

/-- A handler has run to its end: it has crashed, or it has reported and has called the broker just if the
sink has taken every event of its message. -/
def State.RanToEnd (w : World σ) (s : State σ) (i : Nat) (h : Handout) (time : Nat) (how : Ending) : Prop :=
  endingsOf (s.deeds i) = [how] ∧ (time, .did i (.ended how)) ∈ s.history ∧
    (how = .crashed ∨ ∃ result, how = .reported result ∧ (i, some h.id, result) ∈ s.told ∧
      (.completing ∈ s.deeds i ↔ ∃ events, w.processor h.delivery.message = .ok events ∧
        exchangedOf (s.deeds i) = events.map fun e => (e.prepare.1, .ok ())))

section

variable {w : World σ} {s₀ s s' : State σ} {move : Move} {outcome : Outcome}

/-- A loop that ends waits for its handlers from now on. -/
theorem Step.leaves (h : Step w s₀ move s) (receives : s₀.phase.outcome? = none)
    (ends : s.phase.outcome? = some outcome) :
    s₀.isTimely move = true ∧ s.phase = .draining (s.now + w.settings.drain) outcome := by
  rcases h.ends receives ends with ⟨rfl, -, rfl⟩ | ⟨reason, cancels, rfl, -, rfl⟩
  · cases h with
    | interrupt => exact ⟨rfl, rfl⟩
  · cases h with
    | fatal => exact ⟨rfl, by simp [State.leave, State.add]⟩

/-- What holds when the loop has just ended. -/
theorem Winding.of_leaves {sink : σ} {before : List Move}
    (prompt : (State.initial sink).runPromptly w before = some s₀) (h : Step w s₀ move s)
    (receives : s₀.phase.outcome? = none) (ends : s.phase.outcome? = some outcome) :
    Winding w (s.now + w.settings.drain) outcome s := by
  have leads := State.leads_of_runPromptly prompt
  obtain ⟨timely, draining⟩ := h.leaves receives ends
  have punctual : s₀.Punctual := State.punctual_of_runPromptly (by simp [State.Punctual, State.initial]) prompt
  have past := (leads.trans (.single h)).past (by simp [State.initial])
  refine ⟨.step (Reachable.manned leads) h, punctual.step timely h, ?_, ?_, ?_⟩
  · rw [draining]
    exact ⟨rfl, rfl, Nat.le_add_right _ _⟩
  · intro time handler deed mem
    exact Nat.le_trans (past _ mem) (Nat.le_add_right _ _)
  · simp [draining, Phase.isStopped]

/-- When the relay has stopped, what has become of a handler is settled by when it would have ended. -/
theorem Upshot.settled {h : Handout} {deadline i now : Nat} {plan : List (Reply SendAnswer)} {work : Work}
    (upshot : Upshot w.processor h deadline s' i now plan work) (c : Winding w deadline outcome s')
    (stopped : s'.phase = .stopped outcome) :
    (∀ time how, EndsAt w.processor h now plan work time how → time < deadline → s'.RanToEnd w i h time how) ∧
      ((∀ time how, EndsAt w.processor h now plan work time how → deadline < time) →
        endingsOf (s'.deeds i) = [.aborted]) := by
  cases upshot with
  | goesOn found live =>
    obtain ⟨how, ended, -⟩ := c.manned.ended_of_stopped stopped found
    simp [Task.isLive, ended, Work.isEnded] at live
  | @ended t late how found handout ended itself told ends =>
    have endings : endingsOf (s'.deeds i) = [how] := by
      rw [(c.manned.account i t found).trail.endings, ended]
      rfl
    constructor
    · intro time how' ends' before
      obtain ⟨rfl, rfl⟩ := ends.unique ends'
      refine ⟨endings, told, ?_⟩
      cases how with
      | crashed => exact .inl rfl
      | aborted => exact absurd rfl itself
      | reported result =>
        have trail := (c.manned.account i t found).trail
        rw [handout, ended] at trail
        refine .inr ⟨result, rfl, State.mem_told.2 ⟨State.mem_deeds.2 ⟨late, told⟩, ?_⟩, trail.completing_iff⟩
        simp [found, handout]
    · intro tooLate
      exact absurd (tooLate late how ends) (Nat.not_lt.2 (c.acts late i _ told))
  | @aborted t found ended late =>
    constructor
    · intro time how ends before
      exact absurd before (Nat.not_lt.2 (late time how ends))
    · intro
      rw [(c.manned.account i t found).trail.endings, ended]
      rfl

end

/-- **The deadline.** Let the loop of a relay end in virtual time. Until it has stopped, its deadline is not
over, there is a move to make, and there are only so many. When it has stopped, it has done so by the
deadline, and after every deed of its handlers; these have all ended and are joined. Nothing is done for
any delivery after the deadline. Of the handlers that were at work when the loop ended, those that would
end before the deadline, by what the sink has in store for them, have run to their end just then; those
that would end after it, or not at all, were aborted. -/
theorem drains_in_time (w : World σ) (sink : σ) (before moves : List Move) (move : Move) (s₀ s s' : State σ)
    (outcome : Outcome) (prompt : (State.initial sink).runPromptly w before = some s₀)
    (receives : s₀.phase.outcome? = none) (made : s₀.step w move = some s)
    (ends : s.phase.outcome? = some outcome) (run : s.runPromptly w moves = some s') :
    let deadline := s.now + w.settings.drain
    (s'.phase.isStopped = false → s'.now ≤ deadline ∧
      moves.countP (!·.isCancel) ≤ s.rank w.processor deadline ∧
        ∃ next s'', next ≠ .cancel ∧ s'.isTimely next = true ∧ s'.step w next = some s'') ∧
      (∀ time i deed, (time, .did i deed) ∈ s'.history → time ≤ deadline) ∧
      (s'.phase.isStopped = true → s'.phase = .stopped outcome ∧
        (∀ t ∈ s'.tasks, t.isLive = false ∧ t.joined = true) ∧
        (∃ earlier time later, s'.history = earlier ++ (time, .published .stopped) :: later ∧
          time ≤ deadline ∧ ∀ entry ∈ later, ∀ i deed, entry.2 ≠ .did i deed) ∧
        ∀ i t, s.tasks[i]? = some t → t.isLive = true → ∀ plan, s.repliesTo w i moves <+: plan →
          (∀ time how, EndsAt w.processor t.handout s.now plan t.work time how → time < deadline →
            s'.RanToEnd w i t.handout time how) ∧
          ((∀ time how, EndsAt w.processor t.handout s.now plan t.work time how → deadline < time) →
            endingsOf (s'.deeds i) = [.aborted])) := by
  intro deadline
  have c : Winding w deadline outcome s := .of_leaves prompt (State.step_cases made) receives ends
  have c' := c.of_run run
  refine ⟨?_, c'.acts, ?_⟩
  · intro on
    obtain ⟨next, s'', own, timely, step⟩ := c'.progress on
    refine ⟨c'.phase.now_le on, ?_, next, s'', own, timely, State.step_iff.2 step⟩
    exact Nat.le_trans (Nat.le_add_right _ _) (c.bounded run on)
  · intro off
    obtain ⟨o, stopped⟩ := Phase.isStopped_iff.1 off
    obtain rfl := c'.phase.outcome_eq stopped
    refine ⟨stopped, ?_, c'.stopped off, ?_⟩
    · intro t mem
      obtain ⟨i, found⟩ := List.mem_iff_getElem?.1 mem
      obtain ⟨how, ended, -⟩ := c'.manned.ended_of_stopped stopped found
      have joined := List.filter_eq_nil_iff.1 (c'.manned.stopped o stopped) t mem
      exact ⟨by simp [Task.isLive, ended, Work.isEnded], by simpa using joined⟩
    · intro i t found live plan replies
      exact (c.upshot found live run replies).settled c' stopped

namespace Sample

/-- Takes every event, the first after 3 milliseconds and others after 30. -/
def slowSink : TimedSink Nat
  | 0, _ => ({ delay := some 3, answer := some (.ok ()) }, 1)
  | calls, _ => ({ delay := some 30, answer := some (.ok ()) }, calls + 1)

def slow : World Nat := { world with sink := slowSink }

/-- Two messages are at work when the loop finds the relay cancelled. -/
def toTheEnd : List Move :=
  [.start, .join, .acquire, .call, .receive (.handout first) false, .join, .proceed 0, .acquire, .call,
    .wait 1, .receive (.handout second) true, .join, .proceed 1]

/-- The first is done in time. For the second the time is too short. -/
def windingUp : List Move :=
  [.wait 3, .proceed 0, .proceed 0, .join, .wait 11, .expire, .abort 1, .join]

def atTheEnd : State Nat := ((State.initial 0).runPromptly slow toTheEnd).getD (State.initial 0)

def interrupted : State Nat := (atTheEnd.step slow .interrupt).getD atTheEnd

def drained : State Nat := (interrupted.runPromptly slow windingUp).getD interrupted

end Sample

/-- Of two handlers, one needs 2 more milliseconds and one 30, of 10 that they have. -/
theorem drains_in_time_two :
    (State.initial 0).runPromptly Sample.slow Sample.toTheEnd = some Sample.atTheEnd ∧
      Sample.atTheEnd.phase.outcome? = none ∧
      Sample.atTheEnd.step Sample.slow .interrupt = some Sample.interrupted ∧
      Sample.interrupted.phase.outcome? = some (.ok ()) ∧
      Sample.interrupted.runPromptly Sample.slow Sample.windingUp = some Sample.drained ∧
      Sample.drained.phase = .stopped (.ok ()) ∧
      Sample.drained.RanToEnd Sample.slow 0 Sample.first 3 (.reported (.ok ())) ∧
      endingsOf (Sample.drained.deeds 1) = [.aborted] := by
  obtain ⟨-, -, settled⟩ := drains_in_time Sample.slow 0 Sample.toTheEnd Sample.windingUp .interrupt
    Sample.atTheEnd Sample.interrupted Sample.drained (.ok ()) rfl rfl rfl rfl rfl
  obtain ⟨stopped, -, -, upshot⟩ := settled rfl
  obtain ⟨inTime, -⟩ := upshot 0 _ rfl rfl [] (List.prefix_refl _)
  obtain ⟨-, tooLate⟩ := upshot 1 _ rfl rfl [] (List.prefix_refl _)
  refine ⟨rfl, rfl, rfl, rfl, rfl, stopped, inTime 3 _ (.more rfl (.last rfl rfl)) (by decide), tooLate ?_⟩
  intro time how ends
  obtain ⟨rfl, -⟩ := EndsAt.unique (.more rfl (.last rfl rfl)) ends
  decide

end BusRelay.Relay
