import BusRelay.Proofs.Relay.Drain
import BusRelay.Proofs.Relay.Prompt
/-!
# The end of the relay in virtual time

When the loop has ended, it waits for the handlers that are left until the deadline, aborts those that are
still there without delay, and then the relay has stopped (`Step.winds`). In a prompt run nothing is done
for a delivery after the deadline or after the relay has stopped (`Winding`). Every move but a
cancellation leaves less to do (`Winding.rank_step`), and as long as the relay has not stopped there is a
move to make (`Winding.progress`).
-/

namespace BusRelay.Relay

variable {σ : Type}

/-- The loop has ended with this outcome, and waits until the deadline at most. -/
def Phase.Winds (deadline : Nat) (outcome : Outcome) (now : Nat) : Phase → Prop
  | draining till o => till = deadline ∧ o = outcome ∧ now ≤ deadline
  | aborting o => o = outcome ∧ now = deadline
  | stopped o => o = outcome
  | _ => False

def Phase.isStopped : Phase → Bool
  | stopped _ => true
  | _ => false

theorem Phase.isStopped_iff {p : Phase} : p.isStopped = true ↔ ∃ outcome, p = .stopped outcome := by
  cases p <;> simp [isStopped]

section

variable {w : World σ} {s s' : State σ} {move : Move} {deadline : Nat} {outcome : Outcome}

theorem Phase.Winds.now_le {p : Phase} {now : Nat} (winds : p.Winds deadline outcome now)
    (on : p.isStopped = false) : now ≤ deadline := by
  cases p with
  | draining till o => exact winds.2.2
  | aborting o => exact Nat.le_of_eq winds.2
  | stopped o => cases on
  | _ => exact winds.elim

theorem Phase.Winds.outcome_eq {p : Phase} {now : Nat} (winds : p.Winds deadline outcome now)
    {other : Outcome} (stopped : p = .stopped other) : other = outcome := by
  subst stopped
  exact winds

/-- In a prompt run the loop gives up at the deadline and then aborts without delay. -/
theorem Step.winds (h : Step w s move s') (timely : s.isTimely move = true)
    (winds : s.phase.Winds deadline outcome s.now) : s'.phase.Winds deadline outcome s'.now := by
  have never {p : Phase} (phase : s.phase = p) (no : p.Winds deadline outcome s.now = False) {q : Prop} :
      q := by
    rw [phase, no] at winds
    exact winds.elim
  cases h with
  | start idle | overflow idle => exact never idle rfl
  | join joining => exact never joining rfl
  | acquire acquiring => exact never acquiring rfl
  | call ready => exact never ready rfl
  | nothing receiving | handout receiving | fatal receiving | transient receiving => exact never receiving rfl
  | resume pausing => exact never pausing rfl
  | interrupt waiting =>
    cases phase : s.phase with
    | draining | aborting | stopped =>
      rw [phase] at waiting
      cases waiting
    | _ => exact never phase rfl
  | joinLast ending =>
    cases phase : s.phase with
    | draining till o =>
      rw [phase] at ending winds
      cases ending
      exact winds.2.1
    | aborting o =>
      rw [phase] at ending winds
      cases ending
      exact winds.1
    | _ =>
      rw [phase] at ending
      cases ending
  | expireLast draining passed none =>
    rw [draining] at winds
    exact winds.2.1
  | giveUp draining passed left =>
    rw [draining] at winds
    obtain ⟨rfl, same, before⟩ := winds
    exact ⟨same, Nat.le_antisymm before passed⟩
  | wait later =>
    simp only [State.isTimely, Bool.and_eq_true] at timely
    obtain ⟨⟨quiet, -⟩, dues⟩ := timely
    cases phase : s.phase with
    | draining till o =>
      rw [phase] at winds
      obtain ⟨rfl, same, -⟩ := winds
      have due : till ∈ s.dues := by simp [State.dues, phase]
      exact ⟨rfl, same, by simpa using List.all_eq_true.1 dues till due⟩
    | aborting o => simp [State.isQuiet, phase] at quiet
    | stopped o =>
      rw [phase] at winds
      exact winds
    | _ => exact never phase rfl
  | _ => exact winds

/-- When the relay stops, it says so, and this is the last thing that has happened. -/
theorem Step.stops (h : Step w s move s') (on : s.phase.isStopped = false) (off : s'.phase.isStopped = true) :
    ∃ earlier, s'.history = earlier ++ [(s.now, .published .stopped)] := by
  cases h with
  | joinLast | expireLast => exact ⟨s.joinEnded.history, rfl⟩
  | cancel | joinSome | proceed | abort | wait =>
    exact absurd (on.symm.trans off) Bool.false_ne_true
  | _ => cases off

/-- After the relay has stopped, nothing is done for any delivery. -/
theorem Step.of_stopped (h : Step w s move s') (m : Manned w.processor s) (off : s.phase = .stopped outcome) :
    s'.phase = .stopped outcome ∧ ∃ hs : List Happening, s'.history = s.history ++ hs.map (s.now, ·) ∧
      ∀ happening ∈ hs, ∀ handler deed, happening ≠ .did handler deed := by
  cases h with
  | cancel => exact ⟨off, [.cancelled], rfl, by simp⟩
  | wait => exact ⟨off, [], by simp, by simp⟩
  | proceed found ready =>
    obtain ⟨how, ended, -⟩ := m.ended_of_stopped off found
    rw [ended] at ready
    cases ready
  | interrupt waiting => simp [off, Phase.isWaiting] at waiting
  | joinSome ending | joinLast ending => simp [off, Phase.ending?] at ending
  | start phase | overflow phase | join phase | acquire phase | call phase | nothing phase | handout phase
    | fatal phase | transient phase | resume phase | expireLast phase | giveUp phase | abort phase =>
    rw [off] at phase
    cases phase

end

/-! ## The invariant -/

/-- What holds in a prompt run after the loop has ended. -/
structure Winding (w : World σ) (deadline : Nat) (outcome : Outcome) (s : State σ) : Prop where
  manned : Manned w.processor s
  punctual : s.Punctual
  phase : s.phase.Winds deadline outcome s.now
  acts : ∀ time handler deed, (time, .did handler deed) ∈ s.history → time ≤ deadline
  stopped : s.phase.isStopped = true → ∃ earlier time later,
    s.history = earlier ++ (time, .published .stopped) :: later ∧ time ≤ deadline ∧
      ∀ entry ∈ later, ∀ handler deed, entry.2 ≠ .did handler deed

namespace Winding

variable {w : World σ} {s s' : State σ} {move : Move} {moves : List Move} {deadline : Nat}
  {outcome : Outcome}

theorem step (c : Winding w deadline outcome s) (timely : s.isTimely move = true) (h : Step w s move s') :
    Winding w deadline outcome s' := by
  refine ⟨c.manned.step h, c.punctual.step timely h, h.winds timely c.phase, ?_, ?_⟩
  · intro time handler deed mem
    cases on : s.phase.isStopped with
    | false =>
      obtain ⟨hs, more, -⟩ := h.more
      rcases (mem_of_more more).1 mem with old | ⟨rfl, -⟩
      · exact c.acts time handler deed old
      · exact c.phase.now_le on
    | true =>
      obtain ⟨o, off⟩ := Phase.isStopped_iff.1 on
      obtain ⟨-, hs, more, idle⟩ := h.of_stopped c.manned off
      rcases (mem_of_more more).1 mem with old | ⟨-, added⟩
      · exact c.acts time handler deed old
      · exact absurd rfl (idle _ added handler deed)
  · intro off
    cases on : s.phase.isStopped with
    | false =>
      obtain ⟨earlier, more⟩ := h.stops on off
      exact ⟨earlier, s.now, [], more, c.phase.now_le on, by simp⟩
    | true =>
      obtain ⟨o, was⟩ := Phase.isStopped_iff.1 on
      obtain ⟨earlier, time, later, split, before, idle⟩ := c.stopped on
      obtain ⟨-, hs, more, still⟩ := h.of_stopped c.manned was
      refine ⟨earlier, time, later ++ hs.map (s.now, ·), by simp [more, split], before, ?_⟩
      intro entry mem handler deed
      rcases (mem_of_more rfl).1 mem with old | ⟨-, added⟩
      · exact idle entry old handler deed
      · exact still entry.2 added handler deed

theorem of_run (c : Winding w deadline outcome s) (run : s.runPromptly w moves = some s') :
    Winding w deadline outcome s' := by
  induction moves generalizing s with
  | nil =>
    cases run
    exact c
  | cons move rest ih =>
    obtain ⟨timely, mid, made, run⟩ := State.runPromptly_cons run
    exact ih (c.step timely made) run

end Winding

/-! ## What is left to do -/

/-- How often a handler goes on at most, and that it is joined. -/
def Task.rank (processor : Processor) (t : Task) : Nat :=
  t.work.rank processor t.handout + if t.joined then 0 else 1

/-- What the loop still has to do besides joining. -/
def Phase.rank : Phase → Nat
  | draining .. => 2
  | aborting _ => 1
  | _ => 0

/-- What is left to do for all of some handlers. -/
def rankOf (processor : Processor) : List Task → Nat
  | [] => 0
  | t :: rest => t.rank processor + rankOf processor rest

/-- A bound on the moves that are left once the loop has ended, cancellations aside. -/
def State.rank (processor : Processor) (deadline : Nat) (s : State σ) : Nat :=
  rankOf processor s.tasks + (deadline - s.now) + s.phase.rank

def Move.isCancel : Move → Bool
  | cancel => true
  | _ => false

section

variable (processor : Processor)

theorem rank_join_le (t : Task) : t.join.rank processor ≤ t.rank processor := by
  unfold Task.rank Task.join
  cases t.joined <;> cases t.isLive <;> simp

theorem rank_join_lt {t : Task} (open? : t.joined = false) (ended : t.isLive = false) :
    t.join.rank processor < t.rank processor := by
  simp [Task.rank, Task.join, open?, ended]

theorem rankOf_join_le (tasks : List Task) :
    rankOf processor (tasks.map Task.join) ≤ rankOf processor tasks := by
  induction tasks with
  | nil => exact Nat.le_refl 0
  | cons t rest ih => exact Nat.add_le_add (rank_join_le processor t) ih

/-- Joining a handler leaves less to do. -/
theorem rankOf_join_lt {tasks : List Task} {t : Task} (mem : t ∈ tasks) (open? : t.joined = false)
    (ended : t.isLive = false) : rankOf processor (tasks.map Task.join) < rankOf processor tasks := by
  induction tasks with
  | nil => cases mem
  | cons first rest ih =>
    rcases List.mem_cons.1 mem with rfl | mem
    · exact Nat.add_lt_add_of_lt_of_le (rank_join_lt processor open? ended) (rankOf_join_le processor rest)
    · exact Nat.add_lt_add_of_le_of_lt (rank_join_le processor first) (ih mem)

/-- A handler that goes on leaves less to do. -/
theorem rankOf_modify_lt {tasks : List Task} {i : Nat} {t : Task} (found : tasks[i]? = some t) {work : Work}
    (less : work.rank processor t.handout < t.work.rank processor t.handout) :
    rankOf processor (tasks.modify i fun t => { t with work }) < rankOf processor tasks := by
  induction tasks generalizing i with
  | nil => cases found
  | cons first rest ih =>
    cases i with
    | zero =>
      obtain rfl : first = t := by simpa using found
      simp only [List.modify_zero_cons, rankOf, Task.rank]
      omega
    | succ i => exact Nat.add_lt_add_left (ih (by simpa using found)) _

theorem Work.rank_pos {work : Work} (live : work.isEnded = false) (h : Handout) :
    0 < work.rank processor h := by
  cases work with
  | queued =>
    simp only [Work.rank]
    split <;> simp
  | ended how => cases live
  | _ => simp [Work.rank]

end

/-- If nobody can go on before the deadline, the clock does. -/
theorem State.timely_tick {s : State σ} {till : Nat} {outcome : Outcome}
    (draining : s.phase = .draining till outcome) (before : s.now < till) (left : s.unjoined.isEmpty = false)
    (live : ∀ t ∈ s.unjoined, t.isLive = true) (idle : ∀ t ∈ s.tasks, t.work.isReady s.now = false) :
    s.isTimely (.wait (s.now + 1)) = true := by
  have quiet : s.isQuiet = true := by
    simp only [State.isQuiet, draining, Bool.and_eq_true, List.all_eq_true, Bool.not_eq_true',
      decide_eq_true_eq]
    exact ⟨idle, ⟨before, left⟩, live⟩
  have dues : s.dues.all (s.now + 1 ≤ ·) = true := by
    refine List.all_eq_true.2 fun due mem => decide_eq_true ?_
    simp only [State.dues, draining, List.mem_append, List.mem_filterMap, List.mem_singleton] at mem
    rcases mem with ⟨t, mem, waits⟩ | rfl
    · exact Work.lt_due (idle t (List.mem_filter.1 mem).1) waits
    · exact before
  simp only [State.isTimely, quiet, dues, Bool.and_eq_true, decide_eq_true_eq, and_true, true_and]
  exact Nat.lt_succ_self _

namespace Winding

variable {w : World σ} {s s' : State σ} {move : Move} {moves : List Move} {deadline : Nat}
  {outcome : Outcome}

/-- Until the relay has stopped, it drains, or it aborts at the deadline. -/
theorem goesOn (c : Winding w deadline outcome s) (on : s.phase.isStopped = false) :
    (s.phase = .draining deadline outcome ∧ s.now ≤ deadline) ∨
      (s.phase = .aborting outcome ∧ s.now = deadline) := by
  have winds := c.phase
  cases phase : s.phase with
  | draining till o =>
    rw [phase] at winds
    obtain ⟨rfl, rfl, before⟩ := winds
    exact .inl ⟨rfl, before⟩
  | aborting o =>
    rw [phase] at winds
    obtain ⟨rfl, now⟩ := winds
    exact .inr ⟨rfl, now⟩
  | stopped o =>
    rw [phase] at on
    cases on
  | _ =>
    rw [phase] at winds
    exact winds.elim

theorem ending (c : Winding w deadline outcome s) (on : s.phase.isStopped = false) :
    s.phase.ending? = some outcome := by
  rcases c.goesOn on with ⟨phase, -⟩ | ⟨phase, -⟩ <;> rw [phase] <;> rfl

/-- A loop that has ended goes on to join just if there is somebody to join, or nobody left. -/
theorem isTimely_join (c : Winding w deadline outcome s) (on : s.phase.isStopped = false) :
    s.isTimely .join = (s.unjoined.isEmpty || s.unjoined.any (!·.isLive)) := by
  rcases c.goesOn on with ⟨phase, -⟩ | ⟨phase, -⟩ <;> simp only [State.isTimely, phase]

/-- Time passes only before the deadline. -/
theorem before_of_isQuiet (c : Winding w deadline outcome s) (on : s.phase.isStopped = false)
    (quiet : s.isQuiet = true) : s.now < deadline := by
  rcases c.goesOn on with ⟨phase, -⟩ | ⟨phase, -⟩
  · simp only [State.isQuiet, phase, Bool.and_eq_true, decide_eq_true_eq] at quiet
    exact quiet.2.1.1
  · simp [State.isQuiet, phase] at quiet

/-- Every move but a cancellation leaves less to do. -/
theorem rank_step (c : Winding w deadline outcome s) (on : s.phase.isStopped = false)
    (timely : s.isTimely move = true) (h : Step w s move s') (own : move ≠ .cancel) :
    s'.rank w.processor deadline < s.rank w.processor deadline := by
  have ending := c.ending on
  have joins := rankOf_join_le w.processor s.tasks
  cases h with
  | cancel => exact absurd rfl own
  | joinSome ends left =>
    have some : s.unjoined ≠ [] := fun none => left (State.unjoined_joinEnded none)
    obtain ⟨t, mem, ended⟩ : ∃ t ∈ s.unjoined, t.isLive = false := by
      rw [c.isTimely_join on] at timely
      simpa [some] using timely
    obtain ⟨mem, open?⟩ := List.mem_filter.1 mem
    have less := rankOf_join_lt w.processor mem (by simpa using open?) ended
    simp only [State.rank, State.joinEnded, State.add_tasks, State.add_now, State.add_phase]
    omega
  | joinLast ends none =>
    have before : 0 < s.phase.rank := by
      rcases c.goesOn on with ⟨phase, -⟩ | ⟨phase, -⟩ <;> simp [phase, Phase.rank]
    have after : (Phase.stopped ‹Outcome›).rank = 0 := rfl
    simp only [State.rank, State.stop, State.joinEnded, State.add_tasks, State.add_now, State.add_phase,
      after]
    omega
  | expireLast draining passed none =>
    simp only [State.rank, State.stop, State.joinEnded, State.add_tasks, State.add_now, State.add_phase,
      Phase.rank, draining]
    omega
  | giveUp draining passed left =>
    simp only [State.rank, State.joinEnded, State.add_tasks, State.add_now, State.add_phase, Phase.rank,
      draining]
    omega
  | @proceed handler t found ready =>
    have working : t.work.isEnded = false := by simpa [Task.isLive] using Task.isLive_of_isReady ready
    have less := rankOf_modify_lt w.processor found (rank_proceed w.processor w.sink s.now _ s.sink working)
    simp only [State.rank, State.advance, State.setWork, State.add_tasks, State.add_now, State.add_phase]
    omega
  | @abort handler t outcome aborting found live =>
    have working : t.work.isEnded = false := by simpa [Task.isLive] using live
    have spent : Work.rank w.processor t.handout (.ended .aborted) < t.work.rank w.processor t.handout :=
      Work.rank_pos w.processor working t.handout
    have less := rankOf_modify_lt w.processor found spent
    simp only [State.rank, State.cut, State.setWork, State.add_tasks, State.add_now, State.add_phase]
    omega
  | @wait till later =>
    simp only [State.isTimely, Bool.and_eq_true, decide_eq_true_eq] at timely
    obtain ⟨⟨quiet, passes⟩, -⟩ := timely
    have before := c.before_of_isQuiet on quiet
    simp only [State.rank]
    omega
  | start phase | overflow phase | join phase | acquire phase | call phase | nothing phase | handout phase
    | fatal phase | transient phase | resume phase => simp [phase, Phase.ending?] at ending
  | interrupt waiting =>
    rcases c.goesOn on with ⟨phase, -⟩ | ⟨phase, -⟩ <;> simp [phase, Phase.isWaiting] at waiting

/-- As long as the relay has not stopped, there is a move to make. -/
theorem progress (c : Winding w deadline outcome s) (on : s.phase.isStopped = false) :
    ∃ move s', move ≠ .cancel ∧ s.isTimely move = true ∧ Step w s move s' := by
  have ending := c.ending on
  cases someone : s.unjoined.isEmpty || s.unjoined.any (!·.isLive) with
  | true =>
    have timely : s.isTimely .join = true := (c.isTimely_join on).trans someone
    by_cases none : s.joinEnded.unjoined = []
    · exact ⟨.join, _, (by simp), timely, .joinLast ending none⟩
    · exact ⟨.join, _, (by simp), timely, .joinSome ending none⟩
  | false =>
    simp only [Bool.or_eq_false_iff, List.any_eq_false, Bool.not_eq_true', Bool.not_eq_false] at someone
    obtain ⟨left, live⟩ := someone
    by_cases ready : ∃ t ∈ s.tasks, t.work.isReady s.now = true
    · obtain ⟨t, mem, ready⟩ := ready
      obtain ⟨i, found⟩ := List.mem_iff_getElem?.1 mem
      exact ⟨.proceed i, _, (by simp), rfl, .proceed found ready⟩
    rcases c.goesOn on with ⟨phase, -⟩ | ⟨phase, -⟩
    · by_cases passed : deadline ≤ s.now
      · by_cases none : s.joinEnded.unjoined = []
        · exact ⟨.expire, _, (by simp), rfl, .expireLast phase passed none⟩
        · exact ⟨.expire, _, (by simp), rfl, .giveUp phase passed none⟩
      · have idle : ∀ t ∈ s.tasks, t.work.isReady s.now = false := by simpa using ready
        exact ⟨.wait (s.now + 1), _, (by simp),
          State.timely_tick phase (Nat.lt_of_not_le passed) left live idle, .wait (Nat.le_succ _)⟩
    · obtain ⟨t, mem⟩ := List.exists_mem_of_ne_nil s.unjoined (by simpa using left)
      obtain ⟨i, found⟩ := List.mem_iff_getElem?.1 (List.mem_filter.1 mem).1
      exact ⟨.abort i, _, (by simp), rfl, .abort phase found (live t mem)⟩

/-- A relay that has stopped stays so. -/
theorem stays (c : Winding w deadline outcome s) (run : s.runPromptly w moves = some s')
    (off : s.phase.isStopped = true) : s'.phase.isStopped = true := by
  induction moves generalizing s with
  | nil =>
    cases run
    exact off
  | cons move rest ih =>
    obtain ⟨timely, mid, made, run⟩ := State.runPromptly_cons run
    obtain ⟨o, stopped⟩ := Phase.isStopped_iff.1 off
    exact ih (c.step timely made) run (Phase.isStopped_iff.2 ⟨o, (made.of_stopped c.manned stopped).1⟩)

/-- Until the relay has stopped, only so many moves are made, cancellations aside. -/
theorem bounded (c : Winding w deadline outcome s) (run : s.runPromptly w moves = some s')
    (on : s'.phase.isStopped = false) :
    moves.countP (!·.isCancel) + s'.rank w.processor deadline ≤ s.rank w.processor deadline := by
  induction moves generalizing s with
  | nil =>
    cases run
    simp
  | cons move rest ih =>
    have open? : s.phase.isStopped = false := by
      cases off : s.phase.isStopped with
      | false => rfl
      | true => exact (c.stays run off).symm.trans on
    obtain ⟨timely, mid, made, run⟩ := State.runPromptly_cons run
    have rest := ih (c.step timely made) run
    by_cases own : move = .cancel
    · subst own
      cases made
      exact rest
    · have less := c.rank_step open? timely made own
      have counts : move.isCancel = false := by cases move <;> first | rfl | exact absurd rfl own
      rw [List.countP_cons_of_pos (by simp [counts])]
      omega

end Winding

end BusRelay.Relay
