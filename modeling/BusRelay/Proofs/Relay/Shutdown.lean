import BusRelay.Proofs.List
import BusRelay.Proofs.Relay.Ledger
import BusRelay.Proofs.Relay.Lifecycle
import BusRelay.Proofs.Relay.Unjoined
import BusRelay.Proofs.Relay.Upshot
/-!
# What a shutdown counts

When the loop ends it tells how many handlers are in flight, and when their time is up, how many it aborts. It counts
what is not joined. So those in flight include the handlers that have ended since the loop has joined last, and those
aborted include the handlers that still end by themselves before anybody aborts them. `shutdown_counted` says what is
counted in every run.
-/

namespace BusRelay.Relay

variable {σ : Type}

/-! ## The counts of a run -/

/-- A happening that counts handlers. -/
def Happening.count? : Happening → Option Happening
  | waiting handlers => some (.waiting handlers)
  | gaveUp handlers => some (.gaveUp handlers)
  | _ => none

/-- How far the shutdown is: the loop receives, waits for handlers, aborts them, or has stopped. -/
def Phase.closing (p : Phase) : Nat :=
  match p with
  | draining .. => 1
  | aborting _ => 2
  | stopped _ => 3
  | _ => 0

theorem Phase.closing_eq_zero_iff {p : Phase} : p.closing = 0 ↔ p.outcome? = none := by
  cases p <;> simp [closing, outcome?]

theorem Phase.closing_of_isWaiting {p : Phase} (waiting : p.isWaiting = true) : p.closing = 0 := by
  cases p <;> first | rfl | cases waiting

theorem Phase.closing_of_ending {p : Phase} {outcome : Outcome} (ending : p.ending? = some outcome) :
    p.closing ≠ 0 := by
  cases p <;> simp_all [ending?, closing]

/-- What a move counts, and how far it takes the shutdown. -/
inductive Counts (s : State σ) (move : Move) (s' : State σ) : Prop where
  | nothing (same : s'.pick Happening.count? = s.pick Happening.count?)
      (on : s'.phase.closing = s.phase.closing ∨ s.phase.closing ≠ 0 ∧ s'.phase.closing = 3)
  | inFlight (receives : s.phase.closing = 0) (drains : s'.phase.closing = 1)
  | aborted (made : move = .expire) (drains : s.phase.closing = 1) (aborts : s'.phase.closing = 2)
      (left : s.joinEnded.unjoined ≠ []) (tasks : s'.tasks = s.joinEnded.tasks)
      (more : s'.history = s.joinEnded.history ++ [(s.now, .gaveUp s.joinEnded.unjoined.length)])

section

variable {w : World σ} {s s' : State σ} {move : Move}

theorem State.pick_count_joinEnded (s : State σ) : s.joinEnded.pick Happening.count? = s.pick Happening.count? := by
  have more : s.joinEnded.history = s.history ++ (State.joinings 0 s.tasks).map (s.now, ·) := rfl
  refine State.pick_of_none more _ fun happening mem => ?_
  obtain ⟨handler, how, rfl⟩ := State.joinings_cases s.tasks 0 happening mem
  rfl

theorem State.pick_count_stop (s : State σ) (outcome : Outcome) :
    (s.stop outcome).pick Happening.count? = s.pick Happening.count? := by
  have more : (s.stop outcome).history = s.history ++ [Happening.published .stopped].map (s.now, ·) := rfl
  exact State.pick_of_none more _ (by simp [Happening.count?])

theorem Step.counts (h : Step w s move s') : Counts s move s' := by
  have still {mid : State σ} (hs : List Happening) (more : mid.history = s.history ++ hs.map (s.now, ·))
      (none : ∀ happening ∈ hs, happening.count? = none) (phase : mid.phase.closing = s.phase.closing) :
      Counts s move mid := .nothing (State.pick_of_none more _ none) (.inl phase)
  cases h with
  | start idle | overflow idle =>
    exact still [.published .listening] rfl (by simp [Happening.count?]) (by rw [idle]; rfl)
  | cancel => exact still [.cancelled] rfl (by simp [Happening.count?]) rfl
  | join joining => exact .nothing s.pick_count_joinEnded (.inl (by rw [joining]; rfl))
  | joinSome ending left => exact .nothing s.pick_count_joinEnded (.inl rfl)
  | joinLast ending none =>
    refine .nothing ?_ (.inr ⟨Phase.closing_of_ending ending, rfl⟩)
    rw [State.pick_count_stop, State.pick_count_joinEnded]
  | acquire phase => exact still [] (by simp) (by simp) (by rw [phase]; rfl)
  | call phase => exact still [.called] rfl (by simp [Happening.count?]) (by rw [phase]; rfl)
  | nothing receiving on cancels | handout receiving on h cancels | transient receiving on reason cancels =>
    refine still _ (State.answered_history s _ cancels) ?_ (by rw [receiving]; rfl)
    cases cancels <;> simp [Happening.count?]
  | fatal receiving on reason cancels => exact .inFlight (by rw [receiving]; rfl) rfl
  | resume phase => exact still [] (by simp [State.again]) (by simp) (by rw [phase]; rfl)
  | interrupt waiting off => exact .inFlight (Phase.closing_of_isWaiting waiting) rfl
  | expireLast draining passed none =>
    refine .nothing ?_ (.inr ⟨by rw [draining]; exact Nat.one_ne_zero, rfl⟩)
    rw [State.pick_count_stop, State.pick_count_joinEnded]
  | giveUp draining passed left => exact .aborted rfl (by rw [draining]; rfl) rfl left rfl rfl
  | proceed found ready => exact still _ rfl (by simp [Happening.count?]) rfl
  | abort aborting found live => exact still [_] rfl (by simp [Happening.count?]) rfl
  | wait later => exact still [] (by simp) (by simp) rfl

/-- Nothing is counted while the loop receives. -/
theorem Reachable.pick_count {sink : σ} (reach : Reachable w sink s) :
    s.phase.closing = 0 → s.pick Happening.count? = [] := by
  refine Leads.induction (P := fun s => s.phase.closing = 0 → s.pick Happening.count? = []) (fun _ => rfl) ?_ reach
  intro mid next move none h receives
  cases h.counts with
  | nothing same on =>
    rw [same]
    exact none (by omega)
  | inFlight _ drains | aborted _ drains => omega

end

/-! ## The handlers by how they have ended -/

def Task.isAborted (t : Task) : Bool :=
  match t.work with
  | .ended .aborted => true
  | _ => false

/-- Whether a handler has ended by itself. -/
def Task.isDone (t : Task) : Bool := !t.isLive && !t.isAborted

theorem Task.isAborted_iff {t : Task} : t.isAborted = true ↔ t.work = .ended .aborted := by
  unfold isAborted
  split <;> simp_all

/-- The handlers that were aborted. -/
def State.aborted (s : State σ) : List Task := s.tasks.filter Task.isAborted

/-- The handlers that have ended by themselves. -/
def State.done (s : State σ) : List Task := s.tasks.filter Task.isDone

/-- A handler is live, or was aborted, or has ended by itself. -/
theorem State.length_tasks (s : State σ) :
    s.tasks.length = s.live.length + s.aborted.length + s.done.length := by
  rw [live, aborted, done]
  induction s.tasks with
  | nil => rfl
  | cons t rest ih =>
    rw [List.filter_cons, List.filter_cons, List.filter_cons, List.length_cons, ih]
    cases live : t.isLive with
    | true =>
      have going : t.isAborted = false := by
        cases aborted : t.isAborted with
        | false => rfl
        | true => simp [Task.isLive, Task.isAborted_iff.1 aborted, Work.isEnded] at live
      simp [Task.isDone, live, going]
      omega
    | false => cases aborted : t.isAborted <;> simp [Task.isDone, live, aborted] <;> omega

section

variable {w : World σ} {s s' : State σ} {move : Move}

/-- Who is not joined and has not ended is live, and the other way round. -/
theorem Manned.filter_unjoined {processor : Processor} (m : Manned processor s) :
    s.unjoined.filter Task.isLive = s.live := by
  rw [State.unjoined, List.filter_filter]
  refine List.filter_congr fun t mem => ?_
  obtain ⟨i, found⟩ := List.mem_iff_getElem?.1 mem
  have ended := (m.account i t found).ended
  cases joined : t.joined with
  | false => exact Bool.and_true _
  | true => rw [ended joined]; rfl

theorem Manned.length_unjoined {processor : Processor} (m : Manned processor s) :
    s.unjoined.length = s.live.length + s.lingering.length := by
  rw [List.length_eq_length_filter_add Task.isLive, m.filter_unjoined]
  rfl

theorem Manned.length_unjoined_joinEnded {processor : Processor} (m : Manned processor s) :
    s.joinEnded.unjoined.length = s.live.length := by
  rw [State.unjoined_joinEnded_eq, List.length_map, m.filter_unjoined]

/-- Before the relay has given up, no handler was aborted. -/
theorem Reachable.aborted_eq_nil {sink : σ} (reach : Reachable w sink s)
    (patient : ∀ given, .gaveUp given ∉ s.pick Happening.count?) : s.aborted = [] := by
  refine List.filter_eq_nil_iff.2 fun t mem aborted => ?_
  obtain ⟨i, found⟩ := List.mem_iff_getElem?.1 mem
  have ends : endingsOf (s.deeds i) = [.aborted] := by
    rw [(reach.manned.account i t found).trail.endings, Task.isAborted_iff.1 aborted]
    rfl
  obtain ⟨before, time, after, split, since, left, till, given, said, -⟩ := reach.patient.given_up ends
  have told : (till, .gaveUp given) ∈ s.history := by
    rw [split]
    exact List.mem_append_left _ (said.subset (by simp))
  exact patient given (State.mem_pick.2 ⟨till, _, told, rfl⟩)

/-- A loop that has ended takes no more deliveries. -/
theorem Step.length_tasks (h : Step w s move s') (ended : s.phase.closing ≠ 0) :
    s'.phase.closing ≠ 0 ∧ s'.tasks.length = s.tasks.length := by
  have never {p : Phase} (phase : s.phase = p) (receives : p.closing = 0) {q : Prop} : q :=
    absurd (phase ▸ receives) ended
  cases h with
  | start idle | overflow idle => exact never idle rfl
  | join phase | acquire phase | call phase | nothing phase | handout phase | fatal phase | transient phase
    | resume phase => exact never phase rfl
  | interrupt waiting => exact absurd (Phase.closing_of_isWaiting waiting) ended
  | cancel | wait => exact ⟨ended, rfl⟩
  | joinSome => exact ⟨ended, List.length_map _⟩
  | joinLast | expireLast | giveUp => exact ⟨Nat.succ_ne_zero _, List.length_map _⟩
  | proceed | abort => exact ⟨ended, List.length_modify _ _ _⟩

theorem Leads.length_tasks (h : Leads w s s') (ended : s.phase.closing ≠ 0) :
    s'.tasks.length = s.tasks.length := by
  have kept : s'.phase.closing ≠ 0 ∧ s'.tasks.length = s.tasks.length := by
    refine Leads.induction (P := fun s' => s'.phase.closing ≠ 0 ∧ s'.tasks.length = s.tasks.length)
      ⟨ended, rfl⟩ ?_ h
    rintro mid next move ⟨ended, same⟩ step
    obtain ⟨still, kept⟩ := step.length_tasks ended
    exact ⟨still, kept.trans same⟩
  exact kept.2

/-- Handlers that have ended by themselves stay so. -/
theorem Leads.length_done_le (h : Leads w s s') : s.done.length ≤ s'.done.length := by
  refine length_filter_le_of_items fun i t found done => ?_
  cases work : t.work with
  | ended how =>
    obtain ⟨t', found', -, work'⟩ := h.ended found work
    refine ⟨t', found', ?_⟩
    rw [← done]
    simp [Task.isDone, Task.isLive, Task.isAborted, work, work']
  | _ => simp [Task.isDone, Task.isLive, Work.isEnded, work] at done

/-- Of the handlers that were live, some are, some were aborted, and the others have ended by themselves. -/
theorem Leads.length_live (h : Leads w s s') (ended : s.phase.closing ≠ 0) (none : s.aborted = []) :
    ∃ late, s'.done.length = s.done.length + late ∧
      s.live.length = s'.live.length + s'.aborted.length + late := by
  have before := s.length_tasks
  have after := s'.length_tasks
  have same := h.length_tasks ended
  have more := h.length_done_le
  rw [none, List.length_nil] at before
  exact ⟨s'.done.length - s.done.length, by omega, by omega⟩

end

/-! ## What is recorded -/

/-- What the loop records when it ends and so many handlers are not joined. -/
def inFlightRecords (left : Nat) : List Log.Record :=
  if left = 0 then []
  else [loopRecord .info "waiting for in-flight messages" [("in_flight", .number left)]]

/-- The records tell the number. -/
theorem inFlightRecords_inj {a b : Nat} : inFlightRecords a = inFlightRecords b ↔ a = b := by
  refine ⟨fun same => ?_, congrArg _⟩
  unfold inFlightRecords at same
  split at same <;> split at same
  · omega
  · cases same
  · cases same
  · simpa [loopRecord] using same

/-- What the loop records when it gives up on so many handlers. -/
def abortedRecord (settings : Settings) (left : Nat) : Log.Record :=
  loopRecord .warn "in-flight messages did not finish in time, aborting"
    [("aborted", .number left), ("drain_timeout", .text (Duration.ofMilliseconds settings.drain).text)]

/-- What the loop records of a move before it ends. -/
def Move.records (settings : Settings) : Move → List Log.Record
  | receive receipt _ => receiptRecords settings receipt
  | _ => []

section

variable {w : World σ} {s₀ s s' : State σ} {move : Move} {outcome : Outcome}

theorem State.records_of_more {hs : List Happening} (more : s'.history = s.history ++ hs.map (s.now, ·))
    (settings : Settings) (observe : Nat → HandlingResult → List Log.Record) (failure : Nat → String) :
    s'.records settings observe failure =
      s.records settings observe failure ++ hs.flatMap (·.records settings observe failure) := by
  rw [records, more, List.flatMap_append, List.flatMap_map]
  rfl

/-- A loop that ends counts what is not joined, and says nothing if that is nobody. -/
theorem State.count_leave (w : World σ) (outcome : Outcome) (s : State σ) :
    (s.leave w outcome).pick Happening.count? =
        s.pick Happening.count? ++ (if s.unjoined.length = 0 then [] else [.waiting s.unjoined.length]) ∧
      ∀ settings observe failure, (s.leave w outcome).records settings observe failure =
        s.records settings observe failure ++ inFlightRecords s.unjoined.length := by
  have more := State.leave_history w outcome s
  constructor
  · rw [State.pick_of_more more]
    split <;> rfl
  · intro settings observe failure
    rw [State.records_of_more more, inFlightRecords]
    split <;> rfl

/-- How the loop ends: it counts the handlers that are not joined. -/
theorem Step.leaving (h : Step w s₀ move s) (receives : s₀.phase.outcome? = none)
    (ends : s.phase.outcome? = some outcome) : s.phase.closing = 1 ∧
      s.pick Happening.count? = s₀.pick Happening.count? ++
        (if s.unjoined.length = 0 then [] else [.waiting s.unjoined.length]) ∧
      ∀ observe failure, s.records w.settings observe failure = s₀.records w.settings observe failure ++
        move.records w.settings ++ inFlightRecords s.unjoined.length := by
  rcases h.ends receives ends with ⟨rfl, -, rfl⟩ | ⟨reason, cancels, rfl, -, rfl⟩
  · cases h with
    | interrupt waiting off =>
      obtain ⟨counted, recorded⟩ := s₀.count_leave w (.ok ())
      refine ⟨rfl, counted, fun observe failure => ?_⟩
      rw [recorded]
      exact congrArg (· ++ _) (List.append_nil _).symm
  · cases h with
    | fatal receiving on reason cancels =>
      have more := State.answered_history s₀ (.fault (.fatal reason)) cancels
      obtain ⟨counted, recorded⟩ :=
        (s₀.answered (.fault (.fatal reason)) cancels).count_leave w (.error (.fatal reason))
      refine ⟨rfl, ?_, fun observe failure => ?_⟩
      · refine counted.trans (congrArg (· ++ _) (State.pick_of_none more _ ?_))
        cases cancels <;> simp [Happening.count?]
      · rw [recorded, State.records_of_more more, Move.records]
        cases cancels <;> rfl

/-- Giving up counts the handlers that are live. -/
theorem Counts.giving_up (c : Counts s move s') (m : Manned w.processor s) (drains : s.phase.closing = 1)
    (aborts : s'.phase.closing = 2) : move = .expire ∧ s'.live ≠ [] ∧
      (s.aborted = [] → s'.aborted = []) ∧
      s'.pick Happening.count? = s.pick Happening.count? ++ [.gaveUp s'.live.length] ∧
      ∀ observe failure, s'.records w.settings observe failure =
        s.joinEnded.records w.settings observe failure ++ [abortedRecord w.settings s'.live.length] := by
  cases c with
  | nothing same on => omega
  | inFlight receives => omega
  | aborted made _ _ left tasks more =>
    have counted : s.joinEnded.unjoined.length = s'.live.length := by
      rw [m.length_unjoined_joinEnded, State.live, State.live, tasks]
      exact (live_map_join s.tasks).symm
    have more' : s'.history = s.joinEnded.history ++
        [Happening.gaveUp s.joinEnded.unjoined.length].map (s.joinEnded.now, ·) := more
    refine ⟨made, ?_, ?_, ?_, fun observe failure => ?_⟩
    · intro none
      rw [none] at counted
      exact left (List.length_eq_zero_iff.1 counted)
    · intro none
      have same : s'.aborted = s.aborted.map Task.join := by
        rw [State.aborted, tasks]
        exact List.filter_map
      rw [same, none, List.map_nil]
    · rw [State.pick_of_more more', s.pick_count_joinEnded, counted]
      rfl
    · rw [State.records_of_more more', counted]
      rfl

end

/-! ## The shutdown -/

/-- What a shutdown that began in `s` has come to in `s'`. Either nobody was given up on and nobody was aborted. Or
the loop has given up once: it recorded as aborted all who were live then, and since then those were aborted who did not
end by themselves before. -/
inductive Drained (w : World σ) (s s' : State σ) : Prop where
  | inTime (same : s'.pick Happening.count? = s.pick Happening.count?) (none : s'.aborted = [])
  | gaveUp {up after : State σ} {late : Nat}
      (drains : Leads w s up) (made : up.step w .expire = some after) (aborts : Leads w after s')
      (some : after.live ≠ [])
      (recorded : ∀ observe failure, after.records w.settings observe failure =
        up.joinEnded.records w.settings observe failure ++ [abortedRecord w.settings after.live.length])
      (once : s'.pick Happening.count? = s.pick Happening.count? ++ [.gaveUp after.live.length])
      (number : after.live.length = s'.live.length + s'.aborted.length + late)
      (themselves : s'.done.length = after.done.length + late)

section

variable {w : World σ} {s s' : State σ}

/-- The course of a shutdown, with the step at which the loop gives up, if it does. -/
inductive Closing (w : World σ) (s s' : State σ) : Prop where
  | patient (same : s'.pick Happening.count? = s.pick Happening.count?)
      (calm : s'.phase.closing = 1 ∨ s'.phase.closing = 3)
  | impatient {up after : State σ} {move : Move} (drains : Leads w s up) (still : up.phase.closing = 1)
      (waited : up.pick Happening.count? = s.pick Happening.count?) (made : Step w up move after)
      (gave : after.phase.closing = 2) (aborts : Leads w after s')
      (same : s'.pick Happening.count? = after.pick Happening.count?) (late : 2 ≤ s'.phase.closing)

theorem Closing.step {s'' : State σ} {move : Move} (c : Closing w s s') (leads : Leads w s s')
    (h : Step w s' move s'') : Closing w s s'' := by
  cases c with
  | patient same calm =>
    cases h.counts with
    | nothing again on => exact .patient (again.trans same) (by omega)
    | inFlight receives => omega
    | aborted _ drains gave => exact .impatient leads drains same h gave (.refl s'') rfl (by omega)
  | impatient drains still waited made gave aborts same late =>
    have further := aborts.trans (.single h)
    cases h.counts with
    | nothing again on => exact .impatient drains still waited made gave further (again.trans same) (by omega)
    | inFlight receives => omega
    -- A loop that has given up does not drain any more.
    | aborted _ drains => omega

theorem Leads.closing (h : Leads w s s') (drains : s.phase.closing = 1) : Closing w s s' := by
  have kept : Leads w s s' ∧ Closing w s s' := by
    refine Leads.induction (P := fun s' => Leads w s s' ∧ Closing w s s') ⟨.refl s, .patient rfl (.inl drains)⟩ ?_ h
    exact fun kept step => ⟨kept.1.trans (.single step), kept.2.step kept.1 step⟩
  exact kept.2

theorem Reachable.drained {sink : σ} (reach : Reachable w sink s) (drains : s.phase.closing = 1)
    (waited : ∀ given, .gaveUp given ∉ s.pick Happening.count?) (leads : Leads w s s') : Drained w s s' := by
  cases leads.closing drains with
  | patient same calm =>
    exact .inTime same (Reachable.aborted_eq_nil (Leads.trans reach leads) (by rwa [same]))
  | @impatient up after move toUp still same made gave aborts counted late =>
    have reached : Reachable w sink up := Leads.trans reach toUp
    have before : up.aborted = [] := reached.aborted_eq_nil (by rwa [same])
    obtain ⟨rfl, some, kept, once, recorded⟩ := made.counts.giving_up reached.manned still gave
    obtain ⟨late, themselves, number⟩ := aborts.length_live (by omega) (kept before)
    exact .gaveUp toUp (State.step_iff.2 made) aborts some recorded (by rw [counted, once, same]) number themselves

end

/-- **What a shutdown counts.** Let the loop of a relay end. It records as in flight, if there are any, the handlers
that are not joined: those that are live and those that have ended since it has joined last. So the number is right
just if there are none of the latter, and it is never more than the permits. Later it records once how many it aborts,
or not at all if all have ended in time: those that are live when their time is up, though some of them may yet end by
themselves. When the relay has stopped, nobody is live. -/
theorem shutdown_counted (w : World σ) (sink : σ) (s₀ s s' : State σ) (move : Move) (outcome : Outcome)
    (reach : Reachable w sink s₀) (receives : s₀.phase.outcome? = none) (made : s₀.step w move = some s)
    (ends : s.phase.outcome? = some outcome) (leads : Leads w s s') :
    let left := s.live.length + s.lingering.length
    (∀ observe failure, s.records w.settings observe failure = s₀.records w.settings observe failure ++
        move.records w.settings ++ inFlightRecords left) ∧
      s.pick Happening.count? = (if left = 0 then [] else [.waiting left]) ∧
      left ≤ max 1 w.settings.concurrency ∧
      (inFlightRecords left = inFlightRecords s.live.length ↔ s.lingering = []) ∧
      Drained w s s' ∧ (s'.phase.isStopped = true → s'.live = []) := by
  intro left
  have h := State.step_cases made
  have reached : Reachable w sink s := Leads.trans reach (.single h)
  have counted : s.unjoined.length = left := reached.manned.length_unjoined
  obtain ⟨drains, waits, recorded⟩ := h.leaving receives ends
  rw [reach.pick_count (Phase.closing_eq_zero_iff.2 receives), List.nil_append, counted] at waits
  rw [counted] at recorded
  refine ⟨recorded, waits, ?_, ?_, reached.drained drains ?_ leads, ?_⟩
  · have bound := reached.unjoined_le
    have none : s.phase.spare = 0 := by
      cases phase : s.phase <;> simp_all [Phase.closing, Phase.spare]
    rw [counted, none] at bound
    exact bound
  · rw [inFlightRecords_inj, ← List.length_eq_zero_iff]
    exact Nat.add_eq_left
  · intro given mem
    rw [waits] at mem
    split at mem
    · cases mem
    · cases List.mem_singleton.1 mem
  · intro off
    obtain ⟨o, stopped⟩ := Phase.isStopped_iff.1 off
    have reached' : Reachable w sink s' := Leads.trans reached leads
    refine List.filter_eq_nil_iff.2 fun t mem live => ?_
    obtain ⟨i, found⟩ := List.mem_iff_getElem?.1 mem
    obtain ⟨how, ended, -⟩ := reached'.manned.ended_of_stopped stopped found
    simp [Task.isLive, ended, Work.isEnded] at live

namespace Sample

/-- Three messages are handed out. The handler of the first has ended when the loop finds the relay cancelled. -/
def taking : List Move :=
  [.start, .join, .acquire, .call, .receive (.handout first) false, .join, .acquire, .call,
    .receive (.handout second) false, .join, .acquire, .call, .receive (.handout third) true, .join,
    .proceed 0, .proceed 0, .proceed 0]

/-- The handlers of the others take too long. One of them crashes before it can be aborted. -/
def closing : List Move := [.proceed 1, .wait 10, .expire, .proceed 1, .abort 2, .join]

def taken : State Nat := ((State.initial 0).run world taking).getD (State.initial 0)

def ending : State Nat := (taken.step world .interrupt).getD taken

def closed : State Nat := (ending.run world closing).getD ending

end Sample

/-- Of three handlers that are not joined two are live, and of the two that are given up on one is aborted. -/
theorem shutdown_counted_three : Reachable Sample.world 0 Sample.taken ∧ Sample.taken.phase.outcome? = none ∧
    Sample.taken.step Sample.world .interrupt = some Sample.ending ∧ Sample.ending.phase.outcome? = some (.ok ()) ∧
    Leads Sample.world Sample.ending Sample.closed ∧ Sample.closed.phase.isStopped = true ∧
    (∀ observe failure, Sample.ending.records Sample.world.settings observe failure =
      Sample.taken.records Sample.world.settings observe failure ++ inFlightRecords 3) ∧
    Sample.ending.live.length = 2 ∧ Sample.closed.pick Happening.count? = [.waiting 3, .gaveUp 2] ∧
    Sample.closed.aborted.length = 1 ∧ Sample.closed.live = [] := by
  have reach : Reachable Sample.world 0 Sample.taken := ⟨Sample.taking, rfl⟩
  have leads : Leads Sample.world Sample.ending Sample.closed := ⟨Sample.closing, rfl⟩
  obtain ⟨recorded, -, -, -, -, stopped⟩ := shutdown_counted Sample.world 0 Sample.taken Sample.ending
    Sample.closed .interrupt (.ok ()) reach rfl rfl rfl leads
  refine ⟨reach, rfl, rfl, rfl, leads, rfl, fun observe failure => ?_, rfl, rfl, rfl, stopped rfl⟩
  rw [recorded]
  exact congrArg (· ++ inFlightRecords 3) (List.append_nil _)

namespace Sample

/-- The only message is refused, and the relay is cancelled while it waits for another. -/
def refusal : List Move :=
  [.start, .join, .acquire, .call, .receive (.handout first) false, .join, .proceed 0, .acquire, .call, .wait 5,
    .cancel]

def quiet : State Nat := ((State.initial 0).run refusing refusal).getD (State.initial 0)

def quietEnding : State Nat := (quiet.step refusing .interrupt).getD quiet

end Sample

/-- No handler is live when the loop ends, and one is recorded as in flight. -/
theorem counted_although_ended : Reachable Sample.refusing 0 Sample.quiet ∧ Sample.quiet.phase.outcome? = none ∧
    Sample.quiet.step Sample.refusing .interrupt = some Sample.quietEnding ∧ Sample.quietEnding.live = [] ∧
    ∀ observe failure, Sample.quietEnding.records Sample.refusing.settings observe failure =
      Sample.quiet.records Sample.refusing.settings observe failure ++
        [loopRecord .info "waiting for in-flight messages" [("in_flight", .number 1)]] := by
  refine ⟨⟨Sample.refusal, rfl⟩, rfl, rfl, rfl, fun observe failure => ?_⟩
  have more := State.leave_history Sample.refusing (.ok ()) Sample.quiet
  exact State.records_of_more more Sample.refusing.settings observe failure

end BusRelay.Relay
