import BusRelay.Proofs.Relay.Conduct
/-!
# The work that is left to a handler

What a handler still does, and how long it takes, depends on nothing but the replies that the sink has in
store for it (`proceed_replay`). `EndsAt` tells when and how a handler ends that goes on whenever it can.
It ends at one time in one way, if at all, and after a bounded number of turns (`rank_proceed`).
-/

namespace BusRelay.Relay

variable {σ : Type}

/-! ## Replies in store -/

/-- A sink that gives prepared replies, one after the other, and no answer after the last. -/
def TimedSink.replay : TimedSink (List (Reply SendAnswer))
  | [], _ => ({ delay := none, answer := none }, [])
  | reply :: rest, _ => (reply, rest)

/-- What a sink replies to a handler. -/
def repliesOf (sink : TimedSink σ) (state : σ) (deeds : List Deed) : List (Reply SendAnswer) :=
  (calledOf deeds).map fun e => (sink state e).1

section

variable (sink : TimedSink σ) (now : Nat) (h : Handout) (state : σ) (left : List (Reply SendAnswer))

theorem next_replay (batch : List Undelivered) {deeds : List Deed} (quiet : calledOf deeds = [])
    (events : List Event) :
    let after := next sink now h state batch deeds events
    next TimedSink.replay now h (repliesOf sink state after.deeds ++ left) batch deeds events =
      ⟨after.work, after.deeds, left⟩ := by
  cases events with
  | cons event rest => simp [next, repliesOf, quiet, calledOf_cons, Deed.called?, TimedSink.replay]
  | nil =>
    simp only [next]
    split <;> simp [report, repliesOf, quiet, calledOf_cons, Deed.called?]

/-- A handler cannot tell a sink from its replies. -/
theorem proceed_replay (processor : Processor) (work : Work) :
    let after := proceed processor sink now h state work
    proceed processor TimedSink.replay now h (repliesOf sink state after.deeds ++ left) work =
      ⟨after.work, after.deeds, left⟩ := by
  cases work with
  | queued =>
    cases verdict : processor h.delivery.message with
    | error fault => simp [proceed, verdict, report, repliesOf, calledOf_cons, Deed.called?]
    | ok events =>
      simp only [proceed, verdict]
      exact next_replay sink now h state left [] (by simp) events
  | sending event rest batch due answer =>
    cases answer with
    | none => rfl
    | some answer =>
      simp only [proceed]
      exact next_replay sink now h state left _ (by simp [calledOf_cons, Deed.called?]) rest
  | completing due =>
    simp only [proceed]
    split
    · rfl
    · simp [report, repliesOf, calledOf_cons, Deed.called?]
  | ended how => rfl

/-! ## Turns -/

theorem due?_next (batch : List Undelivered) (deeds : List Deed) (events : List Event) {due : Nat}
    (waits : (next sink now h state batch deeds events).work.due? = some due) : now ≤ due := by
  have later {delay : Option Nat} (waits : dueAfter now delay = some due) : now ≤ due := by
    obtain ⟨taken, -, rfl⟩ := Option.map_eq_some_iff.1 waits
    exact Nat.le_add_right now taken
  cases events with
  | cons event rest => exact later waits
  | nil =>
    simp only [next] at waits
    split at waits
    · exact later waits
    · cases waits

/-- A handler that goes on does not wait for a time that has passed. -/
theorem due?_proceed (processor : Processor) (work : Work) {due : Nat}
    (waits : (proceed processor sink now h state work).work.due? = some due) : now ≤ due := by
  cases work with
  | queued =>
    simp only [proceed] at waits
    split at waits
    · cases waits
    · exact due?_next sink now h state _ _ _ waits
  | sending event rest batch before answer =>
    cases answer with
    | none => cases waits
    | some answer => exact due?_next sink now h state _ _ _ waits
  | completing before =>
    simp only [proceed] at waits
    split at waits <;> cases waits
  | ended how => cases waits

end

/-- How often a handler goes on at most. -/
def Work.rank (processor : Processor) (h : Handout) : Work → Nat
  | queued => match processor h.delivery.message with
    | .error _ => 1
    | .ok events => events.length + 2
  | sending _ rest _ _ _ => rest.length + 2
  | completing _ => 1
  | ended _ => 0

section

variable (processor : Processor) (sink : TimedSink σ) (now : Nat) (h : Handout) (state : σ)

theorem rank_next (batch : List Undelivered) (deeds : List Deed) (events : List Event) :
    (next sink now h state batch deeds events).work.rank processor h ≤ events.length + 1 := by
  cases events with
  | cons event rest => exact Nat.le_refl _
  | nil =>
    simp only [next]
    split <;> simp [Work.rank, report]

theorem rank_proceed {work : Work} (live : work.isEnded = false) :
    (proceed processor sink now h state work).work.rank processor h < work.rank processor h := by
  cases work with
  | queued =>
    cases verdict : processor h.delivery.message with
    | error fault => simp [proceed, verdict, report, Work.rank]
    | ok events =>
      have less := rank_next processor sink now h state []
        (recordDeeds h.id [HandlingRecord.processing h.delivery.message] ++
          recordDeeds h.id [HandlingRecord.dispatching events.length]) events
      simp only [proceed, verdict, Work.rank] at less ⊢
      omega
  | sending event rest batch due answer =>
    cases answer with
    | none => simp [proceed, crash, Work.rank]
    | some answer => exact Nat.lt_succ_of_le (rank_next processor sink now h state _ _ rest)
  | completing due =>
    simp only [proceed]
    split <;> simp [crash, report, Work.rank]
  | ended how => cases live

end

/-! ## The end -/

/-- When a handler goes on that can do so from `now` on, if it ever can. -/
def Work.resumes? (now : Nat) : Work → Option Nat
  | queued => some now
  | work => work.due?

/-- A handler that cannot go on, and waits for a time, waits for a later one. -/
theorem Work.lt_due {work : Work} {now due : Nat} (idle : work.isReady now = false)
    (waits : work.due? = some due) : now < due := by
  have reached (idle : reached now (some due) = false) : now < due := by simpa [Work.reached] using idle
  cases work with
  | queued | ended how => cases waits
  | sending event rest batch at? answer =>
    obtain rfl : at? = some due := waits
    exact reached idle
  | completing at? =>
    obtain rfl : at? = some due := waits
    exact reached idle

/-- A handler that can go on, and is not overdue, does so now. -/
theorem Work.resumes?_of_ready {work : Work} {now : Nat} (ready : work.isReady now = true)
    (due : ∀ due, work.due? = some due → now ≤ due) : work.resumes? now = some now := by
  have reached {at? : Option Nat} (ready : reached now at? = true) (due : ∀ due, at? = some due → now ≤ due) :
      at? = some now := by
    cases waits : at? with
    | none => simp [Work.reached, waits] at ready
    | some till =>
      have passed : till ≤ now := by simpa [Work.reached, waits] using ready
      rw [Nat.le_antisymm passed (due till waits)]
  cases work with
  | queued => rfl
  | ended how => cases ready
  | _ => exact reached ready due

section

variable (processor : Processor) (h : Handout)

/-- A handler that stands at a work, with these replies in store for it, goes on whenever it can, and
ends at a time and in a way. -/
inductive EndsAt : Nat → List (Reply SendAnswer) → Work → Nat → Ending → Prop where
  | last {now time : Nat} {plan : List (Reply SendAnswer)} {work : Work} {how : Ending}
      (resumes : work.resumes? now = some time)
      (ends : (proceed processor .replay time h plan work).work = .ended how) :
      EndsAt now plan work time how
  | more {now time late : Nat} {plan : List (Reply SendAnswer)} {work : Work} {how : Ending}
      (resumes : work.resumes? now = some time)
      (rest : EndsAt time (proceed processor .replay time h plan work).sink
        (proceed processor .replay time h plan work).work late how) :
      EndsAt now plan work late how

end

namespace EndsAt

variable {processor : Processor} {h : Handout} {now time late late' : Nat} {plan : List (Reply SendAnswer)}
  {work : Work} {how how' : Ending}

theorem not_ended : ¬ EndsAt processor h now plan (.ended how) late how' := by
  intro ends
  cases ends with
  | last resumes | more resumes => cases resumes

/-- A handler goes on from its next turn as if this were the first. -/
theorem iff_of_resumes (resumes : work.resumes? now = some time)
    (live : (proceed processor .replay time h plan work).work.isEnded = false) :
    EndsAt processor h now plan work late how ↔
      EndsAt processor h time (proceed processor .replay time h plan work).sink
        (proceed processor .replay time h plan work).work late how := by
  constructor
  · intro ends
    cases ends with
    | last again ends =>
      obtain rfl := Option.some.inj (resumes.symm.trans again)
      rw [ends] at live
      cases live
    | more again rest =>
      obtain rfl := Option.some.inj (resumes.symm.trans again)
      exact rest
  · exact .more resumes

/-- A handler that was started ends when it does, however late it is looked at. -/
theorem congr_now (started : work ≠ .queued) :
    EndsAt processor h now plan work late how ↔ EndsAt processor h time plan work late how := by
  have same : work.resumes? now = work.resumes? time := by
    cases work <;> first | rfl | exact absurd rfl started
  constructor
  · intro ends
    cases ends with
    | last resumes ends => exact .last (same ▸ resumes) ends
    | more resumes rest => exact .more (same ▸ resumes) rest
  · intro ends
    cases ends with
    | last resumes ends => exact .last (same ▸ resumes) ends
    | more resumes rest => exact .more (same ▸ resumes) rest

/-- A handler ends at one time in one way. -/
theorem unique (ends : EndsAt processor h now plan work late how)
    (again : EndsAt processor h now plan work late' how') : late = late' ∧ how = how' := by
  induction ends with
  | last resumes ends =>
    cases again with
    | last resumes' ends' =>
      obtain rfl := Option.some.inj (resumes.symm.trans resumes')
      exact ⟨rfl, Work.ended.inj (ends.symm.trans ends')⟩
    | more resumes' rest' =>
      obtain rfl := Option.some.inj (resumes.symm.trans resumes')
      rw [ends] at rest'
      exact absurd rest' not_ended
  | more resumes rest ih =>
    cases again with
    | last resumes' ends' =>
      obtain rfl := Option.some.inj (resumes.symm.trans resumes')
      rw [ends'] at rest
      exact absurd rest not_ended
    | more resumes' rest' =>
      obtain rfl := Option.some.inj (resumes.symm.trans resumes')
      exact ih rest'

/-- A handler that is not overdue ends in time to come. -/
theorem le (ends : EndsAt processor h now plan work late how)
    (due : ∀ due, work.due? = some due → now ≤ due) : now ≤ late := by
  have later {work : Work} {now time : Nat} (due : ∀ due, work.due? = some due → now ≤ due)
      (resumes : work.resumes? now = some time) : now ≤ time := by
    cases work with
    | queued => exact Nat.le_of_eq (Option.some.inj resumes)
    | _ => exact due time resumes
  induction ends with
  | last resumes ends => exact later due resumes
  | more resumes rest ih =>
    exact Nat.le_trans (later due resumes) (ih fun due waits => due?_proceed _ _ h _ processor _ waits)

section

variable {sink : TimedSink σ} {state : σ} {left : List (Reply SendAnswer)}
  (ready : work.isReady now = true) (due : ∀ due, work.due? = some due → now ≤ due)

include ready due

/-- A handler that goes on uses up the reply it gets, and its end does not change. -/
theorem proceed_iff (live : (proceed processor sink now h state work).work.isEnded = false) :
    EndsAt processor h now (repliesOf sink state (proceed processor sink now h state work).deeds ++ left) work
        late how ↔
      EndsAt processor h now left (proceed processor sink now h state work).work late how := by
  have same := proceed_replay sink now h state left processor work
  simp only at same
  rw [iff_of_resumes (Work.resumes?_of_ready ready due) (by rw [same]; exact live), same]

theorem proceed_last (ends : (proceed processor sink now h state work).work = .ended how) :
    EndsAt processor h now (repliesOf sink state (proceed processor sink now h state work).deeds ++ left) work
      now how := by
  have same := proceed_replay sink now h state left processor work
  simp only at same
  exact .last (Work.resumes?_of_ready ready due) (by rw [same]; exact ends)

end

end EndsAt

end BusRelay.Relay
