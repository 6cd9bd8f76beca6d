import BusRelay.Proofs.Handling.Settlement
import BusRelay.Proofs.Relay.Conduct
/-!
# A handler by itself

The block of a delivery is what handling it alone comes to, followed by the report, and cut off at the
first call that crashes (`block_cases`). As long as nobody else calls the sink, a handler that goes on does
the next part of its block and leaves the rest (`left_proceed`).
-/

namespace BusRelay

/-- An action as deeds of a handler: the sink and the broker are called before they answer. -/
def Action.deeds : Action → List Relay.Deed
  | logged record => [.acted (.logged record)]
  | sent event answer => [.called event, .acted (.sent event answer)]
  | completed message answer => [.completing, .acted (.completed message answer)]

/-- All that is done in the handling of a delivery, and its report. -/
def Handled.deeds {σ : Type} (h : Handled σ) : List Relay.Deed :=
  h.actions.flatMap Action.deeds ++ [.ended (.reported h.result)]

namespace Relay

variable {σ : Type}

/-- The sink without its delays. It does not matter what it answers where it crashes. -/
def TimedSink.direct (sink : TimedSink σ) : Sink σ := fun state e =>
  ((sink state e).1.answer.getD (.ok ()), (sink state e).2)

/-- What a handler does, and the state in which it leaves the sink. -/
structure Block (σ : Type) where
  deeds : List Deed
  sink : σ

/-- The block with something done before. -/
def Block.after (first : List Deed) (b : Block σ) : Block σ := { b with deeds := first ++ b.deeds }

@[simp] theorem Block.after_nil (b : Block σ) : b.after [] = b := rfl

theorem Block.after_append (first more : List Deed) (b : Block σ) :
    b.after (first ++ more) = (b.after more).after first := by
  simp [Block.after]

/-- Deeds as far as they get: the first call that crashes is the end. `crashes` tells whether that of the
broker does. -/
def asFar (sink : TimedSink σ) (crashes : Bool) : σ → List Deed → Block σ
  | state, [] => ⟨[], state⟩
  | state, .called e :: rest =>
    if (sink state e).1.answer.isSome then (asFar sink crashes (sink state e).2 rest).after [.called e]
    else ⟨[.called e, .ended .crashed], (sink state e).2⟩
  | state, .completing :: rest =>
    if crashes then ⟨[.completing, .ended .crashed], state⟩
    else (asFar sink crashes state rest).after [.completing]
  | state, deed :: rest => (asFar sink crashes state rest).after [deed]

/-- The block of a delivery that finds the sink in a state: what handling it alone does, and its report,
or what there is of these up to a crash. -/
def World.block (w : World σ) (state : σ) (h : Handout) : Block σ :=
  asFar w.sink h.crashes state (handle w.processor w.sink.direct state (some h.delivery)).deeds

/-! ## What is left of a block -/

/-- Whether the sink or the broker is called. -/
def Deed.isCall : Deed → Bool
  | called _ | completing => true
  | _ => false

/-- What is done once all events were sent. -/
def settling (h : Handout) (batch : List Undelivered) : List Deed :=
  recordDeeds h.id [HandlingRecord.finalizing batch.length] ++
    (settle (some h.delivery) batch).actions.flatMap (fun a => (a.within (HandlingRecord.span h.id)).deeds) ++
    [.ended (.reported (settle (some h.delivery) batch).result)]

/-- What is done for events when those before them led to a batch. -/
def outstanding (sink : Sink σ) (h : Handout) : σ → List Undelivered → List Event → List Deed
  | _, batch, [] => settling h batch
  | state, batch, e :: rest =>
    let (answer, state) := sink state e.prepare.1
    let failed := (e.undelivered? answer).toList
    recordDeeds h.id e.prepare.2 ++ .called e.prepare.1 :: .acted (.sent e.prepare.1 answer) ::
      recordDeeds h.id (failed.map Undelivered.record) ++ outstanding sink h state (batch ++ failed) rest

/-- What is left of the block of a handler, if the sink is in a state. -/
def left (w : World σ) (h : Handout) (state : σ) : Work → Block σ
  | .queued => w.block state h
  | .sending event rest batch _ (some answer) =>
    let failed := (event.undelivered? answer).toList
    (asFar w.sink h.crashes state (outstanding w.sink.direct h state (batch ++ failed) rest)).after
      (.acted (.sent event.prepare.1 answer) :: recordDeeds h.id (failed.map Undelivered.record))
  | .sending _ _ _ _ none => ⟨[.ended .crashed], state⟩
  | .completing _ =>
    if h.crashes then ⟨[.ended .crashed], state⟩
    else ⟨.acted (.completed h.id h.delivery.completion) ::
      recordDeeds h.id (completionRecords h.id h.delivery.completion) ++
        [.ended (.reported (completionResult h.id h.delivery.completion))], state⟩
  | .ended _ => ⟨[], state⟩

section

variable (sink : TimedSink σ) (crashes : Bool) (state : σ)

/-- Where nobody is called nothing crashes. -/
theorem asFar_quiet {deeds : List Deed} (quiet : ∀ d ∈ deeds, d.isCall = false) (rest : List Deed) :
    asFar sink crashes state (deeds ++ rest) = (asFar sink crashes state rest).after deeds := by
  induction deeds with
  | nil => rfl
  | cons d more ih =>
    have first := quiet d List.mem_cons_self
    have ih := ih fun d mem => quiet d (List.mem_cons_of_mem _ mem)
    have step : asFar sink crashes state (d :: (more ++ rest)) =
        (asFar sink crashes state (more ++ rest)).after [d] := by
      cases d <;> first | rfl | cases first
    rw [List.cons_append, step, ih, ← Block.after_append]
    rfl

theorem quiet_recordDeeds (id : MessageId) (records : List Log.Record) :
    ∀ d ∈ recordDeeds id records, d.isCall = false := by
  simp [recordDeeds, Deed.isCall]

/-- A record is a deed of its own. -/
theorem flatMap_deeds_logged (id : MessageId) (records : List Log.Record) :
    records.flatMap (fun r => ((Action.logged r).within (HandlingRecord.span id)).deeds) =
      recordDeeds id records := by
  rw [recordDeeds, List.map_eq_flatMap]
  rfl

end

/-- A message whose events were all taken is completed. -/
theorem settling_nil (h : Handout) : settling h [] =
    recordDeeds h.id [HandlingRecord.finalizing 0] ++ .completing ::
      (.acted (.completed h.id h.delivery.completion) ::
        recordDeeds h.id (completionRecords h.id h.delivery.completion) ++
          [.ended (.reported (completionResult h.id h.delivery.completion))]) := by
  simp only [settling, settle, List.isEmpty_nil, if_true, List.flatMap_cons, List.flatMap_map,
    flatMap_deeds_logged]
  simp [Action.within, Action.deeds, Handout.id]

/-- A message with an event that was not taken is left. -/
theorem settling_cons (h : Handout) (first : Undelivered) (more : List Undelivered) :
    settling h (first :: more) =
      recordDeeds h.id [HandlingRecord.finalizing (more.length + 1)] ++
        (recordDeeds h.id [unsettledRecord h.id (more.length + 1)] ++
          [.ended (.reported (.error (.undelivered (first :: more))))]) := by
  simp [settling, settle, Action.within, Action.deeds, recordDeeds, Handout.id]

/-- What is done for events and to settle the message is what a handling does after its opening. -/
theorem outstanding_eq (sink : Sink σ) (h : Handout) (state : σ) (batch : List Undelivered)
    (events : List Event) :
    outstanding sink h state batch events =
      (dispatch sink state events).actions.flatMap
          (fun a => (a.within (HandlingRecord.span h.id)).deeds) ++
        settling h (batch ++ (dispatch sink state events).batch) := by
  induction events generalizing state batch with
  | nil => simp [outstanding, dispatch]
  | cons e rest ih =>
    have failed (us : List Undelivered) : us.flatMap
        (fun u => ((Action.logged u.record).within (HandlingRecord.span h.id)).deeds) =
          recordDeeds h.id (us.map Undelivered.record) := by
      rw [← flatMap_deeds_logged, List.flatMap_map]
    simp only [outstanding, dispatch, ih, List.flatMap_append, List.flatMap_cons, List.flatMap_map,
      flatMap_deeds_logged, failed]
    simp [Action.within, Action.deeds]

section

variable (w : World σ) (h : Handout) (state : σ)

/-- The block of a message that is refused. -/
theorem block_refused {fault : ProcessingFault} (no : w.processor h.delivery.message = .error fault) :
    w.block state h = ⟨recordDeeds h.id [HandlingRecord.processing h.delivery.message] ++
      [.ended (.reported (.error (.processing fault)))], state⟩ := by
  simp only [World.block, handle, no]
  rfl

/-- The block of a message with events. -/
theorem block_processed {events : List Event} (yes : w.processor h.delivery.message = .ok events) :
    w.block state h =
      (asFar w.sink h.crashes state (outstanding w.sink.direct h state [] events)).after
        (recordDeeds h.id [HandlingRecord.processing h.delivery.message] ++
          recordDeeds h.id [HandlingRecord.dispatching events.length]) := by
  rw [outstanding_eq, List.nil_append, ← asFar_quiet]
  · simp only [World.block, handle, yes, Handled.deeds, settling, List.flatMap_append, List.flatMap_map,
      List.map_append, List.map_cons, List.flatMap_cons]
    simp [Action.within, Action.deeds, recordDeeds, Handout.id]
  · intro d mem
    rcases List.mem_append.1 mem with first | second
    · exact quiet_recordDeeds h.id _ d first
    · exact quiet_recordDeeds h.id _ d second

end

/-! ## Going on -/

section

variable (w : World σ) (h : Handout) (now : Nat) (state : σ)

/-- With the next event, or with the settlement, a part of what is outstanding is done. -/
theorem left_next (batch : List Undelivered) (deeds : List Deed) (events : List Event) :
    (asFar w.sink h.crashes state (outstanding w.sink.direct h state batch events)).after deeds =
      let after := next w.sink now h state batch deeds events
      (left w h after.sink after.work).after after.deeds := by
  have recorded (state : σ) (records : List Log.Record) :=
    asFar_quiet w.sink h.crashes state (quiet_recordDeeds h.id records)
  have ended (records : List Log.Record) (how : Ending) :
      asFar w.sink h.crashes state (recordDeeds h.id records ++ [.ended how]) =
        ⟨recordDeeds h.id records ++ [.ended how], state⟩ := by
    rw [recorded]
    rfl
  cases events with
  | nil =>
    cases batch with
    | nil =>
      rw [outstanding, settling_nil, recorded]
      cases crashes : h.crashes with
      | true => simp [asFar, next, left, crashes, Block.after]
      | false =>
        rw [crashes] at ended
        simp [asFar, next, left, crashes, Block.after, ended]
    | cons first more =>
      rw [outstanding, settling_cons, recorded, ended]
      simp [next, left, report, Block.after]
  | cons e rest =>
    cases answered : (w.sink state e.prepare.1).1.answer with
    | none =>
      simp [outstanding, recorded, asFar, next, left, answered, Block.after]
    | some answer =>
      simp [outstanding, recorded, asFar, next, left, answered, TimedSink.direct, Block.after]

/-- A handler that goes on does the next part of what is left, and leaves the rest. -/
theorem left_proceed (work : Work) :
    left w h state work =
      let after := proceed w.processor w.sink now h state work
      (left w h after.sink after.work).after after.deeds := by
  cases work with
  | queued =>
    cases verdict : w.processor h.delivery.message with
    | error fault => simp [left, block_refused w h state verdict, proceed, verdict, report, Block.after]
    | ok events =>
      rw [left, block_processed w h state verdict, left_next w h now]
      simp [proceed, verdict]
  | sending event rest batch due answer =>
    cases answer with
    | none => simp [left, proceed, crash, Block.after]
    | some answer =>
      rw [left, left_next w h now]
      rfl
  | completing due =>
    cases crashes : h.crashes <;> simp [left, proceed, crashes, crash, report, Block.after]
  | ended how => rfl

end

/-! ## A block and the handling of its delivery -/

section

variable (sink : TimedSink σ) (crashes : Bool) (state : σ)

/-- All deeds are done, or those up to a call that crashes. -/
inductive Far (sink : TimedSink σ) (state : σ) (deeds : List Deed) : Block σ → Prop where
  | whole : Far sink state deeds ⟨deeds, Sink.after sink.direct state (calledOf deeds)⟩
  | crashed {part : List Deed} (cut : part <+: deeds) :
      Far sink state deeds ⟨part ++ [.ended .crashed], Sink.after sink.direct state (calledOf part)⟩

/-- One more deed is done before. -/
theorem Far.after {deed : Deed} {deeds : List Deed} {block : Block σ}
    (far : Far sink (Sink.after sink.direct state deed.called?.toList) deeds block) :
    Far sink state (deed :: deeds) (block.after [deed]) := by
  have onwards (rest : List Deed) :
      Sink.after sink.direct (Sink.after sink.direct state deed.called?.toList) (calledOf rest) =
        Sink.after sink.direct state (calledOf (deed :: rest)) := by
    rw [calledOf_cons, Sink.after_append]
  cases far with
  | whole =>
    rw [onwards]
    exact .whole
  | crashed cut =>
    rw [onwards]
    exact .crashed ((List.prefix_cons_inj deed).2 cut)

theorem asFar_far (deeds : List Deed) : Far sink state deeds (asFar sink crashes state deeds) := by
  induction deeds generalizing state with
  | nil => exact .whole
  | cons deed rest ih =>
    cases deed with
    | called e =>
      rw [asFar]
      split
      · exact .after sink state (ih (sink state e).2)
      · exact .crashed (List.prefix_append [.called e] rest)
    | completing =>
      rw [asFar]
      split
      · exact .crashed (List.prefix_append [.completing] rest)
      · exact .after sink state (ih state)
    | acted action => exact .after sink state (ih state)
    | ended how => exact .after sink state (ih state)

end

/-- The sink is called with what it is sent. -/
theorem calledOf_deeds (h : Handled σ) : calledOf h.deeds = h.sent := by
  have all (actions : List Action) : calledOf (actions.flatMap Action.deeds) =
      Exchange.events ((Action.calls actions).filterMap Action.exchanged?) := by
    induction actions with
    | nil => rfl
    | cons action rest ih =>
      rw [List.flatMap_cons, calledOf_append, ih]
      cases action <;> rfl
  rw [Handled.deeds, calledOf_append, all]
  exact List.append_nil _

/-- A block is the handling of its delivery alone, or a part of it up to a call that crashes. -/
theorem block_cases (w : World σ) (state : σ) (h : Handout) :
    let alone := handle w.processor w.sink.direct state (some h.delivery)
    w.block state h = ⟨alone.deeds, alone.state⟩ ∨ ∃ part, part <+: alone.deeds ∧
      w.block state h = ⟨part ++ [.ended .crashed], Sink.after w.sink.direct state (calledOf part)⟩ := by
  intro alone
  have far := asFar_far w.sink h.crashes state alone.deeds
  rw [World.block]
  generalize asFar w.sink h.crashes state alone.deeds = block at far
  cases far with
  | whole =>
    rw [calledOf_deeds, ← state_handle]
    exact .inl rfl
  | crashed cut => exact .inr ⟨_, cut, rfl⟩

end Relay

end BusRelay
