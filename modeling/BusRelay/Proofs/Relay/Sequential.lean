import BusRelay.Proofs.Relay.Drain
import BusRelay.Proofs.Relay.Permits
import BusRelay.Proofs.Relay.Scripted
import BusRelay.Proofs.Relay.Solo
/-!
# One delivery at a time

With a single permit the relay does what a loop does that handles every delivery itself before it asks for
the next one: its trace is that of `World.serveAll`, block by block (`sequential_when_single`). The loop
has the permit from before a receipt until the receipt is dealt with, and then the handler has it, so no
handler is live while the broker is called (`Stands`).
-/

namespace BusRelay.Relay

variable {σ : Type}

/-! ## The trace and the loop it is compared with -/

namespace Happening

/-- A happening that belongs to the work: a call of the broker, its answer, or what a handler does. -/
def work? : Happening → Option Happening
  | called => some called
  | received receipt => some (received receipt)
  | did handler deed => some (did handler deed)
  | _ => none

def receipt? : Happening → Option Receipt
  | received receipt => some receipt
  | _ => none

theorem work?_did (handler : Nat) (deeds : List Deed) :
    (deeds.map (did handler)).filterMap work? = deeds.map (did handler) := by
  rw [List.filterMap_map, ← List.filterMap_eq_map]
  rfl

theorem receipt?_did (handler : Nat) (deeds : List Deed) :
    (deeds.map (did handler)).filterMap receipt? = [] := by
  simp [receipt?]

end Happening

/-- What the loop and the handlers do for deliveries, in its order. -/
def State.trace (s : State σ) : List Happening := s.pick Happening.work?

/-- What the broker has answered. -/
def State.receipts (s : State σ) : List Receipt := s.pick Happening.receipt?

/-- How far a loop is that handles every delivery itself. -/
structure Served (σ : Type) where
  /-- The number of deliveries. -/
  handlers : Nat := 0
  sink : σ
  trace : List Happening := []

/-- Asks the broker and handles what it hands out, to the end or to a crash. -/
def World.serve (w : World σ) (served : Served σ) : Receipt → Served σ
  | .handout h =>
    let block := w.block served.sink h
    { handlers := served.handlers + 1
      sink := block.sink
      trace := served.trace ++
        .called :: .received (.handout h) :: block.deeds.map (.did served.handlers) }
  | receipt => { served with trace := served.trace ++ [.called, .received receipt] }

/-- Deals with all receipts, one after the other. -/
def World.serveAll (w : World σ) (sink : σ) (receipts : List Receipt) : Served σ :=
  receipts.foldl w.serve { sink }

theorem World.serveAll_snoc (w : World σ) (sink : σ) (receipts : List Receipt) (receipt : Receipt) :
    w.serveAll sink (receipts ++ [receipt]) = w.serve (w.serveAll sink receipts) receipt :=
  List.foldl_append

/-! ## Where a run stands -/

/-- The call of the broker that was not answered, if there is one. -/
def Phase.Calls (calls : List Happening) : Phase → Prop
  | receiving => calls = [.called]
  | draining .. | aborting _ | stopped _ => calls = [] ∨ calls = [.called]
  | _ => calls = []

/-- Whether the loop has given up on handlers, or has stopped. -/
def Phase.isPast : Phase → Bool
  | aborting _ | stopped _ => true
  | _ => false

/-- A call that is open stays open, and what is past stays past. -/
def Phase.Into (p p' : Phase) : Prop :=
  (∀ calls, p.Calls calls → p'.Calls calls) ∧ (p.isPast = true → p'.isPast = true)

theorem Phase.Into.refl (p : Phase) : p.Into p := ⟨fun _ calling => calling, id⟩

/-- The loop ends. -/
theorem Phase.Into.draining {p : Phase} (waiting : p.isWaiting = true) (deadline : Nat) (outcome : Outcome) :
    p.Into (.draining deadline outcome) := by
  cases p <;> simp_all [Into, Calls, isPast, isWaiting]

/-- The loop stops. -/
theorem Phase.Into.stopped {p : Phase} {outcome : Outcome} (ending : p.ending? = some outcome) :
    p.Into (.stopped outcome) := by
  cases p <;> simp_all [Into, Calls, isPast, ending?]

/-- What has happened for deliveries is what the sequential loop does: all of it, or all but what the last
handler has still to do, which goes on or was aborted. -/
inductive Stands (w : World σ) (sink : σ) (s : State σ) : Prop where
  | free (calls : List Happening)
      (trace : s.trace = (w.serveAll sink s.receipts).trace ++ calls) (calling : s.phase.Calls calls)
      (state : s.sink = (w.serveAll sink s.receipts).sink)
      (count : s.tasks.length = (w.serveAll sink s.receipts).handlers)
      (rest : ∀ t ∈ s.tasks, t.isLive = false)
  | busy {earlier : List Receipt} {before : List Task} (t : Task) (deeds : List Deed)
      (receipts : s.receipts = earlier ++ [.handout t.handout]) (tasks : s.tasks = before ++ [t])
      (count : before.length = (w.serveAll sink earlier).handlers)
      (rest : ∀ t ∈ before, t.isLive = false) (live : t.isLive = true)
      (trace : s.trace = (w.serveAll sink earlier).trace ++
        .called :: .received (.handout t.handout) :: deeds.map (.did before.length))
      (block : w.block (w.serveAll sink earlier).sink t.handout =
        (left w t.handout s.sink t.work).after deeds)
  | aborted {earlier : List Receipt} {h : Handout} {deeds : List Deed}
      (receipts : s.receipts = earlier ++ [.handout h])
      (trace : s.trace = (w.serveAll sink earlier).trace ++ .called :: .received (.handout h) ::
        (deeds ++ [Deed.ended .aborted]).map (.did (w.serveAll sink earlier).handlers))
      (part : deeds <+: (w.block (w.serveAll sink earlier).sink h).deeds)
      (past : s.phase.isPast = true) (rest : ∀ t ∈ s.tasks, t.isLive = false)

section

variable {w : World σ} {sink : σ} {s s' : State σ} {move : Move}

/-- While the loop has the only permit, no handler is live. -/
theorem Conserved.rest_of_held (c : Conserved w s) (one : w.settings.concurrency ≤ 1)
    (held : s.phase.held = 1) : ∀ t ∈ s.tasks, t.isLive = false := by
  have total := c.total (by rintro idle; simp [idle, Phase.held] at held)
    (by rintro crashed; simp [crashed, Phase.held] at held)
  simp only [held, Settings.permits] at total
  have none : s.live = [] := List.length_eq_zero_iff.1 (by omega)
  simpa [State.live] using none

/-- While a handler is live, the loop does not wait for the broker. -/
theorem Conserved.calls_of_live (c : Conserved w s) (one : w.settings.concurrency ≤ 1) {t : Task}
    (mem : t ∈ s.tasks) (live : t.isLive = true) : s.phase.Calls [] := by
  cases phase : s.phase with
  | receiving =>
    have rest := c.rest_of_held one (by rw [phase]; rfl) t mem
    rw [rest] at live
    cases live
  | draining | aborting | stopped => exact .inl rfl
  | _ => rfl

namespace Stands

theorem initial (w : World σ) (sink : σ) : Stands w sink (State.initial sink) :=
  .free [] rfl rfl rfl rfl (by simp [State.initial])

/-- What is no work does not matter. -/
theorem still (st : Stands w sink s) (hs : List Happening)
    (more : s'.history = s.history ++ hs.map (s.now, ·))
    (idle : hs.filterMap Happening.work? = []) (quiet : hs.filterMap Happening.receipt? = [])
    (tasks : s'.tasks = s.tasks) (state : s'.sink = s.sink)
    (into : s.phase.Into s'.phase) : Stands w sink s' := by
  have trace : s'.trace = s.trace := by rw [State.trace, State.pick_of_more more, idle, List.append_nil]; rfl
  have receipts : s'.receipts = s.receipts := by
    rw [State.receipts, State.pick_of_more more, quiet, List.append_nil]; rfl
  cases st with
  | free calls told calling same count rest =>
    exact .free calls (by rw [trace, receipts, told]) (into.1 _ calling) (by rw [state, receipts, same])
      (by rw [tasks, receipts, count]) (by rw [tasks]; exact rest)
  | busy t deeds got all count rest live told block =>
    exact .busy t deeds (by rw [receipts, got]) (by rw [tasks, all]) count rest live (by rw [trace, told])
      (by rw [state, block])
  | aborted got told part past rest =>
    exact .aborted (by rw [receipts, got]) (by rw [trace, told]) part (into.2 past) (by rw [tasks]; exact rest)

/-- Handlers are joined. -/
theorem joinEnded (st : Stands w sink s) : Stands w sink s.joinEnded := by
  have more : s.joinEnded.history = s.history ++ (State.joinings 0 s.tasks).map (s.now, ·) := rfl
  have joinings := State.joinings_cases s.tasks 0
  have trace : s.joinEnded.trace = s.trace := by
    refine State.pick_of_none more _ fun happening mem => ?_
    obtain ⟨handler, how, rfl⟩ := joinings happening mem
    rfl
  have receipts : s.joinEnded.receipts = s.receipts := by
    refine State.pick_of_none more _ fun happening mem => ?_
    obtain ⟨handler, how, rfl⟩ := joinings happening mem
    rfl
  have tasks : s.joinEnded.tasks = s.tasks.map Task.join := rfl
  have live (tasks : List Task) (rest : ∀ t ∈ tasks, t.isLive = false) :
      ∀ t ∈ tasks.map Task.join, t.isLive = false := by
    intro t mem
    obtain ⟨before, was, rfl⟩ := List.mem_map.1 mem
    exact rest before was
  cases st with
  | free calls told calling same count rest =>
    refine .free calls (by rw [trace, receipts, told]) calling (by rw [receipts, ← same]; rfl) ?_ ?_
    · rw [tasks, receipts, List.length_map, count]
    · rw [tasks]
      exact live s.tasks rest
  | @busy earlier before t deeds got all count rest on told block =>
    refine .busy t.join deeds (by rw [receipts, got]; rfl) ?_ ?_
      (live before rest) on ?_ ?_
    · rw [tasks, all, List.map_append]
      rfl
    · rw [List.length_map, count]
    · rw [trace, told, List.length_map]
      rfl
    · exact block
  | aborted got told part past rest =>
    refine .aborted (by rw [receipts, got]) (by rw [trace, told]) part past ?_
    rw [tasks]
    exact live s.tasks rest

/-- The broker is called. -/
theorem call (st : Stands w sink s) (c : Conserved w s) (one : w.settings.concurrency ≤ 1)
    (ready : s.phase = .ready) : Stands w sink ({ s with phase := .receiving }.add [.called]) := by
  have rest := c.rest_of_held one (by rw [ready]; rfl)
  cases st with
  | free calls told calling same count =>
    rw [ready] at calling
    obtain rfl : calls = [] := calling
    have more : ({ s with phase := .receiving }.add [.called]).history =
        s.history ++ [Happening.called].map (s.now, ·) := rfl
    have receipts : ({ s with phase := .receiving }.add [.called]).receipts = s.receipts := by
      rw [State.receipts, State.pick_of_more more]
      simp [State.receipts, Happening.receipt?]
    refine .free [.called] ?_ rfl (by rw [receipts]; exact same) (by rw [receipts]; exact count) rest
    rw [State.trace, State.pick_of_more more, receipts, ← State.trace, told, List.append_nil]
    rfl
  | busy _ _ got all count others live =>
    rw [rest _ (by rw [all]; simp)] at live
    cases live
  | aborted got told part past =>
    rw [ready] at past
    cases past

/-- The broker answers. -/
theorem answered (st : Stands w sink s) (c : Conserved w s) (one : w.settings.concurrency ≤ 1)
    (receiving : s.phase = .receiving) (receipt : Receipt) (cancels : Bool)
    (more : s'.history = (s.answered receipt cancels).history) :
    s'.receipts = s.receipts ++ [receipt] ∧
      s'.trace = (w.serveAll sink s.receipts).trace ++ [.called, .received receipt] ∧
      s.sink = (w.serveAll sink s.receipts).sink ∧
      s.tasks.length = (w.serveAll sink s.receipts).handlers ∧ ∀ t ∈ s.tasks, t.isLive = false := by
  have rest := c.rest_of_held one (by rw [receiving]; rfl)
  rw [State.answered_history] at more
  cases st with
  | free calls told calling same count =>
    rw [receiving] at calling
    obtain rfl : calls = [.called] := calling
    refine ⟨?_, ?_, same, count, rest⟩
    · rw [State.receipts, State.pick_of_more more]
      cases cancels <;> rfl
    · rw [State.trace, State.pick_of_more more, ← State.trace, told]
      cases cancels <;> simp <;> rfl
  | busy _ _ got all count others live =>
    rw [rest _ (by rw [all]; simp)] at live
    cases live
  | aborted got told part past =>
    rw [receiving] at past
    cases past

/-- The broker's answer is no delivery. -/
theorem passed (st : Stands w sink s) (c : Conserved w s) (one : w.settings.concurrency ≤ 1)
    (receiving : s.phase = .receiving) (receipt : Receipt) (cancels : Bool)
    (more : s'.history = (s.answered receipt cancels).history)
    (none : ∀ h, receipt ≠ .handout h) (tasks : s'.tasks = s.tasks) (state : s'.sink = s.sink)
    (calls : s'.phase.Calls []) : Stands w sink s' := by
  obtain ⟨receipts, trace, same, count, rest⟩ := st.answered c one receiving receipt cancels more
  have served : w.serveAll sink s'.receipts =
      { w.serveAll sink s.receipts with
        trace := (w.serveAll sink s.receipts).trace ++ [.called, .received receipt] } := by
    rw [receipts, World.serveAll_snoc]
    cases receipt with
    | handout h => exact absurd rfl (none h)
    | _ => rfl
  refine .free [] ?_ calls ?_ ?_ (by rw [tasks]; exact rest)
  · rw [served, trace, List.append_nil]
  · rw [served, state, same]
  · rw [served, tasks, count]

/-- A delivery gets a handler. -/
theorem handout (st : Stands w sink s) (c : Conserved w s) (one : w.settings.concurrency ≤ 1)
    (receiving : s.phase = .receiving) (h : Handout) (cancels : Bool)
    (more : s'.history = (s.answered (.handout h) cancels).history)
    (tasks : s'.tasks = s.tasks ++ [{ handout := h }]) (state : s'.sink = s.sink) : Stands w sink s' := by
  obtain ⟨receipts, trace, same, count, rest⟩ := st.answered c one receiving (.handout h) cancels more
  refine .busy { handout := h } [] receipts tasks count rest rfl trace ?_
  rw [state, ← same]
  rfl

/-- The live handler is the last one. -/
theorem last_of_live {before : List Task} {last t : Task} {handler : Nat}
    (rest : ∀ t ∈ before, t.isLive = false) (found : (before ++ [last])[handler]? = some t)
    (live : t.isLive = true) : handler = before.length ∧ t = last := by
  rcases Nat.lt_trichotomy handler before.length with less | rfl | more
  · rw [List.getElem?_append_left less] at found
    rw [rest t (List.mem_of_getElem? found)] at live
    cases live
  · rw [List.getElem?_concat_length] at found
    exact ⟨rfl, (Option.some.inj found).symm⟩
  · have beyond : (before ++ [last])[handler]? = none := by
      simp
      omega
    rw [beyond] at found
    cases found

/-- The last handler has ended as well. -/
theorem rest_of_last {before : List Task} {last : Task} (rest : ∀ t ∈ before, t.isLive = false)
    (ended : last.isLive = false) : ∀ t ∈ before ++ [last], t.isLive = false := by
  intro t mem
  rcases List.mem_append.1 mem with old | new
  · exact rest t old
  · rw [List.mem_singleton.1 new, ended]

/-- The last handler does something. -/
theorem worked {earlier : List Receipt} {before : List Task} {t : Task} {deeds did : List Deed} {work : Work}
    (got : s.receipts = earlier ++ [.handout t.handout]) (all : s.tasks = before ++ [t])
    (told : s.trace = (w.serveAll sink earlier).trace ++
      .called :: .received (.handout t.handout) :: deeds.map (.did before.length))
    (tasks : s'.tasks = s.tasks.modify before.length fun t => { t with work })
    (more : s'.history = s.history ++ (did.map (.did before.length)).map (s.now, ·)) :
    s'.receipts = earlier ++ [.handout t.handout] ∧ s'.tasks = before ++ [{ t with work }] ∧
      s'.trace = (w.serveAll sink earlier).trace ++
        .called :: .received (.handout t.handout) :: (deeds ++ did).map (.did before.length) := by
  refine ⟨?_, ?_, ?_⟩
  · rw [State.receipts, State.pick_of_more more, Happening.receipt?_did, List.append_nil, ← got]
    rfl
  · rw [tasks, all, List.modify_eq_take_cons_drop (by simp)]
    simp
  · rw [State.trace, State.pick_of_more more, Happening.work?_did, ← State.trace, told]
    simp

/-- A handler goes on. -/
theorem proceed (st : Stands w sink s) (c : Conserved w s) (one : w.settings.concurrency ≤ 1)
    {handler : Nat} {t : Task} (found : s.tasks[handler]? = some t) (ready : t.work.isReady s.now = true) :
    Stands w sink (s.advance w handler t) := by
  have live := Task.isLive_of_isReady ready
  cases st with
  | free _ told calling same count rest =>
    rw [rest t (List.mem_of_getElem? found)] at live
    cases live
  | aborted got told part past rest =>
    rw [rest t (List.mem_of_getElem? found)] at live
    cases live
  | @busy earlier before last deeds got all count rest on told block =>
    have calls := c.calls_of_live one (List.mem_of_getElem? found) live
    rw [all] at found
    obtain ⟨rfl, rfl⟩ := last_of_live rest found live
    let after := Relay.proceed w.processor w.sink s.now t.handout s.sink t.work
    have moved : (s.advance w before.length t).tasks =
        s.tasks.modify before.length fun t => { t with work := after.work } := rfl
    have more : (s.advance w before.length t).history =
        s.history ++ (after.deeds.map (.did before.length)).map (s.now, ·) := rfl
    obtain ⟨receipts, tasks, trace⟩ := worked got all told moved more
    have whole : w.block (w.serveAll sink earlier).sink t.handout =
        (left w t.handout after.sink after.work).after (deeds ++ after.deeds) := by
      rw [block, left_proceed w t.handout s.now, Block.after_append]
    cases working : after.work with
    | ended how =>
      rw [working] at whole tasks
      have served : w.serveAll sink (s.advance w before.length t).receipts =
          { handlers := before.length + 1, sink := after.sink, trace := (s.advance w before.length t).trace } := by
        rw [receipts, World.serveAll_snoc, World.serve, whole, trace, count]
        simp [left, Block.after]
      refine .free [] (by rw [served, List.append_nil]) calls (by rw [served]; rfl) ?_ ?_
      · rw [served, tasks, List.length_append]
        rfl
      · rw [tasks]
        exact rest_of_last rest rfl
    | _ =>
      exact .busy { t with work := after.work } (deeds ++ after.deeds) receipts tasks count rest
        (by rw [Task.isLive, working]; rfl) trace whole

/-- A handler is aborted. -/
theorem abort (st : Stands w sink s) {handler : Nat} {t : Task} {outcome : Outcome}
    (aborting : s.phase = .aborting outcome) (found : s.tasks[handler]? = some t) (live : t.isLive = true) :
    Stands w sink (s.cut handler) := by
  cases st with
  | free _ told calling same count rest =>
    rw [rest t (List.mem_of_getElem? found)] at live
    cases live
  | aborted got told part past rest =>
    rw [rest t (List.mem_of_getElem? found)] at live
    cases live
  | @busy earlier before last deeds got all count rest on told block =>
    rw [all] at found
    obtain ⟨rfl, rfl⟩ := last_of_live rest found live
    have moved : (s.cut before.length).tasks =
        s.tasks.modify before.length fun t => { t with work := .ended .aborted } := rfl
    have more : (s.cut before.length).history =
        s.history ++ ([Deed.ended .aborted].map (.did before.length)).map (s.now, ·) := rfl
    obtain ⟨receipts, tasks, trace⟩ := worked got all told moved more
    refine .aborted receipts (by rw [trace, count]) ?_ ?_ ?_
    · rw [block]
      exact List.prefix_append deeds _
    · change s.phase.isPast = true
      rw [aborting]
      rfl
    · rw [tasks]
      exact rest_of_last rest rfl

/-- What the loop says when it ends is no work. -/
theorem no_work_waiting (left : Nat) :
    (if left = 0 then [] else [Happening.waiting left]).filterMap Happening.work? = [] ∧
      (if left = 0 then [] else [Happening.waiting left]).filterMap Happening.receipt? = [] := by
  split <;> exact ⟨rfl, rfl⟩

/-- The loop ends. -/
theorem leave (st : Stands w sink s) (waiting : s.phase.isWaiting = true) (outcome : Outcome) :
    Stands w sink (s.leave w outcome) := by
  obtain ⟨idle, quiet⟩ := no_work_waiting s.unjoined.length
  exact st.still _ (State.leave_history w outcome s) idle quiet rfl rfl (.draining waiting _ _)

/-- Nothing is left to join. -/
theorem stop (st : Stands w sink s) {outcome : Outcome} (ending : s.phase.ending? = some outcome) :
    Stands w sink (s.stop outcome) :=
  st.still [.published .stopped] rfl rfl rfl rfl rfl (.stopped ending)

theorem step (st : Stands w sink s) (c : Conserved w s) (one : w.settings.concurrency ≤ 1)
    (h : Step w s move s') : Stands w sink s' := by
  cases h with
  | start idle | overflow idle =>
    exact st.still [.published .listening] rfl rfl rfl rfl rfl (by rw [idle]; exact .refl _)
  | cancel => exact st.still [.cancelled] rfl rfl rfl rfl rfl (.refl _)
  | join joining =>
    refine st.joinEnded.still [] (by simp) rfl rfl rfl rfl ?_
    rw [State.joinEnded_phase, joining]
    exact .refl .joining
  | joinSome ending left => exact st.joinEnded
  | joinLast ending none => exact st.joinEnded.stop ending
  | expireLast draining passed none =>
    exact st.joinEnded.stop (by rw [State.joinEnded_phase, draining]; rfl)
  | acquire acquiring on free =>
    exact st.still [] (by simp) rfl rfl rfl rfl (by rw [acquiring]; exact .refl .acquiring)
  | call ready on => exact st.call c one ready
  | nothing receiving on cancels =>
    exact st.passed c one receiving .nothing cancels rfl (by simp) (by simp [State.again])
      (by cases cancels <;> rfl) rfl
  | handout receiving on given cancels =>
    exact st.handout c one receiving given cancels rfl rfl (by cases cancels <;> rfl)
  | fatal receiving on reason cancels =>
    -- As if the loop waited for something else by the time it ends.
    let answered := s.answered (.fault (.fatal reason)) cancels
    have before : Stands w sink { answered with phase := .acquiring } :=
      st.passed c one receiving (.fault (.fatal reason)) cancels rfl (by simp)
        (State.answered_tasks s (.fault (.fatal reason)) cancels) (by cases cancels <;> rfl) rfl
    obtain ⟨idle, quiet⟩ := no_work_waiting answered.unjoined.length
    exact before.still _ (State.leave_history w _ answered) idle quiet rfl rfl (.draining rfl _ _)
  | transient receiving on reason cancels =>
    exact st.passed c one receiving _ cancels rfl (by simp) (by simp) (by cases cancels <;> rfl) rfl
  | resume pausing on passed =>
    exact st.still [] (by simp [State.again]) rfl rfl rfl rfl (by rw [pausing]; exact .refl .joining)
  | interrupt waiting off => exact st.leave waiting (.ok ())
  | giveUp draining passed left =>
    refine st.joinEnded.still [.gaveUp s.joinEnded.unjoined.length] rfl rfl rfl rfl rfl ?_
    rw [State.joinEnded_phase, draining]
    exact ⟨fun calls calling => calling, fun _ => rfl⟩
  | proceed found ready => exact st.proceed c one found ready
  | abort aborting found live => exact st.abort aborting found live
  | wait later => exact st.still [] (by simp) rfl rfl rfl rfl (.refl _)

end Stands

theorem Reachable.stands (reach : Reachable w sink s) (one : w.settings.concurrency ≤ 1) : Stands w sink s := by
  have both : Stands w sink s ∧ Conserved w s := by
    refine Leads.induction (w := w) (P := fun s => Stands w sink s ∧ Conserved w s) ?_ ?_ reach
    · exact ⟨.initial w sink, .initial w sink⟩
    · intro s s' move before h
      exact ⟨before.1.step before.2 one h, before.2.step h⟩
  exact both.1

end

/-! ## The whole run -/

/-- All deliveries but the last are dealt with as the sequential loop does it. The block of the last, whose
handler has this number, gets to some point, where it is cut. -/
def State.CutShort (w : World σ) (sink : σ) (s : State σ) (handler : Nat) (cut : List Deed) : Prop :=
  ∃ earlier h deeds, s.receipts = earlier ++ [.handout h] ∧
    handler = (w.serveAll sink earlier).handlers ∧
    deeds <+: (w.block (w.serveAll sink earlier).sink h).deeds ∧
    s.trace = (w.serveAll sink earlier).trace ++
      .called :: .received (.handout h) :: (deeds ++ cut).map (.did handler)

/-- What the trace tells has happened. -/
theorem mem_history_of_trace {s : State σ} {handler : Nat} {deed : Deed} (mem : .did handler deed ∈ s.trace) :
    ∃ time, (time, .did handler deed) ∈ s.history := by
  obtain ⟨time, happening, mem, work⟩ := State.mem_pick.1 mem
  refine ⟨time, ?_⟩
  cases happening <;> cases work
  exact mem

/-- **One delivery at a time.** With a single permit the trace of a run is that of the sequential loop for
the same receipts, perhaps with one more call of the broker that was not answered. Only the block of the
last delivery may be missing a part: its handler is still at work, or was given up and aborted. When the
relay has stopped no handler is at work. The block of a delivery is what handling it alone does, from the
state in which the sink was left, or a part of this up to a call that crashes. -/
theorem sequential_when_single (w : World σ) (sink : σ) (s : State σ) (one : w.settings.concurrency ≤ 1)
    (reach : Reachable w sink s) :
    (s.trace = (w.serveAll sink s.receipts).trace ∨
      s.trace = (w.serveAll sink s.receipts).trace ++ [.called] ∨
      (∃ handler, s.CutShort w sink handler [] ∧ s.live ≠ []) ∨
      ∃ handler, s.CutShort w sink handler [.ended .aborted] ∧ ∃ before time after,
        s.history = before ++ (time, .did handler (.ended .aborted)) :: after ∧ GaveUp w before) ∧
    (∀ outcome, s.phase = .stopped outcome → s.live = []) ∧
    ∀ state h,
      let alone := handle w.processor w.sink.direct state (some h.delivery)
      w.block state h = ⟨alone.deeds, alone.state⟩ ∨ ∃ part, part <+: alone.deeds ∧
        w.block state h = ⟨part ++ [.ended .crashed], Sink.after w.sink.direct state (calledOf part)⟩ := by
  refine ⟨?_, ?_, block_cases w⟩
  · cases reach.stands one with
    | free calls trace calling =>
      have open? : calls = [] ∨ calls = [.called] := by
        cases phase : s.phase <;> rw [phase] at calling <;> simp_all [Phase.Calls]
      rcases open? with rfl | rfl
      · exact .inl (by rw [trace, List.append_nil])
      · exact .inr (.inl trace)
    | @busy earlier before t deeds receipts tasks count rest live trace block =>
      refine .inr (.inr (.inl ⟨before.length, ⟨earlier, t.handout, deeds, receipts, count, ?_, ?_⟩, ?_⟩))
      · rw [block]
        exact List.prefix_append deeds _
      · rw [trace, List.append_nil]
      · simp [State.live, tasks, live]
    | @aborted earlier h deeds receipts trace part =>
      refine .inr (.inr (.inr ⟨_, ⟨earlier, h, deeds, receipts, rfl, part, trace⟩, ?_⟩))
      have told : .did (w.serveAll sink earlier).handlers (.ended .aborted) ∈ s.trace := by simp [trace]
      obtain ⟨time, mem⟩ := mem_history_of_trace told
      obtain ⟨before, after, split⟩ := List.append_of_mem mem
      exact ⟨before, time, after, split, reach.patient.aborted before time _ after split rfl⟩
  · intro outcome stopped
    simp only [State.live, List.filter_eq_nil_iff, Bool.not_eq_true]
    intro t mem
    obtain ⟨i, found⟩ := List.mem_iff_getElem?.1 mem
    obtain ⟨how, work, -⟩ := reach.manned.ended_of_stopped stopped found
    rw [Task.isLive, work]
    rfl

namespace Sample

/-- Handles one message at a time. -/
def single : World Nat := { world with settings := { world.settings with concurrency := 1 } }

/-- How far the relay gets then. -/
def lastSingle : State Nat := runScript single (script true) 0

end Sample

/-- Of three deliveries one is reported and one has crashed before the broker is called again. The third,
which came with the cancellation, is given up. -/
theorem sequential_when_single_three : Sample.single.settings.concurrency ≤ 1 ∧
    Reachable Sample.single 0 Sample.lastSingle ∧ Sample.lastSingle.receipts.length = 3 ∧
    ∃ handler, Sample.lastSingle.CutShort Sample.single 0 handler [.ended .aborted] ∧ ∃ before time after,
      Sample.lastSingle.history = before ++ (time, .did handler (.ended .aborted)) :: after ∧
        GaveUp Sample.single before := by
  have one : Sample.single.settings.concurrency ≤ 1 := Nat.le_refl 1
  have reach : Reachable Sample.single 0 Sample.lastSingle := runScript_reachable ..
  obtain ⟨runs, -, -⟩ := sequential_when_single Sample.single 0 Sample.lastSingle one reach
  refine ⟨one, reach, by decide +kernel, ?_⟩
  have aborts : Sample.lastSingle.trace.any Happening.isAbort = true := by decide +kernel
  have regular : (Sample.single.serveAll 0 Sample.lastSingle.receipts).trace.any Happening.isAbort = false := by
    decide +kernel
  rcases runs with whole | called | ⟨_, _, on⟩ | cut
  · rw [whole, regular] at aborts
    cases aborts
  · rw [called, List.any_append, regular] at aborts
    cases aborts
  · have none : Sample.lastSingle.live.isEmpty = true := by decide +kernel
    exact absurd (List.isEmpty_iff.1 none) on
  · exact cut

end BusRelay.Relay
