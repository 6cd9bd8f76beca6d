import BusRelay.Proofs.Relay.Crew
import BusRelay.Proofs.Relay.Drain
import BusRelay.Proofs.Relay.Scripted
import BusRelay.Relay.Report
/-!
# The ledger of deliveries

`every_delivery_accounted` balances a run that has stopped: every delivery that was received had one
handler, which has reported once, or has crashed, or was aborted, and nothing else was reported.
-/

namespace BusRelay.Relay

variable {σ : Type}

/-- What is recorded of a run. -/
def State.records (s : State σ) (settings : Settings) (observe : Nat → HandlingResult → List Log.Record)
    (failure : Nat → String) : List Log.Record :=
  s.history.flatMap fun (_, happening) => happening.records settings observe failure

/-- What becomes of a delivery whose handler ends in some way. One that reports does so once, with the id
of its message and with what handling the delivery alone results in when the sink gives the same
answers. One that crashes is recorded as failed. One that is aborted was given up before. -/
def Fate (w : World σ) (s : State σ) (handler : Nat) (h : Handout) : Ending → Prop
  | .reported result => s.told.filter (·.1 = handler) = [(handler, some h.id, result)] ∧
      let alone := handle w.processor Sink.replay (exchangedOf (s.deeds handler)).answers (some h.delivery)
      alone.result = result ∧ alone.actions = actionsOf (s.deeds handler)
  | .crashed => s.told.filter (·.1 = handler) = [] ∧ ∀ observe failure,
      loopRecord .error "message handler task failed" [("error", .text (failure handler))] ∈
        s.records w.settings observe failure
  | .aborted => s.told.filter (·.1 = handler) = [] ∧ ∃ before time after,
      s.history = before ++ (time, .did handler (.ended .aborted)) :: after ∧ GaveUp w before

section

variable {w : World σ} {s : State σ} {i : Nat}

/-- A handler that has crashed is recorded as failed once it is joined. -/
theorem failure_recorded (joins : s.joins i = [.crashed]) (settings : Settings)
    (observe : Nat → HandlingResult → List Log.Record) (failure : Nat → String) :
    loopRecord .error "message handler task failed" [("error", .text (failure i))] ∈
      s.records settings observe failure := by
  have mem : .crashed ∈ s.joins i := by simp [joins]
  obtain ⟨time, mem⟩ := State.mem_joins.1 mem
  exact List.mem_flatMap.2 ⟨_, mem, by simp [Happening.records, joinedRecords]⟩

theorem Patient.given_up (p : Patient w s) (ends : endingsOf (s.deeds i) = [.aborted]) :
    ∃ before time after, s.history = before ++ (time, .did i (.ended .aborted)) :: after ∧
      GaveUp w before := by
  have mem : .aborted ∈ endingsOf (s.deeds i) := by simp [ends]
  obtain ⟨time, mem⟩ := State.mem_deeds.1 (mem_endingsOf.1 mem)
  obtain ⟨before, after, split⟩ := List.append_of_mem mem
  exact ⟨before, time, after, split, p.aborted before time _ after split rfl⟩

/-- Whatever the observer is told belongs to a delivery. -/
theorem Manned.told (m : Manned w.processor s) {report : Nat × Option MessageId × HandlingResult}
    (mem : report ∈ s.told) : ∃ h, s.received[report.1]? = some h ∧ report.2.1 = some h.id := by
  obtain ⟨handler, id, result⟩ := report
  obtain ⟨ends, rfl⟩ := State.mem_told.1 mem
  cases found : s.tasks[handler]? with
  | none => simp [(m.absent handler found).1] at ends
  | some t => exact ⟨t.handout, by simp [m.received, found], rfl⟩

end

/-- **Accounting of deliveries.** When the relay has stopped, the deliveries that have a handler are those
that were received, one by one, also if the relay was cancelled just then. Each handler has ended once,
in one of three ways, and was joined once, and what has become of the delivery is as it should be. The
observer was told of nothing else. -/
theorem every_delivery_accounted (w : World σ) (sink : σ) (s : State σ) (reach : Reachable w sink s)
    (outcome : Outcome) (stopped : s.phase = .stopped outcome) :
    s.tasks.map (·.handout) = s.received ∧
      (∀ report ∈ s.told, ∃ h, s.received[report.1]? = some h ∧ report.2.1 = some h.id) ∧
      ∀ i h, s.received[i]? = some h →
        ∃ how, endingsOf (s.deeds i) = [how] ∧ s.joins i = [how] ∧ Fate w s i h how := by
  have m := reach.manned
  refine ⟨m.received.symm, fun report mem => m.told mem, ?_⟩
  intro i h given
  obtain ⟨t, found, rfl, trail⟩ := m.trail given
  obtain ⟨how, work, ends, joins⟩ := m.ended_of_stopped stopped found
  have told := s.told_of i
  rw [ends, found] at told
  rw [work] at trail
  refine ⟨how, ends, joins, ?_⟩
  cases how with
  | reported result => exact ⟨told, trail.handle_eq⟩
  | crashed => exact ⟨told, failure_recorded joins w.settings⟩
  | aborted => exact ⟨told, reach.patient.given_up ends⟩

/-- Of three deliveries one is reported, one has crashed, and one was aborted. -/
theorem every_delivery_accounted_three : (Sample.last true).phase = .stopped (.ok ()) ∧
    Fate Sample.world (Sample.last true) 0 Sample.first (.reported (.ok ())) ∧
    Fate Sample.world (Sample.last true) 1 Sample.second .crashed ∧
    Fate Sample.world (Sample.last true) 2 Sample.third .aborted := by
  have stopped : (Sample.last true).phase = .stopped (.ok ()) := rfl
  obtain ⟨-, -, fates⟩ := every_delivery_accounted Sample.world 0 (Sample.last true)
    (Sample.reachable_last true) (.ok ()) stopped
  have fate {i : Nat} {h : Handout} {how : Ending} (given : (Sample.last true).received[i]? = some h)
      (ends : endingsOf ((Sample.last true).deeds i) = [how]) :
      Fate Sample.world (Sample.last true) i h how := by
    obtain ⟨other, same, -, fate⟩ := fates i h given
    rw [ends] at same
    rw [(List.cons.inj same).1]
    exact fate
  exact ⟨stopped, fate rfl rfl, fate rfl rfl, fate rfl rfl⟩

end BusRelay.Relay
