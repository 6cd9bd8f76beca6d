import BusRelay.Proofs.Relay.Crew
import BusRelay.Proofs.Relay.Scripted
import Mathlib.Data.List.Basic
/-!
# Completion in every run

`completed_when_taken` says of every run, whatever its handlers, its loop and the time do, that the
broker is called at most once for a delivery, after the sink has taken all its events, and that the
observer hears of success just where the broker has granted it. A sink settles its reply when it is
called. This leaves out no run: the state of a sink may hold all its replies beforehand.
-/

namespace BusRelay.Relay

variable {σ : Type}

/-- Whether the broker is called. -/
def Deed.isCompleting : Deed → Bool
  | completing => true
  | _ => false

section

variable {processor : Processor} {h : Handout} {work : Work} {deeds : List Deed}

theorem countP_completing (none : .completing ∉ deeds) : deeds.countP Deed.isCompleting = 0 := by
  refine List.countP_eq_zero.2 fun d mem calls => ?_
  cases d <;> first | exact none mem | cases calls

theorem Trail.completing_once (trail : Trail processor h work deeds) :
    deeds.countP Deed.isCompleting ≤ 1 := by
  rcases trail.completing_cases with none | ⟨x, rest, -, -, rfl, none⟩
  · rw [countP_completing none]
    exact Nat.zero_le 1
  · have before : .completing ∉ h.dispatched x := not_mem_of_plain (plain_dispatched h x) rfl
    rw [List.countP_append, List.countP_cons, countP_completing before, countP_completing none]
    decide

/-- The broker is called after the sink has taken every event of the message, in their order. -/
theorem Trail.taken_before (trail : Trail processor h work deeds) {before after : List Deed}
    (split : deeds = before ++ .completing :: after) :
    ∃ events, processor h.delivery.message = .ok events ∧
      exchangedOf before = events.map fun e => (e.prepare.1, .ok ()) := by
  rcases trail.completing_cases with none | ⟨x, rest, yes, all, same, none⟩
  · exact absurd (by simp [split]) none
  · have plain : .completing ∉ h.dispatched x := not_mem_of_plain (plain_dispatched h x) rfl
    have first := ((List.append_cons_inj_of_notMem plain none).1 (same.symm.trans split)).1
    refine ⟨x.events, yes, ?_⟩
    rw [← first, exchangedOf_dispatched]
    exact Exchange.prepared_of_allTaken all

/-- A handler reports success just when the broker has granted it. -/
theorem Trail.ok_iff (trail : Trail processor h work deeds) :
    .ended (.reported (.ok ())) ∈ deeds ↔ .acted (.completed h.id (.ok ())) ∈ deeds := by
  rw [trail.completed_iff, ← mem_endingsOf, trail.endings]
  cases work with
  | ended how => simp [Work.ending?, completionResult, eq_comm]
  | _ => simp [Work.ending?]

/-- The broker has not answered to a handler that was cut. -/
theorem Trail.unanswered_of_cut (trail : Trail processor h work deeds) {how : Ending}
    (cut : how.isCut = true) (ends : .ended how ∈ deeds) (id : MessageId) (answer : CompletionAnswer) :
    .acted (.completed id answer) ∉ deeds := by
  intro mem
  obtain ⟨-, rfl⟩ := trail.completed_iff.1 mem
  rw [← mem_endingsOf, trail.endings] at ends
  obtain rfl : how = .reported (completionResult h.id answer) := by simpa [Work.ending?] using ends
  cases cut

end

/-- **Settlement in every run.** Whatever the broker hands out, in whatever order the loop and the
handlers go on, whenever the relay is cancelled and handlers crash or are aborted: the broker is called
at most once to complete a delivery, and only after the sink has taken, in this handling, every event
made of it; the observer hears of success for just those deliveries whose call has returned success;
and no call has returned to a handler that has crashed or was aborted. -/
theorem completed_when_taken (w : World σ) (sink : σ) (s : State σ) (reach : Reachable w sink s) :
    (∀ i h, s.received[i]? = some h →
      (s.deeds i).countP Deed.isCompleting ≤ 1 ∧
        ∀ before after, s.deeds i = before ++ .completing :: after →
          ∃ events, w.processor h.delivery.message = .ok events ∧
            exchangedOf before = events.map fun e => (e.prepare.1, .ok ())) ∧
      (∀ i, s.received[i]? = none → s.deeds i = []) ∧
      (∀ i id, (i, id, .ok ()) ∈ s.told ↔ ∃ h, s.received[i]? = some h ∧ id = some h.id ∧
        .acted (.completed h.id (.ok ())) ∈ s.deeds i) ∧
      ∀ i how, how.isCut = true → .ended how ∈ s.deeds i → ∀ id answer,
        .acted (.completed id answer) ∉ s.deeds i := by
  have m := reach.manned
  refine ⟨?_, ?_, ?_, ?_⟩
  · intro i h given
    obtain ⟨t, -, -, trail⟩ := m.trail given
    exact ⟨trail.completing_once, fun before after split => trail.taken_before split⟩
  · exact fun i nothing => m.deeds_none nothing
  · intro i id
    rw [State.mem_told]
    cases given : s.received[i]? with
    | none => simp [m.deeds_none given]
    | some h =>
      obtain ⟨t, found, rfl, trail⟩ := m.trail given
      rw [trail.ok_iff, found]
      simp [and_comm]
  · intro i how cut ends
    cases given : s.received[i]? with
    | none => simp [m.deeds_none given] at ends
    | some h =>
      obtain ⟨t, -, -, trail⟩ := m.trail given
      exact trail.unanswered_of_cut cut ends

/-- The first delivery is completed, and the third is not when its handler is aborted. -/
theorem completed_when_taken_three : Reachable Sample.world 0 (Sample.last true) ∧
    (0, some Sample.first.id, .ok ()) ∈ (Sample.last true).told ∧
    ∀ id answer, .acted (.completed id answer) ∉ (Sample.last true).deeds 2 := by
  have reach := Sample.reachable_last true
  obtain ⟨-, -, told, cut⟩ := completed_when_taken Sample.world 0 (Sample.last true) reach
  have answered : .acted (.completed Sample.first.id (.ok ())) ∈ (Sample.last true).deeds 0 :=
    List.mem_of_getElem? (i := 6) rfl
  have aborted : .ended .aborted ∈ (Sample.last true).deeds 2 := List.mem_of_getElem? (i := 3) rfl
  exact ⟨reach, (told 0 _).2 ⟨Sample.first, rfl, rfl, answered⟩, cut 2 .aborted rfl aborted⟩

end BusRelay.Relay
