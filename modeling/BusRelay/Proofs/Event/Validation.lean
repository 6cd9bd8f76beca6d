import BusRelay.Event.Repair
import BusRelay.Proofs.Dict
/-!
# Valid events

An event is valid if every attribute of its own and every name of an extension keeps its rule
(`validate_ok_iff`). One that is not is sent as it is, or without its schema (`prepare_cases`).
-/

namespace BusRelay.Event

variable {e : Event}

theorem validate_ok_iff :
    e.validate = .ok () ↔ ∀ entry ∈ e.coreReasons ++ e.extensionReasons, entry.2 = none := by
  have reasons : e.violations.isEmpty = true ↔
      ∀ entry ∈ e.coreReasons ++ e.extensionReasons, entry.2 = none := by
    rw [violations, Dict.isEmpty_ofList, List.filterMap_eq_nil_iff]
    simp
  rw [← reasons, validate]
  split <;> simp_all

/-- The extensions of a valid event have names as they should be. -/
theorem isExtensionName_of_valid (valid : e.validate = .ok ()) {name : String}
    (mem : name ∈ e.extensions.entries.map Prod.fst) : isExtensionName name = true := by
  obtain ⟨⟨key, value⟩, found, rfl⟩ := List.mem_map.1 mem
  have reason : (key, if isExtensionName key then none else some extensionNameReason) ∈
      e.coreReasons ++ e.extensionReasons := List.mem_append_right _ (List.mem_map.2 ⟨(key, value), found, rfl⟩)
  have kept := validate_ok_iff.1 valid _ reason
  cases fits : isExtensionName key with
  | true => rfl
  | false => simp [fits] at kept

/-- A valid event is sent as it is, and nothing is recorded about it. -/
theorem prepare_of_valid (valid : e.validate = .ok ()) : e.prepare = (e, []) := by
  unfold prepare
  rw [valid]

/-- An event is prepared by taking its schema away, if by anything. -/
theorem prepare_cases (e : Event) : e.prepare.1 = e ∨ e.prepare.1 = { e with schema := none } := by
  have repaired (v : Violations) : (e.repair v).1 = e ∨ (e.repair v).1 = { e with schema := none } := by
    unfold repair
    split
    · exact .inr rfl
    · exact .inl rfl
  unfold prepare
  split
  · exact .inl rfl
  · exact repaired _

@[simp] theorem prepare_extensions (e : Event) : e.prepare.1.extensions = e.extensions := by
  rcases e.prepare_cases with same | same <;> rw [same]

@[simp] theorem prepare_payload (e : Event) : e.prepare.1.payload = e.payload := by
  rcases e.prepare_cases with same | same <;> rw [same]

end BusRelay.Event
