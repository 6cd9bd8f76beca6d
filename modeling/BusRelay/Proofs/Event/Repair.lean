import BusRelay.Proofs.Event.Rules
import BusRelay.Proofs.Handling.Completeness
/-!
# Repaired events

The rules of an event are broken one by one, and a repair takes away just what the rule of the schema reports
(`breaks_cleared_iff`, `violations_repair`): afterwards the other reports are left, and no schema that is none. What
is sent for an event therefore has its schema if and only if it is a URL (`SentAs.schema_iff`). All of this is in
`repair_schema_only`.
-/

namespace BusRelay

/-- A text that can be read as a URL. -/
def IsUrl (text : String) : Prop := ∃ url, Url.parse text = .ok url

/-- If no other name than this one is in a failure, it is listed alone. -/
theorem Violations.attributes_eq_singleton {v : Violations} {name : String} (filled : v.isEmpty = false)
    (all : ∀ key ∈ v.attributes, key = name) : v.attributes = [name] := by
  have distinct : v.attributes.Nodup := v.ascending.nodup_names
  have named : v.attributes ≠ [] := by
    intro none
    rw [attributes, List.map_eq_nil_iff] at none
    rw [Dict.isEmpty, none] at filled
    cases filled
  obtain ⟨first, rest, shape⟩ := List.exists_cons_of_ne_nil named
  rw [shape] at all distinct ⊢
  obtain rfl := all first List.mem_cons_self
  cases rest with
  | nil => rfl
  | cons second rest =>
    obtain rfl := all second (by simp)
    simp at distinct

namespace Event

variable {e : Event} {name reason : String}

/-- The event without its schema. -/
def cleared (e : Event) : Event := { e with schema := none }

/-! ## What one repair does -/

/-- An event is repaired in its schema and nowhere else, and only if a schema is reported. -/
theorem repair_fst (v : Violations) (e : Event) :
    (e.repair v).1 = { e with schema := if v.contains "dataschema" then none else e.schema } := by
  unfold repair
  split
  · rfl
  · rfl

theorem repair_reported {v : Violations} (reported : v.contains "dataschema" = true) :
    (e.repair v).1 = e.cleared := by
  rw [repair_fst, if_pos reported]
  rfl

theorem repair_unreported {v : Violations} (silent : v.contains "dataschema" = false) : (e.repair v).1 = e := by
  rw [repair_fst, silent]
  rfl

theorem repair_repair (v : Violations) : ((e.repair v).1.repair v).1 = (e.repair v).1 := by
  cases reported : v.contains "dataschema" with
  | false => rw [repair_unreported reported, repair_unreported reported]
  | true =>
    rw [repair_reported reported, repair_reported reported]
    rfl

/-! ## What it leaves -/

/-- The schema has no say in other rules than its own. -/
theorem Breaks.withSchema (breaks : e.Breaks name reason) (elsewhere : name ≠ "dataschema") (schema : Option String) :
    { e with schema := schema }.Breaks name reason := by
  cases breaks with
  | extension mem misnamed => exact .extension mem misnamed
  | own breaks =>
    apply Breaks.own
    cases breaks with
    | specVersion other => exact .specVersion other
    | id empty => exact .id empty
    | source empty => exact .source empty
    | kind empty => exact .kind empty
    | subject empty => exact .subject empty
    | contentType empty => exact .contentType empty
    | schema => exact absurd rfl elsewhere

/-- The rule of the schema is broken by a text that cannot be read. -/
theorem breaks_schema_iff :
    (∃ reason, e.Breaks "dataschema" reason) ↔ ∃ text, e.schema = some text ∧ ¬ IsUrl text := by
  constructor
  · rintro ⟨reason, breaks⟩
    have own := breaks.own_of_ruled (by decide)
    generalize named : "dataschema" = name at own
    cases own with
    | schema set refused =>
      refine ⟨_, set, ?_⟩
      rintro ⟨url, read⟩
      cases refused.symm.trans read
    | _ => exact absurd named (by decide)
  · rintro ⟨text, set, unread⟩
    cases read : Url.parse text with
    | ok url => exact absurd ⟨url, read⟩ unread
    | error fault => exact ⟨_, .own (.schema set read)⟩

/-- Without its schema an event breaks the rules that it broke before, but for that of the schema. -/
theorem breaks_cleared_iff : e.cleared.Breaks name reason ↔ e.Breaks name reason ∧ name ≠ "dataschema" := by
  constructor
  · intro breaks
    have elsewhere : name ≠ "dataschema" := by
      rintro rfl
      obtain ⟨text, set, -⟩ := breaks_schema_iff.1 ⟨reason, breaks⟩
      cases set
    exact ⟨breaks.withSchema elsewhere e.schema, elsewhere⟩
  · rintro ⟨breaks, elsewhere⟩
    exact breaks.withSchema elsewhere none

theorem violations_cleared : e.cleared.violations = e.violations.erase "dataschema" := by
  apply Dict.eq_of_get?
  intro name
  apply Option.ext
  intro reason
  rw [get?_violations, breaks_cleared_iff, Dict.get?_erase, ← get?_violations]
  split <;> simp [*]

theorem violations_repair : (e.repair e.violations).1.violations = e.violations.erase "dataschema" := by
  cases reported : e.violations.contains "dataschema" with
  | false => rw [repair_unreported reported, Dict.erase_of_not_contains reported]
  | true => rw [repair_reported reported, violations_cleared]

/-- A schema is reported if it is set and cannot be read. -/
theorem contains_schema_iff :
    e.violations.contains "dataschema" = true ↔ ∃ text, e.schema = some text ∧ ¬ IsUrl text := by
  rw [Dict.contains, Option.isSome_iff_exists, ← breaks_schema_iff]
  exact exists_congr fun reason => get?_violations

/-- What is sent for an event is this event with its schema, if this is a URL, and without any if it is not. -/
theorem SentAs.schema_iff {sent : Event} (as : e.SentAs sent) :
    sent = { e with schema := sent.schema } ∧
      ∀ text, sent.schema = some text ↔ e.schema = some text ∧ IsUrl text := by
  have kept (silent : e.violations.contains "dataschema" = false) (text : String) :
      e.schema = some text ↔ e.schema = some text ∧ IsUrl text := by
    refine ⟨fun set => ⟨set, ?_⟩, And.left⟩
    by_contra unread
    rw [contains_schema_iff.2 ⟨text, set, unread⟩] at silent
    cases silent
  cases as with
  | valid valid =>
    refine ⟨rfl, kept ?_⟩
    rw [Dict.contains, Option.isSome_eq_false_iff, Option.isNone_iff_eq_none, Option.eq_none_iff_forall_ne_some]
    intro reason found
    exact validate_ok_iff_breaks.1 valid _ _ (get?_violations.1 found)
  | repaired refused =>
    obtain rfl := validate_error refused
    cases reported : e.violations.contains "dataschema" with
    | false =>
      rw [repair_unreported reported]
      exact ⟨rfl, kept reported⟩
    | true =>
      rw [repair_reported reported]
      refine ⟨rfl, fun text => ?_⟩
      obtain ⟨other, set, unread⟩ := contains_schema_iff.1 reported
      constructor
      · intro none
        cases none
      · rintro ⟨set', url⟩
        cases set.symm.trans set'
        exact absurd url unread

/-- With what is left to report, the repaired event is refused, or accepted if nothing is left. -/
theorem validate_repair (e : Event) :
    let repaired := (e.repair e.violations).1
    repaired.validate = if (e.violations.erase "dataschema").isEmpty then .ok ()
      else .error (e.violations.erase "dataschema") := by
  dsimp only
  rw [validate, violations_repair]

theorem isEmpty_of_refused {v : Violations} (refused : e.validate = .error v) : v.isEmpty = false := by
  unfold validate at refused
  split at refused
  · cases refused
  · rename_i filled
    cases refused
    exact Bool.eq_false_iff.2 filled

/-- **What a repair does.** Whatever is reported of an event, also if it was put together by hand, a repair leaves
all of it but the schema as it is, and a second one changes nothing. If it is what validation reports, the schema is
taken away if and only if it is set and cannot be read as a URL. If nothing else was reported, the repaired event is
valid, and otherwise it is refused with just the other reports; a repair for these changes nothing either. So what a
dispatch sends for every event is this event with its schema if and only if the schema is a URL. -/
theorem repair_schema_only (e : Event) :
    (∀ v : Violations,
      (e.repair v).1 = { e with schema := if v.contains "dataschema" then none else e.schema } ∧
      ((e.repair v).1.repair v).1 = (e.repair v).1) ∧
    (∀ v, e.validate = .error v →
      let repaired := (e.repair v).1
      (v.contains "dataschema" = true ↔ ∃ text, e.schema = some text ∧ ¬ IsUrl text) ∧
      (v.attributes = ["dataschema"] → repaired.validate = .ok ()) ∧
      (v.attributes ≠ ["dataschema"] → repaired.validate = .error (v.erase "dataschema")) ∧
      ∀ w, repaired.validate = .error w → (repaired.repair w).1 = repaired) ∧
    ∀ {σ : Type} (sink : Sink σ) (state : σ) (events : List Event),
      List.Forall₂ (fun e p => p.1 = { e with schema := p.1.schema } ∧
        ∀ text, p.1.schema = some text ↔ e.schema = some text ∧ IsUrl text)
        events (dispatch sink state events).exchanged := by
  refine ⟨fun v => ⟨repair_fst v e, repair_repair v⟩, fun v refused => ?_, fun sink state events => ?_⟩
  · have filled := isEmpty_of_refused refused
    obtain rfl := validate_error refused
    have left := e.validate_repair
    refine ⟨contains_schema_iff, fun only => ?_, fun more => ?_, fun w again => ?_⟩
    · have none : (e.violations.erase "dataschema").isEmpty = true := by
        apply Dict.isEmpty_erase.2
        show ∀ key ∈ e.violations.attributes, key = "dataschema"
        simp [only]
      rw [left, none]
      rfl
    · have some : (e.violations.erase "dataschema").isEmpty = false := by
        rw [Bool.eq_false_iff]
        intro none
        exact more (Violations.attributes_eq_singleton filled (Dict.isEmpty_erase.1 none))
      rw [left, some]
      rfl
    · have same : w = e.violations.erase "dataschema" := (validate_error again).trans violations_repair
      apply repair_unreported
      rw [same]
      exact Dict.contains_erase
  · rw [exchanged_dispatch]
    exact (sentAs_exchange sink state events).imp fun e p as => as.schema_iff

namespace Sample

/-- A schema that is none, and an id that is missing. -/
def schemaless : Event :=
  { id := "", source := "queue", kind := "created", time := .epoch, schema := some "#",
    extensions := .ofList [("dataschema", "http://a/"), ("Dataschema", "#")] }

end Sample

/-- Of three violations the schema is taken away, and the id and the extension `Dataschema` are still reported. -/
theorem repair_schema_only_schemaless :
    Sample.schemaless.validate = .error Sample.schemaless.violations ∧
    Sample.schemaless.violations.attributes = ["Dataschema", "dataschema", "id"] ∧
    (Sample.schemaless.repair Sample.schemaless.violations).1.validate =
      .error (Sample.schemaless.violations.erase "dataschema") ∧
    Violations.attributes (Sample.schemaless.violations.erase "dataschema") = ["Dataschema", "id"] := by
  have refused : Sample.schemaless.validate = .error Sample.schemaless.violations := by rfl
  have names : Sample.schemaless.violations.attributes = ["Dataschema", "dataschema", "id"] := by decide +kernel
  obtain ⟨-, -, more, -⟩ := (repair_schema_only Sample.schemaless).2.1 _ refused
  exact ⟨refused, names, more (by rw [names]; decide), by decide +kernel⟩

end Event

end BusRelay
