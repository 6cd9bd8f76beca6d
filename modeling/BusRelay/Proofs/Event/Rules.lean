import BusRelay.Proofs.Event.Validation
/-!
# What is reported of an event

An event breaks rules with attributes of its own (`Event.BreaksOwn`) and with names of extensions
(`Event.Breaks`). Every attribute of its own has a name that an extension may have, so no name is reported for two
reasons (`Breaks.unique`). Hence validation reports every broken rule and nothing else, and no extension has a say
in what it reports of an attribute of the event (`validate_reports`).
-/

namespace BusRelay

namespace Event

/-- A name that an extension may have: 1 to 20 lowercase letters and digits. -/
structure IsLabel (name : String) : Prop where
  filled : 1 ≤ name.toList.length
  short : name.toList.length ≤ 20
  plain : ∀ c ∈ name.toList, ('a' ≤ c ∧ c ≤ 'z') ∨ ('0' ≤ c ∧ c ≤ '9')

/-- The attributes of an event itself that have a rule. -/
def ruled : List String :=
  ["specversion", "id", "source", "type", "subject", "datacontenttype", "dataschema"]

/-- An attribute of the event itself breaks its rule, for this reason. -/
inductive BreaksOwn (e : Event) : (name reason : String) → Prop where
  | specVersion (other : e.specVersion ≠ "1.0") : BreaksOwn e "specversion" "expected \"1.0\""
  | id (empty : e.id = "") : BreaksOwn e "id" "MUST be a non-empty string"
  | source (empty : e.source = "") : BreaksOwn e "source" "MUST be a non-empty URI-reference"
  | kind (empty : e.kind = "") : BreaksOwn e "type" "MUST be a non-empty string"
  | subject (empty : e.subject = some "") : BreaksOwn e "subject" "if present, MUST be a non-empty string"
  | contentType (empty : e.contentType = some "") :
      BreaksOwn e "datacontenttype" "if present, MUST be a non-empty string"
  | schema {text : String} {fault : UrlFault} (set : e.schema = some text) (refused : Url.parse text = .error fault) :
      BreaksOwn e "dataschema" ("if present, MUST be an absolute URI: " ++ fault.message)

/-- An attribute breaks its rule, or an extension has a name that it may not have. -/
inductive Breaks (e : Event) : (name reason : String) → Prop where
  | own {name reason : String} (breaks : BreaksOwn e name reason) : Breaks e name reason
  | extension {name : String} (mem : name ∈ e.extensions.entries.map Prod.fst) (misnamed : ¬ IsLabel name) :
      Breaks e name "extension attribute names MUST be lowercase alphanumeric, at most 20 characters"

variable {e : Event} {name reason : String}

/-! ## Rule by rule -/

theorem isExtensionName_iff : isExtensionName name = true ↔ IsLabel name := by
  have filled : name ≠ "" ↔ 1 ≤ name.toList.length := by
    rw [Nat.one_le_iff_ne_zero, ne_eq, ne_eq, List.length_eq_zero_iff, String.toList_eq_nil_iff]
  have plain : name.toList.all isExtensionChar = true ↔
      ∀ c ∈ name.toList, ('a' ≤ c ∧ c ≤ 'z') ∨ ('0' ≤ c ∧ c ≤ '9') := by
    simp only [List.all_eq_true, isExtensionChar, Bool.or_eq_true, Bool.and_eq_true, decide_eq_true_eq]
  unfold isExtensionName
  rw [Bool.and_eq_true, Bool.and_eq_true, decide_eq_true_eq, decide_eq_true_eq, plain, filled]
  constructor
  · rintro ⟨⟨filled, short⟩, plain⟩
    exact ⟨filled, short, plain⟩
  · intro label
    exact ⟨⟨label.filled, label.short⟩, label.plain⟩

/-- An attribute that has a rule is called as an extension may be. -/
theorem isLabel_of_ruled (mem : name ∈ ruled) : IsLabel name := by
  have all : ∀ name ∈ ruled, isExtensionName name = true := by decide
  exact isExtensionName_iff.1 (all name mem)

theorem BreaksOwn.mem_ruled (breaks : e.BreaksOwn name reason) : name ∈ ruled := by
  cases breaks <;> decide

theorem emptyTextReason_eq_some {s : Option String} :
    emptyTextReason s = some reason ↔ s = some "" ∧ reason = "if present, MUST be a non-empty string" := by
  unfold emptyTextReason
  split
  · simp [eq_comm]
  · rename_i other
    constructor
    · intro none
      cases none
    · rintro ⟨empty, -⟩
      exact absurd empty other

theorem schemaReason_eq_some {s : Option String} :
    schemaReason s = some reason ↔ ∃ text fault, s = some text ∧ Url.parse text = .error fault ∧
      reason = "if present, MUST be an absolute URI: " ++ fault.message := by
  cases s with
  | none => simp [schemaReason]
  | some text =>
    unfold schemaReason
    dsimp only
    cases read : Url.parse text with
    | ok url => simp [read]
    | error fault => simp [read, eq_comm]

theorem mem_coreReasons_iff : (name, some reason) ∈ e.coreReasons ↔ e.BreaksOwn name reason := by
  have version : "expected " ++ Quoted.quote formatVersion = "expected \"1.0\"" := by decide
  simp only [coreReasons, List.mem_cons, List.not_mem_nil, or_false, Prod.mk.injEq, version,
    eq_comm (a := some reason), emptyTextReason_eq_some, schemaReason_eq_some, Option.ite_none_left_eq_some,
    Option.ite_none_right_eq_some, Option.some.injEq]
  constructor
  · rintro (⟨rfl, other, rfl⟩ | ⟨rfl, empty, rfl⟩ | ⟨rfl, empty, rfl⟩ | ⟨rfl, empty, rfl⟩ | ⟨rfl, empty, rfl⟩ |
      ⟨rfl, empty, rfl⟩ | ⟨rfl, text, fault, set, refused, rfl⟩)
    · exact .specVersion other
    · exact .id empty
    · exact .source empty
    · exact .kind empty
    · exact .subject empty
    · exact .contentType empty
    · exact .schema set refused
  · intro breaks
    cases breaks <;> simp_all [formatVersion]

theorem mem_extensionReasons_iff : (name, some reason) ∈ e.extensionReasons ↔
    name ∈ e.extensions.entries.map Prod.fst ∧ ¬ IsLabel name ∧ reason = extensionNameReason := by
  simp only [extensionReasons, List.mem_map, Prod.mk.injEq, Option.ite_none_left_eq_some, isExtensionName_iff,
    Option.some.injEq]
  constructor
  · rintro ⟨entry, mem, rfl, misnamed, rfl⟩
    exact ⟨⟨entry, mem, rfl⟩, misnamed, rfl⟩
  · rintro ⟨⟨entry, mem, rfl⟩, misnamed, rfl⟩
    exact ⟨entry, mem, rfl, misnamed, rfl⟩

/-- What is collected are the reasons of broken rules. -/
theorem mem_reasons_iff : (name, some reason) ∈ e.coreReasons ++ e.extensionReasons ↔ e.Breaks name reason := by
  rw [List.mem_append, mem_coreReasons_iff, mem_extensionReasons_iff]
  constructor
  · rintro (breaks | ⟨mem, misnamed, rfl⟩)
    · exact .own breaks
    · exact .extension mem misnamed
  · rintro (breaks | ⟨mem, misnamed⟩)
    · exact .inl breaks
    · exact .inr ⟨mem, misnamed, rfl⟩

/-! ## Name by name -/

/-- An attribute of the event has one rule. -/
theorem BreaksOwn.unique {other : String} (breaks : e.BreaksOwn name reason) (breaks' : e.BreaksOwn name other) :
    reason = other := by
  have distinct : (e.coreReasons.map Prod.fst).Nodup := by
    show ["specversion", "id", "source", "type", "subject", "datacontenttype", "dataschema"].Nodup
    decide
  have found := Entries.get?_of_mem distinct (mem_coreReasons_iff.2 breaks)
  have found' := Entries.get?_of_mem distinct (mem_coreReasons_iff.2 breaks')
  exact Option.some.inj (Option.some.inj (found.symm.trans found'))

/-- Of an attribute that has a rule, only this rule can be broken. -/
theorem Breaks.own_of_ruled (mem : name ∈ ruled) (breaks : e.Breaks name reason) : e.BreaksOwn name reason := by
  cases breaks with
  | own breaks => exact breaks
  | extension _ misnamed => exact absurd (isLabel_of_ruled mem) misnamed

/-- No name is reported for two reasons. -/
theorem Breaks.unique {other : String} (breaks : e.Breaks name reason) (breaks' : e.Breaks name other) :
    reason = other := by
  cases breaks with
  | own breaks => exact breaks.unique (breaks'.own_of_ruled breaks.mem_ruled)
  | extension _ misnamed =>
    cases breaks' with
    | own breaks' => exact absurd (isLabel_of_ruled breaks'.mem_ruled) misnamed
    | extension => rfl

theorem get?_violations : e.violations.get? name = some reason ↔ e.Breaks name reason := by
  have collected {reason : String} : (name, reason) ∈ (e.coreReasons ++ e.extensionReasons).filterMap
      (fun entry => entry.2.map (entry.1, ·)) ↔ e.Breaks name reason := by
    rw [← mem_reasons_iff, List.mem_filterMap]
    simp only [Option.map_eq_some_iff, Prod.exists, Prod.mk.injEq]
    grind
  rw [violations, Dict.get?_ofList]
  constructor
  · intro found
    exact collected.1 (Entries.mem_of_last? found)
  · intro breaks
    apply Entries.last?_of_unique (collected.2 breaks)
    intro other mem
    exact (collected.1 mem).unique breaks

/-- Just the names for which something is found are listed. -/
theorem mem_attributes_iff (v : Violations) : name ∈ v.attributes ↔ ∃ reason, v.get? name = some reason := by
  show name ∈ v.entries.map Prod.fst ↔ _
  rw [← Option.ne_none_iff_exists', ne_eq, Dict.get?, Entries.get?_eq_none_iff, Decidable.not_not]

theorem validate_error {v : Violations} (refused : e.validate = .error v) : v = e.violations := by
  unfold validate at refused
  split at refused
  · cases refused
  · exact (Except.error.inj refused).symm

theorem validate_ok_iff_breaks : e.validate = .ok () ↔ ∀ name reason, ¬ e.Breaks name reason := by
  rw [validate_ok_iff]
  constructor
  · intro kept name reason breaks
    cases kept _ (mem_reasons_iff.2 breaks)
  · rintro kept ⟨name, reason⟩ mem
    cases reason with
    | none => rfl
    | some reason => exact absurd (mem_reasons_iff.1 mem) (kept name reason)

/-- **What is reported.** An event is accepted if it breaks no rule. Otherwise what is reported are the names with
broken rules, in ascending order, each once and with the reason of its own rule. For an attribute of the event
itself this is the rule of that attribute, whatever extensions there are. -/
theorem validate_reports (e : Event) :
    (e.validate = .ok () ↔ ∀ name reason, ¬ e.Breaks name reason) ∧
    ∀ v, e.validate = .error v →
      v.attributes.Pairwise (· < ·) ∧
      (∀ name, name ∈ v.attributes ↔ ∃ reason, e.Breaks name reason) ∧
      (∀ name reason, v.get? name = some reason ↔ e.Breaks name reason) ∧
      ∀ name ∈ ruled, ∀ reason, v.get? name = some reason ↔ e.BreaksOwn name reason := by
  refine ⟨validate_ok_iff_breaks, fun v refused => ?_⟩
  obtain rfl := validate_error refused
  refine ⟨e.violations.ascending, fun name => ?_, fun name reason => get?_violations, ?_⟩
  · rw [mem_attributes_iff]
    exact exists_congr fun reason => get?_violations
  · intro name mem reason
    rw [get?_violations]
    exact ⟨fun breaks => breaks.own_of_ruled mem, .own⟩

namespace Sample

/-- It breaks three rules and has a misnamed extension. One of the other extensions is called like an attribute. -/
def broken : Event :=
  { specVersion := "0.3", id := "", source := "queue", kind := "created", time := .epoch, schema := some "#",
    extensions := .ofList [("id", "mine"), ("ID", "mine"), ("partition", "7")] }

end Sample

/-- The extension `id` does not keep the empty id from being reported, and `ID` is reported beside it. -/
theorem validate_reports_broken :
    Sample.broken.validate = .error Sample.broken.violations ∧
    Sample.broken.violations.attributes = ["ID", "dataschema", "id", "specversion"] ∧
    Sample.broken.violations.get? "id" = some "MUST be a non-empty string" := by
  have refused : Sample.broken.validate = .error Sample.broken.violations := by rfl
  obtain ⟨-, -, -, own⟩ := (validate_reports Sample.broken).2 _ refused
  exact ⟨refused, by decide +kernel, (own "id" (by decide) _).2 (.id rfl)⟩

end Event

end BusRelay
