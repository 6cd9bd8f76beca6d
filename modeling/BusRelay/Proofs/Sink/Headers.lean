import BusRelay.Event.Validation
import BusRelay.Proofs.Dict
import BusRelay.Proofs.Sink.Value
import BusRelay.Proofs.Time.Rfc3339
/-!
# What the headers of an event tell

If the names of extensions have no capital letters and none is that of an attribute of the event, then
every attribute has a header for itself, from which it is read back (`get?_headers`). With capital letters
a name can have the header of another.
-/

namespace BusRelay

/-- A context attribute as text. -/
def Event.attribute? (e : Event) : (name : String) → Option String
  | "specversion" => some e.specVersion
  | "id" => some e.id
  | "source" => some e.source
  | "type" => some e.kind
  | "time" => some (Rfc3339.text e.time)
  | "subject" => e.subject
  | "dataschema" => e.schema
  | name => e.extensions.get? name

namespace EventHeaders

/-- The attributes of the event itself that have a header of this kind. -/
def coreNames : List String := ["specversion", "id", "source", "type", "time", "subject", "dataschema"]

/-- A name without capital letters. -/
def IsPlainName (name : String) : Prop := ∀ c ∈ name.toList, c.isUpper = false

instance (name : String) : Decidable (IsPlainName name) :=
  decidable_of_iff (name.toList.all (!·.isUpper) = true) (by simp [IsPlainName])

/-! ## Names -/

theorem toLower_of_not_isUpper {c : Char} (plain : c.isUpper = false) : c.toLower = c :=
  dif_neg (of_decide_eq_false plain)

theorem headerName_of_plain {name : String} (plain : IsPlainName name) : headerName name = "ce-" ++ name := by
  have first : ∀ c ∈ ['c', 'e', '-'], c.toLower = c := by simp
  have all : ∀ c ∈ ("ce-" ++ name).toList, c.toLower = c := by
    rw [String.toList_append, List.forall_mem_append]
    exact ⟨first, fun c mem => toLower_of_not_isUpper (plain c mem)⟩
  rw [headerName, List.map_congr_left all, List.map_id', String.ofList_toList]

/-- Names with the same letters have the same header only if they are the same. -/
theorem append_injective {a b : String} (same : "ce-" ++ a = "ce-" ++ b) : a = b := by
  have lists := congrArg String.toList same
  rw [String.toList_append, String.toList_append] at lists
  exact String.toList_injective (List.append_cancel_left lists)

theorem headerName_eq (name : String) :
    headerName name = "ce-" ++ String.ofList (name.toList.map Char.toLower) := by
  rw [headerName, String.toList_append, List.map_append, String.ofList_append]
  rfl

theorem append_ne (name : String) : "ce-" ++ name ≠ "content-type" := by
  intro same
  have lists := congrArg String.toList same
  simp [String.toList_append] at lists

/-! ## What is put under a header -/

/-- The value of the last entry whose header this is. -/
def supplied? (header : String) (entries : List (String × String)) : Option String :=
  Entries.last? header (entries.map fun entry => (headerName entry.1, entry.2))

theorem supplied?_cons (header name value : String) (rest : List (String × String)) :
    supplied? header ((name, value) :: rest) =
      (supplied? header rest).or (if header = headerName name then some value else none) := rfl

theorem supplied?_append (header : String) (first rest : List (String × String)) :
    supplied? header (first ++ rest) = (supplied? header rest).or (supplied? header first) := by
  rw [supplied?, List.map_append, Entries.last?_append]
  rfl

theorem header_of_supplied {header value : String} {entries : List (String × String)}
    (given : supplied? header entries = some value) : ∃ name, headerName name = header := by
  have mem : header ∈ (entries.map fun entry => (headerName entry.1, entry.2)).map Prod.fst := by
    by_contra absent
    rw [supplied?, Entries.last?_eq_none_iff.2 absent] at given
    cases given
  rw [List.map_map] at mem
  obtain ⟨entry, -, same⟩ := List.mem_map.1 mem
  exact ⟨entry.1, same⟩

/-- Of several values for one header the last one stays. -/
theorem get?_putAll {entries : List (String × String)} {before after : Dict String}
    (put : putAll before entries = .ok after) (header : String) :
    after.get? header = ((supplied? header entries).map encodeValue).or (before.get? header) := by
  induction entries generalizing before with
  | nil =>
    cases put
    rfl
  | cons entry rest ih =>
    obtain ⟨name, value⟩ := entry
    rw [putAll_cons] at put
    split at put
    · rw [ih put, Dict.get?_insert, supplied?_cons]
      by_cases same : header = headerName name <;> simp [same]
    · cases put

/-- Under plain names that are not repeated, each entry has a header for itself. -/
theorem supplied?_of_plain {entries : Entries String} (plain : ∀ name ∈ entries.map Prod.fst, IsPlainName name)
    (distinct : (entries.map Prod.fst).Nodup) (name : String) :
    supplied? ("ce-" ++ name) entries = entries.get? name := by
  induction entries with
  | nil => rfl
  | cons entry rest ih =>
    obtain ⟨key, value⟩ := entry
    rw [List.map_cons, List.nodup_cons] at distinct
    rw [supplied?_cons, ih (fun other mem => plain other (List.mem_cons_of_mem _ mem)) distinct.2,
      headerName_of_plain (plain key List.mem_cons_self), Entries.get?]
    by_cases same : name = key
    · subst same
      simp [Entries.get?_eq_none_iff.2 distinct.1]
    · have other : "ce-" ++ name ≠ "ce-" ++ key := fun eq => same (append_injective eq)
      simp [same, other]

/-! ## The headers of an event -/

/-- What there is before and after the content type is added. -/
theorem headers_cases {e : Event} {headers : Dict String} (made : EventHeaders.headers e = .ok headers) :
    ∃ before, putAll {} (attributes e) = .ok before ∧
      ((e.contentType = none ∧ headers = before) ∨ ∃ value, e.contentType = some value ∧
        Http.isHeaderValue value = true ∧ headers = before.insert "content-type" value) := by
  simp only [EventHeaders.headers, bind, Except.bind] at made
  split at made
  · cases made
  · rename_i before put
    refine ⟨before, put, ?_⟩
    split at made
    · rename_i none
      cases made
      exact .inl ⟨none, rfl⟩
    · rename_i value given
      split at made
      · rename_i fits
        cases made
        exact .inr ⟨value, given, fits, rfl⟩
      · cases made

/-- Every header but the content type is that of an attribute. -/
theorem headers_names {e : Event} {headers : Dict String} (made : EventHeaders.headers e = .ok headers)
    {header value : String} (found : headers.get? header = some value) :
    header = "content-type" ∨ ∃ name, header = "ce-" ++ name := by
  have named {before : Dict String} (put : putAll {} (attributes e) = .ok before)
      (found : before.get? header = some value) : ∃ name, header = "ce-" ++ name := by
    rw [get?_putAll put] at found
    cases given : supplied? header (attributes e) with
    | none =>
      rw [given] at found
      cases found
    | some other =>
      obtain ⟨name, rfl⟩ := header_of_supplied given
      exact ⟨String.ofList (name.toList.map Char.toLower), headerName_eq name⟩
  obtain ⟨before, put, ⟨-, rfl⟩ | ⟨type, -, -, rfl⟩⟩ := headers_cases made
  · exact .inr (named put found)
  · rw [Dict.get?_insert] at found
    split at found
    · exact .inl ‹_›
    · exact .inr (named put found)

theorem get?_contentType {e : Event} {headers : Dict String} (made : EventHeaders.headers e = .ok headers) :
    headers.get? "content-type" = e.contentType := by
  obtain ⟨before, put, ⟨none, rfl⟩ | ⟨type, given, -, rfl⟩⟩ := headers_cases made
  · rw [get?_putAll put, none]
    cases given : supplied? "content-type" (attributes e) with
    | none => rfl
    | some other =>
      obtain ⟨name, same⟩ := header_of_supplied given
      rw [headerName_eq] at same
      exact absurd same (append_ne _)
  · rw [Dict.get?_insert, if_pos rfl, given]

/-- Whether an event can be written in headers depends on its content type only, if the names of its
attributes can be parts of headers. -/
theorem headers_ok_iff {e : Event}
    (names : ∀ entry ∈ attributes e, Http.isHeaderName ("ce-" ++ entry.1) = true) :
    (∃ headers, EventHeaders.headers e = .ok headers) ↔
      ∀ value, e.contentType = some value → Http.isHeaderValue value = true := by
  obtain ⟨before, put⟩ := (putAll_ok_iff {}).2 (List.forall_mem_map.2 names)
  simp only [EventHeaders.headers, put, bind, Except.bind]
  cases e.contentType with
  | none => simp [pure, Except.pure]
  | some value =>
    cases fits : Http.isHeaderValue value <;>
      simp [fits, pure, Except.pure, throw, throwThe, MonadExceptOf.throw]

/-- The header of an attribute. -/
theorem get?_headers {e : Event} {headers : Dict String} (made : EventHeaders.headers e = .ok headers)
    (name : String) :
    headers.get? ("ce-" ++ name) = (supplied? ("ce-" ++ name) (attributes e)).map encodeValue := by
  obtain ⟨before, put, ⟨-, rfl⟩ | ⟨value, -, -, rfl⟩⟩ := headers_cases made
  · rw [get?_putAll put]
    exact Option.or_none
  · rw [Dict.get?_insert, if_neg (append_ne name), get?_putAll put]
    exact Option.or_none

/-! ## Attributes by name -/

section

variable (e : Event)

/-- The event without its extensions. -/
def bare : Event := { e with extensions := {} }

theorem attributes_eq : attributes e = attributes (bare e) ++ e.extensions.entries := by
  have none : (bare e).extensions.entries = [] := rfl
  simp only [attributes, none, List.append_nil]
  rfl

theorem names_bare : ((attributes (bare e)).map Prod.fst).Sublist coreNames := by
  have none : (bare e).extensions.entries = [] := rfl
  simp only [attributes, none]
  cases (bare e).subject <;> cases (bare e).schema <;> simp [coreNames]

/-- The attributes of the event itself. -/
theorem get?_bare (name : String) : Entries.get? name (attributes (bare e)) = (bare e).attribute? name := by
  have none : (bare e).extensions.entries = [] := rfl
  have nothing : (bare e).extensions.get? name = .none := rfl
  simp only [attributes, none]
  unfold Event.attribute?
  split <;> cases (bare e).subject <;> cases (bare e).schema <;> simp_all [Entries.get?]

theorem attribute?_of_core {name : String} (core : name ∈ coreNames) :
    (bare e).attribute? name = e.attribute? name := by
  simp only [coreNames, List.mem_cons, List.not_mem_nil, or_false] at core
  rcases core with rfl | rfl | rfl | rfl | rfl | rfl | rfl <;> rfl

theorem attribute?_of_other {name : String} (other : name ∉ coreNames) :
    e.attribute? name = e.extensions.get? name := by
  simp only [coreNames, List.mem_cons, List.not_mem_nil, or_false, not_or] at other
  unfold Event.attribute?
  split <;> simp_all

/-- Names of the event's own attributes have a header each. -/
theorem supplied?_bare (name : String) :
    supplied? ("ce-" ++ name) (attributes (bare e)) = (bare e).attribute? name := by
  have plain : ∀ name ∈ coreNames, IsPlainName name := by decide
  have distinct : coreNames.Nodup := by decide
  rw [supplied?_of_plain (fun name mem => plain name ((names_bare e).subset mem)) ((names_bare e).nodup distinct),
    get?_bare]

variable {e} {headers : Dict String} (made : EventHeaders.headers e = .ok headers)

include made

/-- The header of an attribute of the event itself has what an extension with the same header brings, if
there is one, and else the attribute. -/
theorem get?_core {name : String} (core : name ∈ coreNames) : headers.get? ("ce-" ++ name) =
    ((supplied? ("ce-" ++ name) e.extensions.entries).or (e.attribute? name)).map encodeValue := by
  rw [get?_headers made, attributes_eq, supplied?_append, supplied?_bare, attribute?_of_core e core]

/-- If no extension is in the way, every attribute has a header for itself. -/
theorem get?_attribute (plain : ∀ name ∈ e.extensions.entries.map Prod.fst, IsPlainName name)
    (apart : ∀ name ∈ coreNames, e.extensions.get? name = none) (name : String) :
    headers.get? ("ce-" ++ name) = (e.attribute? name).map encodeValue := by
  have extension : supplied? ("ce-" ++ name) e.extensions.entries = e.extensions.get? name :=
    supplied?_of_plain plain e.extensions.ascending.nodup_names name
  by_cases core : name ∈ coreNames
  · rw [get?_core made core, extension, apart name core, Option.none_or]
  · have none : (bare e).attribute? name = .none := attribute?_of_other (bare e) core
    rw [get?_headers made, attributes_eq, supplied?_append, supplied?_bare, none, Option.or_none, extension,
      attribute?_of_other e core]

end

end EventHeaders

end BusRelay
