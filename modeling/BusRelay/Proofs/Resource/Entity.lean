import BusRelay.Proofs.Resource.Grammar
import BusRelay.Resource.Entity
/-!
# Which resources are entities

A resource ID names an entity just if it is well formed and its segments are those of a queue, or of a subscription of
a topic (`exists_parse_iff`); otherwise it is told which of the two fails (`malformed_iff`, `unsupported_iff`). Names
have no slash in them, so the path of an entity tells its kind and its names (`pathText_injective`). All this is put
together in `receivable_entities`.
-/

namespace BusRelay

open ResourceId (AreKeywords IsSegment WellFormed exists_spelled keywords respelled sameLetters spelled written)

namespace ResourceId

/-- The segments are those of a queue, or of a subscription of a topic. -/
def Receivable (segments : List String) : Prop :=
  segments[5]? = some "Microsoft.ServiceBus" ∧
    (segments[8]? = some "queues" ∧ segments.length = 10 ∨
      segments[8]? = some "topics" ∧ segments[10]? = some "subscriptions")

/-- The same segments, but for the letter case of the keywords. -/
structure Recased (segments others : List String) : Prop where
  length : others.length = segments.length
  keyword : ∀ k ∈ keywords, ∀ s t, segments[k.1]? = some s → others[k.1]? = some t → sameLetters t s = true
  other : ∀ place, (∀ k ∈ keywords, place ≠ k.1) → others[place]? = segments[place]?

section

variable {id : ResourceId} {kind : EntityKind} {k₁ k₂ k₃ k₄ : String} {segments others : List String}

/-- What kind of entity a resource is. -/
theorem entityKind?_eq_some_iff : id.entityKind? = some kind ↔ id.provider = "Microsoft.ServiceBus" ∧
    (id.kind = "queues" ∧ id.child = none ∧ kind = .queue id.name ∨
      id.kind = "topics" ∧ ∃ name, id.child = some ("subscriptions", name) ∧ kind = .subscription id.name name) := by
  constructor
  · intro is
    unfold entityKind? at is
    split at is
    · rename_i provider
      refine ⟨provider, ?_⟩
      split at is
      · rename_i childless
        split at is
        · rename_i queues
          cases is
          exact .inl ⟨queues, childless, rfl⟩
        · cases is
      · rename_i child name childed
        split at is
        · rename_i topics
          cases is
          exact .inr ⟨topics.1, name, topics.2 ▸ childed, rfl⟩
        · cases is
    · cases is
  · rintro ⟨provider, ⟨queues, childless, rfl⟩ | ⟨topics, name, childed, rfl⟩⟩
    · unfold entityKind?
      rw [if_pos provider, childless]
      exact if_pos queues
    · unfold entityKind?
      rw [if_pos provider, childed]
      exact if_pos ⟨topics, rfl⟩

/-- A resource is an entity if its segments say so. -/
theorem receivable_spelled : Receivable (spelled k₁ k₂ k₃ k₄ id) ↔ ∃ kind, id.entityKind? = some kind := by
  have provider : (spelled k₁ k₂ k₃ k₄ id)[5]? = some id.provider := rfl
  have type : (spelled k₁ k₂ k₃ k₄ id)[8]? = some id.kind := rfl
  rw [Receivable, provider, type, Option.some_inj, Option.some_inj, Option.some_inj]
  simp only [entityKind?_eq_some_iff]
  constructor
  · rintro ⟨provider, ⟨queues, ten⟩ | ⟨topics, child⟩⟩
    · cases childed : id.child with
      | none => exact ⟨.queue id.name, provider, .inl ⟨queues, rfl, rfl⟩⟩
      | some child =>
        rw [spelled, childed] at ten
        cases ten
    · cases childed : id.child with
      | none =>
        rw [spelled, childed] at child
        cases child
      | some own =>
        obtain ⟨kind, name⟩ := own
        rw [spelled, childed] at child
        cases child
        exact ⟨.subscription id.name name, provider, .inr ⟨topics, name, rfl, rfl⟩⟩
  · rintro ⟨kind, provider, ⟨queues, childless, -⟩ | ⟨topics, name, childed, -⟩⟩
    · refine ⟨provider, .inl ⟨queues, ?_⟩⟩
      rw [spelled, childless]
      rfl
    · refine ⟨provider, .inr ⟨topics, ?_⟩⟩
      rw [spelled, childed]
      rfl

theorem sameLetters_trans {a b c : String} (first : sameLetters a b = true) (second : sameLetters b c = true) :
    sameLetters a c = true :=
  decide_eq_true ((of_decide_eq_true first).trans (of_decide_eq_true second))

theorem sameLetters_symm {a b : String} (same : sameLetters a b = true) : sameLetters b a = true :=
  decide_eq_true (of_decide_eq_true same).symm

/-- The segments of a resource are the same for all letter cases of the keywords, but for these. -/
theorem recased_spelled {l₁ l₂ l₃ l₄ : String} (are : AreKeywords k₁ k₂ k₃ k₄) (are' : AreKeywords l₁ l₂ l₃ l₄) :
    Recased (spelled k₁ k₂ k₃ k₄ id) (spelled l₁ l₂ l₃ l₄ id) := by
  constructor
  · rfl
  · intro k mem s t here there
    simp only [keywords, List.mem_cons, List.not_mem_nil, or_false] at mem
    rcases mem with rfl | rfl | rfl | rfl
    · cases here
      cases there
      exact sameLetters_trans are'.subscriptions (sameLetters_symm are.subscriptions)
    · cases here
      cases there
      exact sameLetters_trans are'.resourceGroups (sameLetters_symm are.resourceGroups)
    · cases here
      cases there
      exact sameLetters_trans are'.providers (sameLetters_symm are.providers)
    · cases here
      cases there
      exact sameLetters_trans are'.namespaces (sameLetters_symm are.namespaces)
  · intro place plain
    rcases place with _ | _ | _ | _ | _ | _ | _ | place
    · exact absurd rfl (plain (0, "subscriptions") (by decide))
    · rfl
    · exact absurd rfl (plain (2, "resourceGroups") (by decide))
    · rfl
    · exact absurd rfl (plain (4, "providers") (by decide))
    · rfl
    · exact absurd rfl (plain (6, "namespaces") (by decide))
    · rfl

/-- Segments that are the same but for the letter case of the keywords name the same resource. -/
theorem Recased.exists_spelled (recased : Recased (spelled k₁ k₂ k₃ k₄ id) others)
    (are : AreKeywords k₁ k₂ k₃ k₄) :
    ∃ l₁ l₂ l₃ l₄, AreKeywords l₁ l₂ l₃ l₄ ∧ others = spelled l₁ l₂ l₃ l₄ id := by
  have count : others.length = 10 ∨ others.length = 12 := by
    rw [recased.length]
    exact length_spelled
  obtain ⟨l₁, l₂, l₃, l₄, other, rfl⟩ := ResourceId.exists_spelled count
  refine ⟨l₁, l₂, l₃, l₄, ⟨?_, ?_, ?_, ?_⟩, ?_⟩
  · exact sameLetters_trans (recased.keyword (0, "subscriptions") (by decide) _ _ rfl rfl) are.subscriptions
  · exact sameLetters_trans (recased.keyword (2, "resourceGroups") (by decide) _ _ rfl rfl) are.resourceGroups
  · exact sameLetters_trans (recased.keyword (4, "providers") (by decide) _ _ rfl rfl) are.providers
  · exact sameLetters_trans (recased.keyword (6, "namespaces") (by decide) _ _ rfl rfl) are.namespaces
  · have same : other = id := by
      obtain ⟨subscription, group, provider, space, kind, name, child⟩ := id
      obtain ⟨subscription', group', provider', space', kind', name', child'⟩ := other
      obtain rfl : subscription' = subscription := Option.some.inj (recased.other 1 (by decide))
      obtain rfl : group' = group := Option.some.inj (recased.other 3 (by decide))
      obtain rfl : provider' = provider := Option.some.inj (recased.other 5 (by decide))
      obtain rfl : space' = space := Option.some.inj (recased.other 7 (by decide))
      obtain rfl : kind' = kind := Option.some.inj (recased.other 8 (by decide))
      obtain rfl : name' = name := Option.some.inj (recased.other 9 (by decide))
      have childKind := recased.other 10 (by decide)
      have childName := recased.other 11 (by decide)
      rcases child with _ | ⟨_, _⟩ <;> rcases child' with _ | ⟨_, _⟩
      · rfl
      · cases childKind
      · cases childKind
      · cases childKind
        cases childName
        rfl
    rw [same]

end

end ResourceId

/-! ## Names along a path -/

namespace EntityKind

variable {kind other : EntityKind}

/-- The segments of the path of an entity. -/
def steps : EntityKind → List String
  | queue name => [name]
  | subscription topic name => [topic, "Subscriptions", name]

/-- Each name can be a segment. -/
def Proper (kind : EntityKind) : Prop := ∀ s ∈ kind.steps, IsSegment s

/-- The path of an entity is cut at its slashes into its segments. -/
theorem split_pathText (proper : kind.Proper) :
    Fields.split '/' kind.pathText.toList = kind.steps.map String.toList := by
  have path : kind.pathText.toList = Fields.join '/' (kind.steps.map String.toList) := by
    cases kind with
    | queue name => rfl
    | subscription topic name =>
      have middle : "/Subscriptions/".toList = '/' :: ("Subscriptions".toList ++ ['/']) := by decide
      simp [pathText, steps, Fields.join, middle]
  have ne : kind.steps.map String.toList ≠ [] := by
    cases kind with
    | queue name => exact List.cons_ne_nil _ _
    | subscription topic name => exact List.cons_ne_nil _ _
  rw [path]
  refine Fields.split_join ne fun field mem => ?_
  obtain ⟨s, among, rfl⟩ := List.mem_map.1 mem
  exact (proper s among).2

/-- The path of an entity tells its kind and its names. -/
theorem pathText_injective (proper : kind.Proper) (proper' : other.Proper)
    (same : kind.pathText = other.pathText) : kind = other := by
  have cut : kind.steps.map String.toList = other.steps.map String.toList := by
    rw [← split_pathText proper, ← split_pathText proper', same]
  have steps : kind.steps = other.steps := List.map_injective_iff.2 (fun _ _ => String.toList_inj.1) cut
  cases kind with
  | queue name =>
    cases other with
    | queue name' =>
      cases steps
      rfl
    | subscription topic name' => cases steps
  | subscription topic name =>
    cases other with
    | queue name' => cases steps
    | subscription topic' name' =>
      cases steps
      rfl

theorem pathText_ne (proper : kind.Proper) : kind.pathText ≠ "" := by
  intro empty
  have cut := split_pathText proper
  rw [empty] at cut
  cases kind with
  | queue name =>
    have none : [] = name.toList := (List.cons.inj cut).1
    exact (proper name List.mem_cons_self).1 (String.toList_inj.1 none.symm)
  | subscription topic name => cases (List.cons.inj cut).2

end EntityKind

theorem ResourceId.proper_of_entityKind? {id : ResourceId} {kind : EntityKind} (proper : id.Proper)
    (is : id.entityKind? = some kind) : kind.Proper := by
  obtain ⟨-, ⟨-, -, rfl⟩ | ⟨-, name, child, rfl⟩⟩ := entityKind?_eq_some_iff.1 is
  · intro s mem
    obtain rfl := List.mem_singleton.1 mem
    exact proper _ (by simp [fields])
  · intro s mem
    simp only [EntityKind.steps, List.mem_cons, List.not_mem_nil, or_false] at mem
    rcases mem with rfl | rfl | rfl
    · exact proper _ (by simp [fields])
    · decide
    · exact proper _ (by simp [fields, child])

/-! ## Reading -/

namespace Entity

variable {raw : String} {e : Entity}

/-- The segments of a resource name an entity, which has this path. -/
inductive NamedBy (segments : List String) : EntityKind → String → Prop where
  | queue {name : String} (type : segments[8]? = some "queues") (named : segments[9]? = some name) :
      NamedBy segments (.queue name) name
  | subscription {topic name : String} (type : segments[8]? = some "topics") (named : segments[9]? = some topic)
      (child : segments[11]? = some name) :
      NamedBy segments (.subscription topic name) (topic ++ "/Subscriptions/" ++ name)

/-- A text is refused because it is no resource ID, or because the resource is no entity, or it is read. -/
theorem parse_cases (raw : String) :
    (∃ fault, (∀ id, ResourceId.parse raw ≠ .ok id) ∧ parse raw = .error (.malformedResource raw fault)) ∨
    (∃ id, ResourceId.parse raw = .ok id ∧ id.entityKind? = none ∧
      parse raw = .error (.unsupportedEntity raw)) ∨
    ∃ e : Entity, ResourceId.parse raw = .ok e.resource ∧ e.resource.entityKind? = some e.kind ∧ e.raw = raw ∧
      parse raw = .ok e := by
  unfold parse
  cases named : ResourceId.parse raw with
  | error fault =>
    have malformed : ∃ why, fault = .malformedResource raw why := by
      unfold ResourceId.parse at named
      split at named
      · cases named
      · rename_i why _
        cases named
        exact ⟨why, rfl⟩
    obtain ⟨why, rfl⟩ := malformed
    exact .inl ⟨why, nofun, rfl⟩
  | ok id =>
    refine .inr ?_
    cases is : id.entityKind? with
    | none =>
      refine .inl ⟨id, rfl, is, ?_⟩
      dsimp only [bind, Except.bind]
      rw [is]
      rfl
    | some kind =>
      have filled : kind.pathText ≠ "" :=
        EntityKind.pathText_ne (ResourceId.proper_of_entityKind? (ResourceId.parse_ok_iff.1 named).1 is)
      refine .inr ⟨⟨raw, id, kind, ⟨kind.pathText, filled⟩, rfl⟩, rfl, is, rfl, ?_⟩
      dsimp only [bind, Except.bind]
      rw [is, Option.bind_some, ofKind?, dif_pos filled]
      rfl

/-- What is read is the entity that the resource is. -/
theorem parse_ok (ok : parse raw = .ok e) :
    ResourceId.parse raw = .ok e.resource ∧ e.resource.entityKind? = some e.kind ∧ e.raw = raw := by
  rcases parse_cases raw with ⟨fault, -, refused⟩ | ⟨id, -, -, refused⟩ | ⟨other, named, is, given, read⟩
  · rw [refused] at ok
    cases ok
  · rw [refused] at ok
    cases ok
  · rw [read] at ok
    cases ok
    exact ⟨named, is, given⟩

/-- The text of a resource is read if the resource is an entity, and else refused. -/
theorem parse_named {id : ResourceId} (named : ResourceId.parse raw = .ok id) :
    (∃ kind e, id.entityKind? = some kind ∧ parse raw = .ok e) ∨
      id.entityKind? = none ∧ parse raw = .error (.unsupportedEntity raw) := by
  rcases parse_cases raw with ⟨_, unnamed, -⟩ | ⟨other, same, isNot, refused⟩ | ⟨e, same, is, -, read⟩
  · exact absurd named (unnamed id)
  · obtain rfl : id = other := Except.ok.inj (named.symm.trans same)
    exact .inr ⟨isNot, refused⟩
  · obtain rfl : id = e.resource := Except.ok.inj (named.symm.trans same)
    exact .inl ⟨e.kind, e, is, read⟩

/-! ## Which texts are read -/

/-- A text is read just if it is the segments of a queue, or of a subscription of a topic. -/
theorem exists_parse_iff : (∃ e, parse raw = .ok e) ↔
    ∃ segments, WellFormed segments ∧ raw = written segments ∧ ResourceId.Receivable segments := by
  constructor
  · rintro ⟨e, ok⟩
    obtain ⟨named, is, -⟩ := parse_ok ok
    obtain ⟨proper, k₁, k₂, k₃, k₄, are, text⟩ := ResourceId.parse_ok_iff.1 named
    exact ⟨_, ResourceId.wellFormed_spelled.2 ⟨are, proper⟩, text, ResourceId.receivable_spelled.2 ⟨e.kind, is⟩⟩
  · rintro ⟨segments, well, text, receivable⟩
    obtain ⟨k₁, k₂, k₃, k₄, id, rfl, are, proper⟩ := well.exists_spelled
    obtain ⟨kind, is⟩ := ResourceId.receivable_spelled.1 receivable
    rcases parse_named (ResourceId.parse_ok_iff.2 ⟨proper, k₁, k₂, k₃, k₄, are, text⟩) with
      ⟨_, e, -, read⟩ | ⟨isNot, -⟩
    · exact ⟨e, read⟩
    · rw [is] at isNot
      cases isNot

/-- A text is malformed just if it is not the segments of a resource ID. -/
theorem malformed_iff : (∃ fault, parse raw = .error (.malformedResource raw fault)) ↔
    ¬ ∃ segments, WellFormed segments ∧ raw = written segments := by
  rw [← ResourceId.exists_parse_iff]
  constructor
  · rintro ⟨fault, refused⟩ ⟨id, named⟩
    rcases parse_named named with ⟨_, e, -, read⟩ | ⟨-, other⟩
    · rw [refused] at read
      cases read
    · rw [refused] at other
      cases other
  · intro unnamed
    rcases parse_cases raw with ⟨fault, -, refused⟩ | ⟨id, named, -⟩ | ⟨e, named, -⟩
    · exact ⟨fault, refused⟩
    · exact absurd ⟨id, named⟩ unnamed
    · exact absurd ⟨e.resource, named⟩ unnamed

/-- A text is unsupported just if it is the segments of a resource ID that is no entity. -/
theorem unsupported_iff : parse raw = .error (.unsupportedEntity raw) ↔
    ∃ segments, WellFormed segments ∧ raw = written segments ∧ ¬ ResourceId.Receivable segments := by
  constructor
  · intro refused
    rcases parse_cases raw with ⟨_, -, other⟩ | ⟨id, named, isNot, -⟩ | ⟨_, -, -, -, read⟩
    · rw [refused] at other
      cases other
    · obtain ⟨proper, k₁, k₂, k₃, k₄, are, text⟩ := ResourceId.parse_ok_iff.1 named
      refine ⟨_, ResourceId.wellFormed_spelled.2 ⟨are, proper⟩, text, fun receivable => ?_⟩
      obtain ⟨kind, is⟩ := ResourceId.receivable_spelled.1 receivable
      rw [is] at isNot
      cases isNot
    · rw [refused] at read
      cases read
  · rintro ⟨segments, well, text, unreceivable⟩
    obtain ⟨k₁, k₂, k₃, k₄, id, rfl, are, proper⟩ := well.exists_spelled
    rcases parse_named (ResourceId.parse_ok_iff.2 ⟨proper, k₁, k₂, k₃, k₄, are, text⟩) with
      ⟨kind, _, is, -⟩ | ⟨-, refused⟩
    · exact absurd (ResourceId.receivable_spelled.2 ⟨kind, is⟩) unreceivable
    · exact refused

/-! ## What is read -/

theorem proper_of_parse (ok : parse raw = .ok e) : e.kind.Proper := by
  obtain ⟨named, is, -⟩ := parse_ok ok
  exact ResourceId.proper_of_entityKind? (ResourceId.parse_ok_iff.1 named).1 is

/-- The segments of the resource name the entity. -/
theorem namedBy_spelled {k₁ k₂ k₃ k₄ : String} (is : e.resource.entityKind? = some e.kind) :
    NamedBy (spelled k₁ k₂ k₃ k₄ e.resource) e.kind e.path.text := by
  rw [e.path_eq]
  obtain ⟨-, ⟨queues, -, kind⟩ | ⟨topics, name, child, kind⟩⟩ := ResourceId.entityKind?_eq_some_iff.1 is
  · rw [kind]
    exact .queue (congrArg some queues) rfl
  · rw [kind]
    refine .subscription (congrArg some topics) rfl ?_
    rw [spelled, child]
    rfl

/-- An entity has the namespace, the names and the path that the segments of its text tell. -/
theorem parse_segments (ok : parse raw = .ok e) : ∃ segments, WellFormed segments ∧ raw = written segments ∧
    segments[7]? = some e.space ∧ NamedBy segments e.kind e.path.text := by
  obtain ⟨named, is, -⟩ := parse_ok ok
  obtain ⟨proper, k₁, k₂, k₃, k₄, are, text⟩ := ResourceId.parse_ok_iff.1 named
  exact ⟨_, ResourceId.wellFormed_spelled.2 ⟨are, proper⟩, text, rfl, namedBy_spelled is⟩

/-- Entities of the same path are of the same kind and have the same names. -/
theorem kind_of_path {raw' : String} {e' : Entity} (ok : parse raw = .ok e) (ok' : parse raw' = .ok e')
    (path : e.path = e'.path) : e.kind = e'.kind := by
  apply EntityKind.pathText_injective (proper_of_parse ok) (proper_of_parse ok')
  rw [← e.path_eq, ← e'.path_eq, path]

/-- Another letter case of the keywords names the same entity. -/
theorem parse_recased {segments others : List String} (well : WellFormed segments)
    (recased : ResourceId.Recased segments others) (ok : parse (written segments) = .ok e) :
    ∃ e', parse (written others) = .ok e' ∧ e'.kind = e.kind ∧ e'.space = e.space ∧ e'.path = e.path := by
  obtain ⟨named, is, -⟩ := parse_ok ok
  obtain ⟨k₁, k₂, k₃, k₄, id, rfl, are, proper⟩ := well.exists_spelled
  have same : ResourceId.parse (written (spelled k₁ k₂ k₃ k₄ id)) = .ok id :=
    ResourceId.parse_ok_iff.2 ⟨proper, k₁, k₂, k₃, k₄, are, rfl⟩
  obtain rfl : id = e.resource := Except.ok.inj (same.symm.trans named)
  obtain ⟨l₁, l₂, l₃, l₄, are', rfl⟩ := recased.exists_spelled are
  rcases parse_named (ResourceId.parse_ok_iff.2 ⟨proper, l₁, l₂, l₃, l₄, are', rfl⟩) with
    ⟨_, e', -, read⟩ | ⟨isNot, -⟩
  · obtain ⟨named', is', -⟩ := parse_ok read
    have resource : e'.resource = e.resource := by
      have other := (ResourceId.parse_ok_iff (s := written (spelled l₁ l₂ l₃ l₄ e.resource))).2
        ⟨proper, l₁, l₂, l₃, l₄, are', rfl⟩
      exact Except.ok.inj (named'.symm.trans other)
    have kind : e'.kind = e.kind := Option.some.inj (by rw [← is', resource, is])
    refine ⟨e', read, kind, congrArg ResourceId.space resource, Identifier.ext ?_⟩
    rw [e'.path_eq, e.path_eq, kind]
  · rw [is] at isNot
    cases isNot

/-- **Which texts name entities.** A text names an entity just if it is the segments of a resource ID and these are
those of a queue, or of a subscription of a topic. It is refused as malformed just if it is not the segments of a
resource ID, and as unsupported just if it is those of anything else. An entity keeps its text, and has the namespace,
the names and the path that its segments tell. Entities of the same path are of the same kind and have the same
names. Another letter case of the keywords changes neither kind nor namespace nor path. -/
theorem receivable_entities :
    (∀ raw, (∃ e, parse raw = .ok e) ↔
      ∃ segments, WellFormed segments ∧ raw = written segments ∧ ResourceId.Receivable segments) ∧
    (∀ raw, (∃ fault, parse raw = .error (.malformedResource raw fault)) ↔
      ¬ ∃ segments, WellFormed segments ∧ raw = written segments) ∧
    (∀ raw, parse raw = .error (.unsupportedEntity raw) ↔
      ∃ segments, WellFormed segments ∧ raw = written segments ∧ ¬ ResourceId.Receivable segments) ∧
    (∀ raw e, parse raw = .ok e → e.raw = raw ∧ ∃ segments, WellFormed segments ∧ raw = written segments ∧
      segments[7]? = some e.space ∧ NamedBy segments e.kind e.path.text) ∧
    (∀ raw raw' e e', parse raw = .ok e → parse raw' = .ok e' → e.path = e'.path → e.kind = e'.kind) ∧
    (∀ segments others, WellFormed segments → ResourceId.Recased segments others →
      ∀ e, parse (written segments) = .ok e → ∃ e', parse (written others) = .ok e' ∧ e'.kind = e.kind ∧
        e'.space = e.space ∧ e'.path = e.path) := by
  refine ⟨fun _ => exists_parse_iff, fun _ => malformed_iff, fun _ => unsupported_iff, ?_, ?_, ?_⟩
  · intro raw e ok
    exact ⟨(parse_ok ok).2.2, parse_segments ok⟩
  · intro raw raw' e e' ok ok' path
    exact kind_of_path ok ok' path
  · intro segments others well recased e ok
    exact parse_recased well recased ok

/-- A subscription of a topic is the same entity for both letter cases of the keywords, and a topic is none. -/
theorem receivable_entities_topic :
    ∃ e e', parse (written ResourceId.Sample.resource.segments) = .ok e ∧
      parse (written ResourceId.Sample.segments) = .ok e' ∧ e'.raw = written ResourceId.Sample.segments ∧
      e.path.text = "t 1/Subscriptions/é" ∧ e'.space = e.space ∧ e'.path = e.path ∧ e.kind = e'.kind ∧
      parse (written { ResourceId.Sample.resource with child := none }.segments) = .error (.unsupportedEntity
        (written { ResourceId.Sample.resource with child := none }.segments)) := by
  have are : AreKeywords "SUBSCRIPTIONS" "resourcegroups" "Providers" "nameSpaces" :=
    ⟨by decide, by decide, by decide, by decide⟩
  have well : WellFormed ResourceId.Sample.resource.segments :=
    ResourceId.wellFormed_spelled.2 ⟨.written, by decide⟩
  obtain ⟨accepted, -, refused, told, apart, recased⟩ := receivable_entities
  obtain ⟨e, ok⟩ := (accepted _).2 ⟨_, well, rfl, by unfold ResourceId.Receivable; decide⟩
  obtain ⟨e', ok', -, space, path⟩ := recased _ _ well (ResourceId.recased_spelled .written are) e ok
  have place : (parse (written ResourceId.Sample.resource.segments)).toOption.map (fun e => e.path.text) =
      some "t 1/Subscriptions/é" := by
    decide +kernel
  rw [ok] at place
  refine ⟨e, e', ok, ok', (told _ _ ok').1, Option.some.inj place, space, path,
    apart _ _ _ _ ok ok' path.symm, (refused _).2 ⟨_, ?_, rfl, by unfold ResourceId.Receivable; decide⟩⟩
  exact ResourceId.wellFormed_spelled.2 ⟨.written, by decide⟩

end Entity

end BusRelay
