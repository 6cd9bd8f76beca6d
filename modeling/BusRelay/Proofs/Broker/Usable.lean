import BusRelay.Proofs.Broker.ConnectionString
import BusRelay.Proofs.Broker.SharedKey
import BusRelay.Proofs.Url.Host
import BusRelay.Session
/-!
# Usable connection strings

What makes a connection string usable is said of its text: which of its pieces assign a value to a name, and which
of these is the last (`Sets`). A text is accepted if and only if it is usable, and what is made of it has the values
that the text sets (`parse_ok_iff`, `Reads`). As its host can stand in any URL, the endpoint is the root of the host
and nothing else, and with a signature or else a key the source of tokens never falls back on an empty one
(`parse_usable`). A token that is signed says what it is for (`Reads.offline_says`).
-/

namespace BusRelay

namespace ConnectionString

/-! ## What a text sets -/

/-- A piece of a text assigns a value to a name: without the blanks around it, the name stands before its first equals
sign, in any letter case. -/
def Assigns (piece : List Char) (name value : String) : Prop :=
  ∃ label, '=' ∉ label ∧ String.ofList (label.map Char.toLower) = name ∧
    Blank.trim piece = label ++ '=' :: value.toList

/-- The last of the pieces between semicolons that assign anything to a name assigns this value. -/
def LastAssigns (s name value : String) : Prop :=
  ∃ front piece back, Fields.split ';' s.toList = front ++ piece :: back ∧ Assigns piece name value ∧
    ∀ later ∈ back, ∀ other, ¬ Assigns later name other

/-- A text sets a name to a value that is not empty. -/
def Sets (s name value : String) : Prop := LastAssigns s name value ∧ value ≠ ""

/-- A text that is a connection string. -/
structure Usable (s : String) : Prop where
  filled : ∃ c ∈ s.toList, Blank.isBlank c = false
  /-- Every piece that is not blank has an equals sign. -/
  formed : ∀ piece ∈ Fields.split ';' s.toList, (∃ c ∈ piece, Blank.isBlank c = false) → '=' ∈ piece
  /-- The endpoint is a URL with a host, and the host one for the web. -/
  reached : ∃ endpoint url host root, Sets s "endpoint" endpoint ∧ Url.parse endpoint = .ok url ∧
    url.hostText? = some host ∧ Url.parse ("https://" ++ host ++ "/") = .ok root
  /-- There is a signature, or the name of a key and the key. -/
  trusted : (∃ signature, Sets s "sharedaccesssignature" signature) ∨
    (∃ name, Sets s "sharedaccesskeyname" name) ∧ ∃ key, Sets s "sharedaccesskey" key

/-! ## Assignments -/

variable {s : String} {piece : List Char} {name value : String}

theorem assignment_ok_iff : assignment (Blank.trim piece) = .ok (name, value) ↔ Assigns piece name value := by
  unfold assignment Assigns
  constructor
  · intro made
    split at made
    · rename_i label rest split
      cases made
      obtain ⟨whole, cut⟩ := Fields.splitOnce_eq_some.1 split
      exact ⟨label, whole, rfl, by rw [cut, String.toList_ofList]⟩
    · cases made
  · rintro ⟨label, whole, rfl, cut⟩
    rw [cut, Fields.splitOnce_append whole]
    dsimp only
    rw [String.ofList_toList]

theorem assignment_ok : (∃ a, assignment (Blank.trim piece) = .ok a) ↔ '=' ∈ piece := by
  have solid : Blank.isBlank '=' = false := by decide
  rw [← Blank.mem_trim_iff solid, ← Fields.splitOnce_isSome]
  unfold assignment
  cases Fields.splitOnce '=' (Blank.trim piece) with
  | none => simp
  | some parts => simp

/-- What the pieces of a text assign, those without an equals sign left out. -/
def assigned (s : String) : List Assignment :=
  (Fields.split ';' s.toList).filterMap fun piece => (assignment (Blank.trim piece)).toOption

theorem mapM_pieces_ok_iff {as : List Assignment} : (pieces s).mapM assignment = .ok as ↔
    (∀ piece ∈ Fields.split ';' s.toList, (∃ c ∈ piece, Blank.isBlank c = false) → '=' ∈ piece) ∧
      as = assigned s := by
  have each : (∀ piece ∈ pieces s, ∃ a, assignment piece = .ok a) ↔
      ∀ piece ∈ Fields.split ';' s.toList, (∃ c ∈ piece, Blank.isBlank c = false) → '=' ∈ piece := by
    simp only [pieces, List.mem_filter, List.mem_map, decide_eq_true_eq, and_imp, forall_exists_index,
      forall_apply_eq_imp_iff₂, Blank.trim_ne_nil_iff, assignment_ok]
  have all : (pieces s).filterMap (fun piece => (assignment piece).toOption) = assigned s := by
    rw [pieces, List.filterMap_filter, List.filterMap_map, assigned]
    apply List.filterMap_congr
    intro piece _
    by_cases blank : Blank.trim piece = []
    · simp [blank, assignment, Fields.splitOnce, Except.toOption]
    · simp [blank]
  rw [mapM_ok_iff, each, all]

/-- The assignment to a name that a piece makes. -/
theorem named_eq_some {a : Assignment} :
    (assignment (Blank.trim piece)).toOption.filter (fun a => decide (a.1 = name)) = some a ↔
      a.1 = name ∧ Assigns piece name a.2 := by
  rw [Option.filter_eq_some_iff, toOption_eq_some, decide_eq_true_eq]
  constructor
  · rintro ⟨made, rfl⟩
    exact ⟨rfl, assignment_ok_iff.1 made⟩
  · rintro ⟨rfl, assigns⟩
    exact ⟨assignment_ok_iff.2 assigns, rfl⟩

theorem named_eq_none : (assignment (Blank.trim piece)).toOption.filter (fun a => decide (a.1 = name)) = none ↔
    ∀ value, ¬ Assigns piece name value := by
  rw [Option.eq_none_iff_forall_ne_some]
  constructor
  · intro none value assigns
    exact none (name, value) (named_eq_some.2 ⟨rfl, assigns⟩)
  · intro none a some
    exact none a.2 (named_eq_some.1 some).2

/-- The last assignment to a name is found from the end of the text. -/
theorem getLast?_assigned {a : Assignment} : ((assigned s).filter fun a => a.1 = name).getLast? = some a ↔
    a.1 = name ∧ LastAssigns s name a.2 := by
  rw [assigned, List.filter_filterMap, List.getLast?_eq_head?_reverse, ← List.filterMap_reverse, List.head?_filterMap,
    List.findSome?_eq_some_iff]
  simp only [named_eq_some, named_eq_none]
  constructor
  · rintro ⟨later, piece, earlier, split, ⟨same, assigns⟩, none⟩
    refine ⟨same, earlier.reverse, piece, later.reverse, ?_, assigns, ?_⟩
    case refine_2 => exact fun piece mem => none piece (List.mem_reverse.1 mem)
    rw [← List.reverse_reverse (Fields.split ';' s.toList), split, List.reverse_append, List.reverse_cons,
      List.append_assoc, List.singleton_append]
  · rintro ⟨same, front, piece, back, split, assigns, none⟩
    refine ⟨back.reverse, piece, front.reverse, ?_, ⟨same, assigns⟩, ?_⟩
    case refine_2 => exact fun piece mem => none piece (List.mem_reverse.1 mem)
    rw [split, List.reverse_append, List.reverse_cons, List.append_assoc, List.singleton_append]

/-- What is kept of the assignments to a name is what the text sets it to. -/
theorem lastValue_assigned : lastValue name (assigned s) = some value ↔ Sets s name value := by
  rw [lastValue, Option.filter_eq_some_iff, Option.map_eq_some_iff, decide_eq_true_eq]
  simp only [getLast?_assigned]
  constructor
  · rintro ⟨⟨a, ⟨-, last⟩, rfl⟩, filled⟩
    exact ⟨last, filled⟩
  · rintro ⟨last, filled⟩
    exact ⟨⟨(name, value), ⟨rfl, last⟩, rfl⟩, filled⟩

theorem lastValue_assigned_none : lastValue name (assigned s) = none ↔ ∀ value, ¬ Sets s name value := by
  simp only [Option.eq_none_iff_forall_ne_some, ne_eq, lastValue_assigned]

/-! ## Acceptance -/

theorem rootOf_ok_iff {text : String} {root : Url} : rootOf text = .ok root ↔
    ∃ url host, Url.parse text = .ok url ∧ url.hostText? = some host ∧
      Url.parse ("https://" ++ host ++ "/") = .ok root := by
  constructor
  · intro rooted
    unfold rootOf at rooted
    dsimp only at rooted
    split at rooted
    · cases rooted
    · rename_i url read
      split at rooted
      · cases rooted
      · rename_i host named
        split at rooted
        · cases rooted
        · rename_i web
          cases rooted
          exact ⟨url, host, read, named, web⟩
  · rintro ⟨url, host, read, named, web⟩
    unfold rootOf
    dsimp only
    rw [read]
    dsimp only
    rw [named]
    dsimp only
    rw [web]

/-- The endpoint of a connection string is the root of a host of the web. -/
theorem rootOf_site {text : String} {root : Url} (rooted : rootOf text = .ok root) :
    ∃ host, root = Url.site "https" host := by
  obtain ⟨url, host, read, named, web⟩ := rootOf_ok_iff.1 rooted
  rw [← String.ofList_toList (s := host), Url.parse_web (Url.isAuthority_of_hostText? read named)] at web
  obtain ⟨host, -, rfl⟩ := map_ok web
  exact ⟨host, rfl⟩

/-- What is made of the text has the values that it sets. -/
structure Reads (s : String) (c : ConnectionString) : Prop where
  endpoint : ∃ text, Sets s "endpoint" text ∧ rootOf text = .ok c.endpoint
  keyName : ∀ value, c.keyName = some value ↔ Sets s "sharedaccesskeyname" value
  key : ∀ value, c.key = some value ↔ Sets s "sharedaccesskey" value
  signature : ∀ value, c.signature = some value ↔ Sets s "sharedaccesssignature" value
  entityPath : ∀ value, c.entityPath = some value ↔ Sets s "entitypath" value
  /-- Without a signature there are a name and a key. -/
  trusted : c.signature = none → c.keyName ≠ none ∧ c.key ≠ none

variable {c : ConnectionString}

/-- Of the assignments of a text, a connection string is made if one has the values that the text sets. -/
theorem ofAssignments_assigned : ofAssignments (assigned s) = .ok c ↔ Reads s c := by
  constructor
  · intro made
    obtain ⟨text, given, rooted⟩ := ofAssignments_ok made
    generalize c.endpoint = root at rooted
    rw [ofAssignments_rooted given rooted] at made
    split at made
    · cases made
    · rename_i named
      split at made
      · cases made
      · rename_i keyed
        cases made
        constructor
        case endpoint => exact ⟨text, lastValue_assigned.1 given, rooted⟩
        case trusted => exact fun unsigned => ⟨fun nameless => named ⟨unsigned, nameless⟩,
          fun keyless => keyed ⟨unsigned, keyless⟩⟩
        all_goals exact fun value => lastValue_assigned
  · intro reads
    have same {field : Option String} {name : String} (reads : ∀ value, field = some value ↔ Sets s name value) :
        lastValue name (assigned s) = field := by
      apply Option.ext
      intro value
      rw [lastValue_assigned, reads]
    obtain ⟨text, given, rooted⟩ := reads.endpoint
    rw [ofAssignments_rooted (lastValue_assigned.2 given) rooted, same reads.keyName, same reads.key,
      same reads.signature, same reads.entityPath]
    rw [if_neg fun lacks => (reads.trusted lacks.1).1 lacks.2, if_neg fun lacks => (reads.trusted lacks.1).2 lacks.2]

theorem parse_ok_iff : parse s = .ok c ↔ (∃ c ∈ s.toList, Blank.isBlank c = false) ∧
    (∀ piece ∈ Fields.split ';' s.toList, (∃ c ∈ piece, Blank.isBlank c = false) → '=' ∈ piece) ∧ Reads s c := by
  rw [← Blank.trim_ne_nil_iff, ← ofAssignments_assigned]
  unfold parse
  split
  · rename_i empty
    constructor
    · intro made
      cases made
    · rintro ⟨filled, -⟩
      exact absurd empty filled
  · rename_i filled
    constructor
    · intro made
      obtain ⟨as, pieces, made⟩ := bind_ok made
      obtain ⟨formed, rfl⟩ := mapM_pieces_ok_iff.1 pieces
      exact ⟨filled, formed, made⟩
    · rintro ⟨-, formed, made⟩
      rw [mapM_pieces_ok_iff.2 ⟨formed, rfl⟩]
      exact made

/-- What a usable text sets makes a connection string. -/
theorem Usable.exists_reads (usable : Usable s) : ∃ c, Reads s c := by
  obtain ⟨endpoint, url, host, root, given, read, named, web⟩ := usable.reached
  refine ⟨⟨root, lastValue "sharedaccesskeyname" (assigned s), lastValue "sharedaccesskey" (assigned s),
    lastValue "sharedaccesssignature" (assigned s), lastValue "entitypath" (assigned s)⟩, ?_⟩
  constructor
  case endpoint => exact ⟨endpoint, given, rootOf_ok_iff.2 ⟨url, host, read, named, web⟩⟩
  case trusted =>
    intro unsigned
    rcases usable.trusted with ⟨signature, signed⟩ | ⟨⟨name, named⟩, key, keyed⟩
    · exact absurd signed (lastValue_assigned_none.1 unsigned signature)
    · constructor
      · exact fun nameless => lastValue_assigned_none.1 nameless name named
      · exact fun keyless => lastValue_assigned_none.1 keyless key keyed
  all_goals exact fun value => lastValue_assigned

theorem Reads.usable (reads : Reads s c) (filled : ∃ c ∈ s.toList, Blank.isBlank c = false)
    (formed : ∀ piece ∈ Fields.split ';' s.toList, (∃ c ∈ piece, Blank.isBlank c = false) → '=' ∈ piece) :
    Usable s where
  filled := filled
  formed := formed
  reached := by
    obtain ⟨text, given, rooted⟩ := reads.endpoint
    obtain ⟨url, host, read, named, web⟩ := rootOf_ok_iff.1 rooted
    exact ⟨text, url, host, c.endpoint, given, read, named, web⟩
  trusted := by
    cases signature : c.signature with
    | some signature' => exact .inl ⟨signature', (reads.signature signature').1 signature⟩
    | none =>
      obtain ⟨named, keyed⟩ := reads.trusted signature
      obtain ⟨name, is⟩ := Option.ne_none_iff_exists'.1 named
      obtain ⟨key, is'⟩ := Option.ne_none_iff_exists'.1 keyed
      exact .inr ⟨⟨name, (reads.keyName name).1 is⟩, key, (reads.key key).1 is'⟩

theorem usable_iff : (∃ c, parse s = .ok c) ↔ Usable s := by
  constructor
  · rintro ⟨c, ok⟩
    obtain ⟨filled, formed, reads⟩ := parse_ok_iff.1 ok
    exact reads.usable filled formed
  · intro usable
    obtain ⟨c, reads⟩ := usable.exists_reads
    exact ⟨c, parse_ok_iff.2 ⟨usable.filled, usable.formed, reads⟩⟩

/-! ## Tokens -/

/-- A signature is handed out as it is. -/
theorem Reads.tokens_signed (reads : Reads s c) {signature : String}
    (signed : Sets s "sharedaccesssignature" signature) : c.tokens = .ready signature := by
  rw [tokens, (reads.signature signature).2 signed]

/-- Without a signature, tokens are signed with the key. -/
theorem Reads.tokens_keyed (reads : Reads s c) (unsigned : ∀ signature, ¬ Sets s "sharedaccesssignature" signature) :
    ∃ name key, Sets s "sharedaccesskeyname" name ∧ Sets s "sharedaccesskey" key ∧ c.tokens = .key ⟨name, key⟩ := by
  have none : c.signature = none := by
    rw [Option.eq_none_iff_forall_ne_some]
    intro signature is
    exact unsigned signature ((reads.signature signature).1 is)
  obtain ⟨named, keyed⟩ := reads.trusted none
  obtain ⟨name, is⟩ := Option.ne_none_iff_exists'.1 named
  obtain ⟨key, is'⟩ := Option.ne_none_iff_exists'.1 keyed
  refine ⟨name, key, (reads.keyName name).1 is, (reads.key key).1 is', ?_⟩
  rw [tokens, none, is, is']

/-- A token that is signed says which resource it is for and that it is good for one hour, if there is no ampersand in
the name of the key. -/
theorem Reads.offline_says (reads : Reads s c) (unsigned : ∀ signature, ¬ Sets s "sharedaccesssignature" signature)
    (named : ∀ name, Sets s "sharedaccesskeyname" name → '&' ∉ name.toList) (second : Int) (uri : String) :
    ∃ name key token, Sets s "sharedaccesskeyname" name ∧ Sets s "sharedaccesskey" key ∧
      (c.tokens.offline second () uri).1 = .ok token ∧ SharedKey.Says ⟨name, key⟩ uri (second + 3600) token := by
  obtain ⟨name, key, sets, keyed, tokens⟩ := reads.tokens_keyed unsigned
  rw [tokens]
  exact ⟨name, key, _, sets, keyed, rfl, SharedKey.authorize_says ⟨name, key⟩ (named name sets) uri second⟩

/-- **An accepted connection string is usable**, and every usable text is accepted. The endpoint is the root of a host
of the web. If the text sets a signature, this is every token; if it does not, tokens are signed with the name and
the key that it sets; and no token is the empty one that there is for neither. -/
theorem parse_usable (s : String) :
    ((∃ c, parse s = .ok c) ↔ Usable s) ∧
    ∀ c, parse s = .ok c →
      (∃ host, c.endpoint = { scheme := "https", username := "", password := none, host := some host, port := none,
                              path := .segments [""], query := none, fragment := none }) ∧
      Reads s c ∧
      (∀ signature, Sets s "sharedaccesssignature" signature → c.tokens = .ready signature ∧
        ∀ second uri, (c.tokens.offline second () uri).1 = .ok signature) ∧
      ((∀ signature, ¬ Sets s "sharedaccesssignature" signature) →
        ∃ name key, Sets s "sharedaccesskeyname" name ∧ Sets s "sharedaccesskey" key ∧ c.tokens = .key ⟨name, key⟩ ∧
          ∀ second uri, (c.tokens.offline second () uri).1 = .ok (SharedKey.authorize ⟨name, key⟩ uri second)) ∧
      c.tokens ≠ .ready "" := by
  refine ⟨usable_iff, fun c ok => ?_⟩
  obtain ⟨-, -, reads⟩ := parse_ok_iff.1 ok
  have signed {signature : String} (sets : Sets s "sharedaccesssignature" signature) := reads.tokens_signed sets
  refine ⟨?_, reads, fun signature sets => ?_, fun unsigned => ?_, fun fallback => ?_⟩
  · obtain ⟨text, -, rooted⟩ := reads.endpoint
    exact rootOf_site rooted
  · rw [signed sets]
    exact ⟨rfl, fun second uri => rfl⟩
  · obtain ⟨name, key, named, keyed, tokens⟩ := reads.tokens_keyed unsigned
    rw [tokens]
    exact ⟨name, key, named, keyed, rfl, fun second uri => rfl⟩
  · by_cases unsigned : ∀ signature, ¬ Sets s "sharedaccesssignature" signature
    · obtain ⟨name, key, -, -, tokens⟩ := reads.tokens_keyed unsigned
      rw [tokens] at fallback
      cases fallback
    · simp only [not_forall, not_not] at unsigned
      obtain ⟨signature, sets⟩ := unsigned
      rw [signed sets] at fallback
      cases fallback
      exact sets.2 rfl

namespace Sample

/-- An empty signature takes the place of the one before it, and the key has an equals sign. -/
def reset : String :=
  " ENDPOINT=sb://Ns1.example/queues ;; SharedAccessSignature=sig;sharedaccesssignature=;" ++
    "SharedAccessKeyName=Root;SharedAccessKey=key="

end Sample

/-- The empty signature is none, so tokens are signed with the key. -/
theorem parse_usable_reset : Usable Sample.reset ∧ ∃ c, parse Sample.reset = .ok c ∧ Reads Sample.reset c ∧
    c.endpoint.text = "https://ns1.example/" ∧ c.tokens = .key ⟨"Root", "key="⟩ ∧ c.tokens ≠ .ready "" := by
  have made : (parse Sample.reset).toOption.map (fun c => (c.endpoint.text, c.tokens)) =
      some ("https://ns1.example/", .key ⟨"Root", "key="⟩) := by decide +kernel
  obtain ⟨c, read, written⟩ := Option.map_eq_some_iff.1 made
  obtain ⟨text, tokens⟩ := Prod.mk.inj written
  have ok := toOption_eq_some.1 read
  obtain ⟨usable, accepted⟩ := parse_usable Sample.reset
  obtain ⟨-, reads, -, -, trusted⟩ := accepted c ok
  exact ⟨usable.1 ⟨c, ok⟩, c, ok, reads, text, tokens, trusted⟩

end ConnectionString

end BusRelay
