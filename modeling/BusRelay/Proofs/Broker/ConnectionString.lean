import BusRelay.Broker.ConnectionString
import BusRelay.Proofs.Except
import BusRelay.Proofs.List
import BusRelay.Proofs.Text.Ascii
import BusRelay.Proofs.Text.Blank
import BusRelay.Proofs.Text.Fields
/-!
# Connection strings in pieces

The pieces of a text that is put together are those of its parts (`piecesOf_append`), and a part `Name=value`
comes to an assignment of that name and the pieces that the value brings behind a semicolon (`IsLabel.piecesOf`).
So the connection string of a key assigns an endpoint, a name, a key and a path, and whatever one of these
brings besides (`pieces_compose`).
-/

namespace BusRelay

namespace ConnectionString

/-! ## Pieces -/

/-- The pieces of characters that are not blank. -/
def piecesOf (s : List Char) : List (List Char) :=
  ((Fields.split ';' s).map Blank.trim).filter (· ≠ [])

theorem pieces_eq (s : String) : pieces s = piecesOf s.toList := rfl

theorem piecesOf_append (front back : List Char) :
    piecesOf (front ++ ';' :: back) = piecesOf front ++ piecesOf back := by
  unfold piecesOf
  rw [Fields.split_append, List.map_append, List.filter_append]

/-- What of a value belongs to the assignment that it is put in. -/
def lead (value : List Char) : List Char := Blank.trimEnd ((Fields.split ';' value).headD [])

/-- The pieces that a value brings behind its first semicolon. -/
def behind (value : List Char) : List (List Char) :=
  ((Fields.split ';' value).tail.map Blank.trim).filter (· ≠ [])

theorem behind_of_not_mem {value : List Char} (whole : ';' ∉ value) : behind value = [] := by
  unfold behind
  rw [Fields.split_of_not_mem whole]
  rfl

/-- A name that an assignment can start with. -/
structure IsLabel (label : List Char) : Prop where
  starts : ∀ c ∈ label.head?, Blank.isBlank c = false
  plain : ∀ c ∈ label, c ≠ '=' ∧ c ≠ ';'

theorem letter_plain {c : Char} (letter : c.isAlpha = true) : Blank.isBlank c = false ∧ c ≠ '=' ∧ c ≠ ';' :=
  forall_ascii (p := fun c => c.isAlpha = true → Blank.isBlank c = false ∧ c ≠ '=' ∧ c ≠ ';')
    (by decide +kernel) (ascii_of_isAlpha letter) letter

/-- A word is a name. -/
theorem isLabel_of_letters {label : List Char} (letters : ∀ c ∈ label, c.isAlpha = true) : IsLabel label where
  starts := fun c mem => (letter_plain (letters c (List.mem_of_mem_head? mem))).1
  plain := fun c mem => (letter_plain (letters c mem)).2

namespace IsLabel

variable {label : List Char}

theorem trim (h : IsLabel label) (value : List Char) :
    Blank.trim (label ++ '=' :: value) = label ++ '=' :: Blank.trimEnd value := by
  have equals : Blank.isBlank '=' = false := by decide
  cases label with
  | nil => exact Blank.trim_cons equals value
  | cons c label =>
    rw [List.cons_append, Blank.trim_cons (h.starts c rfl), Blank.trimEnd_append equals]
    rfl

/-- A name and a value come to one piece, and to those that the value brings besides. -/
theorem piecesOf (h : IsLabel label) (value : List Char) :
    piecesOf (label ++ '=' :: value) = (label ++ '=' :: lead value) :: behind value := by
  have whole : ';' ∉ label ++ ['='] := by
    intro mem
    rcases List.mem_append.1 mem with inside | last
    · exact (h.plain ';' inside).2 rfl
    · exact absurd (List.mem_singleton.1 last) (by decide)
  obtain ⟨field, fields, cut⟩ := List.exists_cons_of_ne_nil (Fields.split_ne_nil ';' value)
  have split : Fields.split ';' (label ++ '=' :: value) = (label ++ '=' :: field) :: fields := by
    have glued := Fields.split_glue whole cut
    rwa [List.append_assoc, List.append_assoc, List.singleton_append, List.singleton_append] at glued
  unfold ConnectionString.piecesOf lead behind
  rw [split, cut, List.map_cons, h.trim, List.filter_cons_of_pos (by simp)]
  rfl

theorem assignment (h : IsLabel label) (value : List Char) : assignment (label ++ '=' :: value) =
    .ok (String.ofList (label.map Char.toLower), String.ofList value) := by
  have whole : '=' ∉ label := fun mem => (h.plain '=' mem).1 rfl
  unfold ConnectionString.assignment
  rw [Fields.splitOnce_append whole]

end IsLabel

/-! ## The connection string of a key -/

/-- What the connection string of a key says of the endpoint. -/
def endpointText (space : String) : List Char :=
  "sb://".toList ++ (space.toList ++ '.' :: (domain.toList ++ ['/']))

theorem isLabel_endpoint : IsLabel "Endpoint".toList :=
  isLabel_of_letters (forall_mem_of_all (by decide))

theorem isLabel_keyName : IsLabel "SharedAccessKeyName".toList :=
  isLabel_of_letters (forall_mem_of_all (by decide))

theorem isLabel_key : IsLabel "SharedAccessKey".toList :=
  isLabel_of_letters (forall_mem_of_all (by decide))

theorem isLabel_path : IsLabel "EntityPath".toList :=
  isLabel_of_letters (forall_mem_of_all (by decide))

theorem compose_eq (space path keyName key : String) : compose space path keyName key =
    "Endpoint" ++ "=" ++ "sb://" ++ space ++ "." ++ domain ++ "/" ++ ";" ++
      "SharedAccessKeyName" ++ "=" ++ keyName ++ ";" ++ "SharedAccessKey" ++ "=" ++ key ++ ";" ++
      "EntityPath" ++ "=" ++ path := by
  have endpoint : "Endpoint=sb://" = "Endpoint" ++ "=" ++ "sb://" := by decide
  have name : "/;SharedAccessKeyName=" = "/" ++ ";" ++ "SharedAccessKeyName" ++ "=" := by decide
  have value : ";SharedAccessKey=" = ";" ++ "SharedAccessKey" ++ "=" := by decide
  have place : "EntityPath=" = "EntityPath" ++ "=" := by decide
  have written : compose space path keyName key = "Endpoint=sb://" ++ space ++ "." ++ domain ++
      "/;SharedAccessKeyName=" ++ keyName ++ ";SharedAccessKey=" ++ key ++ ";" ++ ("EntityPath=" ++ path) := rfl
  rw [written, endpoint, name, value, place]
  simp only [String.append_assoc]

theorem toList_compose (space path keyName key : String) : (compose space path keyName key).toList =
    ("Endpoint".toList ++ '=' :: endpointText space) ++ ';' ::
      (("SharedAccessKeyName".toList ++ '=' :: keyName.toList) ++ ';' ::
        (("SharedAccessKey".toList ++ '=' :: key.toList) ++ ';' ::
          ("EntityPath".toList ++ '=' :: path.toList))) := by
  have equals : "=".toList = ['='] := rfl
  have semicolon : ";".toList = [';'] := rfl
  have dot : ".".toList = ['.'] := rfl
  have slash : "/".toList = ['/'] := rfl
  unfold endpointText
  rw [compose_eq]
  simp only [String.toList_append, equals, semicolon, dot, slash, List.append_assoc, List.cons_append,
    List.nil_append]

/-- The connection string of a key assigns an endpoint, a name, a key and a path, and whatever these bring
behind a semicolon. -/
theorem pieces_compose (space path keyName key : String) : pieces (compose space path keyName key) =
    ("Endpoint".toList ++ '=' :: lead (endpointText space)) :: (behind (endpointText space) ++
      ("SharedAccessKeyName".toList ++ '=' :: lead keyName.toList) :: (behind keyName.toList ++
        ("SharedAccessKey".toList ++ '=' :: lead key.toList) :: (behind key.toList ++
          ("EntityPath".toList ++ '=' :: lead path.toList) :: behind path.toList))) := by
  rw [pieces_eq, toList_compose, piecesOf_append, piecesOf_append, piecesOf_append, isLabel_endpoint.piecesOf,
    isLabel_keyName.piecesOf, isLabel_key.piecesOf, isLabel_path.piecesOf]
  rfl

/-- The connection string of a key is not empty. -/
theorem parse_compose (space path keyName key : String) : parse (compose space path keyName key) =
    (pieces (compose space path keyName key)).mapM assignment >>= ofAssignments := by
  have solid : Blank.isBlank 'E' = false := by decide
  have first : (compose space path keyName key).toList =
      'E' :: (compose space path keyName key).toList.tail := by
    rw [toList_compose]
    rfl
  have more : Blank.trim (compose space path keyName key).toList ≠ [] := by
    rw [first, Blank.trim_cons solid]
    exact List.cons_ne_nil _ _
  unfold parse
  rw [if_neg more]

/-! ## What assignments come to -/

/-- What is assigned to one name makes no difference to another. -/
theorem lastValue_other {name other : String} (apart : other ≠ name) (value : String)
    (front back : List Assignment) :
    lastValue name (front ++ (other, value) :: back) = lastValue name (front ++ back) := by
  unfold lastValue
  rw [List.filter_append, List.filter_cons_of_neg (by simpa using apart), ← List.filter_append]

/-- The only value that is assigned to a name is the last one. -/
theorem lastValue_only {name value : String} (more : value ≠ "") {others : List Assignment}
    (apart : ∀ a ∈ others, a.1 ≠ name) : lastValue name ((name, value) :: others) = some value := by
  have none : others.filter (fun a => a.1 = name) = [] :=
    List.filter_eq_nil_iff.2 fun a mem => by simpa using apart a mem
  unfold lastValue
  rw [List.filter_cons_of_pos (by simp), none]
  simp [more]

/-- What is said of assignments that are no connection string: the first thing that is missing. The key is
the last. -/
def faultOf (endpoint? keyName? : Option String) : ConnectionFault :=
  match endpoint? with
  | none => .missing "Endpoint"
  | some text => match rootOf text, keyName? with
    | .error fault, _ => fault
    | .ok _, none => .missing "SharedAccessKeyName"
    | .ok _, some _ => .missing "SharedAccessKey"

theorem ofAssignments_endless {as : List Assignment} (missing : lastValue "endpoint" as = none) :
    ofAssignments as = .error (.missing "Endpoint") := by
  unfold ofAssignments
  dsimp only
  rw [missing]
  rfl

theorem ofAssignments_rootless {as : List Assignment} {text : String} {fault : ConnectionFault}
    (given : lastValue "endpoint" as = some text) (refused : rootOf text = .error fault) :
    ofAssignments as = .error fault := by
  unfold ofAssignments
  dsimp only
  rw [given]
  dsimp only
  rw [refused]
  rfl

/-- With an endpoint, a signature is enough, or a name and a key. -/
theorem ofAssignments_rooted {as : List Assignment} {text : String} {root : Url}
    (given : lastValue "endpoint" as = some text) (rooted : rootOf text = .ok root) :
    ofAssignments as =
      if lastValue "sharedaccesssignature" as = none ∧ lastValue "sharedaccesskeyname" as = none then
        .error (.missing "SharedAccessKeyName")
      else if lastValue "sharedaccesssignature" as = none ∧ lastValue "sharedaccesskey" as = none then
        .error (.missing "SharedAccessKey")
      else .ok {
        endpoint := root, keyName := lastValue "sharedaccesskeyname" as, key := lastValue "sharedaccesskey" as,
        signature := lastValue "sharedaccesssignature" as, entityPath := lastValue "entitypath" as } := by
  unfold ofAssignments
  dsimp only
  rw [given]
  dsimp only
  rw [rooted]
  by_cases unsigned : lastValue "sharedaccesssignature" as = none
  · by_cases unnamed : lastValue "sharedaccesskeyname" as = none
    · simp only [unsigned, unnamed]
      rfl
    · by_cases keyless : lastValue "sharedaccesskey" as = none
      · simp only [unsigned, unnamed, keyless]
        rfl
      · simp only [unsigned, unnamed, keyless]
        rfl
  · simp only [unsigned]
    rfl

/-- What is said of assignments that are no connection string shows neither key nor signature. -/
theorem ofAssignments_error {as : List Assignment} {fault : ConnectionFault}
    (failed : ofAssignments as = .error fault) :
    fault = faultOf (lastValue "endpoint" as) (lastValue "sharedaccesskeyname" as) := by
  unfold faultOf
  cases given : lastValue "endpoint" as with
  | none =>
    rw [ofAssignments_endless given] at failed
    cases failed
    rfl
  | some text =>
    dsimp only
    cases rooted : rootOf text with
    | error fault =>
      rw [ofAssignments_rootless given rooted] at failed
      cases failed
      rfl
    | ok root =>
      rw [ofAssignments_rooted given rooted] at failed
      split at failed
      · rename_i lacks
        cases failed
        rw [lacks.2]
      · rename_i named
        split at failed
        · rename_i lacks
          cases failed
          obtain ⟨name, there⟩ := Option.ne_none_iff_exists'.1 fun unnamed => named ⟨lacks.1, unnamed⟩
          rw [there]
        · cases failed

theorem ofAssignments_ok {as : List Assignment} {s : ConnectionString} (ok : ofAssignments as = .ok s) :
    ∃ text, lastValue "endpoint" as = some text ∧ rootOf text = .ok s.endpoint := by
  cases given : lastValue "endpoint" as with
  | none =>
    rw [ofAssignments_endless given] at ok
    cases ok
  | some text =>
    cases rooted : rootOf text with
    | error fault =>
      rw [ofAssignments_rootless given rooted] at ok
      cases ok
    | ok root =>
      rw [ofAssignments_rooted given rooted] at ok
      split at ok
      · cases ok
      · split at ok
        · cases ok
        · cases ok
          exact ⟨text, rfl, rooted⟩

/-! ## What a refusal shows of a key -/

theorem mapM_around {piece : List Char} {a : Assignment} (one : assignment piece = .ok a)
    (front back : List (List Char)) : (front ++ piece :: back).mapM assignment = (do
      let as ← front.mapM assignment
      let bs ← back.mapM assignment
      return as ++ a :: bs) := by
  have one : assignment piece = pure a := one
  simp only [List.mapM_append, List.mapM_cons, one, bind_assoc, pure_bind]

/-- The pieces before that of the key. -/
def beforeKey (space keyName : String) : List (List Char) :=
  ("Endpoint".toList ++ '=' :: lead (endpointText space)) :: (behind (endpointText space) ++
    ("SharedAccessKeyName".toList ++ '=' :: lead keyName.toList) :: behind keyName.toList)

/-- The pieces behind that of the key. -/
def afterKey (path key : String) : List (List Char) :=
  behind key.toList ++ ("EntityPath".toList ++ '=' :: lead path.toList) :: behind path.toList

theorem parse_key (space path keyName key : String) : parse (compose space path keyName key) = (do
    let as ← (beforeKey space keyName).mapM assignment
    let bs ← (afterKey path key).mapM assignment
    ofAssignments (as ++ ("sharedaccesskey", String.ofList (lead key.toList)) :: bs)) := by
  have pieces : pieces (compose space path keyName key) = beforeKey space keyName ++
      ("SharedAccessKey".toList ++ '=' :: lead key.toList) :: afterKey path key := by
    rw [pieces_compose, beforeKey, afterKey, List.cons_append, List.append_assoc, List.cons_append]
  have label : String.ofList ("SharedAccessKey".toList.map Char.toLower) = "sharedaccesskey" := by decide
  have one := isLabel_key.assignment (lead key.toList)
  rw [label] at one
  rw [parse_compose, pieces, mapM_around one]
  simp only [bind_assoc, pure_bind]

/-- Of a key, a refusal shows nothing but what it brings behind its first semicolon. -/
theorem refused_same (space path keyName : String) {key other : String}
    (same : behind key.toList = behind other.toList) {fault fault' : ConnectionFault}
    (refused : parse (compose space path keyName key) = .error fault)
    (refused' : parse (compose space path keyName other) = .error fault') : fault = fault' := by
  have after : afterKey path other = afterKey path key := by
    unfold afterKey
    rw [same]
  rw [parse_key] at refused refused'
  rw [after] at refused'
  cases front : (beforeKey space keyName).mapM assignment with
  | error fault =>
    rw [front] at refused refused'
    cases refused
    cases refused'
    rfl
  | ok as =>
    cases back : (afterKey path key).mapM assignment with
    | error fault =>
      rw [front, back] at refused refused'
      cases refused
      cases refused'
      rfl
    | ok bs =>
      rw [front, back] at refused refused'
      -- The key is no part of what the refusal is about.
      have shown := ofAssignments_error refused
      have shown' := ofAssignments_error refused'
      rw [lastValue_other (by decide), lastValue_other (by decide)] at shown shown'
      rw [shown, shown']

end ConnectionString

end BusRelay
