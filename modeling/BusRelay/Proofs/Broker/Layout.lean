import BusRelay.Proofs.Broker.ConnectionString
/-!
# The layout of connection strings

What a text is read as, or why it is refused, is decided by the values that are assigned to the names that are looked
up, each name for itself (`ofAssignments_congr`). So it makes no difference in which order parts of different names
stand, in which letter case the names are written, which white space is around a part, and whether there are fields of
white space alone or parts of other names (`parse_relaid`).
-/

namespace BusRelay.ConnectionString

/-! ## Parts and fields -/

/-- A part `Name=value` of a text. It does not start with white space, and its name ends at its first equals sign. -/
structure Part where
  name : List Char
  value : List Char
  isLabel : IsLabel name
  whole : ';' ∉ value
  deriving DecidableEq

namespace Part

def text (p : Part) : List Char := p.name ++ '=' :: p.value

/-- The name without letter case. -/
def key (p : Part) : String := String.ofList (p.name.map Char.toLower)

/-- What the part assigns. White space at its end belongs to no value. -/
def assigned (p : Part) : Assignment := (p.key, String.ofList (Blank.trimEnd p.value))

end Part

/-- Nothing but white space. -/
def IsSpace (s : List Char) : Prop := ∀ c ∈ s, Blank.isBlank c = true

instance : DecidablePred IsSpace := fun s => decidable_of_iff (s.all Blank.isBlank = true) List.all_eq_true

theorem isSpace_nil : IsSpace [] := List.forall_mem_nil _

/-- What stands between the semicolons of a text: the parts in order, each with white space around it, and fields of
white space alone wherever there are any. -/
inductive Laid : List (List Char) → List Part → Prop where
  | nil : Laid [] []
  | space {field : List Char} {fields : List (List Char)} {ps : List Part} (space : IsSpace field)
      (rest : Laid fields ps) : Laid (field :: fields) ps
  | part {before after : List Char} {fields : List (List Char)} {ps : List Part} (p : Part) (front : IsSpace before)
      (back : IsSpace after) (rest : Laid fields ps) : Laid ((before ++ (p.text ++ after)) :: fields) (p :: ps)

/-- A part needs no white space around it. -/
theorem Laid.bare {fields : List (List Char)} {ps : List Part} (p : Part) (rest : Laid fields ps) :
    Laid (p.text :: fields) (p :: ps) := by
  have laid := rest.part p isSpace_nil isSpace_nil
  rwa [List.nil_append, List.append_nil] at laid

theorem laid_text (ps : List Part) : Laid (ps.map Part.text) ps := by
  induction ps with
  | nil => exact .nil
  | cons p ps ih => exact ih.bare p

/-! ## The assignments of a layout -/

theorem piecesOf_join (field : List Char) (fields : List (List Char)) :
    piecesOf (Fields.join ';' (field :: fields)) = piecesOf field ++ piecesOf (Fields.join ';' fields) := by
  cases fields with
  | nil =>
    have none : piecesOf (Fields.join ';' []) = [] := by decide
    rw [none, List.append_nil]
    rfl
  | cons next fields => rw [Fields.join_cons ';' field (List.cons_ne_nil _ _), piecesOf_append]

theorem IsSpace.whole {s : List Char} (space : IsSpace s) : ';' ∉ s := by
  intro mem
  exact absurd (space ';' mem) (by decide)

theorem IsSpace.piecesOf {s : List Char} (space : IsSpace s) : piecesOf s = [] := by
  unfold ConnectionString.piecesOf
  rw [Fields.split_of_not_mem space.whole, List.map_singleton, Blank.trim_blank space]
  rfl

namespace Part

variable (p : Part)

theorem whole_text : ';' ∉ p.text := by
  intro mem
  rcases List.mem_append.1 mem with name | rest
  · exact (p.isLabel.plain ';' name).2 rfl
  · rcases List.mem_cons.1 rest with equals | value
    · exact absurd equals (by decide)
    · exact p.whole value

theorem solid_text : ∀ c ∈ p.text.head?, Blank.isBlank c = false := by
  intro c first
  unfold text at first
  cases named : p.name with
  | nil =>
    rw [named] at first
    cases first
    decide
  | cons d name =>
    rw [named] at first
    cases first
    exact p.isLabel.starts c (by rw [named]; rfl)

/-- A part in white space is one piece. -/
theorem piecesOf_text {before after : List Char} (front : IsSpace before) (back : IsSpace after) :
    piecesOf (before ++ (p.text ++ after)) = [p.name ++ '=' :: Blank.trimEnd p.value] := by
  have whole : ';' ∉ before ++ (p.text ++ after) := by
    simp only [List.mem_append, not_or]
    exact ⟨front.whole, p.whole_text, back.whole⟩
  have more : p.text ≠ [] := List.append_ne_nil_of_right_ne_nil _ (List.cons_ne_nil _ _)
  unfold piecesOf
  rw [Fields.split_of_not_mem whole, List.map_singleton, Blank.trim_around front back p.solid_text more, text,
    p.isLabel.trim]
  exact List.filter_cons_of_pos (by simp)

end Part

variable {fields : List (List Char)} {ps qs : List Part}

/-- A layout has a piece for every part. -/
theorem Laid.pieces (laid : Laid fields ps) : piecesOf (Fields.join ';' fields) =
    ps.map fun p => p.name ++ '=' :: Blank.trimEnd p.value := by
  induction laid with
  | nil => decide
  | space space _ ih => rw [piecesOf_join, space.piecesOf, ih, List.nil_append]
  | part p front back _ ih => rw [piecesOf_join, p.piecesOf_text front back, ih, List.map_cons, List.singleton_append]

/-- The equals sign of a part is no white space. -/
theorem Laid.filled (laid : Laid fields ps) (some : ps ≠ []) : '=' ∈ Fields.join ';' fields := by
  induction laid with
  | nil => exact absurd rfl some
  | @space field fields _ _ rest ih =>
    have more : fields ≠ [] := by
      rintro rfl
      cases rest
      exact some rfl
    rw [Fields.join_cons ';' field more]
    exact List.mem_append_right _ (List.mem_cons_of_mem _ (ih some))
  | part p front back _ _ =>
    apply Fields.mem_join List.mem_cons_self
    simp [Part.text]

/-- What a layout is read as is made of what its parts assign, in order. -/
theorem parse_laid (laid : Laid fields ps) (some : ps ≠ []) :
    parse (String.ofList (Fields.join ';' fields)) = ofAssignments (ps.map Part.assigned) := by
  have filled : Blank.trim (Fields.join ';' fields) ≠ [] :=
    Blank.trim_ne_nil_iff.2 ⟨'=', laid.filled some, by decide⟩
  have assigned : (ps.map fun p => p.name ++ '=' :: Blank.trimEnd p.value).mapM assignment =
      .ok (ps.map Part.assigned) := by
    have one (p : Part) : assignment (p.name ++ '=' :: Blank.trimEnd p.value) = .ok p.assigned :=
      p.isLabel.assignment _
    refine mapM_ok_iff.2 ⟨List.forall_mem_map.2 fun p _ => ⟨p.assigned, one p⟩, ?_⟩
    rw [List.filterMap_map, ← List.filterMap_eq_map']
    apply List.filterMap_congr
    intro p _
    rw [Function.comp_apply, one]
    rfl
  unfold parse
  rw [String.toList_ofList, if_neg filled, pieces_eq, String.toList_ofList, laid.pieces, assigned]
  rfl

/-! ## Other layouts -/

/-- The names that are looked up. -/
def names : List String :=
  ["endpoint", "sharedaccesskeyname", "sharedaccesskey", "sharedaccesssignature", "entitypath"]

/-- Assignments are read by the last value of each name that is looked up. -/
theorem ofAssignments_congr {as bs : List Assignment}
    (same : ∀ name ∈ names, lastValue name as = lastValue name bs) : ofAssignments as = ofAssignments bs := by
  simp only [names, List.forall_mem_cons] at same
  obtain ⟨endpoint, keyName, key, signature, path, -⟩ := same
  cases given : lastValue "endpoint" bs with
  | none => rw [ofAssignments_endless given, ofAssignments_endless (endpoint.trans given)]
  | some text =>
    cases rooted : rootOf text with
    | error fault => rw [ofAssignments_rootless given rooted, ofAssignments_rootless (endpoint.trans given) rooted]
    | ok root =>
      rw [ofAssignments_rooted given rooted, ofAssignments_rooted (endpoint.trans given) rooted]
      simp only [keyName, key, signature, path]

/-- Parts that say the same in another layout. -/
inductive Relaid : List Part → List Part → Prop where
  /-- Another order, in which parts of one name follow each other as before. -/
  | reorder {ps qs : List Part} (perm : ps.Perm qs)
      (kept : ∀ key, ps.filter (fun p => p.key = key) = qs.filter (fun p => p.key = key)) : Relaid ps qs
  /-- The same parts with names in another letter case. -/
  | recase {ps qs : List Part} (same : List.Forall₂ (fun p q => p.key = q.key ∧ p.value = q.value) ps qs) :
      Relaid ps qs
  /-- One more part, of a name that is not looked up. -/
  | unknown (front back : List Part) {p : Part} (unknown : p.key ∉ names) :
      Relaid (front ++ back) (front ++ p :: back)
  | trans {ps qs rs : List Part} (first : Relaid ps qs) (second : Relaid qs rs) : Relaid ps rs

namespace Relaid

/-- Neighbours of different names change places. -/
theorem swap (front back : List Part) {p q : Part} (apart : p.key ≠ q.key) :
    Relaid (front ++ p :: q :: back) (front ++ q :: p :: back) := by
  refine .reorder ((List.Perm.swap q p back).append_left front) fun key => ?_
  rw [List.filter_append, List.filter_append]
  congr 1
  by_cases named : p.key = key
  · have other : q.key ≠ key := fun same => apart (named.trans same.symm)
    simp [named, other]
  · simp [List.filter_cons, named]

theorem ne_nil (relaid : Relaid ps qs) (some : ps ≠ []) : qs ≠ [] := by
  induction relaid with
  | reorder perm =>
    rintro rfl
    exact some perm.eq_nil
  | recase same =>
    rintro rfl
    cases same
    exact some rfl
  | unknown => exact List.append_ne_nil_of_right_ne_nil _ (List.cons_ne_nil _ _)
  | trans _ _ ih ih' => exact ih' (ih some)

/-- The assignments of one name are those of its parts. -/
theorem filter_assigned (name : String) (ps : List Part) :
    (ps.map Part.assigned).filter (fun a => a.1 = name) =
      (ps.filter fun p => p.key = name).map Part.assigned :=
  List.filter_map

/-- Every name that is looked up has its last value in any layout. -/
theorem lastValue_eq (relaid : Relaid ps qs) {name : String} (known : name ∈ names) :
    lastValue name (ps.map Part.assigned) = lastValue name (qs.map Part.assigned) := by
  induction relaid with
  | reorder _ kept =>
    unfold lastValue
    rw [filter_assigned, filter_assigned, kept]
  | @recase ps qs same =>
    have assigned : ps.map Part.assigned = qs.map Part.assigned := by
      apply map_eq_of_forall₂ same
      rintro p q ⟨key, value⟩
      rw [Part.assigned, Part.assigned, key, value]
    rw [assigned]
  | @unknown front back p unknown =>
    have apart : p.key ≠ name := by
      rintro rfl
      exact unknown known
    rw [List.map_append, List.map_append, List.map_cons]
    exact (lastValue_other apart _ _ _).symm
  | trans _ _ ih ih' => rw [ih, ih']

end Relaid

/-- **The layout makes no difference.** Let parts change their order, but not among parts of one name, let their names
change letter case, and let parts of unknown names come in. However these parts are laid out, with white space around
them and fields of white space between them, the text is read as the first parts between semicolons are, or refused
for the same reason. -/
theorem parse_relaid (some : ps ≠ []) (relaid : Relaid ps qs) (laid : Laid fields qs) :
    parse (String.ofList (Fields.join ';' fields)) = parse (String.ofList (Fields.join ';' (ps.map Part.text))) := by
  rw [parse_laid laid (relaid.ne_nil some), parse_laid (laid_text ps) some]
  apply ofAssignments_congr
  intro name known
  exact (relaid.lastValue_eq known).symm

namespace Sample

/-- An endpoint, in whatever case its name is written. -/
def endpoint (name : List Char) (label : IsLabel name) : Part where
  name := name
  value := "sb://ns1.servicebus.windows.net/".toList
  isLabel := label
  whole := by decide

def user : Part := ⟨"SharedAccessKeyName".toList, "root".toList, isLabel_keyName, by decide⟩

/-- One of two keys. -/
def old : Part := ⟨"SharedAccessKey".toList, "old".toList, isLabel_key, by decide⟩

/-- The other key. It has a blank and equals signs in it. -/
def key : Part := ⟨"SharedAccessKey".toList, "bW9y ZQ==".toList, isLabel_key, by decide⟩

/-- A part of no name at all. -/
def nameless : Part where
  name := []
  value := "a=b".toList
  isLabel := isLabel_of_letters (List.forall_mem_nil _)
  whole := by decide

theorem isLabel_shouted : IsLabel "ENDPOINT".toList := isLabel_of_letters (forall_mem_of_all (by decide))

def parts : List Part := [endpoint _ isLabel_endpoint, old, key, user]

/-- The endpoint stands between the keys, in capitals and before a part of no name. -/
def others : List Part := [old, endpoint _ isLabel_shouted, nameless, key, user]

theorem relaid : Relaid parts others := by
  have swapped : Relaid parts [old, endpoint _ isLabel_endpoint, key, user] := .swap [] [key, user] (by decide)
  have shouted : Relaid [old, endpoint _ isLabel_endpoint, key, user] [old, endpoint _ isLabel_shouted, key, user] :=
    .recase (by decide)
  exact (swapped.trans shouted).trans (.unknown [old, endpoint _ isLabel_shouted] [key, user] (by decide))

/-- The fields of a text, in the order of `others`. -/
def spread : List (List Char) :=
  ["\tSharedAccessKey=old ", " ", "ENDPOINT=sb://ns1.servicebus.windows.net/", "=a=b", " SharedAccessKey=bW9y ZQ==",
    "SharedAccessKeyName=root", "\n"].map String.toList

theorem laid : Laid spread others := by
  have tab : IsSpace ['\t'] := by decide
  have blank : IsSpace [' '] := by decide
  have line : IsSpace ['\n'] := by decide
  apply Laid.part old tab blank
  apply Laid.space blank
  apply Laid.bare (endpoint _ isLabel_shouted)
  apply Laid.bare nameless
  apply Laid.part key blank isSpace_nil
  apply Laid.bare user
  exact .space line .nil

end Sample

/-- Of two keys the second one stays the last, wherever the endpoint goes. -/
theorem parse_relaid_between_keys :
    Sample.parts ≠ [] ∧ Relaid Sample.parts Sample.others ∧ Laid Sample.spread Sample.others ∧
      parse ("\tSharedAccessKey=old ; ;ENDPOINT=sb://ns1.servicebus.windows.net/;=a=b; SharedAccessKey=bW9y ZQ==;" ++
          "SharedAccessKeyName=root;\n") =
        parse ("Endpoint=sb://ns1.servicebus.windows.net/;SharedAccessKey=old;SharedAccessKey=bW9y ZQ==;" ++
          "SharedAccessKeyName=root") := by
  have some : Sample.parts ≠ [] := List.cons_ne_nil _ _
  have same := parse_relaid some Sample.relaid Sample.laid
  have ⟨spread, plain⟩ :
      String.ofList (Fields.join ';' Sample.spread) =
        "\tSharedAccessKey=old ; ;ENDPOINT=sb://ns1.servicebus.windows.net/;=a=b; SharedAccessKey=bW9y ZQ==;" ++
          "SharedAccessKeyName=root;\n" ∧
      String.ofList (Fields.join ';' (Sample.parts.map Part.text)) =
        "Endpoint=sb://ns1.servicebus.windows.net/;SharedAccessKey=old;SharedAccessKey=bW9y ZQ==;" ++
          "SharedAccessKeyName=root" := by
    decide +kernel
  rw [spread, plain] at same
  exact ⟨some, Sample.relaid, Sample.laid, same⟩

end BusRelay.ConnectionString
