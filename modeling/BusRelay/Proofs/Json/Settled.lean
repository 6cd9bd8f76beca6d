import BusRelay.Proofs.Json.Content
/-!
# Values of the grammar

What is read of a value depends on its text alone: a value or a fault, wherever the text stands, whatever
follows and however deep it is nested (`readsAs`). A list is read as the list of what its items are read as,
and not at all if one of them is not (`readsAs_array`).
-/

namespace BusRelay.Json

open Utf8 (Bytes)

/-! ## What values start with, and what follows them -/

/-- The octet starts a value. -/
def StartsValue (b : UInt8) : Prop := isBlank b = false ∧ b ≠ octet ']'

instance (b : UInt8) : Decidable (StartsValue b) := inferInstanceAs (Decidable (_ ∧ _))

theorem StartsValue.blanks {b : UInt8} (starts : StartsValue b) (text : Bytes) (offset : Nat) :
    Cursor.blanks ⟨b :: text, offset⟩ = ⟨b :: text, offset⟩ := by
  simp [Cursor.blanks, skipBlanks, starts.1]

theorem startsValue_digit {b : UInt8} (digit : isDigit b = true) : StartsValue b := by
  have range := isDigit_iff.1 digit
  refine ⟨?_, ?_⟩
  · simp only [isBlank, Bool.or_eq_false_iff, beq_eq_false_iff_ne]
    refine ⟨⟨⟨?_, ?_⟩, ?_⟩, ?_⟩ <;> rintro rfl <;> revert range <;> decide
  · rintro rfl
    revert range
    decide

/-- An octet that comes after a value ends a number. -/
theorem endsNumber_cons {b : UInt8} (text : Bytes)
    (ends : b = octet ',' ∨ b = octet ']' ∨ b = octet '}') : EndsNumber (b :: text) := by
  intro _ same
  obtain rfl := Option.some.inj same
  rcases ends with rfl | rfl | rfl <;> decide

/-! ## What is read -/

/-- What a reading of trees finds: what they are worth, with `rest` left, or a fault if it finds nothing. -/
inductive Finds {T V : Type} (worth : T → Except Fault V) (rest : Bytes) :
    T × Except Fault Cursor → Option V → Prop where
  | read (tree : T) {value : V} (stop : Nat) (made : worth tree = .ok value) :
      Finds worth rest (tree, .ok ⟨rest, stop⟩) (some value)
  | broken (tree : T) (fault : Fault) : Finds worth rest (tree, .error fault) none

/-- The text is read as this value, or refused if there is none, wherever it stands, whatever follows and
with any more depth and fuel than it needs. -/
structure ReadsAs (depth : Nat) (text : Bytes) (value? : Option Json) : Prop where
  starts : ∃ b more, text = b :: more ∧ StartsValue b
  finds : ∀ {more : Nat} (fuel : Nat) {rest : Bytes} (offset : Nat),
    depth ≤ more → text.length ≤ fuel → EndsNumber rest →
    Finds Tree.toJson rest (readValue more fuel ⟨text ++ rest, offset⟩) value?

/-- There is fuel for a first step. -/
theorem exists_less {n fuel : Nat} (enough : n < fuel) : ∃ less, fuel = less + 1 := ⟨fuel - 1, by omega⟩

/-! ## Blanks -/

theorem skipBlanks_blanks {blanks : Bytes} (blank : IsBlanks blanks) (rest : Bytes) (offset : Nat) :
    skipBlanks (blanks ++ rest) offset = skipBlanks rest (offset + blanks.length) := by
  induction blanks generalizing offset with
  | nil => rfl
  | cons b blanks ih =>
    obtain ⟨here, blank⟩ := List.forall_mem_cons.1 blank
    rw [List.cons_append, skipBlanks, if_pos here, ih blank, List.length_cons]
    congr 1
    omega

theorem blanks_append {blanks : Bytes} (blank : IsBlanks blanks) (rest : Bytes) (offset : Nat) :
    Cursor.blanks ⟨blanks ++ rest, offset⟩ = Cursor.blanks ⟨rest, offset + blanks.length⟩ :=
  skipBlanks_blanks blank rest offset

theorem endsNumber_blanks {blanks rest : Bytes} (blank : IsBlanks blanks) (ends : EndsNumber rest) :
    EndsNumber (blanks ++ rest) := by
  cases blanks with
  | nil => exact ends
  | cons b blanks =>
    intro _ same
    obtain rfl := Option.some.inj same
    have here := blank b List.mem_cons_self
    simp only [isBlank, Bool.or_eq_true, beq_iff_eq] at here
    rcases here with ((rfl | rfl) | rfl) | rfl <;> decide

/-- Blanks before a value do not matter. -/
theorem readValue_blanks {before : Bytes} (blank : IsBlanks before) (depth fuel : Nat) (rest : Bytes) (offset : Nat) :
    readValue depth (fuel + 1) ⟨before ++ rest, offset⟩ =
      readValue depth (fuel + 1) ⟨rest, offset + before.length⟩ := by
  rw [readValue, readValue, blanks_append blank]

/-- A value is read with the blanks before it, and the blanks after it are left. -/
theorem ReadsAs.padded {p : Padded} {depth : Nat} {value? : Option Json} (reads : ReadsAs depth p.value value?)
    {more : Nat} (fuel : Nat) {rest : Bytes} (offset : Nat) (deep : depth ≤ more) (enough : p.value.length ≤ fuel)
    (ends : EndsNumber (p.after ++ rest)) : Finds Tree.toJson (p.after ++ rest)
      (readValue more fuel ⟨p.before ++ (p.value ++ (p.after ++ rest)), offset⟩) value? := by
  obtain ⟨b, text, start, -⟩ := reads.starts
  have some_ : 0 < p.value.length := by
    rw [start]
    exact Nat.succ_pos _
  obtain ⟨less, rfl⟩ := exists_less (Nat.lt_of_lt_of_le some_ enough)
  rw [readValue_blanks p.blank_before]
  exact reads.finds _ _ deep enough ends

/-- What can be read can be read at more depth. -/
theorem ReadsAs.mono {depth more : Nat} {text : Bytes} {value? : Option Json} (reads : ReadsAs depth text value?)
    (le : depth ≤ more) : ReadsAs more text value? :=
  ⟨reads.starts, fun fuel _ offset deep => reads.finds fuel offset (Nat.le_trans le deep)⟩

/-- Blanks may follow a document. -/
theorem endOfDocument_blanks {blanks : Bytes} (blank : IsBlanks blanks) (offset : Nat) :
    endOfDocument ⟨blanks, offset⟩ = .ok () := by
  have none_ := blanks_append blank [] offset
  rw [List.append_nil] at none_
  rw [endOfDocument, none_]
  rfl

/-! ## Scalars -/

theorem leaf_finds {α : Type} {make : α → Nat → Tree} {worth : α → Json}
    (made : ∀ value stop, (make value stop).toJson = .ok (worth value)) {rest : Bytes}
    {result : Except Fault (α × Cursor)} {value? : Option α} (gives : Gives rest result value?) :
    Finds Tree.toJson rest (leaf make result) (value?.map worth) := by
  cases gives with
  | read value stop => exact .read (make value stop) stop (made value stop)
  | refused fault => exact .broken _ fault

theorem exists_digit {text : Bytes} (magnitude : IsMagnitude text) :
    ∃ d more, text = d :: more ∧ isDigit d = true := by
  obtain @⟨whole, fraction, power, start, -, -⟩ := magnitude
  cases start with
  | zero => exact ⟨octet '0', fraction ++ power, rfl, by decide⟩
  | @digits d more _ digits => exact ⟨d, more ++ (fraction ++ power), rfl, digits d List.mem_cons_self⟩

theorem readValue_digit (depth fuel : Nat) {b : UInt8} (digit : isDigit b = true) (text : Bytes) (offset : Nat) :
    readValue depth (fuel + 1) ⟨b :: text, offset⟩ = leaf .number (readNumber false ⟨b :: text, offset⟩) := by
  have other {c : Char} (letter : isDigit (octet c) = false) : b ≠ octet c := by
    rintro rfl
    rw [letter] at digit
    cases digit
  rw [readValue, (startsValue_digit digit).blanks]
  simp only [if_neg (other (c := 'n') (by decide)), if_neg (other (c := 't') (by decide)),
    if_neg (other (c := 'f') (by decide)), if_neg (other (c := '-') (by decide)), if_pos digit]

theorem readsAs_number (depth : Nat) {text : Bytes} (magnitude : IsMagnitude text) :
    ∃ value?, ReadsAs depth text value? := by
  obtain ⟨number?, gives⟩ := readNumber_gives false magnitude
  obtain ⟨d, more, rfl, digit⟩ := exists_digit magnitude
  refine ⟨number?.map .number, ⟨d, more, rfl, startsValue_digit digit⟩, fun fuel rest offset deep enough ends => ?_⟩
  obtain ⟨fuel, rfl⟩ := exists_less enough
  rw [List.cons_append, readValue_digit _ _ digit]
  exact leaf_finds (fun _ _ => rfl) (gives _ offset ends)

theorem readsAs_negative (depth : Nat) {text : Bytes} (magnitude : IsMagnitude text) :
    ∃ value?, ReadsAs depth (octet '-' :: text) value? := by
  obtain ⟨number?, gives⟩ := readNumber_gives true magnitude
  refine ⟨number?.map .number, ⟨_, text, rfl, by decide⟩, fun {more} fuel rest offset deep enough ends => ?_⟩
  obtain ⟨fuel, rfl⟩ := exists_less enough
  have read : readValue more (fuel + 1) ⟨octet '-' :: (text ++ rest), offset⟩ =
      leaf .number (readNumber true ⟨text ++ rest, offset + 1⟩) := by
    rw [readValue, StartsValue.blanks (by decide)]
    rfl
  rw [List.cons_append, read]
  exact leaf_finds (fun _ _ => rfl) (gives rest (offset + 1) ends)

theorem readsAs_string (depth : Nat) {content : Bytes} (inside : IsContent content) :
    ∃ value?, ReadsAs depth (octet '"' :: (content ++ [octet '"'])) value? := by
  obtain ⟨text?, gives⟩ := readText_gives inside
  refine ⟨text?.map .string, ⟨_, _, rfl, by decide⟩, fun {more} fuel rest offset deep enough ends => ?_⟩
  obtain ⟨fuel, rfl⟩ := exists_less enough
  have read : readValue more (fuel + 1) ⟨octet '"' :: (content ++ octet '"' :: rest), offset⟩ =
      leaf .string (readText ⟨content ++ octet '"' :: rest, offset + 1⟩) := by
    rw [readValue, StartsValue.blanks (by decide)]
    rfl
  rw [List.cons_append, List.append_assoc, List.singleton_append, read]
  exact leaf_finds (fun _ _ => rfl) (gives rest (offset + 1))

/-- A word that is read to its end wherever it stands. -/
theorem readsAs_word (depth : Nat) {b : UInt8} {word : Bytes} (starts : StartsValue b) {make : Nat → Tree}
    {value : Json} (made : ∀ stop, (make stop).toJson = .ok value)
    (read : ∀ more fuel rest offset, readValue more (fuel + 1) ⟨b :: word ++ rest, offset⟩ =
      (make (offset + (b :: word).length), .ok ⟨rest, offset + (b :: word).length⟩)) :
    ReadsAs depth (b :: word) (some value) := by
  refine ⟨⟨b, word, rfl, starts⟩, fun {more} fuel rest offset deep enough ends => ?_⟩
  obtain ⟨fuel, rfl⟩ := exists_less enough
  rw [read]
  exact .read _ _ (made _)

theorem readsAs_null (depth : Nat) : ReadsAs depth (['n', 'u', 'l', 'l'].map octet) (some .null) :=
  readsAs_word depth (by decide) (fun _ => rfl) fun _ _ _ _ => rfl

theorem readsAs_true (depth : Nat) : ReadsAs depth (['t', 'r', 'u', 'e'].map octet) (some (.bool true)) :=
  readsAs_word depth (by decide) (fun _ => rfl) fun _ _ _ _ => rfl

theorem readsAs_false (depth : Nat) :
    ReadsAs depth (['f', 'a', 'l', 's', 'e'].map octet) (some (.bool false)) :=
  readsAs_word depth (by decide) (fun _ => rfl) fun _ _ _ _ => rfl

/-! ## Lists -/

/-- Texts behind an opening bracket or brace, or behind other texts. -/
def following (first : Bool) (texts : List Bytes) : Bytes :=
  if first then listed texts else texts.flatMap (octet ',' :: ·)

/-- What stands before the next text. -/
def comma (first : Bool) : Bytes := if first then [] else [octet ',']

theorem following_nil (first : Bool) : following first [] = [] := by
  cases first <;> rfl

theorem following_cons (first : Bool) (text : Bytes) (texts : List Bytes) :
    following first (text :: texts) = comma first ++ (text ++ following false texts) := by
  cases first with
  | true => exact listed_cons text texts
  | false => rfl

/-- A number ends before what follows an item or a member. -/
theorem endsNumber_following {after : Bytes} (blank : IsBlanks after) (texts : List Bytes) {close : UInt8}
    (closes : close = octet ']' ∨ close = octet '}') (rest : Bytes) :
    EndsNumber (after ++ (following false texts ++ close :: rest)) := by
  apply endsNumber_blanks blank
  cases texts with
  | nil => exact endsNumber_cons rest (.inr closes)
  | cons text texts =>
    rw [following_cons]
    exact endsNumber_cons _ (.inl rfl)

theorem nextItem_close (first : Bool) {blanks : Bytes} (blank : IsBlanks blanks) (rest : Bytes) (offset : Nat) :
    nextItem first ⟨blanks ++ octet ']' :: rest, offset⟩ = .ok (none, ⟨rest, offset + blanks.length + 1⟩) := by
  rw [nextItem, blanks_append blank]
  rfl

theorem nextItem_padded (first : Bool) {blanks before : Bytes} (blank : IsBlanks blanks)
    (blank_before : IsBlanks before) {b : UInt8} (starts : StartsValue b) (text : Bytes) (offset : Nat) :
    ∃ start, nextItem first ⟨blanks ++ (comma first ++ (before ++ b :: text)), offset⟩ =
      .ok (some ⟨b :: text, start⟩, ⟨b :: text, start⟩) := by
  cases first with
  | true =>
    refine ⟨offset + blanks.length + before.length, ?_⟩
    change nextItem true ⟨blanks ++ (before ++ b :: text), offset⟩ = _
    rw [nextItem, blanks_append blank, blanks_append blank_before, starts.blanks]
    simp only [if_neg starts.2, if_true]
  | false =>
    refine ⟨offset + blanks.length + 1 + before.length, ?_⟩
    change nextItem false ⟨blanks ++ octet ',' :: (before ++ b :: text), offset⟩ = _
    rw [nextItem, blanks_append blank, StartsValue.blanks (by decide)]
    simp only [if_neg (show octet ',' ≠ octet ']' by decide), Bool.false_eq_true, if_false, if_true,
      blanks_append blank_before, starts.blanks, if_neg starts.2]

theorem Padded.text_append (p : Padded) (rest : Bytes) :
    p.text ++ rest = p.before ++ (p.value ++ (p.after ++ rest)) := by
  rw [Padded.text, List.append_assoc, List.append_assoc]

/-- The items of a list are read one by one, up to the first that is refused. -/
theorem readItems_finds {depth more : Nat} (deep : depth ≤ more) {items : List Padded} {values : List (Option Json)}
    (each : List.Forall₂ (fun item value? => ReadsAs depth item.value value?) items values) (first : Bool)
    {blanks : Bytes} (blank : IsBlanks blanks) (rest : Bytes) (fuel offset : Nat)
    (enough : (following first (items.map Padded.text)).length < fuel) :
    Finds Tree.itemsToJson rest (readItems more first fuel
      ⟨blanks ++ (following first (items.map Padded.text) ++ octet ']' :: rest), offset⟩) (values.mapM id) := by
  induction each generalizing first blanks fuel offset with
  | nil =>
    obtain ⟨fuel, rfl⟩ := exists_less enough
    rw [List.map_nil, following_nil, List.nil_append, readItems, nextItem_close first blank]
    exact .read [] _ rfl
  | @cons item value? items values one others ih =>
    obtain ⟨fuel, rfl⟩ := exists_less enough
    obtain ⟨b, text, start, starts⟩ := one.starts
    rw [List.map_cons, following_cons] at enough ⊢
    simp only [List.length_append, Padded.text, start, List.length_cons] at enough
    rw [List.append_assoc, List.append_assoc, Padded.text_append, start, List.cons_append]
    obtain ⟨at_, next⟩ := nextItem_padded first blank item.blank_before starts
      (text ++ (item.after ++ (following false (items.map Padded.text) ++ octet ']' :: rest))) offset
    have found := one.finds fuel at_ deep (by rw [start, List.length_cons]; omega)
      (endsNumber_following item.blank_after (items.map Padded.text) (.inl rfl) rest)
    rw [start, List.cons_append] at found
    rw [readItems, next]
    dsimp only
    generalize readValue more fuel _ = result at found ⊢
    cases found with
    | broken tree fault =>
      -- What follows is not looked at.
      rw [mapM_none]
      exact .broken [tree] fault
    | @read tree value stop made =>
      have found := ih false item.blank_after fuel stop (by omega)
      dsimp only
      rw [mapM_some]
      generalize readItems more false fuel _ = result at found ⊢
      generalize values.mapM id = values? at found ⊢
      cases found with
      | broken trees fault => exact .broken (tree :: trees) fault
      | @read trees others stop all =>
        refine .read (tree :: trees) stop ?_
        rw [Tree.itemsToJson, made, all]
        rfl

theorem readValue_array (depth fuel : Nat) (text : Bytes) (offset : Nat) :
    readValue (depth + 1) (fuel + 1) ⟨octet '[' :: text, offset⟩ =
      (.array offset (readItems depth true fuel ⟨text, offset + 1⟩).1
        (stopOf (readItems depth true fuel ⟨text, offset + 1⟩).2),
        (readItems depth true fuel ⟨text, offset + 1⟩).2) := by
  rw [readValue, StartsValue.blanks (by decide)]
  rfl

/-- A list is read as its items are. -/
theorem readsAs_array {depth : Nat} {blanks : Bytes} (blank : IsBlanks blanks) {items : List Padded}
    {values : List (Option Json)}
    (each : List.Forall₂ (fun item value? => ReadsAs depth item.value value?) items values) :
    ReadsAs (depth + 1) (bracketed blanks (items.map Padded.text)) ((values.mapM id).map .array) := by
  refine ⟨⟨_, _, rfl, by decide⟩, fun {more} fuel rest offset deep enough ends => ?_⟩
  obtain ⟨more, rfl⟩ := Nat.exists_eq_add_of_le' (Nat.le_trans (Nat.le_add_left 1 depth) deep)
  rw [bracketed, List.length_cons] at enough
  obtain ⟨fuel, rfl⟩ := exists_less enough
  simp only [List.length_append, List.length_singleton] at enough
  have found := readItems_finds (Nat.le_of_succ_le_succ deep) each true blank rest fuel (offset + 1)
    (by rw [following, if_pos rfl]; omega)
  rw [following, if_pos rfl] at found
  rw [bracketed, List.cons_append, List.append_assoc, List.append_assoc, List.singleton_append, readValue_array]
  generalize readItems more true fuel _ = result at found ⊢
  generalize values.mapM id = values? at found ⊢
  cases found with
  | broken trees fault => exact .broken (Tree.array offset trees (.error fault)) fault
  | @read trees values stop all =>
    refine .read (Tree.array offset trees (.ok stop)) stop ?_
    rw [Tree.toJson, all]
    rfl

/-! ## Objects -/

theorem nextName_close (first : Bool) {blanks : Bytes} (blank : IsBlanks blanks) (rest : Bytes) (offset : Nat) :
    nextName first ⟨blanks ++ octet '}' :: rest, offset⟩ = .ok (none, ⟨rest, offset + blanks.length + 1⟩) := by
  rw [nextName, blanks_append blank]
  rfl

theorem nextName_padded (first : Bool) {blanks before : Bytes} (blank : IsBlanks blanks)
    (blank_before : IsBlanks before) (text : Bytes) (offset : Nat) : ∃ start after,
    nextName first ⟨blanks ++ (comma first ++ (before ++ octet '"' :: text)), offset⟩ =
      .ok (some ⟨text, start⟩, after) := by
  have quote (offset : Nat) : Cursor.blanks ⟨octet '"' :: text, offset⟩ = ⟨octet '"' :: text, offset⟩ :=
    StartsValue.blanks (by decide) text offset
  cases first with
  | true =>
    refine ⟨offset + blanks.length + before.length + 1, ⟨text, offset + blanks.length + before.length + 1⟩, ?_⟩
    change nextName true ⟨blanks ++ (before ++ octet '"' :: text), offset⟩ = _
    rw [nextName, blanks_append blank, blanks_append blank_before, quote]
    rfl
  | false =>
    refine ⟨offset + blanks.length + 1 + before.length + 1,
      ⟨octet '"' :: text, offset + blanks.length + 1 + before.length⟩, ?_⟩
    change nextName false ⟨blanks ++ octet ',' :: (before ++ octet '"' :: text), offset⟩ = _
    rw [nextName, blanks_append blank, StartsValue.blanks (by decide)]
    simp only [if_neg (show octet ',' ≠ octet '}' by decide), Bool.false_eq_true, if_false, if_true,
      blanks_append blank_before, quote]

theorem readColon_padded {between : Bytes} (blank : IsBlanks between) (rest : Bytes) (offset : Nat) :
    readColon ⟨between ++ octet ':' :: rest, offset⟩ = .ok ⟨rest, offset + between.length + 1⟩ := by
  rw [readColon, blanks_append blank]
  rfl

/-- A member is read as its name and its value are. -/
inductive MemberReads (depth : Nat) (m : Member) : Option (String × Json) → Prop where
  | mk {name? : Option String} {value? : Option Json}
      (name : ∀ rest offset, Gives rest (readText ⟨m.name ++ octet '"' :: rest, offset⟩) name?)
      (value : ReadsAs depth m.value.value value?) :
      MemberReads depth m (name?.bind fun name => value?.map fun value => (name, value))

theorem Member.text_append (m : Member) (rest : Bytes) : m.text ++ rest = m.before ++ octet '"' ::
    (m.name ++ octet '"' :: (m.between ++ octet ':' ::
      (m.value.before ++ (m.value.value ++ (m.value.after ++ rest))))) := by
  rw [Member.text]
  simp only [List.append_assoc, List.cons_append, Padded.text_append]

/-- The members of an object are read one by one, up to the first that is refused. -/
theorem readMembers_finds {depth more : Nat} (deep : depth ≤ more) {members : List Member}
    {values : List (Option (String × Json))} (each : List.Forall₂ (MemberReads depth) members values) (first : Bool)
    {blanks : Bytes} (blank : IsBlanks blanks) (rest : Bytes) (fuel offset : Nat)
    (enough : (following first (members.map Member.text)).length < fuel) :
    Finds Tree.membersToJson rest (readMembers more first fuel
      ⟨blanks ++ (following first (members.map Member.text) ++ octet '}' :: rest), offset⟩) (values.mapM id) := by
  induction each generalizing first blanks fuel offset with
  | nil =>
    obtain ⟨fuel, rfl⟩ := exists_less enough
    rw [List.map_nil, following_nil, List.nil_append, readMembers, nextName_close first blank]
    exact .read [] _ rfl
  | @cons m value? members values one others ih =>
    obtain ⟨fuel, rfl⟩ := exists_less enough
    obtain ⟨name, value⟩ := one
    rename_i name? value?
    have length := congrArg List.length (m.text_append [])
    simp only [List.append_nil, List.length_append, List.length_cons] at length
    rw [List.map_cons, following_cons, List.length_append, List.length_append, length] at enough
    rw [List.map_cons, following_cons, List.append_assoc, List.append_assoc, Member.text_append]
    obtain ⟨start, after, next⟩ := nextName_padded first blank m.blank_before (m.name ++ octet '"' ::
      (m.between ++ octet ':' :: (m.value.before ++ (m.value.value ++ (m.value.after ++
        (following false (members.map Member.text) ++ octet '}' :: rest)))))) offset
    rw [readMembers, next]
    dsimp only
    have named := name (m.between ++ octet ':' :: (m.value.before ++ (m.value.value ++ (m.value.after ++
      (following false (members.map Member.text) ++ octet '}' :: rest))))) start
    generalize readText _ = result at named ⊢
    cases named with
    | refused fault =>
      rw [Option.bind_none, mapM_none]
      exact .broken [] fault
    | read called stop =>
      dsimp only
      rw [readColon_padded m.blank_between]
      dsimp only
      have found := value.padded fuel (stop + m.between.length + 1) deep (by omega)
        (endsNumber_following m.value.blank_after (members.map Member.text) (.inr rfl) rest)
      generalize readValue more fuel _ = result at found ⊢
      cases found with
      | broken tree fault =>
        rw [Option.bind_some, Option.map_none, mapM_none]
        exact .broken [(called, _, tree)] fault
      | @read tree value stop made =>
        have found := ih false m.value.blank_after fuel stop (by omega)
        dsimp only
        rw [Option.bind_some, Option.map_some, mapM_some]
        generalize readMembers more false fuel _ = result at found ⊢
        generalize values.mapM id = values? at found ⊢
        cases found with
        | broken trees fault => exact .broken ((called, _, tree) :: trees) fault
        | @read trees others stop all =>
          refine .read ((called, _, tree) :: trees) stop ?_
          rw [Tree.membersToJson, made, all]
          rfl

theorem readValue_object (depth fuel : Nat) (text : Bytes) (offset : Nat) :
    readValue (depth + 1) (fuel + 1) ⟨octet '{' :: text, offset⟩ =
      (.object offset (readMembers depth true fuel ⟨text, offset + 1⟩).1
        (stopOf (readMembers depth true fuel ⟨text, offset + 1⟩).2),
        (readMembers depth true fuel ⟨text, offset + 1⟩).2) := by
  rw [readValue, StartsValue.blanks (by decide)]
  rfl

/-- An object is read as its members are. -/
theorem readsAs_object {depth : Nat} {blanks : Bytes} (blank : IsBlanks blanks) {members : List Member}
    {values : List (Option (String × Json))} (each : List.Forall₂ (MemberReads depth) members values) :
    ReadsAs (depth + 1) (braced blanks (members.map Member.text)) ((values.mapM id).map .object) := by
  refine ⟨⟨_, _, rfl, by decide⟩, fun {more} fuel rest offset deep enough ends => ?_⟩
  obtain ⟨more, rfl⟩ := Nat.exists_eq_add_of_le' (Nat.le_trans (Nat.le_add_left 1 depth) deep)
  rw [braced, List.length_cons] at enough
  obtain ⟨fuel, rfl⟩ := exists_less enough
  simp only [List.length_append, List.length_singleton] at enough
  have found := readMembers_finds (Nat.le_of_succ_le_succ deep) each true blank rest fuel (offset + 1)
    (by rw [following, if_pos rfl]; omega)
  rw [following, if_pos rfl] at found
  rw [braced, List.cons_append, List.append_assoc, List.append_assoc, List.singleton_append, readValue_object]
  generalize readMembers more true fuel _ = result at found ⊢
  generalize values.mapM id = values? at found ⊢
  cases found with
  | broken trees fault => exact .broken (Tree.object offset trees (.error fault)) fault
  | @read trees values stop all =>
    refine .read (Tree.object offset trees (.ok stop)) stop ?_
    rw [Tree.toJson, all]
    rfl

/-! ## All values -/

/-- Every value of the grammar is read as one value, or always refused. -/
theorem readsAs {depth : Nat} {text : Bytes} (value : IsValue depth text) : ∃ value?, ReadsAs depth text value? := by
  induction value with
  | null depth => exact ⟨_, readsAs_null depth⟩
  | true depth => exact ⟨_, readsAs_true depth⟩
  | false depth => exact ⟨_, readsAs_false depth⟩
  | number depth magnitude => exact readsAs_number depth magnitude
  | negative depth magnitude => exact readsAs_negative depth magnitude
  | string depth inside => exact readsAs_string depth inside
  | array blank _ ih =>
    obtain ⟨values, each⟩ := exists_forall₂ ih
    exact ⟨_, readsAs_array blank each⟩
  | @object depth _ members blank _ ih =>
    have each : ∀ m ∈ members, ∃ member?, MemberReads depth m member? := by
      intro m mem
      obtain ⟨value?, value⟩ := ih m mem
      obtain ⟨name?, name⟩ := readText_gives m.content
      exact ⟨_, .mk name value⟩
    obtain ⟨values, each⟩ := exists_forall₂ each
    exact ⟨_, readsAs_object blank each⟩

/-- What starts with a brace is read as an object. -/
theorem ReadsAs.object {depth : Nat} {text : Bytes} {value : Json} (reads : ReadsAs depth text (some value))
    (brace : text.head? = some (octet '{')) : ∃ members, value = .object members := by
  obtain ⟨b, rest, rfl, -⟩ := reads.starts
  obtain rfl := Option.some.inj brace
  have found := (reads.mono (Nat.le_succ depth)).finds _ 0 (Nat.le_refl _) (Nat.le_refl _)
    .nil
  rw [List.append_nil, List.length_cons, readValue_object] at found
  generalize readMembers depth true _ _ = result at found
  obtain ⟨members, left⟩ := result
  cases left with
  | error fault => cases found
  | ok after =>
    cases found with
    | read _ stop made =>
      rw [stopOf, Tree.toJson] at made
      obtain ⟨raws, -, made⟩ := bind_ok made
      cases made
      exact ⟨raws, rfl⟩

end BusRelay.Json
