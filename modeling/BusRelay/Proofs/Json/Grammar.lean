import BusRelay.Json.Skip
/-!
# The grammar of JSON text

What a JSON text is, as RFC 8259 has it and apart from how it is read: a number or a text that no reader
can represent still belongs to the grammar. Lists and objects are counted, so that a text can be said to
be nested no deeper than some depth.
-/

namespace BusRelay.Json

open Utf8 (Bytes)

/-- Nothing but blanks. -/
def IsBlanks (text : Bytes) : Prop := ∀ b ∈ text, isBlank b = true

instance (text : Bytes) : Decidable (IsBlanks text) := inferInstanceAs (Decidable (∀ b ∈ text, isBlank b = true))

theorem IsBlanks.nil : IsBlanks [] := List.forall_mem_nil _

/-! ## Numbers -/

/-- Nothing but digits. -/
def IsDigits (text : Bytes) : Prop := ∀ b ∈ text, isDigit b = true

theorem IsDigits.nil : IsDigits [] := List.forall_mem_nil _

/-- The digits before the point: zero, or digits that do not start with a zero. -/
inductive IsWhole : Bytes → Prop where
  | zero : IsWhole [octet '0']
  | digits {d : UInt8} {more : Bytes} (nonzero : d ≠ octet '0') (digits : IsDigits (d :: more)) :
      IsWhole (d :: more)

/-- A point and at least one digit, or nothing. -/
inductive IsFraction : Bytes → Prop where
  | none : IsFraction []
  | point {d : UInt8} {more : Bytes} (digits : IsDigits (d :: more)) : IsFraction (octet '.' :: d :: more)

/-- The sign of a power of ten, or nothing. -/
inductive IsSign : (positive : Bool) → Bytes → Prop where
  | none : IsSign true []
  | plus : IsSign true [octet '+']
  | minus : IsSign false [octet '-']

/-- A power of ten: an `e` and a whole number, or nothing. -/
inductive IsPower : Bytes → Prop where
  | none : IsPower []
  | mark {e : UInt8} {positive : Bool} {sign : Bytes} {d : UInt8} {more : Bytes}
      (mark : e = octet 'e' ∨ e = octet 'E') (signed : IsSign positive sign) (digits : IsDigits (d :: more)) :
      IsPower (e :: (sign ++ d :: more))

/-- A number without a sign. -/
inductive IsMagnitude : Bytes → Prop where
  | mk {whole fraction power : Bytes} (digits : IsWhole whole) (part : IsFraction fraction)
      (scale : IsPower power) : IsMagnitude (whole ++ (fraction ++ power))

/-! ## Texts -/

/-- What stands between the quotes of a text. -/
inductive IsContent : Bytes → Prop where
  | nil : IsContent []
  | character {c : Char} {more : Bytes} (quote : c ≠ '"') (backslash : c ≠ '\\') (visible : ¬ c.toNat < 0x20)
      (content : IsContent more) : IsContent (Utf8.charBytes c ++ more)
  | letter {c : Char} {more : Bytes} (mem : c ∈ escapeLetters) (content : IsContent more) :
      IsContent (octet '\\' :: octet c :: more)
  | unicode {h i j k : UInt8} {more : Bytes} (digits : ∀ b ∈ [h, i, j, k], (hexValue? b).isSome = true)
      (content : IsContent more) : IsContent (octet '\\' :: octet 'u' :: h :: i :: j :: k :: more)

/-! ## Values -/

/-- A text with blanks around it. -/
structure Padded where
  before : Bytes
  value : Bytes
  after : Bytes
  blank_before : IsBlanks before
  blank_after : IsBlanks after

def Padded.text (p : Padded) : Bytes := p.before ++ (p.value ++ p.after)

/-- A member of an object: a name, a colon and a value, and blanks around each of them. -/
structure Member where
  before : Bytes
  name : Bytes
  between : Bytes
  value : Padded
  blank_before : IsBlanks before
  content : IsContent name
  blank_between : IsBlanks between

def Member.text (m : Member) : Bytes :=
  m.before ++ octet '"' :: (m.name ++ octet '"' :: (m.between ++ octet ':' :: m.value.text))

/-- Texts with a comma between each two of them. -/
def listed (texts : List Bytes) : Bytes := [octet ','].intercalate texts

/-- A list of these items. A list without items may hold blanks. -/
def bracketed (blanks : Bytes) (items : List Bytes) : Bytes :=
  octet '[' :: (blanks ++ (listed items ++ [octet ']']))

/-- An object of these members. -/
def braced (blanks : Bytes) (members : List Bytes) : Bytes :=
  octet '{' :: (blanks ++ (listed members ++ [octet '}']))

/-- A value whose lists and objects are nested no deeper than `depth`. -/
inductive IsValue : (depth : Nat) → Bytes → Prop where
  | null (depth : Nat) : IsValue depth (['n', 'u', 'l', 'l'].map octet)
  | true (depth : Nat) : IsValue depth (['t', 'r', 'u', 'e'].map octet)
  | false (depth : Nat) : IsValue depth (['f', 'a', 'l', 's', 'e'].map octet)
  | number (depth : Nat) {text : Bytes} (magnitude : IsMagnitude text) : IsValue depth text
  | negative (depth : Nat) {text : Bytes} (magnitude : IsMagnitude text) : IsValue depth (octet '-' :: text)
  | string (depth : Nat) {content : Bytes} (inside : IsContent content) :
      IsValue depth (octet '"' :: (content ++ [octet '"']))
  | array {depth : Nat} {blanks : Bytes} {items : List Padded} (blank : IsBlanks blanks)
      (each : ∀ item ∈ items, IsValue depth item.value) :
      IsValue (depth + 1) (bracketed blanks (items.map Padded.text))
  | object {depth : Nat} {blanks : Bytes} {members : List Member} (blank : IsBlanks blanks)
      (each : ∀ member ∈ members, IsValue depth member.value.value) :
      IsValue (depth + 1) (braced blanks (members.map Member.text))

/-- The text of a JSON object, with blanks around it. An object is a value that starts with a brace. -/
def IsObjectText (depth : Nat) (text : Bytes) : Prop :=
  ∃ p : Padded, p.text = text ∧ IsValue depth p.value ∧ p.value.head? = some (octet '{')

/-- The text of the JSON list of these texts, with blanks around it. -/
def IsListOf (texts : List Bytes) (text : Bytes) : Prop :=
  ∃ p : Padded, p.text = text ∧ ∃ blanks, IsBlanks blanks ∧ p.value = bracketed blanks texts

/-! ## Texts one after the other -/

/-- After the first of them there is a comma before each. -/
theorem listed_cons (text : Bytes) (more : List Bytes) :
    listed (text :: more) = text ++ more.flatMap (octet ',' :: ·) := by
  induction more generalizing text with
  | nil => simp [listed]
  | cons other more ih =>
    rw [listed, List.intercalate_cons_cons, ← listed, ih, List.flatMap_cons]
    simp

/-- What can be nested so deep can be nested deeper. -/
theorem IsValue.mono {depth more : Nat} {text : Bytes} (value : IsValue depth text) (le : depth ≤ more) :
    IsValue more text := by
  induction value generalizing more with
  | null => exact .null more
  | true => exact .true more
  | false => exact .false more
  | number _ magnitude => exact .number more magnitude
  | negative _ magnitude => exact .negative more magnitude
  | string _ inside => exact .string more inside
  | array blank _ ih =>
    obtain ⟨less, rfl⟩ := Nat.exists_eq_add_of_le' (Nat.le_trans (Nat.le_add_left 1 _) le)
    exact .array blank fun item mem => ih item mem (Nat.le_of_succ_le_succ le)
  | object blank _ ih =>
    obtain ⟨less, rfl⟩ := Nat.exists_eq_add_of_le' (Nat.le_trans (Nat.le_add_left 1 _) le)
    exact .object blank fun member mem => ih member mem (Nat.le_of_succ_le_succ le)

theorem IsObjectText.mono {depth more : Nat} {text : Bytes} (object : IsObjectText depth text)
    (le : depth ≤ more) : IsObjectText more text := by
  obtain ⟨p, same, value, brace⟩ := object
  exact ⟨p, same, value.mono le, brace⟩

/-- No object is without a brace. -/
theorem IsObjectText.brace_mem {depth : Nat} {text : Bytes} (object : IsObjectText depth text) :
    octet '{' ∈ text := by
  obtain ⟨p, rfl, -, brace⟩ := object
  exact List.mem_append_right _ (List.mem_append_left _ (List.mem_of_head? brace))

/-- No list is without a bracket. -/
theorem IsListOf.bracket_mem {texts : List Bytes} {text : Bytes} (list : IsListOf texts text) :
    octet '[' ∈ text := by
  obtain ⟨p, rfl, blanks, -, value⟩ := list
  rw [Padded.text, value]
  exact List.mem_append_right _ (List.mem_append_left _ List.mem_cons_self)

end BusRelay.Json
