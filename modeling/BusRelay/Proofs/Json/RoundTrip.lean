import BusRelay.Proofs.Json.Settled
import BusRelay.Proofs.Json.Text
import BusRelay.Proofs.Json.Value
/-!
# JSON text is read back

A canonical value without binary numbers that is not nested too deep is what its own text is read as
(`decode?_text`). The text of a value is one of the grammar, without blanks, so what is left to say is what
its scalars are read as: lists and objects are read as their items and members are.
-/

namespace BusRelay.Json

open Utf8 (Bytes)

/-! ## Scalars -/

/-- The text of the value is read as the value. -/
def ReadsBack (depth : Nat) (value : Json) : Prop := ReadsAs depth (Utf8.ofChars value.chars) (some value)

theorem readsBack_null (depth : Nat) : ReadsBack depth .null := readsAs_null depth

theorem readsBack_bool (depth : Nat) (value : Bool) : ReadsBack depth (.bool value) := by
  cases value with
  | true => exact readsAs_true depth
  | false => exact readsAs_false depth

theorem readsBack_natural (depth : Nat) {n : Nat} (fits : n ≤ maxNatural) :
    ReadsAs depth (Utf8.ofChars (Nat.toDigits 10 n)) (some (.number (.integer n))) := by
  obtain ⟨d, ds, start⟩ := List.exists_cons_of_ne_nil (Nat.toDigits_ne_nil (n := n) (b := 10))
  have digit : isDigit (octet d) = true := isDigit_octet (isDigit_toDigits n d (by rw [start]; simp))
  have octets : Utf8.ofChars (Nat.toDigits 10 n) = octet d :: Utf8.ofChars ds := by
    rw [start, ofChars_digit (isDigit_toDigits n d (by rw [start]; simp))]
  refine ⟨⟨_, _, octets, startsValue_digit digit⟩, fun {more} fuel rest offset deep enough ends => ?_⟩
  obtain ⟨stop, read⟩ := readNumber_digits false fits ends offset
  rw [octets] at enough read ⊢
  obtain ⟨fuel, rfl⟩ := exists_less enough
  rw [List.cons_append] at read ⊢
  rw [readValue_digit _ _ digit, read, whole_natural]
  exact .read (Tree.number (.integer n) stop) stop rfl

theorem readsBack_negative (depth : Nat) {n : Nat} (positive : 0 < n) (fits : n ≤ Nat.pow 2 63) :
    ReadsAs depth (octet '-' :: Utf8.ofChars (Nat.toDigits 10 n)) (some (.number (.integer (-n)))) := by
  refine ⟨⟨_, _, rfl, by decide⟩, fun {more} fuel rest offset deep enough ends => ?_⟩
  obtain ⟨fuel, rfl⟩ := exists_less enough
  have less : Nat.pow 2 63 ≤ maxNatural := by decide
  obtain ⟨stop, read⟩ := readNumber_digits true (n := n) (by omega) ends (offset + 1)
  rw [whole_negative positive fits] at read
  rw [List.cons_append, readValue, StartsValue.blanks (by decide)]
  simp only [read]
  exact .read (Tree.number (.integer (-n)) stop) stop rfl

theorem readsBack_integer (depth : Nat) {n : Int} (word : IsWord n) : ReadsBack depth (.number (.integer n)) := by
  obtain ⟨low, high⟩ := word
  rw [ReadsBack, chars, Number.text, integerText, String.toList_ofList]
  split
  · rename_i negative
    have read := readsBack_negative depth (n := n.natAbs) (by omega) (by omega)
    rw [show -(n.natAbs : Int) = n by omega] at read
    rw [List.singleton_append, ofChars_octet (by decide)]
    exact read
  · rename_i natural
    have read := readsBack_natural depth (n := n.natAbs) (by omega)
    rw [show (n.natAbs : Int) = n by omega] at read
    exact read

theorem ofChars_quoteChars (s : String) : Utf8.ofChars (quoteChars s) =
    octet '"' :: (Utf8.ofChars (s.toList.flatMap escapeChar) ++ [octet '"']) := by
  rw [quoteChars, Utf8.ofChars_append, ofChars_octet (by decide), ofChars_octet (by decide)]
  rfl

theorem readsBack_string (depth : Nat) (s : String) : ReadsBack depth (.string s) := by
  rw [ReadsBack, chars, ofChars_quoteChars]
  refine ⟨⟨_, _, rfl, by decide⟩, fun {more} fuel rest offset deep enough ends => ?_⟩
  obtain ⟨fuel, rfl⟩ := exists_less enough
  obtain ⟨stop, read⟩ := readText_escapeChars s rest (offset + 1)
  rw [List.cons_append, List.append_assoc, List.singleton_append, readValue, StartsValue.blanks (by decide)]
  simp only [read]
  exact .read (Tree.string s stop) stop rfl

/-! ## Lists -/

/-- A text without blanks around it. -/
def Padded.bare (text : Bytes) : Padded := ⟨[], text, [], .nil, .nil⟩

theorem Padded.text_bare (text : Bytes) : (Padded.bare text).text = text := List.append_nil text

theorem ofChars_itemChars (first : Bool) (items : List Json) : Utf8.ofChars (itemChars first items) =
    following first (items.map fun item => (Padded.bare (Utf8.ofChars item.chars)).text) := by
  induction items generalizing first with
  | nil => exact (following_nil first).symm
  | cons item items ih =>
    rw [itemChars, Utf8.ofChars_append, Utf8.ofChars_append, ih, List.map_cons, following_cons, Padded.text_bare,
      List.append_assoc]
    cases first <;> rfl

theorem readsBack_array {depth : Nat} {items : List Json} (each : ∀ item ∈ items, ReadsBack depth item) :
    ReadsBack (depth + 1) (.array items) := by
  have all : List.Forall₂ (fun item value? => ReadsAs depth item.value value?)
      (items.map fun item => Padded.bare (Utf8.ofChars item.chars)) (items.map some) :=
    List.forall₂_map_left_iff.2 (List.forall₂_map_right_iff.2 (List.forall₂_same.2 each))
  have read := readsAs_array .nil all
  rw [mapM_all, List.map_map] at read
  have text : Utf8.ofChars (chars (.array items)) = bracketed [] (items.map fun item =>
      (Padded.bare (Utf8.ofChars item.chars)).text) := by
    rw [chars, Utf8.ofChars_append, ofChars_octet (by decide), ofChars_octet (by decide), ofChars_itemChars]
    rfl
  rw [ReadsBack, text]
  exact read

/-! ## Objects -/

/-- A member without blanks. -/
def Member.bare (name : String) (value : Json) : Member where
  before := []
  name := Utf8.ofChars (name.toList.flatMap escapeChar)
  between := []
  value := .bare (Utf8.ofChars value.chars)
  blank_before := .nil
  content := (spells_escapeChars name.toList).inside
  blank_between := .nil

theorem ofChars_memberChars (first : Bool) (members : List (String × Json)) :
    Utf8.ofChars (memberChars first members) =
      following first (members.map fun member => (Member.bare member.1 member.2).text) := by
  induction members generalizing first with
  | nil => exact (following_nil first).symm
  | cons member members ih =>
    obtain ⟨name, value⟩ := member
    have text : (Member.bare name value).text =
        Utf8.ofChars (quoteChars name) ++ octet ':' :: Utf8.ofChars value.chars := by
      rw [Member.text, ofChars_quoteChars]
      simp [Member.bare, Padded.text_bare]
    rw [memberChars, Utf8.ofChars_append, Utf8.ofChars_append, Utf8.ofChars_append, ofChars_octet (by decide), ih,
      List.map_cons, following_cons, text]
    simp only [List.append_assoc, List.cons_append]
    cases first <;> rfl

theorem readsBack_object {depth : Nat} {members : List (String × Json)}
    (each : ∀ member ∈ members, ReadsBack depth member.2) : ReadsBack (depth + 1) (.object members) := by
  have one : ∀ member ∈ members, MemberReads depth (.bare member.1 member.2) (some member) := by
    intro member mem
    obtain ⟨name, value⟩ := member
    refine @MemberReads.mk depth (.bare name value) (some name) (some value) (fun rest offset => ?_) (each _ mem)
    obtain ⟨stop, read⟩ := readText_escapeChars name rest offset
    rw [Member.bare, read]
    exact .read name stop
  have all : List.Forall₂ (MemberReads depth) (members.map fun member => Member.bare member.1 member.2)
      (members.map some) :=
    List.forall₂_map_left_iff.2 (List.forall₂_map_right_iff.2 (List.forall₂_same.2 one))
  have read := readsAs_object .nil all
  rw [mapM_all, List.map_map] at read
  have text : Utf8.ofChars (chars (.object members)) = braced [] (members.map fun member =>
      (Member.bare member.1 member.2).text) := by
    rw [chars, Utf8.ofChars_append, ofChars_octet (by decide), ofChars_octet (by decide), ofChars_memberChars]
    rfl
  rw [ReadsBack, text]
  exact read

/-! ## Whole documents -/

theorem readsBack {depth : Nat} {value : Json} (within : Within depth value) (free : FloatFree value) :
    ReadsBack depth value := by
  induction within with
  | null depth => exact readsBack_null depth
  | bool depth value => exact readsBack_bool depth value
  | number depth fits =>
    cases free with
    | integer n => exact readsBack_integer depth (fits n rfl)
  | string depth s => exact readsBack_string depth s
  | array _ ih =>
    cases free with
    | array all => exact readsBack_array fun item mem => ih item mem (all item mem)
  | object _ ih =>
    cases free with
    | object all => exact readsBack_object fun member mem => ih member mem (all member mem)

/-- What reads the text of a value reads a tree that is worth this value. -/
theorem decodeWith_text {value : Json} (within : Within maxDepth value) (free : FloatFree value) :
    ∃ tree : Tree, tree.toJson = .ok value ∧ ∀ {α : Type} (read : Tree → Except Fault α),
      decodeWith read (Utf8.bytes value.text) = read tree := by
  have octets : Utf8.bytes value.text = Utf8.ofChars value.chars := Utf8.bytes_ofList _
  have found := (readsBack within free).finds (2 * (Utf8.bytes value.text).length + 2) 0
    (Nat.le_refl _) (by rw [octets]; omega) .nil
  rw [List.append_nil, ← octets] at found
  change Finds Tree.toJson [] (readTree (Utf8.bytes value.text)) (some value) at found
  generalize result : readTree (Utf8.bytes value.text) = read at found
  cases found with
  | read tree stop whole =>
    refine ⟨tree, whole, fun read => ?_⟩
    rw [decodeWith, result]
    -- Nothing is left of the text, so that the value is all that can fail.
    change (read tree >>= fun a => pure a) = read tree
    exact bind_pure (read tree)

/-- A value is what its text is read as, in canonical form. -/
theorem decode?_text {value : Json} (within : Within maxDepth value) (free : FloatFree value) :
    decode? (Utf8.bytes value.text) = some value.canonical := by
  obtain ⟨tree, whole, read⟩ := decodeWith_text within free
  rw [decode?, decode, read, whole]
  rfl

end BusRelay.Json
