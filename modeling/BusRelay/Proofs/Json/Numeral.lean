import BusRelay.Proofs.Json.Grammar
import BusRelay.Proofs.Json.Number
/-!
# Numbers of the grammar

What is read of a number of the grammar depends on its text alone: a number or a fault, wherever the text
stands and whatever follows (`readNumber_gives`). Nothing else is read as a number
(`magnitude_of_readNumber`). The digits that no longer fit 64 bits are dropped one at a time, so both
directions rest on how a run of digits is split (`digitsWithin_split`).
-/

namespace BusRelay.Json

open Utf8 (Bytes)

/-- What a reading gives: a value with `rest` left, or a fault if there is no value. -/
inductive Gives {α : Type} (rest : Bytes) : Except Fault (α × Cursor) → Option α → Prop where
  | read (value : α) (stop : Nat) : Gives rest (.ok (value, ⟨rest, stop⟩)) (some value)
  | refused (fault : Fault) : Gives rest (.error fault) none

/-! ## Runs of digits -/

/-- No digit comes next. -/
def EndsDigits (rest : Bytes) : Prop := ∀ b ∈ rest.head?, isDigit b = false

theorem EndsNumber.endsDigits {rest : Bytes} (ends : EndsNumber rest) : EndsDigits rest :=
  fun b mem => (ends b mem).1

theorem endsDigits_cons {b : UInt8} (other : isDigit b = false) (rest : Bytes) : EndsDigits (b :: rest) := by
  intro _ same
  obtain rfl := Option.some.inj same
  exact other

/-- Every text starts with all the digits it starts with. -/
theorem exists_digits (text : Bytes) : ∃ ds rest, text = ds ++ rest ∧ IsDigits ds ∧ EndsDigits rest := by
  induction text with
  | nil => exact ⟨[], [], rfl, .nil, EndsNumber.nil.endsDigits⟩
  | cons b text ih =>
    cases digit : isDigit b with
    | false => exact ⟨[], b :: text, rfl, .nil, endsDigits_cons digit text⟩
    | true =>
      obtain ⟨ds, rest, rfl, digits, ends⟩ := ih
      exact ⟨b :: ds, rest, rfl, List.forall_mem_cons.2 ⟨digit, digits⟩, ends⟩

/-- Of a run of digits those in front are read and those at the back no longer fit. -/
theorem digitsWithin_split (limit : Nat) {ds : Bytes} (digits : IsDigits ds) (n : Nat) :
    ∃ value front back, ds = front ++ back ∧ ∀ rest count offset, EndsDigits rest →
      digitsWithin limit (ds ++ rest) n count offset =
        (value, count + front.length, ⟨back ++ rest, offset + front.length⟩) := by
  -- Whether a digit fits is up to the digits before it, so the split is chosen before what follows.
  induction ds generalizing n with
  | nil =>
    refine ⟨n, [], [], rfl, fun rest count offset ends => ?_⟩
    cases rest with
    | nil => rfl
    | cons b rest => simp [digitsWithin, ends b rfl]
  | cons d ds ih =>
    obtain ⟨digit, digits⟩ := List.forall_mem_cons.1 digits
    by_cases fits : 10 * n + digitValue d ≤ limit
    · obtain ⟨value, front, back, rfl, split⟩ := ih digits (10 * n + digitValue d)
      refine ⟨value, d :: front, back, rfl, fun rest count offset ends => ?_⟩
      rw [List.cons_append, digitsWithin, if_pos (by simp [digit, fits]), split rest _ _ ends]
      simp [Nat.add_comm, Nat.add_left_comm]
    · refine ⟨n, [], d :: ds, rfl, fun rest count offset _ => ?_⟩
      rw [List.cons_append, digitsWithin, if_neg (by simp [fits])]
      rfl

theorem skipDigits_digits {ds : Bytes} (digits : IsDigits ds) {rest : Bytes} (ends : EndsDigits rest)
    (count offset : Nat) :
    skipDigits (ds ++ rest) count offset = (count + ds.length, ⟨rest, offset + ds.length⟩) := by
  induction ds generalizing count offset with
  | nil =>
    cases rest with
    | nil => rfl
    | cons b rest => simp [skipDigits, ends b rfl]
  | cons d ds ih =>
    obtain ⟨digit, digits⟩ := List.forall_mem_cons.1 digits
    rw [List.cons_append, skipDigits, if_pos digit, ih digits]
    simp [Nat.add_comm, Nat.add_left_comm]

/-! ## Powers of ten -/

/-- The sign of a power of ten, and what follows it. -/
def powerSign (c : Cursor) : Bool × Cursor :=
  match c.rest with
  | b :: rest =>
    if b = octet '+' then (true, ⟨rest, c.offset + 1⟩)
    else if b = octet '-' then (false, ⟨rest, c.offset + 1⟩) else (true, c)
  | [] => (true, c)

/-- Whether another digit follows. -/
def moreDigits (rest : Bytes) : Bool :=
  match rest with
  | d :: _ => isDigit d
  | [] => false

theorem moreDigits_eq_false {rest : Bytes} (ends : EndsDigits rest) : moreDigits rest = false := by
  cases rest with
  | nil => rfl
  | cons b rest => exact ends b rfl

/-- What the digits of a power of ten make of a number. -/
def scaled (negative : Bool) (digits : Nat) (power : Int) (positive : Bool) (written : Nat) (after : Cursor) :
    Except Fault (Number × Cursor) :=
  if moreDigits after.rest then
    if digits ≠ 0 && positive then .error (after.faultAhead .numberOutOfRange)
    else .ok (.float (.zero negative), (skipDigits after.rest 0 after.offset).2)
  else floatFrom negative digits (if positive then power + written else power - written) after

/-- The power of ten after its sign. -/
def readPowerDigits (negative : Bool) (digits : Nat) (power : Int) (positive : Bool) (c : Cursor) :
    Except Fault (Number × Cursor) :=
  match c.rest with
  | [] => .error (c.fault .endInValue)
  | b :: _ =>
    if !isDigit b then .error (c.faultAhead .invalidNumber)
    else
      let (written, _, after) := digitsWithin (Nat.pow 2 31 - 1) c.rest 0 0 c.offset
      scaled negative digits power positive written after

theorem readPower_eq (negative : Bool) (digits : Nat) (power : Int) (c : Cursor) :
    readPower negative digits power c = readPowerDigits negative digits power (powerSign c).1 (powerSign c).2 := rfl

section

variable (negative : Bool) (digits : Nat) (power : Int)

theorem floatFrom_gives (rest : Bytes) (offset : Nat) :
    Gives rest (floatFrom negative digits power ⟨rest, offset⟩)
      ((fromParts digits power).map fun x => .float (if negative then x.neg else x)) := by
  rw [floatFrom]
  cases fromParts digits power with
  | none => exact .refused _
  | some x => exact .read _ offset

theorem scaled_gives (positive : Bool) (written : Nat) {back : Bytes} (digits_ : IsDigits back) :
    ∃ number?, ∀ rest offset, EndsDigits rest →
      Gives rest (scaled negative digits power positive written ⟨back ++ rest, offset⟩) number? := by
  cases back with
  | nil =>
    refine ⟨(fromParts digits (if positive then power + written else power - written)).map
      fun x => .float (if negative then x.neg else x), fun rest offset ends => ?_⟩
    rw [List.nil_append, scaled, moreDigits_eq_false ends]
    exact floatFrom_gives negative digits _ rest offset
  | cons b back =>
    have long (rest : Bytes) : moreDigits (b :: back ++ rest) = true := digits_ b List.mem_cons_self
    cases large : (decide (digits ≠ 0) && positive) with
    | true =>
      refine ⟨none, fun rest offset _ => ?_⟩
      rw [scaled, long, if_pos rfl, if_pos large]
      exact .refused _
    | false =>
      refine ⟨some (.float (.zero negative)), fun rest offset ends => ?_⟩
      rw [scaled, long, if_pos rfl, large, skipDigits_digits digits_ ends]
      exact .read _ _

theorem readPowerDigits_gives (positive : Bool) {d : UInt8} {more : Bytes} (written : IsDigits (d :: more)) :
    ∃ number?, ∀ rest offset, EndsDigits rest →
      Gives rest (readPowerDigits negative digits power positive ⟨d :: more ++ rest, offset⟩) number? := by
  have digit : isDigit d = true := written d List.mem_cons_self
  obtain ⟨value, front, back, whole, split⟩ := digitsWithin_split (Nat.pow 2 31 - 1) written 0
  have digits_ : IsDigits back := fun b mem => written b (whole ▸ List.mem_append_right front mem)
  obtain ⟨number?, gives⟩ := scaled_gives negative digits power positive value digits_
  refine ⟨number?, fun rest offset ends => ?_⟩
  have read : readPowerDigits negative digits power positive ⟨d :: more ++ rest, offset⟩ =
      scaled negative digits power positive value ⟨back ++ rest, offset + front.length⟩ := by
    have none_ : (!isDigit d) = false := by rw [digit]; rfl
    have here := split rest 0 offset ends
    rw [List.cons_append] at here ⊢
    simp only [readPowerDigits, none_, here]
    rfl
  rw [read]
  exact gives rest _ ends

theorem powerSign_sign {positive : Bool} {sign : Bytes} (signed : IsSign positive sign) {d : UInt8}
    (digit : isDigit d = true) (text : Bytes) (offset : Nat) :
    powerSign ⟨sign ++ d :: text, offset⟩ = (positive, ⟨d :: text, offset + sign.length⟩) := by
  have other {c : Char} (mark : isDigit (octet c) = false) : d ≠ octet c := by
    rintro rfl
    rw [mark] at digit
    cases digit
  cases signed with
  | none => simp [powerSign, other (c := '+') (by decide), other (c := '-') (by decide)]
  | plus => rfl
  | minus => rfl

theorem readPower_gives {positive : Bool} {sign : Bytes} (signed : IsSign positive sign) {d : UInt8} {more : Bytes}
    (written : IsDigits (d :: more)) : ∃ number?, ∀ rest offset, EndsDigits rest →
      Gives rest (readPower negative digits power ⟨sign ++ d :: more ++ rest, offset⟩) number? := by
  obtain ⟨number?, gives⟩ := readPowerDigits_gives negative digits power positive written
  refine ⟨number?, fun rest offset ends => ?_⟩
  rw [readPower_eq, List.append_assoc, List.cons_append, powerSign_sign signed (written d List.mem_cons_self)]
  exact gives rest _ ends

theorem readPowerOrEnd_gives {text : Bytes} (scale : IsPower text) : ∃ number?, ∀ rest offset, EndsNumber rest →
    Gives rest (readPowerOrEnd negative digits power ⟨text ++ rest, offset⟩) number? := by
  cases scale with
  | none =>
    refine ⟨(fromParts digits power).map fun x => .float (if negative then x.neg else x),
      fun rest offset ends => ?_⟩
    have read : readPowerOrEnd negative digits power ⟨rest, offset⟩ =
        floatFrom negative digits power ⟨rest, offset⟩ := by
      cases rest with
      | nil => rfl
      | cons b rest =>
        obtain ⟨-, -, small, large⟩ := ends b rfl
        simp [readPowerOrEnd, small, large]
    rw [List.nil_append, read]
    exact floatFrom_gives negative digits power rest offset
  | @mark e positive sign d more mark signed written =>
    obtain ⟨number?, gives⟩ := readPower_gives negative digits power signed written
    refine ⟨number?, fun rest offset ends => ?_⟩
    have read : readPowerOrEnd negative digits power ⟨e :: (sign ++ d :: more ++ rest), offset⟩ =
        readPower negative digits power ⟨sign ++ d :: more ++ rest, offset + 1⟩ := by
      rcases mark with rfl | rfl <;> rfl
    rw [List.cons_append, read]
    exact gives rest _ ends.endsDigits

end

/-! ## Fractions -/

theorem endsDigits_power {text : Bytes} (scale : IsPower text) {rest : Bytes} (ends : EndsNumber rest) :
    EndsDigits (text ++ rest) := by
  cases scale with
  | none => exact ends.endsDigits
  | mark mark =>
    refine endsDigits_cons ?_ _
    rcases mark with rfl | rfl <;> decide

/-- Digits after a point only shift the power of ten. -/
theorem readFraction_digits (negative : Bool) (digits : Nat) (power : Int) {d : UInt8} {more : Bytes}
    (written : IsDigits (d :: more)) : ∃ value count, ∀ rest offset, EndsDigits rest → ∃ start,
      readFraction negative digits power ⟨d :: more ++ rest, offset⟩ =
        readPowerOrEnd negative value (power - (count : Nat)) ⟨rest, start⟩ := by
  obtain ⟨value, front, back, whole, split⟩ := digitsWithin_split maxNatural written digits
  have digits_ : IsDigits back := fun b mem => written b (whole ▸ List.mem_append_right front mem)
  refine ⟨value, front.length, fun rest offset ends => ?_⟩
  simp only [readFraction, split rest 0 offset ends, Nat.zero_add]
  cases back with
  | nil =>
    have some_ : front.length ≠ 0 := by
      rintro none_
      rw [List.length_eq_zero_iff.1 none_] at whole
      cases whole
    refine ⟨offset + front.length, ?_⟩
    cases rest with
    | nil => simp only [List.nil_append, if_neg some_]; rfl
    | cons b rest => simp only [List.nil_append, ends b rfl, if_neg some_, Bool.false_eq_true, if_false]
  | cons b back =>
    refine ⟨offset + front.length + (b :: back).length, ?_⟩
    have digit : isDigit b = true := digits_ b List.mem_cons_self
    have skip := skipDigits_digits digits_ ends 0 (offset + front.length)
    rw [List.cons_append] at skip ⊢
    simp only [digit, if_true, skip]

/-! ## Whole numbers -/

/-- What follows the digits before the point: a fraction or none, and a power of ten or none. -/
theorem readNumberTail_gives (negative : Bool) (digits dropped : Nat) {fraction power : Bytes}
    (part : IsFraction fraction) (scale : IsPower power) : ∃ number?, ∀ rest offset, EndsNumber rest →
      Gives rest (readNumberTail negative digits dropped ⟨fraction ++ (power ++ rest), offset⟩) number? := by
  cases part with
  | @point d more written =>
    obtain ⟨value, count, read⟩ := readFraction_digits negative digits dropped written
    obtain ⟨number?, gives⟩ := readPowerOrEnd_gives negative value (dropped - (count : Nat)) scale
    refine ⟨number?, fun rest offset ends => ?_⟩
    obtain ⟨start, same⟩ := read (power ++ rest) (offset + 1) (endsDigits_power scale ends)
    have tail : readNumberTail negative digits dropped ⟨octet '.' :: (d :: more ++ (power ++ rest)), offset⟩ =
        readFraction negative digits dropped ⟨d :: more ++ (power ++ rest), offset + 1⟩ := rfl
    rw [List.cons_append, tail, same]
    exact gives rest start ends
  | none =>
    cases scale with
    | @mark e positive sign d more mark signed written =>
      obtain ⟨number?, gives⟩ := readPower_gives negative digits dropped signed written
      refine ⟨number?, fun rest offset ends => ?_⟩
      have tail : readNumberTail negative digits dropped ⟨e :: (sign ++ d :: more ++ rest), offset⟩ =
          readPower negative digits dropped ⟨sign ++ d :: more ++ rest, offset + 1⟩ := by
        rcases mark with rfl | rfl <;> rfl
      rw [List.nil_append, List.cons_append, tail]
      exact gives rest _ ends.endsDigits
    | none =>
      cases dropped with
      | zero =>
        refine ⟨some (whole negative digits), fun rest offset ends => ?_⟩
        rw [List.nil_append, List.nil_append, readNumberTail_whole negative digits ends]
        exact .read _ offset
      | succ dropped =>
        refine ⟨(fromParts digits (dropped + 1 : Nat)).map fun x => .float (if negative then x.neg else x),
          fun rest offset ends => ?_⟩
        have tail : readNumberTail negative digits (dropped + 1) ⟨rest, offset⟩ =
            floatFrom negative digits (dropped + 1 : Nat) ⟨rest, offset⟩ := by
          cases rest with
          | nil => rfl
          | cons b rest =>
            obtain ⟨-, point, small, large⟩ := ends b rfl
            simp [readNumberTail, point, small, large]
        rw [List.nil_append, List.nil_append, tail]
        exact floatFrom_gives negative digits _ rest offset

theorem endsDigits_fraction {fraction power : Bytes} (part : IsFraction fraction) (scale : IsPower power)
    {rest : Bytes} (ends : EndsNumber rest) : EndsDigits (fraction ++ (power ++ rest)) := by
  cases part with
  | none => exact endsDigits_power scale ends
  | point => exact endsDigits_cons (by decide) _

/-- A number is read, or refused, wherever it stands and whatever follows. -/
theorem readNumber_gives (negative : Bool) {text : Bytes} (magnitude : IsMagnitude text) :
    ∃ number?, ∀ rest offset, EndsNumber rest →
      Gives rest (readNumber negative ⟨text ++ rest, offset⟩) number? := by
  obtain @⟨whole, fraction, power, start, part, scale⟩ := magnitude
  cases start with
  | zero =>
    obtain ⟨number?, gives⟩ := readNumberTail_gives negative 0 0 part scale
    refine ⟨number?, fun rest offset ends => ?_⟩
    have other := endsDigits_fraction part scale ends
    have gives := gives rest (offset + 1) ends
    rw [List.append_assoc, List.append_assoc]
    change Gives rest (readNumber negative ⟨octet '0' :: (fraction ++ (power ++ rest)), offset⟩) number?
    generalize fraction ++ (power ++ rest) = tail at other gives ⊢
    cases tail with
    | nil => exact gives
    | cons b tail =>
      simp only [readNumber, if_pos, other b rfl]
      exact gives
  | @digits d more nonzero written =>
    obtain ⟨value, front, back, whole, split⟩ := digitsWithin_split maxNatural written 0
    have digits_ : IsDigits back := fun b mem => written b (whole ▸ List.mem_append_right front mem)
    have digit : isDigit d = true := written d List.mem_cons_self
    obtain ⟨number?, gives⟩ := readNumberTail_gives negative value (0 + back.length) part scale
    refine ⟨number?, fun rest offset ends => ?_⟩
    have other := endsDigits_fraction part scale ends
    have read := split _ 0 offset other
    rw [List.append_assoc, List.append_assoc]
    rw [List.cons_append] at read ⊢
    simp only [readNumber, if_neg nonzero, digit, if_true, read, skipDigits_digits digits_ other]
    exact gives rest _ ends

/-! ## Nothing else is a number -/

theorem digitsWithin_taken (limit : Nat) (text : Bytes) (n count offset : Nat) : ∃ ds, IsDigits ds ∧
    text = ds ++ (digitsWithin limit text n count offset).2.2.rest ∧
      (digitsWithin limit text n count offset).2.1 = count + ds.length := by
  obtain ⟨ds, rest, rfl, digits, ends⟩ := exists_digits text
  obtain ⟨value, front, back, rfl, split⟩ := digitsWithin_split limit digits n
  rw [split rest count offset ends]
  exact ⟨front, fun b mem => digits b (List.mem_append_left back mem), List.append_assoc front back rest, rfl⟩

/-- One digit always fits. -/
theorem digitsWithin_first {limit : Nat} (large : 9 ≤ limit) {d : UInt8} (digit : isDigit d = true) (text : Bytes)
    (offset : Nat) : digitsWithin limit (d :: text) 0 0 offset =
      digitsWithin limit text (digitValue d) 1 (offset + 1) := by
  have range := isDigit_iff.1 digit
  have fits : 10 * 0 + digitValue d ≤ limit := by
    rw [digitValue]
    omega
  rw [digitsWithin, if_pos (by rw [digit, Bool.true_and]; exact decide_eq_true fits), Nat.mul_zero, Nat.zero_add]

theorem skipDigits_taken (text : Bytes) (count offset : Nat) : ∃ ds, IsDigits ds ∧
    text = ds ++ (skipDigits text count offset).2.rest := by
  obtain ⟨ds, rest, rfl, digits, ends⟩ := exists_digits text
  rw [skipDigits_digits digits ends]
  exact ⟨ds, digits, rfl⟩

theorem IsDigits.append {ds es : Bytes} (first : IsDigits ds) (second : IsDigits es) : IsDigits (ds ++ es) :=
  List.forall_mem_append.2 ⟨first, second⟩

section

variable {negative : Bool} {digits : Nat} {power : Int} {c after : Cursor} {number : Number}

theorem rest_of_floatFrom (read : floatFrom negative digits power c = .ok (number, after)) : after = c := by
  rw [floatFrom] at read
  split at read
  · cases read
  · cases read
    rfl

theorem rest_of_scaled {positive : Bool} {written : Nat}
    (read : scaled negative digits power positive written c = .ok (number, after)) :
    ∃ ds, IsDigits ds ∧ c.rest = ds ++ after.rest := by
  rw [scaled] at read
  split at read
  · split at read
    · cases read
    · cases read
      exact skipDigits_taken c.rest 0 c.offset
  · obtain rfl := rest_of_floatFrom read
    exact ⟨[], .nil, rfl⟩

theorem rest_of_readPowerDigits {positive : Bool}
    (read : readPowerDigits negative digits power positive c = .ok (number, after)) :
    ∃ d more, IsDigits (d :: more) ∧ c.rest = d :: more ++ after.rest := by
  rw [readPowerDigits] at read
  split at read
  · cases read
  rename_i d text start
  split at read
  · cases read
  rename_i digit
  have digit : isDigit d = true := by simpa using digit
  rw [start, digitsWithin_first (by decide) digit] at read
  obtain ⟨front, isFront, taken, -⟩ := digitsWithin_taken (Nat.pow 2 31 - 1) text (digitValue d) 1 (c.offset + 1)
  obtain ⟨back, isBack, left⟩ := rest_of_scaled read
  refine ⟨d, front ++ back, List.forall_mem_cons.2 ⟨digit, isFront.append isBack⟩, ?_⟩
  rw [start, taken, left, List.cons_append, List.append_assoc]

theorem rest_of_readPower (read : readPower negative digits power c = .ok (number, after)) :
    ∃ positive sign d more, IsSign positive sign ∧ IsDigits (d :: more) ∧
      c.rest = sign ++ d :: more ++ after.rest := by
  rw [readPower_eq] at read
  obtain ⟨d, more, written, left⟩ := rest_of_readPowerDigits read
  have signed : ∃ positive sign, IsSign positive sign ∧ c.rest = sign ++ (powerSign c).2.rest := by
    rw [powerSign]
    split
    · rename_i b rest start
      split
      · rename_i plus
        exact ⟨true, [octet '+'], .plus, by rw [start, plus]; rfl⟩
      · split
        · rename_i minus
          exact ⟨false, [octet '-'], .minus, by rw [start, minus]; rfl⟩
        · exact ⟨true, [], .none, rfl⟩
    · exact ⟨true, [], .none, rfl⟩
  obtain ⟨positive, sign, signed, whole⟩ := signed
  exact ⟨positive, sign, d, more, signed, written, by rw [whole, left, List.append_assoc]⟩

theorem power_of_readPower {e : UInt8} {text : Bytes} {offset : Nat} (mark : e = octet 'e' ∨ e = octet 'E')
    (read : readPower negative digits power ⟨text, offset⟩ = .ok (number, after)) :
    ∃ scale, IsPower scale ∧ e :: text = scale ++ after.rest := by
  obtain ⟨positive, sign, d, more, signed, written, left⟩ := rest_of_readPower read
  exact ⟨e :: (sign ++ d :: more), .mark mark signed written, by rw [List.cons_append, ← left]⟩

theorem rest_of_readPowerOrEnd (read : readPowerOrEnd negative digits power c = .ok (number, after)) :
    ∃ scale, IsPower scale ∧ c.rest = scale ++ after.rest := by
  rw [readPowerOrEnd] at read
  split at read
  · rename_i b rest start
    split at read
    · rename_i mark
      rw [start]
      exact power_of_readPower (by simpa using mark) read
    · obtain rfl := rest_of_floatFrom read
      exact ⟨[], .none, rfl⟩
  · obtain rfl := rest_of_floatFrom read
    exact ⟨[], .none, rfl⟩

theorem rest_of_readFraction (read : readFraction negative digits power c = .ok (number, after)) :
    ∃ d more scale, IsDigits (d :: more) ∧ IsPower scale ∧ c.rest = d :: more ++ (scale ++ after.rest) := by
  obtain ⟨front, isFront, taken, count⟩ := digitsWithin_taken maxNatural c.rest digits 0 c.offset
  rw [Nat.zero_add] at count
  simp only [readFraction, count] at read
  -- Some digit is read or dropped.
  have done (back : Bytes) {scale : Bytes} (some_ : front ++ back ≠ []) (isBack : IsDigits back)
      (isPower : IsPower scale)
      (left : (digitsWithin maxNatural c.rest digits 0 c.offset).2.2.rest = back ++ (scale ++ after.rest)) :
      ∃ d more scale, IsDigits (d :: more) ∧ IsPower scale ∧ c.rest = d :: more ++ (scale ++ after.rest) := by
    obtain ⟨d, more, all⟩ := List.exists_cons_of_ne_nil some_
    refine ⟨d, more, scale, all ▸ isFront.append isBack, isPower, ?_⟩
    rw [taken, left, ← all, List.append_assoc]
  have front_ne (counted : ¬ front.length = 0) : front ++ [] ≠ [] := by
    rw [List.append_nil]
    exact fun none_ => counted (List.length_eq_zero_iff.2 none_)
  split at read
  · split at read
    · cases read
    · rename_i counted
      obtain rfl := rest_of_floatFrom read
      exact done [] (front_ne counted) .nil .none rfl
  · rename_i b rest start
    split at read
    · rename_i digit
      rw [start, skipDigits, if_pos digit] at read
      obtain ⟨scale, isPower, left⟩ := rest_of_readPowerOrEnd read
      obtain ⟨more, isMore, skipped⟩ := skipDigits_taken rest (0 + 1)
        ((digitsWithin maxNatural c.rest digits 0 c.offset).2.2.offset + 1)
      refine done (b :: more) (by simp) (List.forall_mem_cons.2 ⟨digit, isMore⟩) isPower ?_
      rw [start, List.cons_append, ← left, ← skipped]
    · split at read
      · cases read
      · rename_i counted
        obtain ⟨scale, isPower, left⟩ := rest_of_readPowerOrEnd read
        exact done [] (front_ne counted) .nil isPower left

theorem rest_of_readNumberTail {dropped : Nat}
    (read : readNumberTail negative digits dropped c = .ok (number, after)) :
    ∃ fraction scale, IsFraction fraction ∧ IsPower scale ∧ c.rest = fraction ++ (scale ++ after.rest) := by
  have end_ (done : (if dropped ≠ 0 then floatFrom negative digits dropped c
      else if !negative then .ok (.integer digits, c)
      else if digits = 0 || Nat.pow 2 63 < digits then
        .ok (.float ((Binary64.ofNat digits).getD (.zero false)).neg, c)
      else .ok (.integer (-digits), c)) = Except.ok (number, after)) : after = c := by
    split at done
    · exact rest_of_floatFrom done
    · split at done
      · cases done
        rfl
      · split at done <;> cases done <;> rfl
  rw [readNumberTail] at read
  split at read
  · rename_i b rest start
    split at read
    · rename_i point
      obtain ⟨d, more, scale, written, isPower, left⟩ := rest_of_readFraction read
      refine ⟨octet '.' :: d :: more, scale, .point written, isPower, ?_⟩
      rw [start, point, List.cons_append, ← left]
    · split at read
      · rename_i mark
        obtain ⟨scale, isPower, left⟩ := power_of_readPower (e := b) (by simpa using mark) read
        exact ⟨[], scale, .none, isPower, by rw [start, left]; rfl⟩
      · obtain rfl := end_ read
        exact ⟨[], [], .none, .none, rfl⟩
  · obtain rfl := end_ read
    exact ⟨[], [], .none, .none, rfl⟩

/-- What is read as a number is one of the grammar. -/
theorem magnitude_of_readNumber (read : readNumber negative c = .ok (number, after)) :
    ∃ text, IsMagnitude text ∧ c.rest = text ++ after.rest := by
  have done {digits dropped : Nat} {whole : Bytes} {c' : Cursor} (isWhole : IsWhole whole)
      (same : c.rest = whole ++ c'.rest) (read : readNumberTail negative digits dropped c' = .ok (number, after)) :
      ∃ text, IsMagnitude text ∧ c.rest = text ++ after.rest := by
    obtain ⟨fraction, scale, isFraction, isPower, left⟩ := rest_of_readNumberTail read
    refine ⟨_, .mk isWhole isFraction isPower, ?_⟩
    rw [same, left, List.append_assoc, List.append_assoc]
  rw [readNumber] at read
  split at read
  · cases read
  rename_i b rest start
  split at read
  · rename_i zero
    have same : c.rest = [octet '0'] ++ (⟨rest, c.offset + 1⟩ : Cursor).rest := by
      rw [start, zero]
      rfl
    split at read
    · split at read
      · cases read
      · exact done .zero same read
    · exact done .zero same read
  · rename_i nonzero
    split at read
    · rename_i digit
      rw [start, digitsWithin_first (by decide) digit] at read
      obtain ⟨front, isFront, taken, -⟩ := digitsWithin_taken maxNatural rest (digitValue b) 1 (c.offset + 1)
      obtain ⟨back, isBack, skipped⟩ := skipDigits_taken
        (digitsWithin maxNatural rest (digitValue b) 1 (c.offset + 1)).2.2.rest 0
        (digitsWithin maxNatural rest (digitValue b) 1 (c.offset + 1)).2.2.offset
      have all : IsDigits (b :: (front ++ back)) := List.forall_mem_cons.2 ⟨digit, isFront.append isBack⟩
      refine done (.digits nonzero all) ?_ read
      rw [start, List.cons_append, List.append_assoc, ← skipped, ← taken]
    · cases read

end

end BusRelay.Json
