import BusRelay.Idna.Decomposition
/-!
# Normalization form C

Characters are decomposed, marks are put in the order of their combining classes, and what composes
is composed again. Hangul syllables are computed.
-/

namespace BusRelay.Idna

/-- The first Hangul syllable and the first leading, vowel and trailing letters. -/
def hangulBase : Nat := 0xAC00

def leadingBase : Nat := 0x1100

def vowelBase : Nat := 0x1161

def trailingBase : Nat := 0x11A7

/-- The letters of a Hangul syllable. -/
def hangulLetters (n : Nat) : List Nat :=
  let i := n - hangulBase
  let letters := [leadingBase + i / 588, vowelBase + i % 588 / 28]
  if i % 28 = 0 then letters else letters ++ [trailingBase + i % 28]

/-- The full decomposition of a code point. -/
def decompose : (fuel : Nat) → Nat → List Nat
  | 0, n => [n]
  | fuel + 1, n =>
    if n < 0xC0 then [n]
    else if hangulBase ≤ n ∧ n < hangulBase + 11172 then hangulLetters n
    else match decompositions.find? (·.whole = n) with
      | some d => d.pieces.flatMap (decompose fuel)
      | none => [n]

/-- Puts a mark before the marks of greater classes at the end of the text, which is reversed. -/
def placeMark (n cls : Nat) : List Nat → List Nat
  | [] => [n]
  | last :: before =>
    if cls ≠ 0 ∧ cls < combiningClass last then last :: placeMark n cls before
    else n :: last :: before

/-- The marks in the order of their classes. -/
def orderMarks (s : List Nat) : List Nat :=
  (s.foldl (fun acc n => placeMark n (combiningClass n) acc) []).reverse

/-- What two code points compose to. -/
def composePair? (a b : Nat) : Option Nat :=
  if leadingBase ≤ a ∧ a < leadingBase + 19 ∧ vowelBase ≤ b ∧ b < vowelBase + 21 then
    some (hangulBase + ((a - leadingBase) * 21 + (b - vowelBase)) * 28)
  else if hangulBase ≤ a ∧ a < hangulBase + 11172 ∧ (a - hangulBase) % 28 = 0 ∧
      trailingBase < b ∧ b < trailingBase + 28 then
    some (a + (b - trailingBase))
  else (decompositions.find? fun d => d.composes && d.pieces = [a, b]).map (·.whole)

/-- The text so far: the last starter with what stands before it, reversed, and the marks after it,
reversed. -/
structure Composer where
  before : List Nat
  starter : Option Nat
  marks : List Nat

def Composer.toList (s : Composer) : List Nat :=
  s.before.reverse ++ s.starter.toList ++ s.marks.reverse

/-- Takes the next code point: it composes with the starter unless something stands between. -/
def Composer.next (s : Composer) (n : Nat) : Composer :=
  let cls := combiningClass n
  let free := match s.marks with
    | [] => true
    | last :: _ => let lastClass := combiningClass last; lastClass < cls && lastClass ≠ 0
  match if free then s.starter.bind (composePair? · n) else none with
  | some whole => { s with starter := some whole }
  | none =>
    if cls = 0 then ⟨s.marks ++ s.starter.toList ++ s.before, some n, []⟩
    else { s with marks := n :: s.marks }

/-- The text in normalization form C. -/
def normalize (s : List Char) : List Char :=
  if s.all (·.toNat < 0x300) then s
  else
    let ordered := orderMarks (s.flatMap fun c => decompose 8 c.toNat)
    ((ordered.foldl Composer.next ⟨[], none, []⟩).toList).map Char.ofNat

end BusRelay.Idna
