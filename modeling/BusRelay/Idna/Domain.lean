import BusRelay.Idna.Mapping
import BusRelay.Idna.Normalization
import BusRelay.Idna.Properties
import BusRelay.Idna.Punycode
/-!
# International domain names

A domain name in ASCII, as it is looked up: letters in lower case and labels with other characters in
Punycode behind `xn--`. A name in ASCII without such a label is only put into lower case. A label is
refused if it holds a character without a rule, starts with a mark, joins letters that do not join or
mixes the directions of writing; one in Punycode also if it is not what would have been written.
-/

namespace BusRelay.Idna

/-- The first characters of a label in Punycode. -/
def aceStart : List Char := ['x', 'n', '-', '-']

/-- A class of a table, with ASCII letters and digits decided apart. -/
def isIn (ranges : List (Nat × Nat)) (c : Char) : Bool := CharRange.contains ranges c

/-- The letter before a non-joiner joins to the letter after it, marks apart. -/
def joinsAcross (before after : List Char) : Bool :=
  let previous := (before.dropWhile (isIn joinTransparent)).head?
  let next := (after.dropWhile (isIn joinTransparent)).head?
  previous.any (isIn joinsNext) && next.any (isIn joinsPrevious)

/-- Joiners and non-joiners stand only where they change the writing. `before` is reversed. -/
def joinersFit : (before : List Char) → List Char → Bool
  | _, [] => true
  | before, c :: rest =>
    let fits :=
      if c = '\u200c' then before.head?.any (isIn viramas) || joinsAcross before rest
      else if c = '\u200d' then before.head?.any (isIn viramas)
      else true
    fits && joinersFit (c :: before) rest

/-- A class of bidirectional text; `left` is every other letter. -/
inductive Direction where
  | left
  | right
  | arabicNumber
  | europeanNumber
  | inside
  | mark
  | other
  deriving DecidableEq

def direction (c : Char) : Direction :=
  if isIn strongRightClass c then .right
  else if isIn arabicNumberClass c then .arabicNumber
  else if isIn europeanNumberClass c then .europeanNumber
  else if isIn weakInsideClass c then .inside
  else if isIn markClass c then .mark
  else if isIn otherClass c then .other
  else .left

/-- The rule for labels in a name that is written from right to left somewhere. -/
def directionsFit (label : List Char) : Bool :=
  let ds := label.map direction
  let last := (ds.reverse.dropWhile (· = .mark)).head?
  match ds.head? with
  | none => true
  | some .right =>
    ds.all (fun d => d ≠ .left && d ≠ .other) &&
      last.any (fun d => d = .right || d = .europeanNumber || d = .arabicNumber) &&
      !(ds.contains .europeanNumber && ds.contains .arabicNumber)
  | some .left =>
    ds.all (fun d => d ≠ .right && d ≠ .arabicNumber && d ≠ .other) &&
      last.any (fun d => d = .left || d = .europeanNumber)
  | some _ => false

/-- Whether a label is written from right to left somewhere. -/
def hasRight (label : List Char) : Bool :=
  label.any fun c => 0x80 ≤ c.toNat && (direction c = .right || direction c = .arabicNumber)

/-- Whether a mapped label may stand in a name. -/
def isLabel (label : List Char) : Bool :=
  !label.head?.any (isIn marks) && joinersFit [] label

/-- The characters of a label: those of Punycode for one behind `xn--`. -/
def readLabel? (label : List Char) : Option (List Char) :=
  if aceStart.isPrefixOf label then
    match Punycode.decode? (label.drop 4) with
    | none => none
    | some decoded =>
      if decoded.all (·.toNat < 0x80) ∨ normalize decoded ≠ decoded ∨
          decoded.any (fun c => if c.toNat < 0x80 then c.isUpper else !isKept c) ∨
          !isLabel decoded then none
      else some decoded
  else if isLabel label then some label
  else none

/-- A label as it is looked up. -/
def writeLabel (label : List Char) : List Char :=
  if label.all (·.toNat < 0x80) then label else aceStart ++ Punycode.encode label

/-- What a character becomes; `none` if it is refused. -/
def mapAny? (c : Char) : Option (List Char) :=
  if c.toNat < 0x80 then some [c.toLower] else mapChar? c

/-- Whether a name in ASCII has no label in Punycode. -/
def isPlain (name : List Char) : Bool :=
  name.all (·.toNat < 0x80) && (name.splitOn '.').all fun l => !aceStart.isPrefixOf (l.map Char.toLower)

/-- The name as it is looked up, whatever ASCII characters it holds. -/
def toAscii? (name : List Char) : Option (List Char) :=
  if isPlain name then some (name.map Char.toLower)
  else
    match name.mapM mapAny? with
    | none => none
    | some mapped =>
      let labels := (normalize mapped.flatten).splitOn '.'
      match labels.mapM readLabel? with
      | none => none
      | some read =>
        if read.any hasRight ∧ !read.all directionsFit then none
        else some (List.intercalate ['.'] (read.map writeLabel))

end BusRelay.Idna
