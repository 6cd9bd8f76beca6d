import BusRelay.Decimal.Binary64
/-!
# Shortest decimals

The fewest decimal digits that read back as a given binary number and, of those, the ones nearest
to it. The decimals that read back form an interval around the number whose ends belong to it
exactly when the mantissa is even.
-/

namespace BusRelay.Shortest

/-- The decimal number `digits · 10 ^ exponent`. -/
structure Decimal where
  digits : Nat
  exponent : Int
  deriving DecidableEq, Repr

/-- The number of decimal digits of a natural number. -/
def width (n : Nat) : Nat := (Nat.toDigits 10 n).length

/-- `num / den` times `10 ^ (-p)`, as a quotient. -/
def gridRatio (num den : Nat) (p : Int) : Nat × Nat :=
  if 0 ≤ p then (num, den * Nat.pow 10 p.toNat) else (num * Nat.pow 10 (-p).toNat, den)

/-- The power of ten of the first digit of `num / den`, for a quotient of at least 10^-324. -/
def leadingPower (num den : Nat) : Int := (width (num * Nat.pow 10 324 / den) : Int) - 325

/-- The ends of the interval that reads back as the number, in quarters of its last bit. -/
def interval (x : Binary64) : Nat × Nat :=
  let atBoundary := x.mantissa = Nat.pow 2 52 ∧ Binary64.minExponent < x.exponent
  (4 * x.mantissa - if atBoundary then 1 else 2, 4 * x.mantissa + 2)

/-- Whether `digits · 10 ^ p` reads back as the number. -/
def readsBack (x : Binary64) (digits : Nat) (p : Int) : Bool :=
  let (low, high) := interval x
  let (unit, den) := ({ x with mantissa := 1 } : Binary64).ratio
  -- compare 4 · digits · 10^p with low and high times unit / den
  let (num, gridDen) := if 0 ≤ p then (4 * digits * Nat.pow 10 p.toNat * den, 1)
    else (4 * digits * den, Nat.pow 10 (-p).toNat)
  let lowEnd := low * unit * gridDen
  let highEnd := high * unit * gridDen
  if x.mantissa % 2 = 0 then lowEnd ≤ num && num ≤ highEnd else lowEnd < num && num < highEnd

/-- The point of the grid of step `10 ^ p` next to the number that reads back, if one does: of two,
the nearer one. -/
def onGrid (x : Binary64) (p : Int) : Option Nat :=
  let (num, den) := x.ratio
  let (n, d) := gridRatio num den p
  let below := n / d
  let above := below + 1
  match readsBack x below p, readsBack x above p with
  | true, false => some below
  | false, true => some above
  | true, true => some (if 2 * (n % d) < d || (2 * (n % d) == d && below % 2 == 0) then below else above)
  | false, false => none

/-- The first grid with a hit, from the coarsest of `fuel` grids on. -/
def search (x : Binary64) : (fuel : Nat) → (p : Int) → Decimal
  | 0, p => ⟨(onGrid x p).getD 0, p⟩
  | fuel + 1, p => match onGrid x p with
    | some d => ⟨d, p⟩
    | none => search x fuel (p - 1)

/-- Takes zeros off the end of the digits. -/
def trim : (fuel : Nat) → Decimal → Decimal
  | 0, d => d
  | fuel + 1, d =>
    if d.digits ≠ 0 ∧ d.digits % 10 = 0 then trim fuel ⟨d.digits / 10, d.exponent + 1⟩ else d

/-- The shortest decimal of the number's magnitude. -/
def ofBinary (x : Binary64) : Decimal :=
  if x.isZero then ⟨0, 0⟩
  else
    let (num, den) := x.ratio
    trim 20 (search x 17 (leadingPower num den))

end BusRelay.Shortest
