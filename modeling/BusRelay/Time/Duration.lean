/-!
# Durations

A length of time in nanoseconds, at most 2^64 seconds less one nanosecond. In diagnostics a duration
is written in the greatest unit that it fills, with the digits of its fraction.
-/

namespace BusRelay

/-- A length of time. -/
structure Duration where
  nanoseconds : Nat
  deriving DecidableEq, Repr

namespace Duration

/-- The longest duration. -/
def max : Duration := ⟨Nat.pow 2 64 * Nat.pow 10 9 - 1⟩

def ofMilliseconds (n : Nat) : Duration := ⟨n * Nat.pow 10 6⟩

def ofSeconds (n : Nat) : Duration := ⟨n * Nat.pow 10 9⟩

/-- Whole seconds. -/
def seconds (d : Duration) : Nat := d.nanoseconds / Nat.pow 10 9

/-- Whole milliseconds. -/
def milliseconds (d : Duration) : Nat := d.nanoseconds / Nat.pow 10 6

/-- Twice as long, or the longest duration. -/
def doubled (d : Duration) : Duration :=
  if 2 * d.nanoseconds ≤ max.nanoseconds then ⟨2 * d.nanoseconds⟩ else max

/-- The digits of a fraction of `places` places, without zeros at the end. -/
def fraction (places n : Nat) : List Char :=
  let ds := Nat.toDigits 10 n
  ((List.replicate (places - ds.length) '0' ++ ds).reverse.dropWhile (· = '0')).reverse

/-- A count of units of `10 ^ places` nanoseconds. -/
def inUnit (places nanoseconds : Nat) (unit : List Char) : String :=
  let whole := Nat.toDigits 10 (nanoseconds / Nat.pow 10 places)
  let part := fraction places (nanoseconds % Nat.pow 10 places)
  String.ofList (whole ++ (if part = [] then [] else '.' :: part) ++ unit)

/-- The duration in diagnostics. -/
def text (d : Duration) : String :=
  if Nat.pow 10 9 ≤ d.nanoseconds then inUnit 9 d.nanoseconds ['s']
  else if Nat.pow 10 6 ≤ d.nanoseconds then inUnit 6 d.nanoseconds ['m', 's']
  else if Nat.pow 10 3 ≤ d.nanoseconds then inUnit 3 d.nanoseconds ['µ', 's']
  else inUnit 0 d.nanoseconds ['n', 's']

end Duration

end BusRelay
