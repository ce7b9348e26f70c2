import Switchboard.Text.Digits

namespace Switchboard.Text

/-!
# Shortest decimals

The decimal text of a double: of the decimals that round to it those with the
fewest digits, of these the nearest, and of two equally near ones the greater.
The text never has an exponent.
-/

/--
The reals around a double that round to it, as multiples of one over `unit`: the
double itself is `middle`, and the ends count as inside where `inclusive` says so.
-/
structure RoundingInterval where
  low : Nat
  middle : Nat
  high : Nat
  unit : Nat
  inclusive : Bool
  deriving Repr

namespace RoundingInterval

/--
The interval of a significand and a power of two.  The gap below a power of two is
half as wide as the one above.
-/
def ofBinary (significand : Nat) (exponent : Int) (narrowBelow : Bool) : RoundingInterval where
  low := (4 * significand - if narrowBelow then 1 else 2) * 2 ^ (exponent - 2).toNat
  middle := 4 * significand * 2 ^ (exponent - 2).toNat
  high := (4 * significand + 2) * 2 ^ (exponent - 2).toNat
  unit := 2 ^ (2 - exponent).toNat
  inclusive := significand % 2 == 0

/-- The interval of the magnitude of a finite double, from its bits. -/
def ofBits (bits : UInt64) : RoundingInterval :=
  let exponent := ((bits >>> 52) &&& 0x7FF).toNat
  let fraction := (bits &&& 0xFFFFFFFFFFFFF).toNat
  if exponent = 0 then ofBinary fraction (-1074) false
  else
    ofBinary (2 ^ (52 : Nat) + fraction) ((exponent : Int) - 1075) (fraction == 0 && exponent > 1)

/-- A decimal as a multiple of one over `unit`, and the interval at the same scale. -/
def scaled (interval : RoundingInterval) (digits : Nat) (exponent : Int) : Nat × Nat :=
  (digits * 10 ^ exponent.toNat * interval.unit, 10 ^ (-exponent).toNat)

/-- Whether a decimal rounds to the double. -/
def holds (interval : RoundingInterval) (digits : Nat) (exponent : Int) : Bool :=
  let (place, scale) := interval.scaled digits exponent
  (interval.low * scale < place && place < interval.high * scale) ||
    (interval.inclusive && (interval.low * scale == place || place == interval.high * scale))

/-- The greatest decimal of a grid that is not above the double. -/
def floorOn (interval : RoundingInterval) (exponent : Int) : Nat :=
  interval.middle * 10 ^ (-exponent).toNat / (interval.unit * 10 ^ exponent.toNat)

/-- Whether the decimal above the greatest one not above is at least as near. -/
def nearerAbove (interval : RoundingInterval) (digits : Nat) (exponent : Int) : Bool :=
  let (place, scale) := interval.scaled (2 * digits + 1) exponent
  place ≤ 2 * interval.middle * scale

/-- The nearest decimal of a grid that rounds to the double. -/
def onGrid? (interval : RoundingInterval) (exponent : Int) : Option Nat :=
  let below := interval.floorOn exponent
  match interval.holds below exponent, interval.holds (below + 1) exponent with
  | true, true => some (if interval.nearerAbove below exponent then below + 1 else below)
  | true, false => some below
  | false, true => some (below + 1)
  | false, false => none

/-- The least power of ten above the double. -/
def magnitude (interval : RoundingInterval) : Int :=
  if interval.unit ≤ interval.middle then
    (decimal (interval.middle / interval.unit)).length
  else
    match (List.range 400).find? fun places =>
        interval.unit ≤ interval.middle * 10 ^ places with
    | some places => 1 - (places : Int)
    | none => 0

/-- The digits and the exponent of the shortest decimal. -/
def shortest (interval : RoundingInterval) : Nat × Int :=
  let magnitude := interval.magnitude
  let grids := (List.range 18).map fun (count : Nat) => magnitude - (count : Int)
  match grids.findSome? fun exponent =>
      (interval.onGrid? exponent).map fun digits => (digits, exponent) with
  | some found => found
  | none => (interval.middle, 0)

end RoundingInterval

/-- A decimal without an exponent. -/
def positional (digits : Nat) (exponent : Int) : List Char :=
  let text := decimal digits
  if 0 ≤ exponent then
    text ++ List.replicate exponent.toNat '0'
  else
    let places := (-exponent).toNat
    let full := padZeros (places + 1) text
    full.take (full.length - places) ++ '.' :: full.drop (full.length - places)

/-- The text of a double. -/
def ofFloat (value : Float) : String :=
  if value.isNaN then "NaN"
  else
    let sign := if value.toBits >>> 63 == 1 then ['-'] else []
    let magnitude :=
      if value.isInf then "inf".toList
      else if value == 0 then ['0']
      else
        let (digits, exponent) := (RoundingInterval.ofBits value.toBits).shortest
        positional digits exponent
    String.ofList (sign ++ magnitude)

end Switchboard.Text
