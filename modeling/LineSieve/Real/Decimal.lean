import LineSieve.Text.Integer

/- Floating-point numbers as exact binary fractions, and their decimal texts: reading them, and
   writing the fewest digits that read back as the same number. -/
namespace LineSieve

/-- The number `mantissa * 2 ^ exponent`, with a sign. -/
structure Binary where
  negative : Bool
  mantissa : Nat
  exponent : Int
  deriving DecidableEq, Repr

namespace Binary

def minExponent : Int := -1074

def fractionCount : Nat := 4503599627370496

def exponentCount : Nat := 2048

def ofFloat? (x : Float) : Option Binary :=
  let bits := x.toBits.toNat
  let exponent : Nat := bits / fractionCount % exponentCount
  let fraction := bits % fractionCount
  let negative := bits / (fractionCount * exponentCount) == 1
  if exponent + 1 == exponentCount then none
  else if exponent == 0 then some ⟨negative, fraction, minExponent⟩
  else some ⟨negative, fraction + fractionCount, (exponent : Int) - 1075⟩

def quotient (b : Binary) : Nat × Nat :=
  (b.mantissa * Nat.pow 2 b.exponent.toNat, Nat.pow 2 (-b.exponent).toNat)

def truncate (b : Binary) : Int :=
  let (n, d) := b.quotient
  if b.negative then -((n / d : Nat) : Int) else (n / d : Nat)

end Binary

structure Decimal where
  negative : Bool
  digits : Nat
  exponent : Int
  deriving DecidableEq, Repr

namespace Decimal

def readExponent? : List Char → Option Int
  | [] => some 0
  | c :: rest =>
    if c == 'e' || c == 'E' then
      let (negative, digits) := Text.takeSign rest
      (Text.digitsValue? 10 digits).map (Text.signed negative)
    else none

def read? (s : List Char) : Option Decimal :=
  let (negative, unsigned) := Text.takeSign s
  let whole := unsigned.takeWhile Char.isDigit
  let (places, rest) := match unsigned.drop whole.length with
    | '.' :: rest => (rest.takeWhile Char.isDigit, rest.dropWhile Char.isDigit)
    | rest => ([], rest)
  match Text.digitsValue? 10 (whole ++ places), readExponent? rest with
  | some digits, some exponent => some ⟨negative, digits, exponent - places.length⟩
  | _, _ => none

def toFloat? (d : Decimal) : Option Float :=
  let length : Int := (Nat.toDigits 10 d.digits).length
  let magnitude : Option Float :=
    if d.digits == 0 || length + d.exponent < -400 then some 0
    else if 400 < length + d.exponent then none
    else
      let x := Float.ofScientific d.digits (d.exponent < 0) d.exponent.natAbs
      if x.isFinite then some x else none
  magnitude.map fun x => if d.negative then -x else x

/-- The exponent `k` of the power of ten that is next above a positive quotient, found by counting
up or down from zero. -/
def nextPower (n d : Nat) : Int :=
  if d ≤ n then up n d (Nat.toDigits 10 n).length 0 else down n d (Nat.toDigits 10 d).length 0
where
  up (n d : Nat) : Nat → Int → Int
    | 0, k => k
    | fuel + 1, k => if n < d then k else up n (d * 10) fuel (k + 1)
  down (n d : Nat) : Nat → Int → Int
    | 0, k => k
    | fuel + 1, k => if d ≤ n * 10 then k else down (n * 10) d fuel (k - 1)

/-- All numbers between `low` and `high` read back as one floating-point number, the ends too if
`closed`. All are numerators over the same denominator. -/
structure Neighbourhood where
  low : Nat
  value : Nat
  high : Nat
  denominator : Nat
  closed : Bool
  deriving Repr

/-- The numbers that read back as the given one: half the way to both neighbours. The neighbour
below a power of two is nearer. -/
def Neighbourhood.of (b : Binary) : Neighbourhood :=
  let (n, d) := b.quotient
  let unit := Nat.pow 2 b.exponent.toNat
  let nearBelow := b.mantissa == Binary.fractionCount && Binary.minExponent < b.exponent
  ⟨4 * n - (if nearBelow then unit else 2 * unit), 4 * n, 4 * n + 2 * unit, 4 * d,
    b.mantissa % 2 == 0⟩

def Neighbourhood.holds (near : Neighbourhood) (digits : Nat) (exponent : Int) : Bool :=
  let x := digits * Nat.pow 10 exponent.toNat * near.denominator
  let scale := Nat.pow 10 (-exponent).toNat
  if near.closed then near.low * scale ≤ x && x ≤ near.high * scale
  else near.low * scale < x && x < near.high * scale

/-- The number with `count` digits or fewer that is nearest to the value, of the two next to it, if
one of them lies in the neighbourhood. -/
def Neighbourhood.candidate? (near : Neighbourhood) (power : Int) (count : Nat) :
    Option (Nat × Int) :=
  let exponent := power - count
  let n := near.value * Nat.pow 10 (-exponent).toNat
  let d := near.denominator * Nat.pow 10 exponent.toNat
  let below := n / d
  let lowerFirst := 2 * (n % d) < d || (2 * (n % d) == d && below % 2 == 0)
  let order := if lowerFirst then [below, below + 1] else [below + 1, below]
  (order.find? (near.holds · exponent)).map (·, exponent)

def maxDigits : Nat := 17

/-- The fewest digits that read back as the number. -/
def shortest (b : Binary) : Decimal :=
  if b.mantissa == 0 then ⟨b.negative, 0, 0⟩
  else
    let near := Neighbourhood.of b
    let power := nextPower near.value near.denominator
    match (List.range maxDigits).findSome? fun i => near.candidate? power (i + 1) with
    | some (digits, exponent) => ⟨b.negative, digits, exponent⟩
    | none => ⟨b.negative, 0, 0⟩

def positional (d : Decimal) : List Char :=
  let digits := Nat.toDigits 10 d.digits
  let sign := if d.negative then ['-'] else []
  if 0 ≤ d.exponent then
    sign ++ digits ++ (if d.digits == 0 then [] else List.replicate d.exponent.toNat '0')
  else
    let places := d.exponent.natAbs
    let padded := List.replicate (places + 1 - digits.length) '0' ++ digits
    let whole := padded.take (padded.length - places)
    let fraction := (padded.drop (padded.length - places)).reverse.dropWhile (· == '0')
    sign ++ whole ++ (if fraction.isEmpty then [] else '.' :: fraction.reverse)

def ofFloat (x : Float) : List Char :=
  match Binary.ofFloat? x with
  | some b => (shortest b).positional
  | none => (if x.isNaN then "NaN" else if x < 0 then "-Inf" else "+Inf").toList

end Decimal

end LineSieve
