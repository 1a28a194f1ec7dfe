import LineSieve.Text.Search

/- Sets of code points as lists of inclusive ranges, and their compact written form: hexadecimal
   ranges separated by blanks, where a trailing "/2" takes every second point only. -/
namespace LineSieve.CodePoint

abbrev Ranges := List (Nat × Nat)

def Ranges.contains (ranges : Ranges) (n : Nat) : Bool :=
  ranges.any fun range => range.1 ≤ n && n ≤ range.2

def hexDigit? (c : Char) : Option Nat :=
  if '0' ≤ c && c ≤ '9' then some (c.toNat - '0'.toNat)
  else if 'a' ≤ c && c ≤ 'f' then some (c.toNat - 'a'.toNat + 10)
  else if 'A' ≤ c && c ≤ 'F' then some (c.toNat - 'A'.toNat + 10)
  else none

def hexValue (digits : List Char) : Nat :=
  digits.foldl (fun value c => value * 16 + (hexDigit? c).getD 0) 0

/-- One written item: a point, a range, or every second point of a range. -/
def Ranges.ofItem (item : List Char) : Ranges :=
  let bounds := Text.before ['/'] item
  match Text.splitOn '-' bounds with
  | [first, last] =>
    let lo := hexValue first
    let hi := hexValue last
    if bounds.length < item.length then
      (List.range ((hi - lo) / 2 + 1)).map fun i => (lo + 2 * i, lo + 2 * i)
    else [(lo, hi)]
  | _ => [(hexValue bounds, hexValue bounds)]

def Ranges.ofRows (rows : List String) : Ranges :=
  rows.flatMap fun row => (Text.splitOn ' ' row.toList).flatMap Ranges.ofItem

end LineSieve.CodePoint
