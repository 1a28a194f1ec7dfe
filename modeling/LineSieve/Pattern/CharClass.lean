import LineSieve.CodePoint.Ranges
import LineSieve.Text.LetterCase

/- Character classes of patterns: a union of code point sets, each perhaps taken up to letter case
   or complemented, the whole perhaps complemented. -/
namespace LineSieve.Pattern

open CodePoint

/-- A set of code points in a class. Folding comes before complementing. -/
structure ClassItem where
  ranges : Ranges
  folded : Bool
  negated : Bool
  deriving DecidableEq, Repr

def ClassItem.contains (item : ClassItem) (n : Nat) : Bool :=
  let found :=
    if item.folded then (Text.caseOrbit n).any item.ranges.contains else item.ranges.contains n
  found != item.negated

structure CharClass where
  items : List ClassItem
  negated : Bool
  deriving DecidableEq, Repr

def CharClass.contains (cls : CharClass) (c : Char) : Bool :=
  cls.items.any (·.contains c.toNat) != cls.negated

def CharClass.single (n : Nat) (folded : Bool) : CharClass := ⟨[⟨[(n, n)], folded, false⟩], false⟩

def CharClass.ofItem (item : ClassItem) : CharClass := ⟨[item], false⟩

def CharClass.any : CharClass := ⟨[], true⟩

def CharClass.anyButNewline : CharClass := ⟨[⟨[(10, 10)], false, false⟩], true⟩

def digitRanges : Ranges := [(0x30, 0x39)]

/-- The white space of patterns: tab, newline, form feed, carriage return and space. -/
def spaceRanges : Ranges := [(0x09, 0x0A), (0x0C, 0x0D), (0x20, 0x20)]

def wordRanges : Ranges := [(0x30, 0x39), (0x41, 0x5A), (0x5F, 0x5F), (0x61, 0x7A)]

def escapeClass? : Char → Option (Ranges × Bool)
  | 'd' => some (digitRanges, false)
  | 'D' => some (digitRanges, true)
  | 's' => some (spaceRanges, false)
  | 'S' => some (spaceRanges, true)
  | 'w' => some (wordRanges, false)
  | 'W' => some (wordRanges, true)
  | _ => none

def namedClasses : List (String × Ranges) := [
  ("alnum", [(0x30, 0x39), (0x41, 0x5A), (0x61, 0x7A)]), ("alpha", [(0x41, 0x5A), (0x61, 0x7A)]),
  ("ascii", [(0x00, 0x7F)]), ("blank", [(0x09, 0x09), (0x20, 0x20)]),
  ("cntrl", [(0x00, 0x1F), (0x7F, 0x7F)]), ("digit", [(0x30, 0x39)]), ("graph", [(0x21, 0x7E)]),
  ("lower", [(0x61, 0x7A)]), ("print", [(0x20, 0x7E)]),
  ("punct", [(0x21, 0x2F), (0x3A, 0x40), (0x5B, 0x60), (0x7B, 0x7E)]),
  ("space", [(0x09, 0x0D), (0x20, 0x20)]), ("upper", [(0x41, 0x5A)]), ("word", wordRanges),
  ("xdigit", [(0x30, 0x39), (0x41, 0x46), (0x61, 0x66)])]

def namedClass? (name : List Char) : Option (Ranges × Bool) :=
  match name with
  | '^' :: rest => (namedClasses.find? (·.1.toList == rest)).map fun entry => (entry.2, true)
  | _ => (namedClasses.find? (·.1.toList == name)).map fun entry => (entry.2, false)

end LineSieve.Pattern
