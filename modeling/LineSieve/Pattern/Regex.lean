import LineSieve.Pattern.CharClass
import LineSieve.Text.Alphabet

/- Regular expressions and searching by partial derivatives. A partial derivative is what may still
   follow once one character is read; anchors look at the characters on both sides of a place. -/
namespace LineSieve.Pattern

open CodePoint

inductive Anchor where
  | beginText
  | endText
  | beginLine
  | endLine
  | wordBoundary
  | insideWord
  deriving DecidableEq, Repr

def isWordSide : Option Char → Bool
  | some c => Ranges.contains wordRanges c.toNat
  | none => false

def Anchor.holds (prev next : Option Char) : Anchor → Bool
  | .beginText => prev.isNone
  | .endText => next.isNone
  | .beginLine => prev.isNone || prev == some '\n'
  | .endLine => next.isNone || next == some '\n'
  | .wordBoundary => isWordSide prev != isWordSide next
  | .insideWord => isWordSide prev == isWordSide next

inductive Regex where
  | empty
  | chars (cls : CharClass)
  | anchor (condition : Anchor)
  | seq (first second : Regex)
  | alt (left right : Regex)
  | star (body : Regex)
  deriving DecidableEq, Repr

namespace Regex

def followedBy : Regex → Regex → Regex
  | .empty, second => second
  | first, second => .seq first second

def sequence : List Regex → Regex
  | [] => .empty
  | [part] => part
  | part :: rest => .seq part (sequence rest)

def choice : List Regex → Regex
  | [] => .empty
  | [branch] => branch
  | branch :: rest => .alt branch (choice rest)

def times (body : Regex) : Nat → Regex
  | 0 => .empty
  | 1 => body
  | n + 1 => .seq body (times body n)

def upTo (body : Regex) : Nat → Regex
  | 0 => .empty
  | n + 1 => .alt .empty (.seq body (upTo body n))

def between (body : Regex) (low : Nat) : Option Nat → Regex
  | none => followedBy (times body low) (.star body)
  | some high => followedBy (times body low) (upTo body (high - low))

/-- The expression matches the empty text at the place between `prev` and `next`. -/
def nullable (prev next : Option Char) : Regex → Bool
  | .empty => true
  | .chars _ => false
  | .anchor condition => condition.holds prev next
  | .seq first second => nullable prev next first && nullable prev next second
  | .alt left right => nullable prev next left || nullable prev next right
  | .star _ => true

/-- What may follow after the character `c` is read behind `prev`. -/
def partials (prev : Option Char) (c : Char) : Regex → List Regex
  | .empty => []
  | .chars cls => if cls.contains c then [.empty] else []
  | .anchor _ => []
  | .seq first second =>
    (partials prev c first).map (followedBy · second) ++
      if nullable prev (some c) first then partials prev c second else []
  | .alt left right => partials prev c left ++ partials prev c right
  | .star body => (partials prev c body).map (followedBy · (.star body))

/-- Some expression of `live`, or `start` begun at this place or later, matches a beginning of the
text. -/
def searchFrom (start : Regex) (prev : Option Char) (live : List Regex) : List Char → Bool
  | [] => (start :: live).any (nullable prev none)
  | c :: s =>
    (start :: live).any (nullable prev (some c)) ||
      searchFrom start (some c) ((start :: live).flatMap (partials prev c)).eraseDups s

def search {α : Type} [Text.Alphabet α] (re : Regex) (text : List α) : Bool :=
  searchFrom re none [] (Text.chars text)

end Regex

end LineSieve.Pattern
