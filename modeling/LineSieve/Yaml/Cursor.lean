/- A place in a YAML text, and what is next there. Lines and columns count characters. -/
namespace LineSieve.Yaml

inductive Error where
  | badCharacter
  | badIndentation
  | badIndicator
  | badDirective
  | badTag
  | badEscape
  | badKey
  | unclosed
  | unexpectedToken
  | unknownAnchor
  | unknownTag
  | duplicateKey
  | badMerge
  | notAMapping
  deriving DecidableEq, Repr

structure Cursor where
  rest : List Char
  line : Nat
  column : Nat
  index : Nat
  deriving Repr

def isBlank (c : Char) : Bool := c == ' ' || c == '\t'

def isBreak (c : Char) : Bool :=
  c == '\r' || c == '\n' || c.toNat == 0x85 || c.toNat == 0x2028 || c.toNat == 0x2029

def endsWord : List Char → Bool
  | [] => true
  | c :: _ => isBlank c || isBreak c

def endsLine : List Char → Bool
  | [] => true
  | c :: _ => isBreak c

def isNameChar (c : Char) : Bool := c.isAlphanum || c == '_' || c == '-'

namespace Cursor

def start (text : List Char) : Cursor := ⟨text, 0, 0, 0⟩

def moveTo (c : Cursor) (rest : List Char) : Cursor :=
  let passed := c.rest.length - rest.length
  { c with rest := rest, column := c.column + passed, index := c.index + passed }

def skip (c : Cursor) (n : Nat) : Cursor := c.moveTo (c.rest.drop n)

def skipWhile (c : Cursor) (p : Char → Bool) : Cursor := c.moveTo (c.rest.dropWhile p)

/-- Take the line break that comes next: what it stands for, and the place behind it. Separators
stand for themselves and all other breaks for a newline. -/
def lineBreak? (c : Cursor) : Option (Char × Cursor) :=
  let behind (rest : List Char) (width : Nat) : Cursor := ⟨rest, c.line + 1, 0, c.index + width⟩
  match c.rest with
  | '\r' :: '\n' :: rest => some ('\n', behind rest 2)
  | b :: rest =>
    if b == '\r' || b == '\n' || b.toNat == 0x85 then some ('\n', behind rest 1)
    else if isBreak b then some (b, behind rest 1)
    else none
  | [] => none

def skipBreak (c : Cursor) : Cursor :=
  match c.lineBreak? with
  | some (_, after) => after
  | none => c

def skipGap (c : Cursor) : Cursor :=
  match c.rest with
  | [] => c
  | x :: rest =>
    let after := if isBlank x then c.moveTo rest else c.skipBreak
    if _h : after.rest.length < c.rest.length then after.skipGap else c
termination_by c.rest.length

/-- A line that starts or ends a document comes next. -/
def atDocumentMark (c : Cursor) : Bool :=
  c.column == 0 &&
    (["---".toList, "...".toList].any fun mark =>
      mark.isPrefixOf c.rest && endsWord (c.rest.drop 3))

end Cursor

end LineSieve.Yaml
