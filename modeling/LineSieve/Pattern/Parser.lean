import LineSieve.CodePoint.Property
import LineSieve.Pattern.Regex

/- Reading pattern texts from left to right. The reader keeps the branches and parts of each open
   group; the first fault met on the way is the one reported. -/
namespace LineSieve.Pattern

open CodePoint

inductive Fault where
  | invalidRange
  | invalidEscape
  | invalidGroupName
  | invalidGroupFlags
  | nestedRepetition
  | invalidRepeatCount
  | missingBracket
  | missingParen
  | missingRepeatArgument
  | trailingBackslash
  | unexpectedParen
  deriving DecidableEq, Repr

structure Error where
  fault : Fault
  piece : List Char
  deriving DecidableEq, Repr

def Fault.reason : Fault → String
  | .invalidRange => "invalid character class range"
  | .invalidEscape => "invalid escape sequence"
  | .invalidGroupName => "invalid named capture"
  | .invalidGroupFlags => "invalid or unsupported Perl syntax"
  | .nestedRepetition => "invalid nested repetition operator"
  | .invalidRepeatCount => "invalid repeat count"
  | .missingBracket => "missing closing ]"
  | .missingParen => "missing closing )"
  | .missingRepeatArgument => "missing argument to repetition operator"
  | .trailingBackslash => "trailing backslash at end of expression"
  | .unexpectedParen => "unexpected )"

def Error.message (e : Error) : String :=
  "error parsing regexp: " ++ e.fault.reason ++ ": `" ++ String.ofList e.piece ++ "`"

structure Flags where
  fold : Bool
  multiLine : Bool
  dotNewline : Bool
  deriving DecidableEq, Repr

/-- A finished part of the pattern. `copies` is the largest number of times that its innermost
repeated piece is written out when counted repetitions are expanded. -/
structure Part where
  regex : Regex
  copies : Nat
  deriving Repr

def maxCopies : Nat := 1000

structure Group where
  outerFlags : Flags
  branches : List Part
  parts : List Part
  deriving Repr

/-- The reader: the whole text, the flags in force, the open groups outside the current one, the
current group, and the text from the last repetition operator on if that was read just before. -/
structure Reader where
  whole : List Char
  flags : Flags
  outer : List Group
  current : Group
  lastRepeat : List Char
  deriving Repr

def pieceBefore (s rest : List Char) : List Char := s.take (s.length - rest.length)

def mostCopies (parts : List Part) : Nat := parts.foldl (fun most part => max most part.copies) 1

def Group.branch (group : Group) : Part :=
  ⟨Regex.sequence (group.parts.reverse.map (·.regex)), mostCopies group.parts⟩

def Group.close (group : Group) : Part :=
  let branches := group.branch :: group.branches
  ⟨Regex.choice (branches.reverse.map (·.regex)), mostCopies branches⟩

namespace Reader

def start (whole : List Char) : Reader :=
  let flags : Flags := ⟨false, false, false⟩
  ⟨whole, flags, [], ⟨flags, [], []⟩, []⟩

def push (r : Reader) (part : Part) : Reader :=
  { r with current := { r.current with parts := part :: r.current.parts }, lastRepeat := [] }

def pushRegex (r : Reader) (regex : Regex) : Reader := r.push ⟨regex, 1⟩

def pushLiteral (r : Reader) (n : Nat) : Reader :=
  r.pushRegex (.chars (.single n r.flags.fold))

def pushItem (r : Reader) (item : ClassItem) : Reader := r.pushRegex (.chars (.ofItem item))

def openGroup (r : Reader) (inner : Flags) : Reader :=
  { r with
    flags := inner
    outer := r.current :: r.outer
    current := ⟨r.flags, [], []⟩
    lastRepeat := [] }

def nextBranch (r : Reader) : Reader :=
  { r with
    current := { r.current with branches := r.current.branch :: r.current.branches, parts := [] }
    lastRepeat := [] }

def closeGroup (r : Reader) : Except Error Reader :=
  match r.outer with
  | [] => .error ⟨.unexpectedParen, r.whole⟩
  | group :: outer =>
    .ok ({ r with flags := r.current.outerFlags, outer := outer, current := group }.push
      r.current.close)

/-- Apply a repetition to the last part. `before` starts at the operator and `after` stands behind
it; a question mark there only changes the preference between matches. -/
def repeatLast (r : Reader) (copies : Nat → Nat) (counted : Bool) (make : Regex → Regex)
    (before after : List Char) : Except Error (Reader × List Char) :=
  let after := match after with
    | '?' :: rest => rest
    | _ => after
  if r.lastRepeat.isEmpty then
    match r.current.parts with
    | [] => .error ⟨.missingRepeatArgument, pieceBefore before after⟩
    | part :: parts =>
      let repeated : Part := ⟨make part.regex, copies part.copies⟩
      if counted && maxCopies < repeated.copies then
        .error ⟨.invalidRepeatCount, pieceBefore before after⟩
      else
        .ok ({ r with
          current := { r.current with parts := repeated :: parts }
          lastRepeat := before }, after)
  else .error ⟨.nestedRepetition, pieceBefore r.lastRepeat after⟩

end Reader

/-- A decimal number without leading zeros; one of more than nine digits is out of bounds. -/
def readCount (s : List Char) : Option (Nat × List Char) :=
  let digits := s.takeWhile Char.isDigit
  match digits with
  | [] => none
  | first :: more =>
    if first == '0' && !more.isEmpty then none
    else some (digits.foldl (fun n c => n * 10 + (c.toNat - '0'.toNat)) 0,
      s.dropWhile Char.isDigit)

/-- The counts of a repetition behind its opening brace: the least number, the greatest if there
is one, and the text behind the closing brace. -/
def readBounds (s : List Char) : Option (Nat × Option Nat × List Char) :=
  match readCount s with
  | none => none
  | some (low, '}' :: rest) => some (low, some low, rest)
  | some (low, ',' :: '}' :: rest) => some (low, none, rest)
  | some (low, ',' :: more) =>
    match readCount more with
    | some (high, '}' :: rest) => some (low, some high, rest)
    | _ => none
  | some _ => none

def readBracedHex (value count : Nat) : List Char → Option Nat × List Char
  | [] => (none, [])
  | c :: t =>
    if c == '}' then (if count = 0 then none else some value, t)
    else
      match hexDigit? c with
      | none => (none, t)
      | some digit =>
        let value := value * 16 + digit
        if 0x10FFFF < value then (none, t) else readBracedHex value (count + 1) t

def isOctal (c : Char) : Bool := '0' ≤ c && c ≤ '7'

def readOctal (value : Nat) : Nat → List Char → Nat × List Char
  | 0, t => (value, t)
  | _ + 1, [] => (value, [])
  | n + 1, c :: t =>
    if isOctal c then readOctal (value * 8 + (c.toNat - '0'.toNat)) n t else (value, c :: t)

def isAsciiAlnum (c : Char) : Bool := c.isDigit || c.isAlpha

def readEscape (s : List Char) : Except Error (Nat × List Char) :=
  match s.drop 1 with
  | [] => .error ⟨.trailingBackslash, []⟩
  | c :: t =>
    let invalid (rest : List Char) : Except Error (Nat × List Char) :=
      .error ⟨.invalidEscape, pieceBefore s rest⟩
    if c == '0' || (isOctal c && (t.head?.map isOctal).getD false) then
      .ok (readOctal (c.toNat - '0'.toNat) 2 t)
    else
      match c with
      | 'x' =>
        match t with
        | [] => invalid t
        | '{' :: rest =>
          match readBracedHex 0 0 rest with
          | (some value, rest) => .ok (value, rest)
          | (none, rest) => invalid rest
        | [_] => invalid []
        | a :: b :: rest =>
          match hexDigit? a, hexDigit? b with
          | some x, some y => .ok (x * 16 + y, rest)
          | _, _ => invalid rest
      | 'a' => .ok (7, t)
      | 'f' => .ok (12, t)
      | 'n' => .ok (10, t)
      | 'r' => .ok (13, t)
      | 't' => .ok (9, t)
      | 'v' => .ok (11, t)
      | _ => if c.toNat < 128 && !isAsciiAlnum c then .ok (c.toNat, t) else invalid t

/-- A property escape; `s` starts at the backslash and `negated` tells the capital letter. -/
def readProperty (flags : Flags) (negated : Bool) (s : List Char) :
    Except Error (ClassItem × List Char) :=
  let finish (written name rest : List Char) : Except Error (ClassItem × List Char) :=
    let (negated, name) := match name with
      | '^' :: name => (!negated, name)
      | _ => (negated, name)
    match Property.ofName? name with
    | some property => .ok (⟨property.ranges, flags.fold, negated != property.negated⟩, rest)
    | none => .error ⟨.invalidRange, written⟩
  match s.drop 2 with
  | [] => .error ⟨.invalidRange, s⟩
  | '{' :: _ =>
    match Text.cut? ['}'] s with
    | none => .error ⟨.invalidRange, s⟩
    | some (front, rest) => finish (front ++ ['}']) (front.drop 3) rest
  | c :: rest => finish (s.take 3) [c] rest

def readClassChar (whole s : List Char) : Except Error (Nat × List Char) :=
  match s with
  | [] => .error ⟨.missingBracket, whole⟩
  | '\\' :: _ => readEscape s
  | c :: t => .ok (c.toNat, t)

def readClassRange (flags : Flags) (whole s : List Char) : Except Error (ClassItem × List Char) :=
  match readClassChar whole s with
  | .error e => .error e
  | .ok (low, rest) =>
    match rest with
    | '-' :: next :: _ =>
      if next == ']' then .ok (⟨[(low, low)], flags.fold, false⟩, rest)
      else
        match readClassChar whole (rest.drop 1) with
        | .error e => .error e
        | .ok (high, rest) =>
          if high < low then .error ⟨.invalidRange, pieceBefore s rest⟩
          else .ok (⟨[(low, high)], flags.fold, false⟩, rest)
    | _ => .ok (⟨[(low, low)], flags.fold, false⟩, rest)

def readClassEscape (flags : Flags) (whole s : List Char) : Except Error (ClassItem × List Char) :=
  match s with
  | '\\' :: 'p' :: _ => readProperty flags false s
  | '\\' :: 'P' :: _ => readProperty flags true s
  | '\\' :: c :: rest =>
    match escapeClass? c with
    | some (ranges, negated) => .ok (⟨ranges, flags.fold, negated⟩, rest)
    | none => readClassRange flags whole s
  | _ => readClassRange flags whole s

def readClassItem (flags : Flags) (whole s : List Char) : Except Error (ClassItem × List Char) :=
  match s with
  | '[' :: ':' :: inner =>
    match Text.cut? [':', ']'] inner with
    | none => readClassEscape flags whole s
    | some (name, rest) =>
      match namedClass? name with
      | some (ranges, negated) => .ok (⟨ranges, flags.fold, negated⟩, rest)
      | none => .error ⟨.invalidRange, ['[', ':'] ++ name ++ [':', ']']⟩
  | _ => readClassEscape flags whole s

/-- The items of a bracket class up to its closing bracket, which may stand first as an item. -/
def readClassItems (flags : Flags) (whole : List Char) (first : Bool) (items : List ClassItem)
    (s : List Char) : Except Error (List ClassItem × List Char) :=
  if s.head? == some ']' && !first then .ok (items.reverse, s.drop 1)
  else
    match readClassItem flags whole s with
    | .error e => .error e
    | .ok (item, rest) =>
      if _h : rest.length < s.length then
        readClassItems flags whole false (item :: items) rest
      else .error ⟨.missingBracket, whole⟩
termination_by s.length

def readClass (flags : Flags) (s : List Char) : Except Error (CharClass × List Char) :=
  let (negated, inner) := match s.drop 1 with
    | '^' :: rest => (true, rest)
    | rest => (false, rest)
  match readClassItems flags s true [] inner with
  | .error e => .error e
  | .ok (items, rest) => .ok (⟨items, negated⟩, rest)

/-- The flags behind an opening parenthesis and question mark: whether a group opens, the new
flags and the text behind, or the text where reading stopped. -/
def readFlags (flags : Flags) (clearing seen : Bool) :
    List Char → Except (List Char) (Bool × Flags × List Char)
  | [] => .error []
  | c :: t =>
    match c with
    | 'i' => readFlags { flags with fold := !clearing } clearing true t
    | 'm' => readFlags { flags with multiLine := !clearing } clearing true t
    | 's' => readFlags { flags with dotNewline := !clearing } clearing true t
    | 'U' => readFlags flags clearing true t
    | '-' => if clearing then .error t else readFlags flags true false t
    | ':' => if clearing && !seen then .error t else .ok (true, flags, t)
    | ')' => if clearing && !seen then .error t else .ok (false, flags, t)
    | _ => .error t

def readNamedGroup (r : Reader) (s : List Char) (lead : Nat) :
    Except Error (Reader × List Char) :=
  match Text.cut? ['>'] s with
  | none => .error ⟨.invalidGroupName, s⟩
  | some (front, rest) =>
    let name := front.drop lead
    if !name.isEmpty && name.all (fun c => c == '_' || isAsciiAlnum c) then
      .ok (r.openGroup r.flags, rest)
    else .error ⟨.invalidGroupName, front ++ ['>']⟩

def readSpecialGroup (r : Reader) (s : List Char) : Except Error (Reader × List Char) :=
  match s with
  | _ :: _ :: 'P' :: '<' :: _ :: _ => readNamedGroup r s 4
  | _ :: _ :: '<' :: _ :: _ => readNamedGroup r s 3
  | _ =>
    match readFlags r.flags false false (s.drop 2) with
    | .error rest => .error ⟨.invalidGroupFlags, pieceBefore s rest⟩
    | .ok (true, flags, rest) => .ok (r.openGroup flags, rest)
    | .ok (false, flags, rest) => .ok ({ r with flags := flags, lastRepeat := [] }, rest)

def readBackslash (r : Reader) (s : List Char) : Except Error (Reader × List Char) :=
  match s with
  | '\\' :: c :: rest =>
    match c with
    | 'A' => .ok (r.pushRegex (.anchor .beginText), rest)
    | 'b' => .ok (r.pushRegex (.anchor .wordBoundary), rest)
    | 'B' => .ok (r.pushRegex (.anchor .insideWord), rest)
    | 'C' => .error ⟨.invalidEscape, ['\\', 'C']⟩
    | 'Q' =>
      let (quoted, after) := (Text.cut? ['\\', 'E'] rest).getD (rest, [])
      .ok (quoted.foldl (fun r c => r.pushLiteral c.toNat) { r with lastRepeat := [] }, after)
    | 'z' => .ok (r.pushRegex (.anchor .endText), rest)
    | 'p' => (readProperty r.flags false s).map fun read => (r.pushItem read.1, read.2)
    | 'P' => (readProperty r.flags true s).map fun read => (r.pushItem read.1, read.2)
    | _ =>
      match escapeClass? c with
      | some (ranges, negated) => .ok (r.pushItem ⟨ranges, r.flags.fold, negated⟩, rest)
      | none => (readEscape s).map fun read => (r.pushLiteral read.1, read.2)
  | _ => (readEscape s).map fun read => (r.pushLiteral read.1, read.2)

def readCounted (r : Reader) (rest : List Char) : Except Error (Reader × List Char) :=
  match readBounds rest with
  | none => .ok (r.pushLiteral '{'.toNat, rest)
  | some (low, high, after) =>
    let whole := '{' :: rest
    let outOfBounds := maxCopies < low ||
      match high with
      | some high => maxCopies < high || high < low
      | none => false
    if outOfBounds then .error ⟨.invalidRepeatCount, pieceBefore whole after⟩
    else
      let copies (inner : Nat) : Nat := match high with
        | some 0 => 1
        | some high => high * inner
        | none => max low 1 * inner
      let counted := 2 ≤ low || 2 ≤ high.getD 0
      r.repeatLast copies counted (Regex.between · low high) whole after

def Reader.step (r : Reader) (c : Char) (rest : List Char) : Except Error (Reader × List Char) :=
  match c with
  | '(' =>
    if rest.head? == some '?' then readSpecialGroup r (c :: rest)
    else .ok (r.openGroup r.flags, rest)
  | '|' => .ok (r.nextBranch, rest)
  | ')' => r.closeGroup.map (·, rest)
  | '^' => .ok (r.pushRegex (.anchor (if r.flags.multiLine then .beginLine else .beginText)), rest)
  | '$' => .ok (r.pushRegex (.anchor (if r.flags.multiLine then .endLine else .endText)), rest)
  | '.' => .ok (r.pushRegex (.chars (if r.flags.dotNewline then .any else .anyButNewline)), rest)
  | '[' => (readClass r.flags (c :: rest)).map fun read => (r.pushRegex (.chars read.1), read.2)
  | '*' => r.repeatLast id false Regex.star (c :: rest) rest
  | '+' => r.repeatLast id false (fun body => .seq body (.star body)) (c :: rest) rest
  | '?' => r.repeatLast id false (Regex.alt .empty) (c :: rest) rest
  | '{' => readCounted r rest
  | '\\' => readBackslash r (c :: rest)
  | _ => .ok (r.pushLiteral c.toNat, rest)

/-- Read the rest of the pattern; every step leaves less text. -/
def Reader.run (r : Reader) (s : List Char) : Except Error Reader :=
  match s with
  | [] => .ok r
  | c :: t =>
    match r.step c t with
    | .error e => .error e
    | .ok (next, rest) =>
      if _h : rest.length ≤ t.length then next.run rest else .ok next
termination_by s.length
decreasing_by simp; omega

def Regex.parse (text : List Char) : Except Error Regex :=
  match (Reader.start text).run text with
  | .error e => .error e
  | .ok r =>
    match r.outer with
    | [] => .ok r.current.close.regex
    | _ :: _ => .error ⟨.missingParen, text⟩

def isOperator (c : Char) : Bool := "\\.+*?()|[]\x7b\x7d^$".toList.contains c

def quote : List Char → List Char
  | [] => []
  | c :: s => if isOperator c then '\\' :: c :: quote s else c :: quote s

end LineSieve.Pattern
