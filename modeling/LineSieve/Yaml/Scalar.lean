import LineSieve.Text.Integer
import LineSieve.Yaml.Cursor

/- The written forms of scalars: plain, in single or double quotes, and block scalars. A text that
   runs over several lines is folded: one line break becomes a space, and of several the first is
   left out. -/
namespace LineSieve.Yaml

/-- What stands between two words: blanks within a line, or line breaks. With `escaped` the first
break was behind a backslash and stands for nothing. -/
structure Gap where
  escaped : Bool
  blanks : List Char
  breaks : List Char
  deriving Repr

namespace Gap

def empty : Gap := ⟨false, [], []⟩

def crossesLine (gap : Gap) : Bool := gap.escaped || !gap.breaks.isEmpty

def text (gap : Gap) : List Char :=
  if gap.escaped then gap.breaks
  else
    match gap.breaks with
    | [] => gap.blanks
    | ['\n'] => [' ']
    | '\n' :: more => more
    | all => all

end Gap

def readGap (margin : Int) (gap : Gap) (c : Cursor) : Except Error (Gap × Cursor) :=
  match c.rest with
  | [] => .ok (gap, c)
  | x :: rest =>
    if isBlank x then
      if gap.crossesLine then
        if x == '\t' && (c.column : Int) < margin then .error .badIndentation
        else
          let after := c.moveTo rest
          if _h : after.rest.length < c.rest.length then readGap margin gap after
          else .ok (gap, c)
      else
        let after := c.moveTo rest
        if _h : after.rest.length < c.rest.length then
          readGap margin { gap with blanks := gap.blanks ++ [x] } after
        else .ok (gap, c)
    else
      match c.lineBreak? with
      | none => .ok (gap, c)
      | some (b, after) =>
        if _h : after.rest.length < c.rest.length then
          readGap margin { gap with blanks := [], breaks := gap.breaks ++ [b] } after
        else .ok (gap, c)
termination_by c.rest.length

/-- Plain words end at blanks and before a colon that a blank follows; inside brackets the
characters of collections end them too. -/
def plainWord (inFlow : Bool) : List Char → List Char × List Char
  | [] => ([], [])
  | c :: rest =>
    if isBlank c || isBreak c || (c == ':' && endsWord rest) ||
        (inFlow && ",?[]\x7b\x7d".toList.contains c) then ([], c :: rest)
    else
      let (word, after) := plainWord inFlow rest
      (c :: word, after)

/-- Read a plain scalar whose lines are indented to `margin` at least. `gap` stands in front of the
next word. The flag tells whether the scalar ended behind a line break. -/
def readPlain (inFlow : Bool) (margin : Int) (text : List Char) (gap : Gap) (c : Cursor) :
    Except Error (List Char × Bool × Cursor) :=
  let (word, rest) := plainWord inFlow c.rest
  if c.atDocumentMark || c.rest.head? == some '#' || word.isEmpty then
    .ok (text, gap.crossesLine, c)
  else
    let text := text ++ gap.text ++ word
    let after := c.moveTo rest
    match readGap margin .empty after with
    | .error e => .error e
    | .ok (gap, next) =>
      if next.index == after.index then .ok (text, false, after)
      else if !inFlow && (next.column : Int) < margin then .ok (text, gap.crossesLine, next)
      else if _h : next.rest.length < c.rest.length then readPlain inFlow margin text gap next
      else .ok (text, gap.crossesLine, next)
termination_by c.rest.length

inductive RunEnd where
  | closed
  | gap
  | escapedBreak
  deriving DecidableEq, Repr

def singleRun : List Char → List Char × RunEnd × List Char
  | [] => ([], .gap, [])
  | '\'' :: '\'' :: rest =>
    let (text, how, after) := singleRun rest
    ('\'' :: text, how, after)
  | '\'' :: rest => ([], .closed, rest)
  | c :: rest =>
    if isBlank c || isBreak c then ([], .gap, c :: rest)
    else
      let (text, how, after) := singleRun rest
      (c :: text, how, after)

def namedEscapes : List (Char × Nat) :=
  [('0', 0), ('a', 7), ('b', 8), ('t', 9), ('\t', 9), ('n', 10), ('v', 11), ('f', 12), ('r', 13),
    ('e', 27), (' ', 32), ('"', 34), ('\'', 39), ('/', 47), ('\\', 92), ('N', 0x85), ('_', 0xA0),
    ('L', 0x2028), ('P', 0x2029)]

def codeWidth? (c : Char) : Option Nat :=
  if c == 'x' then some 2 else if c == 'u' then some 4 else if c == 'U' then some 8 else none

def readEscape : List Char → Except Error (Char × Nat)
  | [] => .error .badEscape
  | c :: rest =>
    match namedEscapes.find? (·.1 == c) with
    | some (_, n) => .ok (Char.ofNat n, 1)
    | none =>
      match codeWidth? c with
      | none => .error .badEscape
      | some width =>
        let digits := rest.take width
        match Text.digitsValue? 16 digits with
        | none => .error .badEscape
        | some n =>
          if digits.length == width && (n == 0 || (Char.ofNat n).toNat == n) then
            .ok (Char.ofNat n, width + 1)
          else .error .badEscape

def doubleRun (s : List Char) : Except Error (List Char × RunEnd × List Char) :=
  match s with
  | [] => .ok ([], .gap, [])
  | '"' :: rest => .ok ([], .closed, rest)
  | '\\' :: rest =>
    if !rest.isEmpty && endsLine rest then .ok ([], .escapedBreak, rest)
    else
      match readEscape rest with
      | .error e => .error e
      | .ok (x, width) =>
        match doubleRun (rest.drop width) with
        | .error e => .error e
        | .ok (text, how, after) => .ok (x :: text, how, after)
  | c :: rest =>
    if isBlank c || isBreak c then .ok ([], .gap, c :: rest)
    else
      match doubleRun rest with
      | .error e => .error e
      | .ok (text, how, after) => .ok (c :: text, how, after)
termination_by s.length

def readQuoted (double : Bool) (text : List Char) (c : Cursor) :
    Except Error (List Char × Cursor) :=
  if c.atDocumentMark then .error .badIndicator
  else if c.rest.isEmpty then .error .unclosed
  else
    let run := if double then doubleRun c.rest else .ok (singleRun c.rest)
    match run with
    | .error e => .error e
    | .ok (word, how, rest) =>
      let text := text ++ word
      let after := c.moveTo rest
      match how with
      | .closed => .ok (text, after)
      | _ =>
        let escaped := how == .escapedBreak
        let begin := if escaped then after.skipBreak else after
        match readGap 0 { Gap.empty with escaped := escaped } begin with
        | .error e => .error e
        | .ok (gap, next) =>
          if _h : next.rest.length < c.rest.length then readQuoted double (text ++ gap.text) next
          else .error .unclosed
termination_by c.rest.length

inductive Chomping where
  | strip
  | clip
  | keep
  deriving DecidableEq, Repr

def chompingMark? : List Char → Option (Chomping × List Char)
  | '+' :: rest => some (.keep, rest)
  | '-' :: rest => some (.strip, rest)
  | _ => none

def indentMark? : List Char → Except Error (Option (Nat × List Char))
  | c :: rest =>
    if c == '0' then .error .badIndicator
    else if c.isDigit then .ok (some (c.toNat - '0'.toNat, rest))
    else .ok none
  | [] => .ok none

def readBlockMarks (s : List Char) : Except Error (Chomping × Option Nat × List Char) := do
  match chompingMark? s with
  | some (chomping, rest) =>
    match ← indentMark? rest with
    | some (n, rest) => return (chomping, some n, rest)
    | none => return (chomping, none, rest)
  | none =>
    match ← indentMark? s with
    | none => return (.clip, none, s)
    | some (n, rest) =>
      match chompingMark? rest with
      | some (chomping, rest) => return (chomping, some n, rest)
      | none => return (.clip, some n, rest)

/-- Read the empty lines in front of a line of a block scalar, and its indentation up to `indent`.
Without an indentation the deepest of these lines is reported. -/
def readBlockBreaks (indent : Option Nat) (breaks : List Char) (deepest : Nat) (c : Cursor) :
    Except Error (List Char × Nat × Cursor) :=
  let spaces := c.rest.takeWhile (· == ' ')
  let inner := match indent with
    | some n => c.skip (min spaces.length (n - c.column))
    | none => c.skip spaces.length
  let deepest := max deepest inner.column
  let short := match indent with
    | some n => inner.column < n
    | none => true
  if short && inner.rest.head? == some '\t' then .error .badIndentation
  else
    match inner.lineBreak? with
    | none => .ok (breaks, deepest, inner)
    | some (b, after) =>
      if _h : after.rest.length < c.rest.length then
        readBlockBreaks indent (breaks ++ [b]) deepest after
      else .ok (breaks, deepest, inner)
termination_by c.rest.length

/-- The lines of a block scalar: `pending` is the break behind the text so far, `breaks` are the
empty lines behind that, and `blankLine` tells that the last line began with a blank. -/
def readBlockLines (literal : Bool) (indent : Nat) (text pending breaks : List Char)
    (blankLine : Bool) (c : Cursor) : Except Error (List Char × List Char × List Char × Cursor) :=
  if c.column != indent || c.rest.isEmpty then .ok (text, pending, breaks, c)
  else
    let startsBlank := (c.rest.head?.map isBlank).getD false
    let joined :=
      if !literal && !blankLine && !startsBlank && pending == ['\n'] then
        if breaks.isEmpty then [' '] else []
      else pending
    let line := c.rest.takeWhile (!isBreak ·)
    let text := text ++ joined ++ breaks ++ line
    let lineEnd := c.skip line.length
    let (pending, after) := match lineEnd.lineBreak? with
      | some (b, after) => ([b], after)
      | none => ([], lineEnd)
    match readBlockBreaks (some indent) [] 0 after with
    | .error e => .error e
    | .ok (breaks, _, next) =>
      if _h : next.rest.length < c.rest.length then
        readBlockLines literal indent text pending breaks startsBlank next
      else .ok (text, pending, breaks, next)
termination_by c.rest.length

def readBlock (literal : Bool) (outer : Int) (c : Cursor) :
    Except Error (List Char × Cursor) := do
  let (chomping, hint, rest) ← readBlockMarks c.rest
  let c := (c.moveTo rest).skipWhile isBlank
  let c := if c.rest.head? == some '#' then c.skipWhile (!isBreak ·) else c
  if !endsLine c.rest then throw .badIndicator
  let c := c.skipBreak
  let hinted := hint.map fun n => (max outer 0).toNat + n
  let (breaks, deepest, c) ← readBlockBreaks hinted [] 0 c
  let indent := hinted.getD (max deepest (max (outer + 1).toNat 1))
  let (text, pending, breaks, c) ← readBlockLines literal indent [] [] breaks false c
  let tail := match chomping with
    | .strip => []
    | .clip => pending
    | .keep => pending ++ breaks
  return (text ++ tail, c)

end LineSieve.Yaml
