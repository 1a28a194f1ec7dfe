import LineSieve.Yaml.Scalar

/- From text to tokens. A key of a mapping is recognised only at the colon behind it, so the lexer
   remembers where a key may have begun and puts the marks in front of it later. -/
namespace LineSieve.Yaml

inductive Token where
  | versionDirective (major minor : Nat)
  | tagDirective (handle leader : List Char)
  | documentStart
  | documentEnd
  | streamEnd
  | blockSequenceStart
  | blockMappingStart
  | blockEnd
  | flowSequenceStart
  | flowSequenceEnd
  | flowMappingStart
  | flowMappingEnd
  | blockEntry
  | flowEntry
  | keyMark
  | valueMark
  | alias (name : List Char)
  | anchor (name : List Char)
  | tag (handle suffix : List Char)
  | scalar (text : List Char) (plain : Bool)
  deriving DecidableEq, Repr

structure Tokens where
  tokens : List Token
  complete : Bool
  deriving DecidableEq, Repr

/-- A place where a key may have begun: the number of its first token and its position. In a block,
what begins at the indentation of a mapping has to be a key. -/
structure PendingKey where
  required : Bool
  token : Nat
  line : Nat
  column : Nat
  index : Nat
  deriving Repr

/-- The lexer: `key` is the pending key of the innermost collection and `outerKeys` are those of the
collections around it, one for each open bracket. -/
structure Lexer where
  cursor : Cursor
  tokens : Array Token
  indent : Int
  outerIndents : List Int
  key : Option PendingKey
  outerKeys : List (Option PendingKey)
  keyAllowed : Bool
  deriving Repr

def maxKeyLength : Nat := 1024

namespace Lexer

def start (text : List Char) : Lexer :=
  ⟨Cursor.start text, #[], -1, [], none, [], true⟩

def inFlow (lx : Lexer) : Bool := !lx.outerKeys.isEmpty

def push (lx : Lexer) (token : Token) : Lexer := { lx with tokens := lx.tokens.push token }

def pushMark (lx : Lexer) (token : Token) (width : Nat) : Lexer :=
  { lx.push token with cursor := lx.cursor.skip width }

def insert (lx : Lexer) (place : Nat) (token : Token) : Lexer :=
  { lx with tokens := lx.tokens.insertIdxIfInBounds place token }

def closeBlocks (lx : Lexer) (column : Int) : Lexer :=
  if lx.inFlow then lx else go column lx.outerIndents lx
where
  go (column : Int) : List Int → Lexer → Lexer
    | outer :: rest, lx =>
      if column < lx.indent then
        go column rest { lx.push .blockEnd with indent := outer, outerIndents := rest }
      else lx
    | [], lx => lx

/-- Open a block at `column` if it is indented deeper than the current one; its token becomes
number `place`. -/
def openBlock (lx : Lexer) (column place : Nat) (token : Token) : Lexer :=
  if lx.inFlow || (column : Int) ≤ lx.indent then lx
  else
    { lx.insert place token with indent := column, outerIndents := lx.indent :: lx.outerIndents }

def dropKey (lx : Lexer) : Except Error Lexer :=
  match lx.key with
  | some key => if key.required then .error .badKey else .ok { lx with key := none }
  | none => .ok lx

def saveKey (lx : Lexer) : Except Error Lexer :=
  if lx.keyAllowed then do
    let c := lx.cursor
    let required := !lx.inFlow && lx.indent == (c.column : Int)
    let lx ← lx.dropKey
    return { lx with key := some ⟨required, lx.tokens.size, c.line, c.column, c.index⟩ }
  else .ok lx

/-- The pending key, if it began in this line and not too far back. -/
def validKey? (lx : Lexer) : Except Error (Option PendingKey) :=
  match lx.key with
  | none => .ok none
  | some key =>
    if key.line < lx.cursor.line || key.index + maxKeyLength < lx.cursor.index then
      if key.required then .error .badKey else .ok none
    else .ok (some key)

def allowKey (lx : Lexer) (allowed : Bool) : Lexer := { lx with keyAllowed := allowed }

/-- Skip blanks, a comment and the line break behind them; the flag tells whether there was one. In
a block, a tab is no blank where a key may begin, except in front of a comment that follows another
one; behind a line break a key may begin. -/
def skipLine (lx : Lexer) : Lexer × Bool :=
  let c := lx.cursor.skipWhile fun x => x == ' ' || (x == '\t' && (lx.inFlow || !lx.keyAllowed))
  let isComment := c.rest.head? == some '#'
  let lineEnd := if isComment then c.skipWhile (!isBreak ·) else c
  let comment := lineEnd.skipGap
  if isComment && comment.rest.head? == some '#' then ({ lx with cursor := comment }, true)
  else
    match lineEnd.lineBreak? with
    | none => ({ lx with cursor := lineEnd }, false)
    | some (_, after) =>
      ({ lx with cursor := after, keyAllowed := lx.keyAllowed || !lx.inFlow }, true)

def skipToToken (lx : Lexer) : Lexer :=
  let (next, more) := lx.skipLine
  if _h : more = true ∧ next.cursor.rest.length < lx.cursor.rest.length then next.skipToToken
  else next
termination_by lx.cursor.rest.length

def finish (lx : Lexer) : Except Error Lexer := do
  let c := lx.cursor
  let last := if c.column == 0 then c else { c with line := c.line + 1, column := 0 }
  let lx ← ({ lx with cursor := last }.closeBlocks (-1)).dropKey
  return (lx.allowKey false).push .streamEnd

def documentMark (lx : Lexer) (token : Token) : Except Error Lexer := do
  let lx ← (lx.closeBlocks (-1)).dropKey
  return (lx.allowKey false).pushMark token 3

def openFlow (lx : Lexer) (token : Token) : Except Error Lexer := do
  let lx ← lx.saveKey
  return { lx.pushMark token 1 with
    key := none, outerKeys := lx.key :: lx.outerKeys, keyAllowed := true }

def closeFlow (lx : Lexer) (token : Token) : Except Error Lexer := do
  let lx ← lx.dropKey
  let lx := match lx.outerKeys with
    | key :: outer => { lx with key := key, outerKeys := outer }
    | [] => lx
  return (lx.allowKey false).pushMark token 1

def flowEntry (lx : Lexer) : Except Error Lexer := do
  let lx ← lx.dropKey
  return (lx.allowKey true).pushMark .flowEntry 1

def blockEntry (lx : Lexer) : Except Error Lexer := do
  if !lx.inFlow && !lx.keyAllowed then throw .badIndicator
  let lx ← (lx.openBlock lx.cursor.column lx.tokens.size .blockSequenceStart).dropKey
  return (lx.allowKey true).pushMark .blockEntry 1

def explicitKey (lx : Lexer) : Except Error Lexer := do
  if !lx.inFlow && !lx.keyAllowed then throw .badIndicator
  let lx ← (lx.openBlock lx.cursor.column lx.tokens.size .blockMappingStart).dropKey
  return (lx.allowKey (!lx.inFlow)).pushMark .keyMark 1

/-- A colon in front of a value. What stands in front of it in the same line is a key and gets its
marks now. -/
def valueMark (lx : Lexer) : Except Error Lexer := do
  match ← lx.validKey? with
  | some key =>
    let lx := (lx.insert key.token .keyMark).openBlock key.column key.token .blockMappingStart
    return ({ lx with key := none }.allowKey false).pushMark .valueMark 1
  | none =>
    if !lx.inFlow && !lx.keyAllowed then throw .badIndicator
    let lx := lx.openBlock lx.cursor.column lx.tokens.size .blockMappingStart
    return ({ lx with key := none }.allowKey (!lx.inFlow)).pushMark .valueMark 1

def readName (c : Cursor) : Except Error (List Char × Cursor) :=
  let name := c.rest.takeWhile isNameChar
  let after := c.skip name.length
  let ended := endsWord after.rest ||
    (after.rest.head?.map fun x => "?:,]\x7d%@\x60".toList.contains x).getD false
  if name.isEmpty || !ended then .error .badIndicator else .ok (name, after)

def nameToken (lx : Lexer) (make : List Char → Token) : Except Error Lexer := do
  let lx ← lx.saveKey
  let (name, after) ← readName (lx.cursor.skip 1)
  return { (lx.allowKey false).push (make name) with cursor := after }

def isTagChar (c : Char) : Bool := isNameChar c || ";/?:@&=+$,.!~*'()[]%".toList.contains c

def unescapeTag : List Char → Except Error (List Char)
  | '%' :: a :: b :: rest =>
    match Text.digitsValue? 16 [a, b] with
    | some n =>
      if n < 0x80 then do return Char.ofNat n :: (← unescapeTag rest) else .error .badTag
    | none => .error .badTag
  | '%' :: _ => .error .badTag
  | c :: rest => do return c :: (← unescapeTag rest)
  | [] => .ok []

def readHandle : List Char → Except Error (List Char × List Char)
  | '!' :: rest =>
    let name := rest.takeWhile isNameChar
    match rest.drop name.length with
    | '!' :: after => .ok ('!' :: name ++ ['!'], after)
    | after => .ok ('!' :: name, after)
  | _ => .error .badTag

def readTag (s : List Char) : Except Error (Token × List Char) := do
  match s with
  | '!' :: '<' :: rest =>
    let whole := rest.takeWhile isTagChar
    match rest.drop whole.length with
    | '>' :: after =>
      if whole.isEmpty then throw .badTag
      return (.tag [] (← unescapeTag whole), after)
    | _ => throw .badTag
  | _ =>
    let (handle, rest) ← readHandle s
    let suffix := rest.takeWhile isTagChar
    let after := rest.drop suffix.length
    let suffix ← unescapeTag suffix
    if handle.length > 1 && handle.getLast? == some '!' then
      if suffix.isEmpty then throw .badTag
      return (.tag handle suffix, after)
    else if handle.length == 1 && suffix.isEmpty then return (.tag [] ['!'], after)
    else return (.tag ['!'] (handle.drop 1 ++ suffix), after)

def tagToken (lx : Lexer) : Except Error Lexer := do
  let lx ← lx.saveKey
  let (token, after) ← readTag lx.cursor.rest
  if !endsWord after then throw .badTag
  return { (lx.allowKey false).push token with cursor := lx.cursor.moveTo after }

def blockScalar (lx : Lexer) (literal : Bool) : Except Error Lexer := do
  let lx ← lx.dropKey
  let (text, after) ← readBlock literal lx.indent (lx.cursor.skip 1)
  return { (lx.allowKey true).push (.scalar text false) with cursor := after }

def quotedScalar (lx : Lexer) (double : Bool) : Except Error Lexer := do
  let lx ← lx.saveKey
  let (text, after) ← readQuoted double [] (lx.cursor.skip 1)
  return { (lx.allowKey false).push (.scalar text false) with cursor := after }

def plainScalar (lx : Lexer) : Except Error Lexer := do
  let lx ← lx.saveKey
  let (text, crossed, after) ← readPlain lx.inFlow (lx.indent + 1) [] .empty lx.cursor
  return { (lx.allowKey crossed).push (.scalar text true) with cursor := after }

def readVersionNumber (s : List Char) : Except Error (Nat × List Char) :=
  let digits := s.takeWhile Char.isDigit
  match Text.digitsValue? 10 digits with
  | some n => if digits.length ≤ 9 then .ok (n, s.drop digits.length) else .error .badDirective
  | none => .error .badDirective

def readDirective (s : List Char) : Except Error (Token × List Char) := do
  let name := s.takeWhile isNameChar
  let rest := s.drop name.length
  if !endsWord rest then throw .badDirective
  let rest := rest.dropWhile isBlank
  if name == "YAML".toList then
    let (major, rest) ← readVersionNumber rest
    match rest with
    | '.' :: rest =>
      let (minor, rest) ← readVersionNumber rest
      return (.versionDirective major minor, rest)
    | _ => throw .badDirective
  else if name == "TAG".toList then
    let (handle, rest) ← readHandle rest
    if handle.length > 1 && handle.getLast? != some '!' then throw .badDirective
    if !(rest.head?.map isBlank).getD false then throw .badDirective
    let rest := rest.dropWhile isBlank
    let leader := rest.takeWhile isTagChar
    if leader.isEmpty || !endsWord (rest.drop leader.length) then throw .badDirective
    return (.tagDirective handle (← unescapeTag leader), rest.drop leader.length)
  else throw .badDirective

def directive (lx : Lexer) : Except Error Lexer := do
  let lx ← (lx.closeBlocks (-1)).dropKey
  let c := lx.cursor.skip 1
  let (token, rest) ← readDirective c.rest
  let c := (c.moveTo rest).skipWhile isBlank
  let c := if c.rest.head? == some '#' then c.skipWhile (!isBreak ·) else c
  if !endsLine c.rest then throw .badDirective
  return { (lx.allowKey false).push token with cursor := c.skipBreak }

def indicators : List Char := "-?:,[]\x7b\x7d#&*!|>'\"%@\x60".toList

/-- A plain scalar may begin here: with no indicator, with a hyphen in front of more text, or in a
block with a question mark or colon in front of more text. -/
def startsPlain (inFlow : Bool) (c : Char) (rest : List Char) : Bool :=
  !(isBlank c || isBreak c || indicators.contains c) ||
    (c == '-' && !(rest.head?.map isBlank).getD false) ||
    (!inFlow && (c == '?' || c == ':') && !endsWord rest)

def step (lx : Lexer) : Except Error Lexer :=
  let lx := lx.closeBlocks lx.cursor.column
  let c := lx.cursor
  match c.rest with
  | [] => lx.finish
  | x :: rest =>
    let block := !lx.inFlow
    if c.column == 0 && x == '%' then lx.directive
    else if c.atDocumentMark then
      lx.documentMark (if x == '-' then .documentStart else .documentEnd)
    else if x == '[' then lx.openFlow .flowSequenceStart
    else if x == '\x7b' then lx.openFlow .flowMappingStart
    else if x == ']' then lx.closeFlow .flowSequenceEnd
    else if x == '\x7d' then lx.closeFlow .flowMappingEnd
    else if x == ',' then lx.flowEntry
    else if x == '-' && endsWord rest then lx.blockEntry
    else if x == '?' && (!block || endsWord rest) then lx.explicitKey
    else if x == ':' && (!block || endsWord rest) then lx.valueMark
    else if x == '*' then lx.nameToken .alias
    else if x == '&' then lx.nameToken .anchor
    else if x == '!' then lx.tagToken
    else if x == '|' && block then lx.blockScalar true
    else if x == '>' && block then lx.blockScalar false
    else if x == '\'' then lx.quotedScalar false
    else if x == '"' then lx.quotedScalar true
    else if startsPlain lx.inFlow x rest then lx.plainScalar
    else .error .badCharacter

def run (lx : Lexer) : Tokens :=
  let begun := lx.skipToToken
  match begun.step with
  | .error _ => ⟨lx.tokens.toList, false⟩
  | .ok next =>
    if begun.cursor.rest.isEmpty then ⟨next.tokens.toList, true⟩
    else if _h : next.cursor.rest.length < lx.cursor.rest.length then run next
    else ⟨lx.tokens.toList, false⟩
termination_by lx.cursor.rest.length

end Lexer

def Tokens.ofText (text : List Char) : Tokens := (Lexer.start text).run

end LineSieve.Yaml
