import LineSieve.Record
import LineSieve.Rules

/- The line classifier: one forward pass over the lines of a file. The category of a line depends on
   its text and on the state before it only. String literals are not recognised, so a marker inside
   one counts as a marker. -/
namespace LineSieve

/-- What the classifier carries from line to line: whether it is inside of a block comment, the
forbidden call that is open, with the number of its open parentheses and the line it started on, and
whether there was code. -/
structure State where
  inBlock : Bool := false
  inForbidden : Bool := false
  parenDepth : Nat := 0
  statementStart : Nat := 0
  codeSeen : Bool := false
  deriving DecidableEq, Repr

variable {α : Type} [DecidableEq α] [Text.Alphabet α]

def State.unclosed? (state : State) : Option Nat :=
  if state.inForbidden then some state.statementStart else none

/-- Count the parentheses of `text`; the call ends when none is left open. -/
def State.advance (state : State) (text : List α) : State :=
  let depth :=
    state.parenDepth + text.count (Text.ofAscii '(') - text.count (Text.ofAscii ')')
  if depth = 0 then { state with inForbidden := false, parenDepth := 0, statementStart := 0 }
  else { state with parenDepth := depth }

namespace Rules

def startsCall (rules : Rules α) (text : List α) : Bool :=
  match rules.forbidden with
  | some pattern => pattern.search text
  | none => false

def withoutComment (rules : Rules α) (text : List α) : List α :=
  Text.before rules.lineComment text

def isGap (c : α) : Bool := c == Text.ofAscii ' ' || c == Text.ofAscii '\t'

/-- A line with a block opener is an annotation if it starts with the sigil, or with the opener and
then, after spaces and tabs, the sigil. -/
def isAnnotationBlock (rules : Rules α) (trimmed : List α) : Bool :=
  rules.sigil.isPrefixOf trimmed ||
    match rules.blockOpen.isPrefixOf? trimmed with
    | some inner => rules.sigil.isPrefixOf (inner.dropWhile isGap)
    | none => false

/-- Offer `text` of line `index` to the forbidden call that is open, or see whether it starts one.
The category is that of a line of the call, if it is one. -/
def feedCall (rules : Rules α) (index : Nat) (state : State) (text : List α) :
    Option Category × State :=
  if state.inForbidden then (some .forbiddenContinuation, state.advance text)
  else if rules.startsCall text then
    let started := { state with inForbidden := true, parenDepth := 0, statementStart := index }
    (some .forbidden, started.advance text)
  else (none, state)

/-- A line outside a block comment that holds a block opener: `front` stands before the opener and
`rest` behind it. -/
def classifyOpener (rules : Rules α) (index : Nat) (state : State) (text front rest : List α) :
    Record α × State :=
  let code := rules.withoutComment text
  match Text.cut? rules.blockClose rest with
  | some (_, after) =>
    let counted := if code.length = front.length then code ++ rules.withoutComment after else code
    match rules.feedCall index state counted with
    | (some category, next) =>
      ({ index, text, category, depth := next.parenDepth }, next)
    | (none, next) =>
      ({ index, text, category := .blockClose, commentAt := Text.byteLength code },
        { next with codeSeen := next.codeSeen || !Text.allBlank code })
  | none =>
    let (fed, next) := rules.feedCall index state code
    ({ index, text, category := .blockOpen, depth := if fed.isSome then next.parenDepth else 0 },
      { next with inBlock := true })

def classifyInBlock (rules : Rules α) (index : Nat) (state : State) (text : List α) :
    Record α × State :=
  match Text.cut? rules.blockClose text with
  | some (_, after) =>
    let closed := { state with inBlock := false }
    if state.inForbidden then
      let (_, next) := rules.feedCall index closed (rules.withoutComment after)
      ({ index, text, category := .blockClose, commentAt := 0, depth := next.parenDepth }, next)
    else ({ index, text, category := .blockClose, commentAt := 0 }, closed)
  | none => ({ index, text, category := .blockBody }, state)

def classifyCode (rules : Rules α) (index : Nat) (state : State) (text : List α) :
    Record α × State :=
  match rules.feedCall index state text with
  | (some category, next) => ({ index, text, category, depth := next.parenDepth }, next)
  | (none, next) =>
    let next := { next with codeSeen := true }
    match Text.cut? rules.lineComment text with
    | none => ({ index, text, category := .code }, next)
    | some (code, rest) =>
      if rules.sigil.isPrefixOf (rules.lineComment ++ rest) then
        ({ index, text, category := .inlineAnnotated }, next)
      else if rules.url.search text then
        ({ index, text, category := .code, urlGuarded := true }, next)
      else ({ index, text, category := .code, commentAt := Text.byteLength code }, next)

def classifyLine (rules : Rules α) (index : Nat) (state : State) (text : List α) :
    Record α × State :=
  let trimmed := Text.trim text
  if trimmed.isEmpty then ({ index, text, category := .blank }, state)
  else if state.inBlock then rules.classifyInBlock index state text
  else
    match Text.cut? rules.blockOpen text with
    | some (front, rest) =>
      if rules.isAnnotationBlock trimmed then ({ index, text, category := .annotated }, state)
      else rules.classifyOpener index state text front rest
    | none =>
      if rules.sigil.isPrefixOf trimmed then ({ index, text, category := .annotated }, state)
      else if rules.lineComment.isPrefixOf trimmed then
        if !state.codeSeen && rules.license.search trimmed then
          ({ index, text, category := .license }, state)
        else ({ index, text, category := .comment }, state)
      else rules.classifyCode index state text

end Rules

structure Classifier (α : Type := Char) where
  rules : Rules α
  state : State := {}
  index : Nat := 1

namespace Classifier

def next (classifier : Classifier α) (text : List α) : Record α × Classifier α :=
  let (record, state) := classifier.rules.classifyLine classifier.index classifier.state text
  (record, { classifier with state, index := classifier.index + 1 })

def run (classifier : Classifier α) : List (List α) → List (Record α) × Classifier α
  | [] => ([], classifier)
  | line :: lines =>
    let (record, after) := classifier.next line
    let (records, last) := after.run lines
    (record :: records, last)

end Classifier

def Rules.classify (rules : Rules α) (lines : List (List α)) : List (Record α) :=
  (Classifier.run { rules } lines).1

/-- The records of lines of characters. Rules over bytes read them as bytes. -/
def AnyRules.classify : AnyRules → List (List Char) → List Record
  | .ofText rules, lines => rules.classify lines
  | .ofBytes rules, lines =>
    List.zipWith (fun line record => { record with text := line }) lines
      (rules.classify (lines.map Text.utf8))

end LineSieve
