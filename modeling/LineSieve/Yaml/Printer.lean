import LineSieve.Text.Quoted
import LineSieve.Text.Search
import LineSieve.Yaml.Cursor
import LineSieve.Yaml.Value

/- Writing YAML. Groups and lists are indented by four spaces. A text is written plain if it reads
   back as itself, and otherwise in quotes or, if it has several lines, as a block. -/
namespace LineSieve.Yaml

/-- What stands behind a key: a word that needs no quotes, a text, bytes that are no text, a list of
texts, or a group of keys. -/
inductive Item where
  | word (text : String)
  | text (content : String)
  | bytes (content : List UInt8)
  | list (items : List String)
  | group (fields : List (String × Item))

def Item.ofBytes (content : List UInt8) : Item :=
  match String.fromUTF8? content.toByteArray with
  | some s => .text s
  | none => .bytes content

namespace Printer

def indentStep : Nat := 4

def oldBools : List String :=
  ["y", "Y", "yes", "Yes", "YES", "on", "On", "ON", "n", "N", "no", "No", "NO", "off", "Off", "OFF"]

def sixties : List (List Char) → Bool
  | [] => false
  | [last] =>
    let digits := last.takeWhile Char.isDigit
    group digits &&
      match last.drop digits.length with
      | [] => true
      | c :: places => c == '.' && places.all fun x => x.isDigit || x == '_'
  | part :: rest => group part && sixties rest
where
  group (digits : List Char) : Bool :=
    digits.length ≤ 2 && (Text.digitsValue? 10 digits).any (· < 60)

def isBaseSixty (s : List Char) : Bool :=
  let (_, unsigned) := Text.takeSign s
  match unsigned.head?, Text.splitOn ':' unsigned with
  | some c, first :: rest =>
    c.isDigit && first.all (fun x => x.isDigit || x == '_') && sixties rest
  | _, _ => false

def readsAsText (s : List Char) : Bool :=
  ((Value.ofPlain true s).kind? == some .string) && !isBaseSixty s &&
    !oldBools.contains (String.ofList s)

def isPrintable (c : Char) : Bool :=
  let n := c.toNat
  n == 0x0A || (0x20 ≤ n && n ≤ 0x7E) || (0xA0 ≤ n && n ≤ 0xFFFD && n != 0xFEFF)

def leadIndicators : List Char := "#,[]\x7b\x7d&*!|>'\"%@\x60".toList

def startsIndicator : List Char → Bool
  | [] => false
  | c :: rest =>
    let alone := match rest with
      | [] => true
      | x :: _ => isBlank x
    leadIndicators.contains c || (['?', ':', '-'].contains c && alone)

def hasIndicator : List Char → Bool
  | [] => false
  | c :: rest =>
    let inner := match rest with
      | [] => c == ':'
      | x :: _ => (c == ':' && isBlank x) || ((isBlank c || isBreak c) && x == '#')
    inner || hasIndicator rest

def hasPair (p : Char → Char → Bool) : List Char → Bool
  | a :: b :: rest => p a b || hasPair p (b :: rest)
  | _ => false

/-- What a text allows: each style has its own demands. -/
structure Traits where
  special : Bool
  tab : Bool
  breaks : Bool
  spaceBeforeBreak : Bool
  spaceAfterBreak : Bool
  spaceOrBreakAtEdge : Bool
  spaceAtEnd : Bool
  indicator : Bool
  deriving Repr

def traits (s : List Char) : Traits where
  special := s.any fun c => c != '\t' && !isPrintable c
  tab := s.contains '\t'
  breaks := s.any isBreak
  spaceBeforeBreak := hasPair (fun a b => a == ' ' && isBreak b) s
  spaceAfterBreak := hasPair (fun a b => isBreak a && b == ' ') s
  spaceOrBreakAtEdge :=
    [s.head?, s.getLast?].any fun c? => c?.any fun c => c == ' ' || isBreak c
  spaceAtEnd := s.getLast? == some ' '
  indicator :=
    "---".toList.isPrefixOf s || "...".toList.isPrefixOf s || startsIndicator s || hasIndicator s

namespace Traits

def singleAllowed (t : Traits) : Bool :=
  !(t.special || t.tab || t.spaceBeforeBreak || t.spaceAfterBreak)

def plainAllowed (t : Traits) : Bool :=
  t.singleAllowed && !t.breaks && !t.spaceOrBreakAtEdge && !t.indicator

def blockAllowed (t : Traits) : Bool := !(t.special || t.spaceBeforeBreak || t.spaceAtEnd)

end Traits

def namedEscape? (c : Char) : Option Char :=
  [(0, '0'), (7, 'a'), (8, 'b'), (9, 't'), (10, 'n'), (11, 'v'), (12, 'f'), (13, 'r'), (27, 'e'),
    (34, '"'), (92, '\\'), (0x85, 'N'), (0xA0, '_'), (0x2028, 'L'), (0x2029, 'P')].lookup c.toNat

def escaped (c : Char) : List Char :=
  let n := c.toNat
  let digits (width : Nat) := (Text.hexDigits width n).map Char.toUpper
  match namedEscape? c with
  | some letter => ['\\', letter]
  | none =>
    if n ≤ 0xFF then ['\\', 'x'] ++ digits 2
    else if n ≤ 0xFFFF then ['\\', 'u'] ++ digits 4
    else ['\\', 'U'] ++ digits 8

def doubleQuoted (s : List Char) : List Char :=
  let all := s.head? == some '\uFEFF'
  let char (c : Char) : List Char :=
    if all || !isPrintable c || isBreak c || c == '"' || c == '\\' then escaped c else [c]
  '"' :: (s.flatMap char ++ ['"'])

def indentedLines (indent : Nat) (lineStart : Bool) : List Char → List Char
  | [] => []
  | c :: rest =>
    if isBreak c then c :: indentedLines indent true rest
    else
      (if lineStart then List.replicate indent ' ' else []) ++
        c :: indentedLines indent false rest

def singleQuoted (indent : Nat) (s : List Char) : List Char :=
  let doubled := s.flatMap fun c => if c == '\'' then ['\'', '\''] else [c]
  '\'' :: (indentedLines indent false doubled ++ ['\''])

/-- How the line breaks at the end of a block are kept. -/
def chompingMark (s : List Char) : List Char :=
  match s.reverse with
  | [] => ['-']
  | [c] => if isBreak c then ['+'] else ['-']
  | c :: d :: _ => if !isBreak c then ['-'] else if isBreak d then ['+'] else []

/-- As a block of lines. A text that begins with a space or a break names its indentation. -/
def block (indent : Nat) (s : List Char) : List Char :=
  let hint := match s with
    | c :: _ => if c == ' ' || isBreak c then Nat.toDigits 10 indentStep else []
    | [] => []
  '|' :: (hint ++ chompingMark s ++ '\n' :: indentedLines indent true s)

def scalarLine (indent : Nat) (s : List Char) : List Char :=
  let t := traits s
  if s.contains '\n' then
    if t.blockAllowed then
      block indent s ++ (if (s.getLast?.map isBreak).getD false then [] else ['\n'])
    else doubleQuoted s ++ ['\n']
  else if !readsAsText s then doubleQuoted s ++ ['\n']
  else if t.plainAllowed then s ++ ['\n']
  else if t.singleAllowed then singleQuoted indent s ++ ['\n']
  else doubleQuoted s ++ ['\n']

def lineDigits : Nat := 70

def digitLines (left : Nat) : List Char → List Char
  | [] => ['\n']
  | c :: rest =>
    if left = 0 then '\n' :: c :: digitLines (lineDigits - 1) rest
    else c :: digitLines (left - 1) rest

mutual

def item (indent : Nat) : Item → List Char
  | .word text => ' ' :: (text.toList ++ ['\n'])
  | .text content => ' ' :: scalarLine (indent + indentStep) content.toList
  | .bytes content =>
    let digits := Text.Base64.encode content
    " !!binary ".toList ++
      if digits.length < lineDigits then digits ++ ['\n']
      else block (indent + indentStep) (digitLines lineDigits digits)
  | .list [] => " []\n".toList
  | .list (first :: rest) =>
    '\n' :: (first :: rest).flatMap fun text =>
      List.replicate (indent + indentStep) ' ' ++
        '-' :: ' ' :: scalarLine (indent + indentStep + 2) text.toList
  | .group fields => '\n' :: fieldLines (indent + indentStep) fields

def fieldLines (indent : Nat) : List (String × Item) → List Char
  | [] => []
  | (key, value) :: rest =>
    List.replicate indent ' ' ++ key.toList ++ ':' :: item indent value ++ fieldLines indent rest

end

end Printer

def render (fields : List (String × Item)) : List Char := Printer.fieldLines 0 fields

end LineSieve.Yaml
