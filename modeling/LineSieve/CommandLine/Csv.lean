import LineSieve.Text.Alphabet
import LineSieve.Text.Search

/- Lists of values in one argument, separated by commas. A value in double quotes may hold commas
   and line breaks, and a quote in it is written twice. Only the first record of a text counts. -/
namespace LineSieve.Csv

inductive Fault where
  | bareQuote
  | strayQuote
  deriving DecidableEq, Repr

inductive Error where
  | noRecord
  | at (start line column : Nat) (fault : Fault)
  deriving DecidableEq, Repr

def Fault.message : Fault → String
  | .bareQuote => "bare \" in non-quoted field"
  | .strayQuote => "extraneous or missing \" in quoted-field"

def Error.message : Error → String
  | .noRecord => "EOF"
  | .at start line column fault =>
    (if start = line then "" else "record on line " ++ toString start ++ "; ") ++
      "parse error on line " ++ toString line ++ ", column " ++ toString column ++ ": " ++
      fault.message

/-- Line ends are newlines: a carriage return in front of one goes, and one at the very end. -/
def normalized : List Char → List Char
  | '\r' :: '\n' :: rest => '\n' :: normalized rest
  | ['\r'] => []
  | c :: rest => c :: normalized rest
  | [] => []

/-- Where a reader stands in a field: at its start, inside it without quotes, inside quotes, or
behind a quote that may close it. -/
inductive Phase where
  | start
  | bare
  | quoted
  | closing
  deriving DecidableEq, Repr

structure Place where
  start : Nat
  line : Nat
  column : Nat
  deriving Repr

def Place.pass (p : Place) (c : Char) : Place := { p with column := p.column + c.utf8Size }

def Place.error (p : Place) (fault : Fault) : Error := .at p.start p.line p.column fault

def Place.nextLine (p : Place) (rest : List Char) : Place :=
  if rest.isEmpty then p.pass '\n' else { p with line := p.line + 1, column := 1 }

def fields (phase : Phase) (p : Place) (field : List Char) :
    List Char → Except Error (List (List Char))
  | [] => if phase == .quoted then .error (p.error .strayQuote) else .ok [field]
  | c :: rest =>
    match phase with
    | .start | .bare =>
      if c == '"' then
        if phase == .start then fields .quoted (p.pass c) [] rest
        else .error (p.error .bareQuote)
      else if c == ',' then (fields .start (p.pass c) [] rest).map (field :: ·)
      else if c == '\n' then .ok [field]
      else fields .bare (p.pass c) (field ++ [c]) rest
    | .quoted =>
      if c == '"' then fields .closing (p.pass c) field rest
      else if c == '\n' then fields .quoted (p.nextLine rest) (field ++ [c]) rest
      else fields .quoted (p.pass c) (field ++ [c]) rest
    | .closing =>
      if c == '"' then fields .quoted (p.pass c) (field ++ [c]) rest
      else if c == ',' then (fields .start (p.pass c) [] rest).map (field :: ·)
      else if c == '\n' then .ok [field]
      else .error ({ p with column := p.column - 1 }.error .strayQuote)

def firstRecord (line : Nat) : List Char → Except Error (List (List Char))
  | [] => .error .noRecord
  | '\n' :: rest => firstRecord (line + 1) rest
  | s => fields .start ⟨line, line, 1⟩ [] s

def read (text : String) : Except Error (List String) :=
  if text.isEmpty then .ok []
  else (firstRecord 1 (normalized text.toList)).map (·.map String.ofList)

end LineSieve.Csv
