import LineSieve.Record
import LineSieve.Text.Alphabet

/- Sieving a file from the records of its lines. The output depends on the records only: comments
   and forbidden calls go, licence headers, annotations and guarded lines stay as they are. -/
namespace LineSieve

inductive Action where
  | kept
  | trimmed
  | stripped
  | dropped
  deriving DecidableEq, Repr

def Action.name : Action → String
  | .kept => "kept"
  | .trimmed => "trimmed"
  | .stripped => "stripped"
  | .dropped => "dropped"

structure Decision where
  index : Int
  category : Category
  action : Action
  deriving DecidableEq, Repr

structure Sieved (α : Type := Char) where
  lines : List (List α)
  decisions : List Decision
  deriving DecidableEq, Repr

variable {α : Type} [DecidableEq α] [Text.Alphabet α]

/-- The output line of a record and what was done to it. -/
def Record.decide (record : Record α) : List α × Action :=
  match record.category with
  | .license | .annotated | .inlineAnnotated => (record.text, .kept)
  | .blockClose =>
    let code := record.codeText
    if code.isEmpty then ([], .dropped) else (code, .stripped)
  | .code =>
    if record.urlGuarded then (record.text, .kept)
    else
      let code := record.codeText
      if code.isEmpty then ([], .dropped)
      else if 0 ≤ record.commentAt then (code, .stripped)
      else if code = record.text then (code, .kept)
      else (code, .trimmed)
  | _ => ([], .dropped)

def trimBlankEdges (lines : List (List α)) : List (List α) :=
  ((lines.dropWhile Text.allBlank).reverse.dropWhile Text.allBlank).reverse

def keptLines (records : List (Record α)) : List (List α) :=
  records.filterMap fun record =>
    let (line, action) := record.decide
    if action = .dropped then none else some line

def sieve (records : List (Record α)) : Sieved α where
  lines := trimBlankEdges (keptLines records)
  decisions := records.map fun record => ⟨record.index, record.category, record.decide.2⟩

def Sieved.changed (sieved : Sieved α) (input : List (List α)) : Bool :=
  sieved.lines != input

def Sieved.render (sieved : Sieved α) : List α := Text.renderLines sieved.lines

end LineSieve
