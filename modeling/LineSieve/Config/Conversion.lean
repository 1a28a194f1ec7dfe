import LineSieve.Text.Search
import LineSieve.Yaml.Value

/- Reading settings: a value is converted to the type that is wanted where it makes sense. -/
namespace LineSieve.Conversion

/-- The integer of a floating-point number without its places; one that does not fit 64 bits becomes
the smallest integer. -/
def truncated (x : Float) : Int :=
  match (Binary.ofFloat? x).map Binary.truncate with
  | some n => if Text.fitsInt64 n then n else -Text.negativeCount
  | none => -Text.negativeCount

def truth? (s : List Char) : Option Bool :=
  let word := String.ofList s
  if ["1", "t", "T", "TRUE", "true", "True"].contains word then some true
  else if ["0", "f", "F", "FALSE", "false", "False"].contains word then some false
  else none

/-- An integer. Larger ones than 64 bits with a sign can hold wrap around, and no text is zero. -/
def int? : Yaml.Value → Option Int
  | .int n => some (if Text.fitsInt64 n then n else n - Text.wordCount)
  | .float x => some (truncated x)
  | .bool b => some (if b then 1 else 0)
  | .string [] => some 0
  | .string s => (Text.integerLiteral s).toOption
  | _ => none

/-- A truth value. Numbers other than zero are true, and no text is false. -/
def bool? : Yaml.Value → Option Bool
  | .bool b => some b
  | .int n => some (n != 0)
  | .float x => some (x != 0)
  | .string [] => some false
  | .string s => truth? s
  | _ => none

def string? : Yaml.Value → Option String
  | .string s => some (String.ofList s)
  | .bool b => some (if b then "1" else "0")
  | .int n => some (toString n)
  | .float x => some (String.ofList (Decimal.ofFloat x))
  | _ => none

def bytes? : Yaml.Value → Option (List UInt8)
  | .bytes content => some content
  | value => (string? value).map fun s => Text.utf8 s.toList

def item? : Yaml.Value → Option String
  | .null => some ""
  | value => string? value

/-- A list of texts. A text is split at its commas, and any other value is the only item. -/
def strings? : Yaml.Value → Option (List String)
  | .list items => items.mapM item?
  | .string [] => some []
  | .string s => some ((Text.splitOn ',' s).map String.ofList)
  | .map [] => some []
  | .map _ => none
  | value => (string? value).map fun s => [s]

end LineSieve.Conversion
