import LineSieve.Real.Decimal
import LineSieve.Text.Base64
import LineSieve.Text.Alphabet
import LineSieve.Text.Integer
import LineSieve.Yaml.Timestamp

/- The values that YAML texts stand for. -/
namespace LineSieve.Yaml

inductive Value where
  | null
  | bool (value : Bool)
  | int (value : Int)
  | float (value : Float)
  | timestamp
  | string (text : List Char)
  | bytes (content : List UInt8)
  | list (items : List Value)
  | map (entries : List (List Char × Value))

namespace Value

def infinity : Float := 1 / 0

def words : List (String × Value) :=
  [("", .null), ("~", .null), ("null", .null), ("Null", .null), ("NULL", .null),
    ("true", .bool true), ("True", .bool true), ("TRUE", .bool true),
    ("false", .bool false), ("False", .bool false), ("FALSE", .bool false),
    (".nan", .float (0 / 0)), (".NaN", .float (0 / 0)), (".NAN", .float (0 / 0)),
    (".inf", .float infinity), (".Inf", .float infinity), (".INF", .float infinity),
    ("+.inf", .float infinity), ("+.Inf", .float infinity), ("+.INF", .float infinity),
    ("-.inf", .float (-infinity)), ("-.Inf", .float (-infinity)), ("-.INF", .float (-infinity))]

def wordInteger? (s : List Char) : Option Int :=
  match Text.integerLiteral s, Text.wordLiteral s with
  | .ok n, _ => some n
  | .error _, .ok n => some n
  | .error _, .error _ => none

def prefixedInteger? (s : List Char) : Option Int :=
  let (negative, unsigned) := match s with
    | '-' :: rest => (true, rest)
    | _ => (false, s)
  let digits? (base : Nat) (digits : List Char) : Option Int :=
    let (inner, digits) := if negative then (false, digits) else Text.takeSign digits
    match Text.digitsValue? base digits with
    | some n =>
      let value := Text.signed (negative || inner) n
      if Text.fitsInt64 value then some value else none
    | none => none
  match unsigned with
  | '0' :: 'b' :: digits => digits? 2 digits
  | '0' :: 'o' :: digits => digits? 8 digits
  | _ => none

def number? (s : List Char) : Option Value :=
  let bare := s.filter (· != '_')
  match wordInteger? bare with
  | some n => some (.int n)
  | none =>
    match (Decimal.read? bare).bind Decimal.toFloat? with
    | some x => some (.float x)
    | none => (prefixedInteger? bare).map .int

def fraction? (s : List Char) : Option Value :=
  if s.contains '_' && !Text.underscoresAllowed s then none
  else ((Decimal.read? (s.filter (· != '_'))).bind Decimal.toFloat?).map .float

/-- What a text without quotes stands for: a word with a meaning, a number or, if asked for, a date
or time; and otherwise itself. -/
def ofPlain (timestamps : Bool) (s : List Char) : Value :=
  match words.lookup (String.ofList s) with
  | some value => value
  | none =>
    match s with
    | c :: _ =>
      if c.isDigit || c == '+' || c == '-' then
        if timestamps && Timestamp.holds s then .timestamp else (number? s).getD (.string s)
      else if c == '.' then (fraction? s).getD (.string s)
      else .string s
    | [] => .null

/-- The tags of the kinds of scalars. A binary scalar is written in base 64; it is a text if its bytes
are one. -/
inductive Kind where
  | null
  | bool
  | int
  | float
  | timestamp
  | string
  | binary
  deriving DecidableEq, Repr

def Kind.tags : List (String × Kind) :=
  [("null", .null), ("bool", .bool), ("int", .int), ("float", .float), ("timestamp", .timestamp),
    ("str", .string), ("binary", .binary)]

def kind? : Value → Option Kind
  | .null => some .null
  | .bool _ => some .bool
  | .int _ => some .int
  | .float _ => some .float
  | .timestamp => some .timestamp
  | .string _ => some .string
  | .bytes _ => some .binary
  | .list _ => none
  | .map _ => none

def ofTagged? (kind : Kind) (s : List Char) : Option Value :=
  if kind == .string then some (.string s)
  else if kind == .binary then
    (Text.Base64.decode? s).map fun content =>
      match Text.decode? content with
      | some text => .string text
      | none => .bytes content.toList
  else
    let value := ofPlain (kind == .timestamp) s
    if value.kind? == some kind then some value
    else
      match kind, value with
      | .float, .int n => if Text.fitsInt64 n then some (.float (Float.ofInt n)) else none
      | _, _ => none

end Value

end LineSieve.Yaml
