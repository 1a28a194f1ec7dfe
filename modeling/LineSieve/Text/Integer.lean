/- Reading integers from text: decimal ones, and those that are written as in programs, where a prefix
   or a leading zero names the base and underscores may stand between digits. -/
namespace LineSieve.Text

def digitValue? (c : Char) : Option Nat :=
  if '0' ≤ c && c ≤ '9' then some (c.toNat - '0'.toNat)
  else if 'a' ≤ c && c ≤ 'f' then some (c.toNat - 'a'.toNat + 10)
  else if 'A' ≤ c && c ≤ 'F' then some (c.toNat - 'A'.toNat + 10)
  else none

def digitsValue? (base : Nat) (digits : List Char) : Option Nat :=
  if digits.isEmpty then none
  else
    digits.foldlM (fun value c =>
      (digitValue? c).bind fun digit =>
        if digit < base then some (value * base + digit) else none) 0

def takeSign : List Char → Bool × List Char
  | '-' :: rest => (true, rest)
  | '+' :: rest => (false, rest)
  | s => (false, s)

def signed (negative : Bool) (n : Nat) : Int := if negative then -(n : Int) else n

def wordCount : Nat := 18446744073709551616

def negativeCount : Nat := 9223372036854775808

def fitsInt64 (n : Int) : Bool := -(negativeCount : Int) ≤ n && n < negativeCount

def decimal? (s : List Char) : Option Int :=
  let (negative, digits) := takeSign s
  match digitsValue? 10 digits with
  | some n => if fitsInt64 (signed negative n) then some (signed negative n) else none
  | none => none

inductive LiteralError where
  | malformed
  | outOfRange
  deriving DecidableEq, Repr

def takeBase : List Char → Nat × List Char
  | '0' :: c :: d :: rest =>
    if c == 'b' || c == 'B' then (2, d :: rest)
    else if c == 'o' || c == 'O' then (8, d :: rest)
    else if c == 'x' || c == 'X' then (16, d :: rest)
    else (8, c :: d :: rest)
  | '0' :: rest => (8, rest)
  | s => (10, s)

inductive Before where
  | digit
  | underscore
  | neither
  deriving DecidableEq, Repr

/-- Each underscore follows a digit or a base prefix and is followed by a digit. -/
def underscoresStand (hex : Bool) (before : Before) : List Char → Bool
  | [] => before != .underscore
  | c :: rest =>
    if c.isDigit || (hex && (digitValue? c).isSome) then underscoresStand hex .digit rest
    else if c == '_' then before == .digit && underscoresStand hex .underscore rest
    else before != .underscore && underscoresStand hex .neither rest

def underscoresAllowed (s : List Char) : Bool :=
  let (_, unsigned) := takeSign s
  match unsigned with
  | '0' :: c :: rest =>
    if ['b', 'B', 'o', 'O', 'x', 'X'].contains c then
      underscoresStand (c == 'x' || c == 'X') .digit rest
    else underscoresStand false .neither unsigned
  | _ => underscoresStand false .neither unsigned

/-- Read digits from left to right. Growing beyond 64 bits is noticed before a later character that
is no digit. -/
def wordValue (base value : Nat) : List Char → Except LiteralError Nat
  | [] => .ok value
  | '_' :: rest => wordValue base value rest
  | c :: rest =>
    match digitValue? c with
    | none => .error .malformed
    | some digit =>
      if base ≤ digit then .error .malformed
      else if wordCount ≤ value * base + digit then .error .outOfRange
      else wordValue base (value * base + digit) rest

def wordLiteral (s : List Char) : Except LiteralError Nat :=
  if s.isEmpty then .error .malformed
  else
    let (base, digits) := takeBase s
    match wordValue base 0 digits with
    | .error e => .error e
    | .ok n => if s.contains '_' && !underscoresAllowed s then .error .malformed else .ok n

def integerLiteral (s : List Char) : Except LiteralError Int :=
  let (negative, unsigned) := takeSign s
  match wordLiteral unsigned with
  | .error e => .error e
  | .ok n => if fitsInt64 (signed negative n) then .ok (signed negative n) else .error .outOfRange

end LineSieve.Text
