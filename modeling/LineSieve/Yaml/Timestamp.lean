import LineSieve.Text.Integer

/- Dates and times that YAML reads as such: a year of four digits, month and day of one or two, and
   perhaps a time of day. -/
namespace LineSieve.Yaml.Timestamp

def small? (bound : Nat) (s : List Char) : Option (Nat × List Char) :=
  let digits := (s.take 2).takeWhile Char.isDigit
  match Text.digitsValue? 10 digits with
  | some n => if n < bound then some (n, s.drop digits.length) else none
  | none => none

def isLeapYear (year : Nat) : Bool := year % 4 == 0 && (year % 100 != 0 || year % 400 == 0)

def daysIn (year month : Nat) : Nat :=
  if month == 2 then (if isLeapYear year then 29 else 28)
  else if [4, 6, 9, 11].contains month then 30
  else 31

def expect? (c : Char) : List Char → Option (List Char)
  | x :: rest => if x == c then some rest else none
  | [] => none

def date? (s : List Char) : Option (List Char) := do
  let year ← Text.digitsValue? 10 (s.take 4)
  let rest ← expect? '-' (s.drop 4)
  let (month, rest) ← small? 13 rest
  let rest ← expect? '-' rest
  let (day, rest) ← small? 32 rest
  if 1 ≤ month && 1 ≤ day && day ≤ daysIn year month then some rest else none

def clock? (s : List Char) : Option (List Char) := do
  let (_, rest) ← small? 24 s
  let rest ← expect? ':' rest
  let (_, rest) ← small? 60 rest
  let rest ← expect? ':' rest
  let (_, rest) ← small? 60 rest
  match rest with
  | point :: digit :: more =>
    if (point == '.' || point == ',') && digit.isDigit then some (more.dropWhile Char.isDigit)
    else some rest
  | _ => some rest

def isZone : List Char → Bool
  | ['Z'] => true
  | [sign, a, b, ':', c, d] =>
    (sign == '+' || sign == '-') &&
      ((Text.digitsValue? 10 [a, b]).any (· ≤ 24)) && ((Text.digitsValue? 10 [c, d]).any (· ≤ 60))
  | _ => false

/-- Whether a text is a date, or a date and a time: the time stands behind a letter and has a zone,
or behind a space and has none. -/
def holds (s : List Char) : Bool :=
  match date? s with
  | none => false
  | some [] => true
  | some (c :: rest) =>
    if c == 'T' || c == 't' then (clock? rest).any isZone
    else c == ' ' && (clock? (rest.dropWhile (· == ' '))).any List.isEmpty

end LineSieve.Yaml.Timestamp
