import LineSieve.Log.Level

/- Log events and their written forms: one JSON object per line, or a line for people. -/
namespace LineSieve.Log

inductive Value where
  | int (value : Int)
  | text (value : String)
  deriving DecidableEq, Repr

structure Event where
  level : Level
  fields : List (String × Value)
  message : String
  deriving DecidableEq, Repr

structure Stamp where
  clock : String
  full : String
  deriving DecidableEq, Repr

def escapedChar (c : Char) : List Char :=
  let n := c.toNat
  if c == '"' || c == '\\' then ['\\', c]
  else if n == 8 then ['\\', 'b']
  else if n == 12 then ['\\', 'f']
  else if n == 10 then ['\\', 'n']
  else if n == 13 then ['\\', 'r']
  else if n == 9 then ['\\', 't']
  else if n < 0x20 || n == 0x7F then ['\\', 'u'] ++ Text.hexDigits 4 n
  else [c]

def jsonText (s : String) : String :=
  "\"" ++ String.ofList (s.toList.flatMap escapedChar) ++ "\""

def Value.json : Value → String
  | .int value => toString value
  | .text value => jsonText value

def needsQuotes (c : Char) : Bool :=
  c.toNat < 0x21 || 0x7E < c.toNat || c == '\\' || c == '"'

def Value.console : Value → String
  | .int value => toString value
  | .text value => if value.toList.any needsQuotes then Text.quotedString value else value

namespace Event

def json (event : Event) (stamp : Stamp) : String :=
  let pairs := [("level", Value.text event.level.name)] ++ event.fields ++
    [("time", .text stamp.full)] ++
    if event.message = "" then [] else [("message", .text event.message)]
  "\x7b" ++ ",".intercalate (pairs.map fun pair => jsonText pair.1 ++ ":" ++ pair.2.json) ++
    "\x7d\n"

def levelMark (level : Level) : String :=
  if level = .debug then "DBG"
  else if level = .info then "INF"
  else if level = .warn then "WRN"
  else "ERR"

/-- The fields by name, the error before all others. -/
def consoleFields (event : Event) : List (String × Value) :=
  let sorted := event.fields.mergeSort fun a b => a.1 ≤ b.1
  sorted.filter (·.1 = "error") ++ sorted.filter (·.1 ≠ "error")

def console (event : Event) (stamp : Stamp) : String :=
  let fields := event.consoleFields.map fun pair => pair.1 ++ "=" ++ pair.2.console
  let parts := [stamp.clock, levelMark event.level, event.message].filter (· ≠ "") ++ fields
  " ".intercalate parts ++ "\n"

def render (event : Event) (format : Format) (stamp : Stamp) : String :=
  match format with
  | .console => event.console stamp
  | .json => event.json stamp

end Event

def output (level : Level) (format : Format) (stamp : Stamp) (events : List Event) : String :=
  String.join ((events.filter fun event => level.number ≤ event.level.number).map fun event =>
    event.render format stamp)

def twoDigits (n : Nat) : String := if n < 10 then "0" ++ toString n else toString n

/-- Year, month and day of a day, counted from the start of 1970. The computation is done in years
that begin in March, so that the leap day comes last. -/
def civilDate (day : Nat) : Nat × Nat × Nat :=
  let z := day + 719468
  let era := z / 146097
  let inEra := z % 146097
  let year := (inEra - inEra / 1460 + inEra / 36524 - inEra / 146096) / 365
  let inYear := inEra - (365 * year + year / 4 - year / 100)
  let shifted := (5 * inYear + 2) / 153
  let month := if shifted < 10 then shifted + 3 else shifted - 9
  let year := year + 400 * era + (if month ≤ 2 then 1 else 0)
  (year, month, inYear - (153 * shifted + 2) / 5 + 1)

def Stamp.ofSeconds (seconds : Nat) : Stamp :=
  let (year, month, day) := civilDate (seconds / 86400)
  let inDay := seconds % 86400
  let clock := twoDigits (inDay / 3600) ++ ":" ++ twoDigits (inDay / 60 % 60) ++ ":" ++
    twoDigits (inDay % 60)
  ⟨clock, toString year ++ "-" ++ twoDigits month ++ "-" ++ twoDigits day ++ "T" ++ clock ++ "Z"⟩

end LineSieve.Log
