import LineSieve.CommandLine.Csv
import LineSieve.Text.Integer
import LineSieve.Text.Quoted

/- What is wrong with a command line. -/
namespace LineSieve

inductive ValueError where
  | number (e : Text.LiteralError)
  | truth
  | list (e : Csv.Error)
  deriving DecidableEq, Repr

def ValueError.message (given : String) : ValueError → String
  | .number .malformed =>
    "strconv.ParseInt: parsing " ++ Text.quotedString given ++ ": invalid syntax"
  | .number .outOfRange =>
    "strconv.ParseInt: parsing " ++ Text.quotedString given ++ ": value out of range"
  | .truth => "strconv.ParseBool: parsing " ++ Text.quotedString given ++ ": invalid syntax"
  | .list e => e.message

inductive UsageError where
  | badFlag (argument : String)
  | unknownFlag (name : String)
  | unknownLetter (letter : Char) (letters : String)
  | missingValue (argument : String)
  | badValue (flag value : String) (e : ValueError)
  | unknownCommand (name command : String)
  | wrongCount (wanted received : Nat)
  | tooMany (most received : Nat)
  | unsupportedFormat (given : String)
  | noWorkers
  deriving DecidableEq, Repr

def quotedLetter (c : Char) : String :=
  if c = '\'' then "'\\''"
  else if c = '"' then "'\"'"
  else "'" ++ String.ofList (Text.quotedChar c) ++ "'"

def UsageError.message : UsageError → String
  | .badFlag argument => "bad flag syntax: " ++ argument
  | .unknownFlag name => "unknown flag: --" ++ name
  | .unknownLetter letter letters =>
    "unknown shorthand flag: " ++ quotedLetter letter ++ " in -" ++ letters
  | .missingValue argument => "flag needs an argument: " ++ argument
  | .badValue flag value e =>
    "invalid argument " ++ Text.quotedString value ++ " for " ++ Text.quotedString flag ++
      " flag: " ++ e.message value
  | .unknownCommand name command =>
    "unknown command " ++ Text.quotedString name ++ " for " ++ Text.quotedString command
  | .wrongCount wanted received =>
    "accepts " ++ toString wanted ++ " arg(s), received " ++ toString received
  | .tooMany most received =>
    "accepts at most " ++ toString most ++ " arg(s), received " ++ toString received
  | .unsupportedFormat given =>
    "unsupported format " ++ Text.quotedString given ++ ", allowed values: table, json"
  | .noWorkers => "workers must be greater than 0"

end LineSieve
