import LineSieve.Text.Alphabet
import LineSieve.Text.Integer
import LineSieve.Text.LetterCase
import LineSieve.Text.Quoted

/- Log levels and formats, and how options name them. -/
namespace LineSieve.Log

/-- A level is a small number; an event is logged if its level is not below that of the log. -/
structure Level where
  number : Int
  deriving DecidableEq, Repr

namespace Level

def debug : Level := ⟨0⟩

def info : Level := ⟨1⟩

def warn : Level := ⟨2⟩

def error : Level := ⟨3⟩

def disabled : Level := ⟨7⟩

def named : List (String × Level) :=
  [("trace", ⟨-1⟩), ("debug", debug), ("info", info), ("warn", warn), ("error", error),
    ("fatal", ⟨4⟩), ("panic", ⟨5⟩), ("disabled", disabled)]

def name (level : Level) : String :=
  match named.find? (·.2 = level) with
  | some entry => entry.1
  | none => if level.number = 6 then "" else toString level.number

end Level

inductive Format where
  | console
  | json
  deriving DecidableEq, Repr

inductive OptionError where
  | unknownLevel (given lowered : String)
  | levelOutOfBounds (given : String) (number : Int)
  | unsupportedFormat (given : String) (showAllowed : Bool)
  deriving DecidableEq, Repr

def OptionError.message : OptionError → String
  | .unknownLevel given lowered =>
    "parse log level " ++ Text.quotedString given ++ ": Unknown Level String: '" ++ lowered ++
      "', defaulting to NoLevel"
  | .levelOutOfBounds given number =>
    "parse log level " ++ Text.quotedString given ++ ": Out-Of-Bounds Level: '" ++
      toString number ++ "', defaulting to NoLevel"
  | .unsupportedFormat given showAllowed =>
    "unsupported log format " ++ Text.quotedString given ++
      if showAllowed then ", allowed values: console, json" else ""

structure Options where
  level : String
  format : String
  deriving DecidableEq, Repr

namespace Options

def default : Options := ⟨"info", "console"⟩

private def normalized (s : String) : String := Text.lowerString (Text.trimString s)

/-- The level of a text: a name, a number of one signed byte, or nothing for the usual level. -/
def parseLevel (given : String) : Except OptionError Level :=
  let lowered := normalized given
  if lowered = "" then .ok .info
  else
    match Level.named.find? fun entry => Text.equalFoldString lowered entry.1 with
    | some entry => .ok entry.2
    | none =>
      match Text.decimal? lowered.toList with
      | none => .error (.unknownLevel given lowered)
      | some number =>
        if -128 ≤ number && number ≤ 127 then .ok ⟨number⟩
        else .error (.levelOutOfBounds given number)

def parseFormat? (given : String) : Option Format :=
  match normalized given with
  | "" => some .console
  | "console" => some .console
  | "json" => some .json
  | _ => none

def resolve (options : Options) (showAllowed : Bool) : Except OptionError (Level × Format) :=
  match parseLevel options.level with
  | .error e => .error e
  | .ok level =>
    match parseFormat? options.format with
    | some format => .ok (level, format)
    | none => .error (.unsupportedFormat options.format showAllowed)

end Options

end LineSieve.Log
