import LineSieve.CommandLine.Error
import LineSieve.Config.Conversion

/- The flags of commands and the options they set. A flag and its value may stand in one argument
   with an equals sign between them, or in two. -/
namespace LineSieve.CommandLine

inductive Flag where
  | config
  | logLevel
  | logFormat
  | format
  | output
  | workers
  | includeTests
  | includes
  | excludes
  | dryRun
  | verify
  | force
  | help
  deriving DecidableEq, Repr

namespace Flag

def name : Flag → String
  | .config => "config"
  | .logLevel => "log-level"
  | .logFormat => "log-format"
  | .format => "format"
  | .output => "output"
  | .workers => "workers"
  | .includeTests => "include-tests"
  | .includes => "include"
  | .excludes => "exclude"
  | .dryRun => "dry-run"
  | .verify => "verify"
  | .force => "force"
  | .help => "help"

def isSwitch : Flag → Bool
  | .includeTests => true
  | .dryRun => true
  | .verify => true
  | .force => true
  | .help => true
  | _ => false

def letter? : Flag → Option Char
  | .help => some 'h'
  | _ => none

def label (flag : Flag) : String :=
  match flag.letter? with
  | some letter => "-" ++ String.singleton letter ++ ", --" ++ flag.name
  | none => "--" ++ flag.name

end Flag

structure Options where
  config : String := ""
  logLevel : String := ""
  logFormat : String := ""
  format : String := "table"
  output : String := ""
  workers : Option Int := none
  includeTests : Bool := false
  includes : List String := []
  excludes : List String := []
  dryRun : Bool := false
  verify : Bool := false
  force : Bool := false
  help : Bool := false
  deriving DecidableEq, Repr

namespace Options

def readTruth (value : String) : Except ValueError Bool :=
  match Conversion.truth? value.toList with
  | some b => .ok b
  | none => .error .truth

def readList (value : String) : Except ValueError (List String) :=
  (Csv.read value).mapError .list

/-- Give a flag a value. The last value counts, and lists grow. -/
def put (options : Options) (flag : Flag) (value : String) : Except ValueError Options :=
  match flag with
  | .config => .ok { options with config := value }
  | .logLevel => .ok { options with logLevel := value }
  | .logFormat => .ok { options with logFormat := value }
  | .format => .ok { options with format := value }
  | .output => .ok { options with output := value }
  | .workers => do
    let n ← (Text.integerLiteral value.toList).mapError .number
    return { options with workers := some n }
  | .includeTests => do return { options with includeTests := ← readTruth value }
  | .includes => do return { options with includes := options.includes ++ (← readList value) }
  | .excludes => do return { options with excludes := options.excludes ++ (← readList value) }
  | .dryRun => do return { options with dryRun := ← readTruth value }
  | .verify => do return { options with verify := ← readTruth value }
  | .force => do return { options with force := ← readTruth value }
  | .help => do return { options with help := ← readTruth value }

def set (options : Options) (flag : Flag) (value : String) : Except UsageError Options :=
  (options.put flag value).mapError (.badValue flag.label value)

def switchedOn : String := "true"

def setLetters (flags : List Flag) (options : Options) : List Char → Except UsageError Options
  | [] => .ok options
  | letter :: rest =>
    match flags.find? (·.letter? == some letter) with
    | none =>
      let letters := String.ofList (letter :: rest)
      -- The message names the first byte.
      let first := (letters.toUTF8.toList.head?.map fun b => Char.ofNat b.toNat).getD letter
      .error (.unknownLetter first letters)
    | some flag =>
      match rest with
      | '=' :: c :: value => options.set flag (String.ofList (c :: value))
      | _ => do setLetters flags (← options.set flag switchedOn) rest

end Options

/-- Cut a flag's argument at the first equals sign. -/
def splitArgument (text : List Char) : String × Option String :=
  match Text.cut? ['='] text with
  | some (name, value) => (String.ofList name, some (String.ofList value))
  | none => (String.ofList text, none)

/-- Read arguments: the options set by flags, and what is no flag. Behind two hyphens nothing is a
flag any more. -/
def parse (flags : List Flag) (options : Options) :
    List String → Except UsageError (Options × List String)
  | [] => .ok (options, [])
  | argument :: rest =>
    match argument.toList with
    | ['-', '-'] => .ok (options, rest)
    | '-' :: '-' :: text =>
      if text.head? == some '-' || text.head? == some '=' then .error (.badFlag argument)
      else
        let (name, value) := splitArgument text
        match flags.find? (·.name == name) with
        | none => .error (.unknownFlag name)
        | some flag =>
          match value, rest with
          | some value, rest => do parse flags (← options.set flag value) rest
          | none, rest =>
            if flag.isSwitch then do parse flags (← options.set flag Options.switchedOn) rest
            else
              match rest with
              | [] => .error (.missingValue argument)
              | value :: rest => do parse flags (← options.set flag value) rest
    | '-' :: c :: text => do parse flags (← options.setLetters flags (c :: text)) rest
    | _ => do
      let (options, others) ← parse flags options rest
      return (options, argument :: others)

end LineSieve.CommandLine
