import LineSieve.CommandLine.Flag

/- The commands and how arguments name one of them. -/
namespace LineSieve.CommandLine

inductive Command where
  | root
  | version
  | dialect
  | analyze
  | strip
  | verify
  | config
  | configShow
  | configInit
  deriving DecidableEq, Repr

namespace Command

def programName : String := "luastrip"

def children : Command → List (String × Command)
  | .root => [("version", .version), ("dialect", .dialect), ("analyze", .analyze),
      ("strip", .strip), ("verify", .verify), ("config", .config)]
  | .config => [("show", .configShow), ("init", .configInit)]
  | _ => []

def path : Command → String
  | .root => programName
  | .version => programName ++ " version"
  | .dialect => programName ++ " dialect"
  | .analyze => programName ++ " analyze"
  | .strip => programName ++ " strip"
  | .verify => programName ++ " verify"
  | .config => programName ++ " config"
  | .configShow => programName ++ " config show"
  | .configInit => programName ++ " config init"

def commonFlags : List Flag := [.config, .logLevel, .logFormat]

def selectionFlags : List Flag := [.includeTests, .includes, .excludes]

def runFlags : List Flag := [.format, .output, .workers] ++ selectionFlags

def flags : Command → List Flag
  | .analyze => commonFlags ++ runFlags
  | .strip => commonFlags ++ runFlags ++ [.dryRun, .verify]
  | .verify => commonFlags ++ selectionFlags
  | .configInit => commonFlags ++ [.force]
  | _ => commonFlags

/-- Whether an argument is a flag whose value is the next argument; a flag that is not known here is
taken to have one. -/
def expectsValue (command : Command) (argument : List Char) : Bool :=
  if argument.contains '=' then false
  else
    match argument with
    | '-' :: '-' :: name =>
      !(command.flags.any fun flag => flag.name == String.ofList name && flag.isSwitch)
    | ['-', letter] =>
      letter.utf8Size == 1 &&
        !(command.flags.any fun flag => flag.letter? == some letter && flag.isSwitch)
    | _ => false

/-- The arguments that may be names of commands. A flag whose value is the last argument ends
them. -/
def words (command : Command) : List String → List String
  | [] => []
  | argument :: rest =>
    if argument = "--" then []
    else if command.expectsValue argument.toList then
      match rest with
      | _ :: next :: more => command.words (next :: more)
      | _ => []
    else if argument = "" || argument.toList.head? == some '-' then command.words rest
    else argument :: command.words rest

def without (command : Command) (name : String) : List String → List String
  | [] => []
  | argument :: rest =>
    if argument = "--" then argument :: rest
    else if command.expectsValue argument.toList then
      match rest with
      | value :: more => argument :: value :: command.without name more
      | [] => [argument]
    else if argument = name then rest
    else argument :: command.without name rest

def maxDepth : Nat := 2

def findIn (depth : Nat) (command : Command) (arguments : List String) : Command × List String :=
  match depth, command.words arguments with
  | depth + 1, word :: _ =>
    match command.children.lookup word with
    | some child => findIn depth child (command.without word arguments)
    | none => (command, arguments)
  | _, _ => (command, arguments)

def find (arguments : List String) : Except UsageError (Command × List String) :=
  match findIn maxDepth .root arguments with
  | (.root, rest) =>
    match Command.root.words rest with
    | word :: _ => .error (.unknownCommand word Command.root.path)
    | [] => .ok (.root, rest)
  | found => .ok found

def checkArguments (command : Command) (arguments : List String) : Except UsageError Unit :=
  match command with
  | .analyze | .strip | .verify =>
    if arguments.length = 1 then .ok () else .error (.wrongCount 1 arguments.length)
  | .configShow =>
    match arguments with
    | [] => .ok ()
    | word :: _ => .error (.unknownCommand word command.path)
  | .configInit =>
    if arguments.length ≤ 1 then .ok () else .error (.tooMany 1 arguments.length)
  | _ => .ok ()

end Command

end LineSieve.CommandLine
