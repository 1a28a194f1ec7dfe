import LineSieve.CommandLine.Error
import LineSieve.Encoding.Decoder
import LineSieve.FileTree.Disk
import LineSieve.Log.Level
import LineSieve.Rules
import LineSieve.Text.Quoted

/- Why a command fails: a cause, with the context it was met in. -/
namespace LineSieve

inductive ConfigError where
  | negativeWorkers (workers : Int)
  | noEncodings
  | unknownDialect (name : String)
  deriving DecidableEq, Repr

def ConfigError.message : ConfigError → String
  | .negativeWorkers workers => "workers must be >= 0, got " ++ toString workers
  | .noEncodings => "encodings must not be empty"
  | .unknownDialect name => "unknown dialect " ++ Text.quotedString name

inductive Cause where
  | forbiddenContent
  | writesFailed
  | unsupportedFile
  | configExists
  | configUnreadable
  | configMistyped
  | undecodable (e : Undecodable)
  | canceled
  | deadline
  | malformedGlob
  | rules (e : RuleError)
  | encoding (e : EncodingError)
  | config (e : ConfigError)
  | logging (e : Log.OptionError)
  | usage (e : UsageError)
  | file (e : FileError)
  | rename (source target : String) (fault : FileFault)
  | other (text : String)
  deriving DecidableEq, Repr

def Cause.message : Cause → String
  | .forbiddenContent => "forbidden content found"
  | .writesFailed => "one or more files could not be written"
  | .unsupportedFile => "unsupported file"
  | .configExists => "config file already exists"
  | .configUnreadable => "yaml: invalid document"
  | .configMistyped => "value has the wrong type"
  | .undecodable e => e.message
  | .canceled => "context canceled"
  | .deadline => "context deadline exceeded"
  | .malformedGlob => "syntax error in pattern"
  | .rules e => e.message
  | .encoding e => e.message
  | .config e => e.message
  | .logging e => e.message
  | .usage e => e.message
  | .file e => e.message
  | .rename source target fault => "rename " ++ source ++ " " ++ target ++ ": " ++ fault.text
  | .other text => text

inductive Fault where
  | cause (root : Cause)
  | within (context : String) (inner : Fault)
  | detailed (inner : Fault) (detail : String)
  | both (first second : Fault)
  deriving DecidableEq, Repr

namespace Fault

def message : Fault → String
  | .cause root => root.message
  | .within context inner => context ++ ": " ++ inner.message
  | .detailed inner detail => inner.message ++ ": " ++ detail
  | .both first second => first.message ++ "\n" ++ second.message

def causes : Fault → List Cause
  | .cause root => [root]
  | .within _ inner => inner.causes
  | .detailed inner _ => inner.causes
  | .both first second => first.causes ++ second.causes

def has (fault : Fault) (root : Cause) : Bool := fault.causes.contains root

def ofFile (e : FileError) : Fault := .cause (.file e)

def other (text : String) : Fault := .cause (.other text)

end Fault

/-- The exit code of a command: forbidden content and interruption have codes of their own. -/
def exitCode : Option Fault → Nat
  | none => 0
  | some fault =>
    if fault.has .forbiddenContent then 2 else if fault.has .canceled then 130 else 1

end LineSieve
