import LineSieve.Path
import LineSieve.Text.Alphabet
import LineSieve.Text.LetterCase

/- Script dialects: the comment markers of a language and the file extensions it goes by. -/
namespace LineSieve

structure Dialect where
  name : String
  extensions : List String
  lineComment : String
  blockOpen : String
  blockClose : String
  sigil : String
  deriving DecidableEq, Repr

namespace Dialect

def lua : Dialect where
  name := "lua"
  extensions := [".lua"]
  lineComment := "--"
  blockOpen := "--[["
  blockClose := "]]"
  sigil := "---@"

def all : List Dialect := [lua]

def forFile? (path : String) : Option Dialect :=
  let extension := Text.lowerString (String.ofList (Path.extension path.toList))
  all.find? fun dialect => (dialect.extensions.map Text.lowerString).contains extension

def lookup? (name : String) : Option Dialect :=
  all.find? fun dialect => Text.equalFoldString dialect.name (Text.trimString name)

end Dialect

end LineSieve
