import LineSieve.Encoding.Charset
import LineSieve.Text.Alphabet
import LineSieve.Text.LetterCase
import LineSieve.Text.Quoted

/- Decoding with a list of character sets: the first one that accepts a file decodes it. -/
namespace LineSieve

inductive EncodingError where
  | unknown (name : String)
  | unsupported (name : String)
  deriving DecidableEq, Repr

def EncodingError.message : EncodingError → String
  | .unknown name =>
    "unknown encoding " ++ Text.quotedString name ++ ": ianaindex: invalid encoding name"
  | .unsupported name => "unsupported encoding " ++ Text.quotedString name

namespace Encoding

/-- What a library has under a name: nothing, a character set that it cannot read, or a decoder. -/
abbrev Library := String → Option (Option Reader)

def names : List (String × Reader) :=
  ["us-ascii", "iso-ir-6", "ansi_x3.4-1968", "ansi_x3.4-1986", "iso_646.irv:1991", "iso646-us",
    "us", "ibm367", "cp367", "csascii"].map (·, ascii) ++
  ["iso-8859-1", "iso_8859-1:1987", "iso-ir-100", "iso_8859-1", "latin1", "l1", "ibm819", "cp819",
    "csisolatin1"].map (·, latin1) ++
  ["iso-8859-15", "iso_8859-15", "latin-9", "csiso885915"].map (·, table latin9High) ++
  ["windows-1252", "cswindows1252"].map (·, table windows1252High) ++
  ["windows-1251", "cswindows1251"].map (·, table windows1251High) ++
  ["koi8-r", "cskoi8r"].map (·, table koi8rHigh) ++
  ["ibm437", "cp437", "437", "cspc8codepage437"].map (·, table ibm437High) ++
  ["utf-16", "csutf16"].map (·, utf16 .fromMark) ++
  ["utf-16le", "csutf16le"].map (·, utf16 .little) ++
  ["utf-16be", "csutf16be"].map (·, utf16 .big)

def withoutDecoder : List String :=
  ["utf-7", "csutf7", "utf-32", "csutf32", "utf-32be", "csutf32be", "utf-32le", "csutf32le"]

/-- A library of ten character sets. Names are looked up without regard to case. -/
def Library.standard : Library := fun name =>
  let key := Text.lowerString name
  match names.lookup key with
  | some read => some (some read)
  | none => if withoutDecoder.contains key then some none else none

/-- The character set of a name; blanks around it and letter case do not count. -/
def ofName (library : Library) (name : String) : Except EncodingError (String × Charset) :=
  let trimmed := Text.trimString name
  let key := Text.lowerString trimmed
  if key = "utf-8" || key = "utf8" then .ok ("utf-8", .utf8)
  else
    match library trimmed with
    | some (some read) => .ok (key, .other read)
    | some none => .error (.unsupported trimmed)
    | none => .error (.unknown trimmed)

end Encoding

structure Decoder where
  candidates : List (String × Charset)

structure Decoded where
  text : List Char
  encoding : String
  deriving DecidableEq, Repr

/-- No character set accepts the content. The last one that was tried says why. -/
inductive Undecodable where
  | noCandidates
  | refused (reason : String)
  deriving DecidableEq, Repr

def Undecodable.message : Undecodable → String
  | .noCandidates => "content is not decodable with any configured encoding"
  | .refused reason => "content is not decodable with any configured encoding: " ++ reason

namespace Decoder

def defaultNames : List String := ["utf-8", "iso-8859-1"]

def resolve (library : Encoding.Library) :
    List String → Except EncodingError (List (String × Charset))
  | [] => .ok []
  | name :: rest =>
    match Encoding.ofName library name, resolve library rest with
    | .error e, _ => .error e
    | .ok _, .error e => .error e
    | .ok candidate, .ok candidates => .ok (candidate :: candidates)

/-- A decoder for the named encodings; an empty list means the default ones. -/
def ofNames (names : List String) (library : Encoding.Library := .standard) :
    Except EncodingError Decoder :=
  (resolve library (if names.isEmpty then defaultNames else names)).map Decoder.mk

def default : Decoder := ⟨[("utf-8", .utf8), ("iso-8859-1", .other Encoding.latin1)]⟩

/-- Try the character sets one after another; `last` is why the one before refused. -/
def firstAccepting (bytes : ByteArray) (last : Undecodable) :
    List (String × Charset) → Except Undecodable Decoded
  | [] => .error last
  | (name, charset) :: rest =>
    match charset.decode bytes with
    | .ok text => .ok ⟨text, name⟩
    | .error reason => firstAccepting bytes (.refused reason) rest

def decode (decoder : Decoder) (bytes : ByteArray) : Except Undecodable Decoded :=
  firstAccepting bytes .noCandidates decoder.candidates

end Decoder

end LineSieve
