import LineSieve.Text.Search

/- The letters that texts are lists of. A text that was read is a list of characters, and the same
   text as it is stored is a list of bytes, its UTF-8 form. Bytes need not be the form of anything;
   those that belong to no character stand alone and are read as U+FFFD. -/
namespace LineSieve.Text

/-- ASCII white space with the vertical tab, next line, no-break space, the space separators and the
line and paragraph separators. -/
def isBlank (c : Char) : Bool :=
  let n := c.toNat
  (0x09 ≤ n && n ≤ 0x0D) || n == 0x20 || n == 0x85 || n == 0xA0 || n == 0x1680 ||
    (0x2000 ≤ n && n ≤ 0x200A) || n == 0x2028 || n == 0x2029 || n == 0x202F || n == 0x205F ||
    n == 0x3000

-- From the right end: a letter goes when it satisfies the predicate and all behind it went.
def dropTrailing {α : Type} (p : α → Bool) : List α → List α
  | [] => []
  | c :: s =>
    match dropTrailing p s with
    | [] => if p c then [] else [c]
    | kept => c :: kept

def utf8 (s : List Char) : List UInt8 := s.flatMap String.utf8EncodeChar

/-- The character that bytes start with. -/
def leading? (bytes : List UInt8) : Option Char := (bytes.take 4).toByteArray.utf8DecodeChar? 0

/-- The bytes of each character, and every other byte alone. -/
def glyphs : List UInt8 → List (List UInt8)
  | [] => []
  | b :: rest =>
    -- Inside of a character no other one starts, so what follows there are single bytes.
    let more := ((leading? (b :: rest)).map Char.utf8Size).getD 1 - 1
    (b :: rest.take more) :: (glyphs rest).drop more

def isBlankGlyph (glyph : List UInt8) : Bool := (leading? glyph).any isBlank

def charEnds : LineEnds Char := ⟨'\n', '\r'⟩

def byteEnds : LineEnds UInt8 := ⟨10, 13⟩

class Alphabet (α : Type) where
  ofAscii : Char → α
  ends : LineEnds α
  /-- The number of bytes of a letter. -/
  size : α → Nat
  ofChars : List Char → List α
  /-- The characters that a pattern is searched in. -/
  chars : List α → List Char
  bytes : List α → List UInt8
  trimLeft : List α → List α
  trimRight : List α → List α
  allBlank : List α → Bool

export Alphabet (ofAscii ofChars chars bytes trimLeft trimRight allBlank)

instance : Alphabet Char where
  ofAscii c := c
  ends := charEnds
  size := Char.utf8Size
  ofChars s := s
  chars s := s
  bytes := utf8
  trimLeft s := s.dropWhile isBlank
  trimRight s := dropTrailing isBlank s
  allBlank s := s.all isBlank

instance : Alphabet UInt8 where
  ofAscii c := c.toUInt8
  ends := byteEnds
  size _ := 1
  ofChars := utf8
  chars bytes := (glyphs bytes).map fun glyph => (leading? glyph).getD '\ufffd'
  bytes bytes := bytes
  trimLeft bytes := ((glyphs bytes).dropWhile isBlankGlyph).flatten
  trimRight bytes := (dropTrailing isBlankGlyph (glyphs bytes)).flatten
  allBlank bytes := (glyphs bytes).all isBlankGlyph

section

variable {α : Type} [Alphabet α]

def encode (s : List α) : ByteArray := (bytes s).toByteArray

def trim (s : List α) : List α := trimRight (trimLeft s)

def byteLength : List α → Nat
  | [] => 0
  | c :: s => Alphabet.size c + byteLength s

/-- The longest beginning of a text that has at most `n` bytes. -/
def takeBytes (n : Nat) : List α → List α
  | [] => []
  | c :: s => if Alphabet.size c ≤ n then c :: takeBytes (n - Alphabet.size c) s else []

def splitLines [BEq α] (text : List α) : List (List α) := Alphabet.ends.split text

def renderLines [BEq α] (lines : List (List α)) : List α := Alphabet.ends.render lines

end

def decode? (bytes : ByteArray) : Option (List Char) := (String.fromUTF8? bytes).map String.toList

def trimString (s : String) : String := String.ofList (trim s.toList)

def hexByte (b : UInt8) : List Char :=
  [Nat.digitChar (b.toNat / 16), Nat.digitChar (b.toNat % 16)]

end LineSieve.Text
