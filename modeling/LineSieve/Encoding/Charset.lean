import LineSieve.Encoding.HighHalf
import LineSieve.Text.Alphabet

/- Character sets and their decoders. Strict UTF-8 refuses malformed input. All other character sets
   come from a library; those of the standard one put U+FFFD in place of what they cannot read. -/
namespace LineSieve

inductive ByteOrder where
  | big
  | little
  | fromMark
  deriving DecidableEq, Repr

abbrev Reader := ByteArray → Except String (List Char)

inductive Charset where
  | utf8
  | other (read : Reader)

namespace Encoding

def replacement : Char := '\ufffd'

def byteOrderMark : Char := '\ufeff'

def tableChar (high : List Nat) (b : UInt8) : Char :=
  if b < 128 then Char.ofNat b.toNat
  else (high[b.toNat - 128]?.map Char.ofNat).getD replacement

def isSurrogate (unit : Nat) : Bool := 0xD800 ≤ unit && unit < 0xE000

def isLeading (unit : Nat) : Bool := 0xD800 ≤ unit && unit < 0xDC00

def isTrailing (unit : Nat) : Bool := 0xDC00 ≤ unit && unit < 0xE000

def units (little : Bool) : List UInt8 → List (Option Nat)
  | [] => []
  | [_] => [none]
  | a :: b :: rest =>
    some (if little then b.toNat * 256 + a.toNat else a.toNat * 256 + b.toNat) ::
      units little rest

/-- The characters of two-byte units. A surrogate takes a trailing one behind it along; the two make
a character only if the first is a leading one. -/
def unitChars : List (Option Nat) → List Char
  | [] => []
  | none :: rest => replacement :: unitChars rest
  | [some unit] => [if isSurrogate unit then replacement else Char.ofNat unit]
  | some unit :: none :: rest =>
    (if isSurrogate unit then replacement else Char.ofNat unit) :: unitChars (none :: rest)
  | some unit :: some next :: rest =>
    if isSurrogate unit then
      if isTrailing next then
        let c := if isLeading unit then
          Char.ofNat (0x10000 + (unit - 0xD800) * 0x400 + (next - 0xDC00)) else replacement
        c :: unitChars rest
      else replacement :: unitChars (some next :: rest)
    else Char.ofNat unit :: unitChars (some next :: rest)

def utf16Chars (order : ByteOrder) (bytes : List UInt8) : List Char :=
  match order, bytes with
  | .big, _ => unitChars (units false bytes)
  | .little, _ => unitChars (units true bytes)
  | .fromMark, 0xFE :: 0xFF :: rest => unitChars (units false rest)
  | .fromMark, 0xFF :: 0xFE :: rest => unitChars (units true rest)
  | .fromMark, _ => unitChars (units false bytes)

def dropMark : List Char → List Char
  | c :: rest => if c = byteOrderMark then rest else c :: rest
  | [] => []

def ascii : Reader := fun bytes =>
  .ok (bytes.toList.map fun b => if b < 128 then Char.ofNat b.toNat else replacement)

def latin1 : Reader := fun bytes => .ok (bytes.toList.map fun b => Char.ofNat b.toNat)

def table (high : List Nat) : Reader := fun bytes => .ok (bytes.toList.map (tableChar high))

def utf16 (order : ByteOrder) : Reader := fun bytes => .ok (utf16Chars order bytes.toList)

end Encoding

def Charset.decode : Charset → Reader
  | .utf8, bytes =>
    match Text.decode? bytes with
    | some chars => .ok (Encoding.dropMark chars)
    | none => .error "invalid utf-8 sequence"
  | .other read, bytes => read bytes

end LineSieve
