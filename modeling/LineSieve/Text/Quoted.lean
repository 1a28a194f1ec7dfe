import LineSieve.CodePoint.Property

/- Text in double quotes with escapes, as error messages and log lines show it. -/
namespace LineSieve.CodePoint

def printableRanges : Ranges :=
  generalCategories.flatMap fun entry =>
    if ['L', 'M', 'N', 'P', 'S'].any (entry.1.toList.head? == some ·) then Ranges.ofRows entry.2
    else []

def isPrintable (n : Nat) : Bool :=
  if n < 0x80 then 0x20 ≤ n && n < 0x7F else printableRanges.contains n

end LineSieve.CodePoint

namespace LineSieve.Text

def hexDigits : Nat → Nat → List Char
  | 0, _ => []
  | width + 1, n => hexDigits width (n / 16) ++ [Nat.digitChar (n % 16)]

def quotedChar (c : Char) : List Char :=
  let n := c.toNat
  if c == '"' || c == '\\' then ['\\', c]
  else if CodePoint.isPrintable n then [c]
  else if n == 7 then ['\\', 'a']
  else if n == 8 then ['\\', 'b']
  else if n == 12 then ['\\', 'f']
  else if n == 10 then ['\\', 'n']
  else if n == 13 then ['\\', 'r']
  else if n == 9 then ['\\', 't']
  else if n == 11 then ['\\', 'v']
  else if n < 0x20 || n == 0x7F then ['\\', 'x'] ++ hexDigits 2 n
  else if n < 0x10000 then ['\\', 'u'] ++ hexDigits 4 n
  else ['\\', 'U'] ++ hexDigits 8 n

def quoted (s : List Char) : List Char := '"' :: (s.flatMap quotedChar ++ ['"'])

def quotedString (s : String) : String := String.ofList (quoted s.toList)

end LineSieve.Text
