/- Bytes written in base 64: four digits for three bytes, the last group filled up by equals signs.
   Line breaks anywhere in the text do not count. -/
namespace LineSieve.Text.Base64

def digit? (c : Char) : Option Nat :=
  if 'A' ≤ c && c ≤ 'Z' then some (c.toNat - 'A'.toNat)
  else if 'a' ≤ c && c ≤ 'z' then some (c.toNat - 'a'.toNat + 26)
  else if c.isDigit then some (c.toNat - '0'.toNat + 52)
  else if c == '+' then some 62
  else if c == '/' then some 63
  else none

def group? (a b c d : Char) : Option Nat := do
  return (((← digit? a) * 64 + (← digit? b)) * 64 + (← digit? c)) * 64 + (← digit? d)

def bytes (n : Nat) : List UInt8 :=
  [UInt8.ofNat (n / 65536), UInt8.ofNat (n / 256), UInt8.ofNat n]

def groups? : List Char → Option (List UInt8)
  | [] => some []
  | [a, b, '=', '='] => (group? a b 'A' 'A').map fun n => (bytes n).take 1
  | [a, b, c, '='] => (group? a b c 'A').map fun n => (bytes n).take 2
  | a :: b :: c :: d :: rest => do return bytes (← group? a b c d) ++ (← groups? rest)
  | _ => none

def decode? (s : List Char) : Option ByteArray :=
  (groups? (s.filter fun c => c != '\r' && c != '\n')).map fun found => ⟨found.toArray⟩

def digit (n : Nat) : Char :=
  if n < 26 then Char.ofNat ('A'.toNat + n)
  else if n < 52 then Char.ofNat ('a'.toNat + (n - 26))
  else if n < 62 then Char.ofNat ('0'.toNat + (n - 52))
  else if n = 62 then '+'
  else '/'

def group (n : Nat) : List Char :=
  [digit (n / 262144 % 64), digit (n / 4096 % 64), digit (n / 64 % 64), digit (n % 64)]

def encode : List UInt8 → List Char
  | [] => []
  | [a] => (group (a.toNat * 65536)).take 2 ++ ['=', '=']
  | [a, b] => (group (a.toNat * 65536 + b.toNat * 256)).take 3 ++ ['=']
  | a :: b :: c :: rest => group (a.toNat * 65536 + b.toNat * 256 + c.toNat) ++ encode rest

end LineSieve.Text.Base64
