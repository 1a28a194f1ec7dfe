import LineSieve.Text.Quoted

/- JSON documents with ordered fields, and their two written forms. Strings are written so that they
   can stand inside markup: angle brackets, ampersands and the two line separators are escaped. -/
namespace LineSieve

inductive Json where
  | null
  | bool (value : Bool)
  | int (value : Int)
  | string (value : List Char)
  | array (items : List Json)
  | object (fields : List (String × Json))

namespace Json

def ofString (s : String) : Json := .string s.toList

def escapedChar (c : Char) : List Char :=
  let n := c.toNat
  if c == '"' || c == '\\' then ['\\', c]
  else if n == 8 then ['\\', 'b']
  else if n == 12 then ['\\', 'f']
  else if n == 10 then ['\\', 'n']
  else if n == 13 then ['\\', 'r']
  else if n == 9 then ['\\', 't']
  else if n < 0x20 || c == '<' || c == '>' || c == '&' || n == 0x2028 || n == 0x2029 then
    ['\\', 'u'] ++ Text.hexDigits 4 n
  else [c]

def quotedText (s : List Char) : List Char := '"' :: (s.flatMap escapedChar ++ ['"'])

def joinItems (lead : List Char) : List (List Char) → List Char
  | [] => []
  | [item] => lead ++ item
  | item :: rest => lead ++ item ++ [','] ++ joinItems lead rest

mutual

def compact : Json → List Char
  | .null => "null".toList
  | .bool value => (if value then "true" else "false").toList
  | .int value => (toString value).toList
  | .string value => quotedText value
  | .array items => '[' :: (joinItems [] (compactItems items) ++ [']'])
  | .object fields => '\x7b' :: (joinItems [] (compactFields fields) ++ ['\x7d'])

def compactItems : List Json → List (List Char)
  | [] => []
  | item :: rest => item.compact :: compactItems rest

def compactFields : List (String × Json) → List (List Char)
  | [] => []
  | (key, value) :: rest => (quotedText key.toList ++ ':' :: value.compact) :: compactFields rest

end

def newLine (depth : Nat) : List Char := '\n' :: List.replicate (2 * depth) ' '

mutual

def indented (depth : Nat) : Json → List Char
  | .null => "null".toList
  | .bool value => (if value then "true" else "false").toList
  | .int value => (toString value).toList
  | .string value => quotedText value
  | .array items =>
    if items.isEmpty then ['[', ']']
    else
      '[' :: (joinItems (newLine (depth + 1)) (indentedItems (depth + 1) items) ++ newLine depth ++
        [']'])
  | .object fields =>
    if fields.isEmpty then ['\x7b', '\x7d']
    else
      '\x7b' :: (joinItems (newLine (depth + 1)) (indentedFields (depth + 1) fields) ++
        newLine depth ++ ['\x7d'])

def indentedItems (depth : Nat) : List Json → List (List Char)
  | [] => []
  | item :: rest => item.indented depth :: indentedItems depth rest

def indentedFields (depth : Nat) : List (String × Json) → List (List Char)
  | [] => []
  | (key, value) :: rest =>
    (quotedText key.toList ++ ':' :: ' ' :: value.indented depth) :: indentedFields depth rest

end

end Json

end LineSieve
