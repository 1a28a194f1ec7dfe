import LineSieve.Encoding.Charset
import LineSieve.Text.Alphabet
import LineSieve.Yaml.Lexer
import LineSieve.Yaml.Node
import LineSieve.Yaml.Value

/- From a YAML file to the mapping that its first document holds. -/
namespace LineSieve.Yaml

def usualTag : List Char := "tag:yaml.org,2002:".toList

/-- The value of a scalar. In quotes or under a lone exclamation mark in front of quotes it is a
text; a tag other than that of its kind is refused. -/
def scalarValue (tag : Option (List Char)) (plain : Bool) (text : List Char) :
    Except Error Value :=
  match tag with
  | none => .ok (if plain then .ofPlain true text else .string text)
  | some tag =>
    if tag == ['!'] then .ok (if plain then .ofPlain true text else .string text)
    else
      match (usualTag.isPrefixOf? tag).bind fun name =>
          Value.Kind.tags.lookup (String.ofList name) with
      | none => .error .unknownTag
      | some kind =>
        match Value.ofTagged? kind text with
        | some value => .ok value
        | none => .error .unknownTag

namespace Node

def sameKey : Node → Node → Bool
  | .scalar _ _ text, .scalar _ _ other => text == other
  | .alias name _, .alias other _ => name == other
  | .sequence _, .sequence _ => true
  | .mapping _, .mapping _ => true
  | _, _ => false

def hasDuplicates : List Node → Bool
  | [] => false
  | key :: rest => rest.any key.sameKey || hasDuplicates rest

def isMergeKey : Node → Bool
  | .scalar none plain text => plain && text == ['<', '<']
  | .scalar (some tag) plain text =>
    text == ['<', '<'] && ((plain && tag == ['!']) || tag == usualTag ++ "merge".toList)
  | _ => false

def keyText? (key : Node) : Except Error (Option (List Char)) :=
  match key.target with
  | .scalar tag plain text => do
    match ← scalarValue tag plain text with
    | .null => return none
    | .string read => return some read
    | _ => return some text
  | _ => .error .badKey

structure Merge where
  entries : List (List Char × Value)
  seen : List (List Char)

mutual

def value : Node → Except Error Value
  | .scalar tag plain text => scalarValue tag plain text
  | .sequence items => do return .list (← values items)
  | .mapping entries => do
    if hasDuplicates (entries.map (·.1)) then throw .duplicateKey
    let own ← ownEntries false false ⟨[], []⟩ entries
    let all ← mergedEntries false own entries
    return .map all.entries
  | .alias _ node => node.value

def values : List Node → Except Error (List Value)
  | [] => .ok []
  | item :: rest => do
    let value ← item.value
    return value :: (← values rest)

/-- The entries that stand in a mapping itself. While `merging`, keys that are there already are
passed over; in the `outermost` mapping a key without a value is passed over with what belongs to
it. -/
def ownEntries (outermost merging : Bool) (merge : Merge) :
    List (Node × Node) → Except Error Merge
  | [] => .ok merge
  | (key, node) :: rest => do
    if key.isMergeKey then ownEntries outermost merging merge rest
    else
      match ← key.keyText? with
      | none =>
        if !outermost then
          let _ ← node.value
        ownEntries outermost merging merge rest
      | some text =>
        if merging && merge.seen.contains text then ownEntries outermost merging merge rest
        else
          let value ← node.value
          ownEntries outermost merging
            ⟨merge.entries ++ [(text, value)], text :: merge.seen⟩ rest

def mergedEntries (outermost : Bool) (merge : Merge) : List (Node × Node) → Except Error Merge
  | [] => .ok merge
  | (key, node) :: rest => do
    let merge ← if key.isMergeKey then mergeSource outermost true merge node else pure merge
    mergedEntries outermost merge rest

def mergeSource (outermost listAllowed : Bool) (merge : Merge) : Node → Except Error Merge
  | .mapping entries => do
    if hasDuplicates (entries.map (·.1)) then throw .duplicateKey
    let own ← ownEntries outermost true merge entries
    mergedEntries outermost own entries
  | .alias _ node => mergeSource outermost false merge node
  | .sequence items =>
    if listAllowed then mergeSources outermost merge items else .error .badMerge
  | .scalar .. => .error .badMerge

def mergeSources (outermost : Bool) (merge : Merge) : List Node → Except Error Merge
  | [] => .ok merge
  | item :: rest => do
    let merge ← mergeSource outermost false merge item
    mergeSources outermost merge rest

end

def documentEntries : Node → Except Error (List (List Char × Value))
  | .mapping entries => do
    if hasDuplicates (entries.map (·.1)) then throw .duplicateKey
    let own ← ownEntries true false ⟨[], []⟩ entries
    return (← mergedEntries true own entries).entries
  | node => do
    match ← node.value with
    | .null => return []
    | _ => throw .notAMapping

end Node

def isAllowed (c : Char) : Bool :=
  let n := c.toNat
  n == 0x09 || n == 0x0A || n == 0x0D || (0x20 ≤ n && n ≤ 0x7E) || n == 0x85 ||
    (0xA0 ≤ n && n ≤ 0xFFFD) || 0x10000 ≤ n

def fileText? (bytes : ByteArray) : Option (List Char) :=
  match bytes.toList with
  | 0xFF :: 0xFE :: _ => some (Encoding.utf16Chars .fromMark bytes.toList)
  | 0xFE :: 0xFF :: _ => some (Encoding.utf16Chars .fromMark bytes.toList)
  | _ => (Text.decode? bytes).map Encoding.dropMark

def read (bytes : ByteArray) : Except Error (List (List Char × Value)) := do
  match fileText? bytes with
  | none => throw .badCharacter
  | some text =>
    if !text.all isAllowed then throw .badCharacter
    match ← Node.ofTokens (Tokens.ofText text) with
    | none => return []
    | some node => node.documentEntries

end LineSieve.Yaml
