import LineSieve.Yaml.Cursor
import LineSieve.Yaml.Lexer

/- The tree of the first document of a YAML text. Aliases are replaced by the nodes they name. -/
namespace LineSieve.Yaml

inductive Node where
  | scalar (tag : Option (List Char)) (plain : Bool) (text : List Char)
  | sequence (items : List Node)
  | mapping (entries : List (Node × Node))
  | alias (name : List Char) (target : Node)

namespace Node

def empty : Node := .scalar none true []

def target : Node → Node
  | .alias _ node => node.target
  | node => node

end Node

/-- Reading tokens: those not yet read, the anchors met so far with the nodes they name, unknown
while a node is still being read, and the handles of tags. -/
structure NodeReader where
  tokens : List Token
  anchors : Array (List Char × Option Node)
  handles : List (List Char × List Char)

/-- Where a node stands: in a block a node may be a block itself, and as a key or value of a block
mapping it may be a sequence that is not indented. -/
inductive Place where
  | flow
  | block
  | entry
  deriving DecidableEq, Repr

namespace NodeReader

def peek (r : NodeReader) : Except Error Token :=
  match r.tokens with
  | token :: _ => .ok token
  | [] => .error .unexpectedToken

def skip (r : NodeReader) : NodeReader := { r with tokens := r.tokens.drop 1 }

def find (r : NodeReader) (name : List Char) : Except Error Node :=
  match r.anchors.toList.reverse.find? (·.1 == name) with
  | some (_, some node) => .ok node
  | _ => .error .unknownAnchor

def openAnchor (r : NodeReader) : Option (List Char) → NodeReader
  | some name => { r with anchors := r.anchors.push (name, none) }
  | none => r

/-- The node of the anchor with the given number has been read. -/
def closeAnchor (r : NodeReader) (number : Nat) (node : Node) : Option (List Char) → NodeReader
  | some name => { r with anchors := r.anchors.setIfInBounds number (name, some node) }
  | none => r

def resolveTag (r : NodeReader) (handle suffix : List Char) : Except Error (List Char) :=
  if handle.isEmpty then .ok suffix
  else
    match r.handles.find? (·.1 == handle) with
    | some (_, leader) =>
      if (leader ++ suffix).isEmpty then .error .badTag else .ok (leader ++ suffix)
    | none => .error .badTag

def properties (r : NodeReader) :
    Except Error (Option (List Char) × Option (List Char) × NodeReader) :=
  match r.tokens with
  | .anchor name :: .tag handle suffix :: rest => do
    return (some name, some (← r.resolveTag handle suffix), { r with tokens := rest })
  | .tag handle suffix :: .anchor name :: rest => do
    return (some name, some (← r.resolveTag handle suffix), { r with tokens := rest })
  | .anchor name :: rest => .ok (some name, none, { r with tokens := rest })
  | .tag handle suffix :: rest => do
    return (none, some (← r.resolveTag handle suffix), { r with tokens := rest })
  | _ => .ok (none, none, r)

mutual

def readNode (fuel : Nat) (place : Place) (r : NodeReader) : Except Error (Node × NodeReader) :=
  match fuel with
  | 0 => .error .unexpectedToken
  | fuel + 1 => do
    match ← r.peek with
    | .alias name => return (.alias name (← r.find name), r.skip)
    | _ =>
      let number := r.anchors.size
      let (name, tag, r) ← r.properties
      let begun := r.openAnchor name
      let (node, after) ← readContent fuel place tag (name.isSome || tag.isSome) begun
      return (node, after.closeAnchor number node name)

def readContent (fuel : Nat) (place : Place) (tag : Option (List Char)) (mayBeEmpty : Bool)
    (r : NodeReader) : Except Error (Node × NodeReader) :=
  match fuel with
  | 0 => .error .unexpectedToken
  | fuel + 1 => do
    match ← r.peek with
    | .blockEntry =>
      if place == .entry then
        let (items, r) ← readBareItems fuel r
        return (.sequence items, r)
      else if mayBeEmpty then return (.scalar tag true [], r)
      else throw .unexpectedToken
    | .scalar text plain => return (.scalar tag plain text, r.skip)
    | .flowSequenceStart =>
      let (items, r) ← readFlowItems fuel true r.skip
      return (.sequence items, r)
    | .flowMappingStart =>
      let (entries, r) ← readFlowEntries fuel true r.skip
      return (.mapping entries, r)
    | token =>
      if place != .flow && token == .blockSequenceStart then
        let (items, r) ← readBlockItems fuel r.skip
        return (.sequence items, r)
      else if place != .flow && token == .blockMappingStart then
        let (entries, r) ← readBlockEntries fuel r.skip
        return (.mapping entries, r)
      else if mayBeEmpty then return (.scalar tag true [], r)
      else throw .unexpectedToken

def readOptional (fuel : Nat) (place : Place) (stops : List Token) (r : NodeReader) :
    Except Error (Node × NodeReader) :=
  match fuel with
  | 0 => .error .unexpectedToken
  | fuel + 1 => do
    if stops.contains (← r.peek) then return (.empty, r) else readNode fuel place r

def readBlockItems (fuel : Nat) (r : NodeReader) : Except Error (List Node × NodeReader) :=
  match fuel with
  | 0 => .error .unexpectedToken
  | fuel + 1 => do
    match ← r.peek with
    | .blockEntry =>
      let (item, r) ← readOptional fuel .block [.blockEntry, .blockEnd] r.skip
      let (items, r) ← readBlockItems fuel r
      return (item :: items, r)
    | .blockEnd => return ([], r.skip)
    | _ => throw .unexpectedToken

def readBareItems (fuel : Nat) (r : NodeReader) : Except Error (List Node × NodeReader) :=
  match fuel with
  | 0 => .error .unexpectedToken
  | fuel + 1 => do
    match ← r.peek with
    | .blockEntry =>
      let stops := [Token.blockEntry, .keyMark, .valueMark, .blockEnd]
      let (item, r) ← readOptional fuel .block stops r.skip
      let (items, r) ← readBareItems fuel r
      return (item :: items, r)
    | _ => return ([], r)

def readBlockEntries (fuel : Nat) (r : NodeReader) :
    Except Error (List (Node × Node) × NodeReader) :=
  match fuel with
  | 0 => .error .unexpectedToken
  | fuel + 1 => do
    match ← r.peek with
    | .keyMark =>
      let (key, r) ← readOptional fuel .entry [.keyMark, .valueMark, .blockEnd] r.skip
      let (value, r) ← readBlockValue fuel r
      let (entries, r) ← readBlockEntries fuel r
      return ((key, value) :: entries, r)
    | .blockEnd => return ([], r.skip)
    | _ => throw .unexpectedToken

def readBlockValue (fuel : Nat) (r : NodeReader) : Except Error (Node × NodeReader) :=
  match fuel with
  | 0 => .error .unexpectedToken
  | fuel + 1 => do
    match ← r.peek with
    | .valueMark => readOptional fuel .entry [.keyMark, .valueMark, .blockEnd] r.skip
    | _ => return (.empty, r)

def readFlowItems (fuel : Nat) (first : Bool) (r : NodeReader) :
    Except Error (List Node × NodeReader) :=
  match fuel with
  | 0 => .error .unexpectedToken
  | fuel + 1 => do
    let token ← r.peek
    if token == .flowSequenceEnd then return ([], r.skip)
    if !first && token != .flowEntry then throw .unexpectedToken
    let r := if first then r else r.skip
    match ← r.peek with
    | .flowSequenceEnd => return ([], r.skip)
    | .keyMark =>
      let (entry, r) ← readPair fuel r.skip
      let (items, r) ← readFlowItems fuel false r
      return (.mapping [entry] :: items, r)
    | _ =>
      let (item, r) ← readNode fuel .flow r
      let (items, r) ← readFlowItems fuel false r
      return (item :: items, r)

/-- A key and its value inside square brackets. A token that ends an empty key is used up by it. -/
def readPair (fuel : Nat) (r : NodeReader) : Except Error ((Node × Node) × NodeReader) :=
  match fuel with
  | 0 => .error .unexpectedToken
  | fuel + 1 => do
    let (key, r) ←
      if [Token.valueMark, .flowEntry, .flowSequenceEnd].contains (← r.peek) then
        pure (Node.empty, r.skip)
      else readNode fuel .flow r
    let (value, r) ← readFlowValue fuel [.flowEntry, .flowSequenceEnd] r
    return ((key, value), r)

def readFlowValue (fuel : Nat) (stops : List Token) (r : NodeReader) :
    Except Error (Node × NodeReader) :=
  match fuel with
  | 0 => .error .unexpectedToken
  | fuel + 1 => do
    match ← r.peek with
    | .valueMark => readOptional fuel .flow stops r.skip
    | _ => return (.empty, r)

def readFlowEntries (fuel : Nat) (first : Bool) (r : NodeReader) :
    Except Error (List (Node × Node) × NodeReader) :=
  match fuel with
  | 0 => .error .unexpectedToken
  | fuel + 1 => do
    let token ← r.peek
    if token == .flowMappingEnd then return ([], r.skip)
    if !first && token != .flowEntry then throw .unexpectedToken
    let r := if first then r else r.skip
    match ← r.peek with
    | .flowMappingEnd => return ([], r.skip)
    | .keyMark =>
      let (key, r) ← readOptional fuel .flow [.valueMark, .flowEntry, .flowMappingEnd] r.skip
      let (value, r) ← readFlowValue fuel [.flowEntry, .flowMappingEnd] r
      let (entries, r) ← readFlowEntries fuel false r
      return ((key, value) :: entries, r)
    | _ =>
      let (key, r) ← readNode fuel .flow r
      let (entries, r) ← readFlowEntries fuel false r
      return ((key, .empty) :: entries, r)

end

def usualHandles : List (List Char × List Char) :=
  [(['!'], ['!']), (['!', '!'], "tag:yaml.org,2002:".toList)]

def readDirectives (versionSeen : Bool) (handles : List (List Char × List Char)) :
    List Token → Except Error (List (List Char × List Char) × List Token)
  | .versionDirective major minor :: rest =>
    if versionSeen || major != 1 || minor != 1 then .error .badDirective
    else readDirectives true handles rest
  | .tagDirective handle leader :: rest =>
    if handles.any (·.1 == handle) then .error .badDirective
    else readDirectives versionSeen (handles ++ [(handle, leader)]) rest
  | rest => .ok (handles, rest)

def endsDocument : Token → Bool
  | .versionDirective .. => true
  | .tagDirective .. => true
  | .documentStart => true
  | .documentEnd => true
  | .streamEnd => true
  | _ => false

/-- Tokens are read this far ahead, so a fault in the text is met even if it is not part of the
document. -/
def lookahead : Nat := 2

end NodeReader

open NodeReader in
def Node.ofTokens (read : Tokens) : Except Error (Option Node) := do
  let (handles, tokens) ← readDirectives false [] read.tokens
  let fuel := 4 * read.tokens.length + 4
  let hasDirectives := tokens.length < read.tokens.length
  let reader (rest : List Token) : NodeReader := ⟨rest, #[], handles ++ usualHandles⟩
  let (node, rest) ←
    match tokens with
    | .documentStart :: rest =>
      let r := reader rest
      if endsDocument (← r.peek) then pure (some Node.empty, r.tokens)
      else do
        let (node, r) ← readNode fuel .block r
        pure (some node, r.tokens)
    | .streamEnd :: rest => if hasDirectives then throw .badDirective else pure (none, rest)
    | rest =>
      if hasDirectives then throw .badDirective
      else do
        let (node, r) ← readNode fuel .block (reader rest)
        pure (some node, r.tokens)
  if !read.complete && rest.length ≤ lookahead then throw .unexpectedToken
  return node

end LineSieve.Yaml
