import LineSieve.Report.Document
import Mathlib

/- A report read back from its document. A reader of JSON goes through the text from left to right;
   after the text of a value it stands right behind it, whatever follows, and has the value. So the
   document holds all of the report. -/
namespace LineSieve

namespace Json

def isWhite (c : Char) : Bool := c == ' ' || c == '\n' || c == '\t' || c == '\r'

def skip (s : List Char) : List Char := s.dropWhile isWhite

def hexValue (c : Char) : Nat := if c.isDigit then c.toNat - 48 else c.toNat - 87

def unescaped (c : Char) : Char :=
  if c == 'b' then '\x08'
  else if c == 'f' then '\x0c'
  else if c == 'n' then '\n'
  else if c == 'r' then '\r'
  else if c == 't' then '\t'
  else c

def readText? : List Char → Option (List Char × List Char)
  | [] => none
  | '"' :: rest => some ([], rest)
  | '\\' :: 'u' :: a :: b :: c :: d :: rest =>
    (readText? rest).map fun (s, rest) =>
      (Char.ofNat ([a, b, c, d].foldl (fun n c => 16 * n + hexValue c) 0) :: s, rest)
  | '\\' :: c :: rest => (readText? rest).map fun (s, rest) => (unescaped c :: s, rest)
  | c :: rest => (readText? rest).map fun (s, rest) => (c :: s, rest)

def isNumeral (c : Char) : Bool := c.isDigit || c == '-'

def readInt? (s : List Char) : Option (Json × List Char) :=
  (String.ofList (s.takeWhile isNumeral)).toInt?.map fun n => (.int n, s.dropWhile isNumeral)

def readWord? (word : String) (value : Json) (s : List Char) : Option (Json × List Char) :=
  (word.toList.isPrefixOf? s).map fun rest => (value, rest)

mutual

def readValue? : Nat → List Char → Option (Json × List Char)
  | 0, _ => none
  | fuel + 1, s =>
    match skip s with
    | [] => none
    | c :: rest =>
      if c = '"' then (readText? rest).map fun (s, rest) => (.string s, rest)
      else if c = '[' then
        match skip rest with
        | ']' :: rest => some (.array [], rest)
        | _ => (readItems? fuel rest).map fun (items, rest) => (.array items, rest)
      else if c = '\x7b' then
        match skip rest with
        | '\x7d' :: rest => some (.object [], rest)
        | _ => (readFields? fuel rest).map fun (fields, rest) => (.object fields, rest)
      else
        (readWord? "null" .null (c :: rest)).or <| (readWord? "true" (.bool true) (c :: rest)).or <|
          (readWord? "false" (.bool false) (c :: rest)).or <| readInt? (c :: rest)

def readItems? : Nat → List Char → Option (List Json × List Char)
  | 0, _ => none
  | fuel + 1, s => do
    let (item, rest) ← readValue? fuel s
    match skip rest with
    | ',' :: rest => (readItems? fuel rest).map fun (items, rest) => (item :: items, rest)
    | ']' :: rest => some ([item], rest)
    | _ => none

def readFields? : Nat → List Char → Option (List (String × Json) × List Char)
  | 0, _ => none
  | fuel + 1, s =>
    match skip s with
    | '"' :: rest => do
      let (key, rest) ← readText? rest
      match skip rest with
      | ':' :: rest => do
        let (value, rest) ← readValue? fuel rest
        let field := (String.ofList key, value)
        match skip rest with
        | ',' :: rest => (readFields? fuel rest).map fun (fields, rest) => (field :: fields, rest)
        | '\x7d' :: rest => some ([field], rest)
        | _ => none
      | _ => none
    | _ => none

end

def read? (text : List Char) : Option Json :=
  match readValue? (text.length + 1) text with
  | some (value, rest) => if (skip rest).isEmpty then some value else none
  | none => none

section Texts

theorem hexValue_digitChar : ∀ d < 16, hexValue (Nat.digitChar d) = d := by
  decide

theorem readText?_hex {c : Char} (short : c.toNat < 0x10000) (rest : List Char) :
    readText? ('\\' :: 'u' :: (Text.hexDigits 4 c.toNat ++ rest)) =
      (readText? rest).map fun (s, rest) => (c :: s, rest) := by
  have digits : Text.hexDigits 4 c.toNat = [Nat.digitChar (c.toNat / 16 / 16 / 16 % 16),
      Nat.digitChar (c.toNat / 16 / 16 % 16), Nat.digitChar (c.toNat / 16 % 16),
      Nat.digitChar (c.toNat % 16)] := rfl
  rw [digits]
  simp only [List.cons_append, List.nil_append, readText?, List.foldl_cons, List.foldl_nil]
  rw [hexValue_digitChar _ (by omega), hexValue_digitChar _ (by omega),
    hexValue_digitChar _ (by omega), hexValue_digitChar _ (by omega)]
  have value : 16 * (16 * (16 * (16 * 0 + c.toNat / 16 / 16 / 16 % 16) + c.toNat / 16 / 16 % 16) +
      c.toNat / 16 % 16) + c.toNat % 16 = c.toNat := by omega
  rw [value, Char.ofNat_toNat]

theorem readText?_plain {c : Char} (quote : c ≠ '"') (slash : c ≠ '\\') (rest : List Char) :
    readText? (c :: rest) = (readText? rest).map fun (s, rest) => (c :: s, rest) := by
  rw [readText?.eq_def]
  split <;> simp_all

theorem readText?_escape {c : Char} (other : c ≠ 'u') (rest : List Char) :
    readText? ('\\' :: c :: rest) =
      (readText? rest).map fun (s, rest) => (unescaped c :: s, rest) := by
  rw [readText?.eq_def]
  split <;> grind

theorem readText?_named {c escape : Char} {n : Nat} (same : (c.toNat == n) = true)
    (other : escape ≠ 'u') (named : unescaped escape = Char.ofNat n) (rest : List Char) :
    readText? ('\\' :: escape :: rest) = (readText? rest).map fun (s, rest) => (c :: s, rest) := by
  rw [readText?_escape other, named, ← beq_iff_eq.mp same, Char.ofNat_toNat]

theorem readText?_escaped (c : Char) (rest : List Char) : readText? (escapedChar c ++ rest) =
    (readText? rest).map fun (s, rest) => (c :: s, rest) := by
  unfold escapedChar
  simp only
  split
  · rename_i marks
    rcases Bool.or_eq_true _ _ ▸ marks with quote | slash
    · obtain rfl := beq_iff_eq.mp quote
      exact readText?_escape (by decide) rest
    · obtain rfl := beq_iff_eq.mp slash
      exact readText?_escape (by decide) rest
  rename_i unmarked
  split
  · exact readText?_named ‹_› (by decide) (by decide) rest
  split
  · exact readText?_named ‹_› (by decide) (by decide) rest
  split
  · exact readText?_named ‹_› (by decide) (by decide) rest
  split
  · exact readText?_named ‹_› (by decide) (by decide) rest
  split
  · exact readText?_named ‹_› (by decide) (by decide) rest
  split
  · rename_i coded
    refine readText?_hex ?_ rest
    simp only [Bool.or_eq_true, decide_eq_true_eq, beq_iff_eq] at coded
    rcases coded with ((((low | rfl) | rfl) | rfl) | line) | paragraph
    · omega
    · decide
    · decide
    · decide
    · omega
    · omega
  · simp only [Bool.or_eq_true, beq_iff_eq, not_or] at unmarked
    exact readText?_plain unmarked.1 unmarked.2 rest

theorem readText?_quoted (s rest : List Char) :
    readText? (s.flatMap escapedChar ++ '"' :: rest) = some (s, rest) := by
  induction s with
  | nil => rfl
  | cons c s ih =>
    rw [List.flatMap_cons, List.append_assoc, readText?_escaped, ih]
    rfl

end Texts

section Values

theorem skip_lead {lead : List Char} (white : ∀ c ∈ lead, isWhite c = true) (s : List Char) :
    skip (lead ++ s) = skip s := by
  rw [skip, List.dropWhile_append_of_pos white, skip]

theorem newLine_white (depth : Nat) : ∀ c ∈ newLine depth, isWhite c = true := by
  intro c listed
  rcases List.mem_cons.mp listed with rfl | blank
  · rfl
  · rw [List.eq_of_mem_replicate blank]
    rfl

theorem skip_visible {c : Char} (visible : isWhite c = false) (s : List Char) :
    skip (c :: s) = c :: s := by
  rw [skip, List.dropWhile_cons_of_neg (by simp [visible])]

theorem readValue?_lead {lead : List Char} (white : ∀ c ∈ lead, isWhite c = true) (fuel : Nat)
    (s : List Char) : readValue? fuel (lead ++ s) = readValue? fuel s := by
  cases fuel with
  | zero => rfl
  | succ fuel => rw [readValue?, readValue?, skip_lead white]

theorem visible_of_numeral {c : Char} (numeral : isNumeral c = true) : isWhite c = false := by
  rw [Bool.eq_false_iff]
  intro white
  simp only [isWhite, Bool.or_eq_true, beq_iff_eq] at white
  rcases white with ((rfl | rfl) | rfl) | rfl <;> exact absurd numeral (by decide)

/-- The characters of a number come to an end here. -/
def Ended (rest : List Char) : Prop := ∀ c, rest.head? = some c → isNumeral c = false

theorem toString_numeral (n : Int) : ∀ c ∈ (toString n).toList, isNumeral c = true := by
  have digits (m : Nat) : ∀ c ∈ m.repr.toList, isNumeral c = true := by
    intro c listed
    rw [Nat.toList_repr] at listed
    rw [isNumeral, Nat.isDigit_of_mem_toDigits (by decide) (by decide) listed]
    rfl
  cases n with
  | ofNat m => exact digits m
  | negSucc m =>
    intro c listed
    have split : (toString (Int.negSucc m)).toList = '-' :: (m + 1).repr.toList := by
      change ("-" ++ (m + 1).repr).toList = _
      rw [String.toList_append]
      rfl
    rw [split] at listed
    rcases List.mem_cons.mp listed with rfl | later
    · rfl
    · exact digits _ c later

theorem toString_proper (n : Int) : (toString n).toList ≠ [] := by
  rw [ne_eq, String.toList_eq_nil_iff]
  cases n with
  | ofNat m => exact Nat.repr_ne_empty
  | negSucc m =>
    change "-" ++ (m + 1).repr ≠ ""
    simp

theorem readInt?_numeral (n : Int) {rest : List Char} (ended : Ended rest) :
    readInt? ((toString n).toList ++ rest) = some (.int n, rest) := by
  have numerals := toString_numeral n
  have stops : rest.takeWhile isNumeral = [] ∧ rest.dropWhile isNumeral = rest := by
    cases rest with
    | nil => exact ⟨rfl, rfl⟩
    | cons c rest => simp [ended c rfl]
  rw [readInt?, List.takeWhile_append_of_pos numerals, List.dropWhile_append_of_pos numerals,
    stops.1, stops.2, List.append_nil, String.ofList_toList]
  have read : (toString n).toInt? = some n := Int.toInt?_repr n
  rw [read]
  rfl

theorem readValue?_word {word : String} {value : Json}
    (listed : (word, value) ∈ [("null", Json.null), ("true", .bool true), ("false", .bool false)])
    (fuel : Nat) (rest : List Char) :
    readValue? (fuel + 1) (word.toList ++ rest) = some (value, rest) := by
  simp only [List.mem_cons, List.not_mem_nil, or_false, Prod.mk.injEq] at listed
  rcases listed with ⟨rfl, rfl⟩ | ⟨rfl, rfl⟩ | ⟨rfl, rfl⟩ <;> rfl

theorem readValue?_int (n : Int) (fuel : Nat) {rest : List Char} (ended : Ended rest) :
    readValue? (fuel + 1) ((toString n).toList ++ rest) = some (.int n, rest) := by
  have read := readInt?_numeral n ended
  have numerals := toString_numeral n
  obtain ⟨c, more, split⟩ := List.exists_cons_of_ne_nil (toString_proper n)
  rw [split] at read numerals ⊢
  have numeral := numerals c List.mem_cons_self
  -- No other value starts as a number does.
  have other : c ≠ '"' ∧ c ≠ '[' ∧ c ≠ '\x7b' ∧ c ≠ 'n' ∧ c ≠ 't' ∧ c ≠ 'f' := by
    refine ⟨?_, ?_, ?_, ?_, ?_, ?_⟩
    all_goals
      rintro rfl
      exact absurd numeral (by decide)
  obtain ⟨quote, bracket, brace, null, true', false'⟩ := other
  rw [List.cons_append] at read ⊢
  rw [readValue?, skip_visible (visible_of_numeral numeral)]
  simp only [quote, bracket, brace, ↓reduceIte, read, readWord?]
  have words : "null".toList = ['n', 'u', 'l', 'l'] ∧ "true".toList = ['t', 'r', 'u', 'e'] ∧
      "false".toList = ['f', 'a', 'l', 's', 'e'] := by decide
  simp [words, List.isPrefixOf?, null.symm, true'.symm, false'.symm]

theorem readValue?_string (s : List Char) (fuel : Nat) (rest : List Char) :
    readValue? (fuel + 1) (quotedText s ++ rest) = some (.string s, rest) := by
  rw [quotedText, List.cons_append, List.append_assoc, List.singleton_append, readValue?,
    skip_visible (by rfl)]
  simp [readText?_quoted]

theorem ended_cons {c : Char} (other : isNumeral c = false) (rest : List Char) :
    Ended (c :: rest) := by
  rintro d ⟨⟩
  exact other

theorem ended_white {white : List Char} (all : ∀ c ∈ white, isWhite c = true) {rest : List Char}
    (ended : Ended rest) : Ended (white ++ rest) := by
  cases white with
  | nil => exact ended
  | cons c white =>
    refine ended_cons ?_ _
    rw [Bool.eq_false_iff]
    intro numeral
    cases (visible_of_numeral numeral).symm.trans (all c List.mem_cons_self)

theorem joinItems_cons (lead item : List Char) (rest : List (List Char)) :
    joinItems lead (item :: rest) =
      lead ++ (item ++ if rest.isEmpty then [] else ',' :: joinItems lead rest) := by
  cases rest <;> simp [joinItems]

theorem indented_starts (json : Json) (depth : Nat) :
    ∃ c s, json.indented depth = c :: s ∧ isWhite c = false ∧ c ≠ ']' := by
  cases json with
  | null => exact ⟨'n', _, rfl, rfl, by decide⟩
  | bool value => cases value <;> exact ⟨_, _, rfl, rfl, by decide⟩
  | int n =>
    have numerals := toString_numeral n
    obtain ⟨c, s, split⟩ := List.exists_cons_of_ne_nil (toString_proper n)
    rw [split] at numerals
    have numeral := numerals c List.mem_cons_self
    refine ⟨c, s, split, visible_of_numeral numeral, ?_⟩
    rintro rfl
    exact absurd numeral (by decide)
  | string s => exact ⟨'"', _, rfl, rfl, by decide⟩
  | array items => cases items <;> exact ⟨'[', _, rfl, rfl, by decide⟩
  | object fields => cases fields <;> exact ⟨'\x7b', _, rfl, rfl, by decide⟩

end Values

structure Closes (bracket : Char) (close : List Char) : Prop where
  white : ∀ c ∈ close, isWhite c = true
  visible : isWhite bracket = false
  ended : isNumeral bracket = false

theorem Closes.skip {bracket : Char} {close : List Char} (closes : Closes bracket close)
    (rest : List Char) : skip (close ++ bracket :: rest) = bracket :: rest := by
  rw [skip_lead closes.white, skip_visible closes.visible]

theorem Closes.rest_ended {bracket : Char} {close : List Char} (closes : Closes bracket close)
    (rest : List Char) : Ended (close ++ bracket :: rest) :=
  ended_white closes.white (ended_cons closes.ended rest)

/-- Behind the text of a value, of items or of fields, the reader has them. -/
structure Reads (fuel : Nat) : Prop where
  value : ∀ (json : Json) (depth : Nat) (rest : List Char),
    (json.indented depth).length < fuel → Ended rest →
    readValue? fuel (json.indented depth ++ rest) = some (json, rest)
  items : ∀ (item : Json) (items : List Json) (depth : Nat) (close rest : List Char),
    Closes ']' close →
    (joinItems (newLine depth) (indentedItems depth (item :: items))).length < fuel →
    readItems? fuel (joinItems (newLine depth) (indentedItems depth (item :: items)) ++
      (close ++ ']' :: rest)) = some (item :: items, rest)
  fields : ∀ (key : String) (value : Json) (fields : List (String × Json)) (depth : Nat)
    (close rest : List Char), Closes '\x7d' close →
    (joinItems (newLine depth) (indentedFields depth ((key, value) :: fields))).length < fuel →
    readFields? fuel (joinItems (newLine depth) (indentedFields depth ((key, value) :: fields)) ++
      (close ++ '\x7d' :: rest)) = some ((key, value) :: fields, rest)

namespace Reads

variable {fuel : Nat} (reads : Reads fuel)

include reads

theorem array_step (item : Json) (items : List Json) (depth : Nat) (rest : List Char)
    (enough : ((Json.array (item :: items)).indented depth).length < fuel + 1) :
    readValue? (fuel + 1) ((Json.array (item :: items)).indented depth ++ rest) =
      some (.array (item :: items), rest) := by
  have text : (Json.array (item :: items)).indented depth =
      '[' :: (joinItems (newLine (depth + 1)) (indentedItems (depth + 1) (item :: items)) ++
        (newLine depth ++ [']'])) := by simp [indented]
  rw [text] at enough ⊢
  simp only [List.length_cons, List.length_append] at enough
  have inner := reads.items item items (depth + 1) (newLine depth) rest
    ⟨newLine_white depth, rfl, rfl⟩ (by omega)
  -- The list is not empty: behind the bracket stands its first item.
  obtain ⟨c, s, starts, visible, unclosed⟩ := indented_starts item (depth + 1)
  rw [indentedItems, joinItems_cons, starts] at inner ⊢
  rw [List.cons_append, readValue?, skip_visible (by rfl)]
  simp only [List.append_assoc, List.cons_append, List.nil_append] at inner ⊢
  simp only [skip_lead (newLine_white _), skip_visible visible, inner, Char.reduceEq, ↓reduceIte]
  split
  · rename_i closed
    exact absurd (List.cons.inj closed).1 unclosed
  · rfl

theorem object_step (key : String) (value : Json) (fields : List (String × Json)) (depth : Nat)
    (rest : List Char)
    (enough : ((Json.object ((key, value) :: fields)).indented depth).length < fuel + 1) :
    readValue? (fuel + 1) ((Json.object ((key, value) :: fields)).indented depth ++ rest) =
      some (.object ((key, value) :: fields), rest) := by
  have text : (Json.object ((key, value) :: fields)).indented depth =
      '\x7b' :: (joinItems (newLine (depth + 1))
        (indentedFields (depth + 1) ((key, value) :: fields)) ++
          (newLine depth ++ ['\x7d'])) := by simp [indented]
  rw [text] at enough ⊢
  simp only [List.length_cons, List.length_append] at enough
  have inner := reads.fields key value fields (depth + 1) (newLine depth) rest
    ⟨newLine_white depth, rfl, rfl⟩ (by omega)
  rw [indentedFields, joinItems_cons, quotedText] at inner ⊢
  rw [List.cons_append, readValue?, skip_visible (by rfl)]
  simp only [List.append_assoc, List.cons_append, List.nil_append] at inner ⊢
  simp only [skip_lead (newLine_white _), skip_visible (show isWhite '"' = false by rfl),
    inner, Char.reduceEq, ↓reduceIte]
  rfl

theorem value_step (json : Json) (depth : Nat) (rest : List Char)
    (enough : (json.indented depth).length < fuel + 1) (ended : Ended rest) :
    readValue? (fuel + 1) (json.indented depth ++ rest) = some (json, rest) := by
  cases json with
  | null => exact readValue?_word (by simp) fuel rest
  | bool value => cases value <;> exact readValue?_word (by simp) fuel rest
  | int n => exact readValue?_int n fuel ended
  | string s => exact readValue?_string s fuel rest
  | array items =>
    cases items with
    | nil => rfl
    | cons item items => exact reads.array_step item items depth rest enough
  | object fields =>
    cases fields with
    | nil => rfl
    | cons field fields => exact reads.object_step field.1 field.2 fields depth rest enough

theorem items_step (item : Json) (items : List Json) (depth : Nat) (close rest : List Char)
    (closes : Closes ']' close)
    (enough : (joinItems (newLine depth) (indentedItems depth (item :: items))).length < fuel + 1) :
    readItems? (fuel + 1) (joinItems (newLine depth) (indentedItems depth (item :: items)) ++
      (close ++ ']' :: rest)) = some (item :: items, rest) := by
  rw [indentedItems, joinItems_cons] at enough ⊢
  simp only [List.length_append] at enough
  have lead : 0 < (newLine depth).length := by simp [newLine]
  rw [readItems?, List.append_assoc, List.append_assoc, readValue?_lead (newLine_white depth)]
  cases items with
  | nil =>
    have first := reads.value item depth (close ++ ']' :: rest) (by omega) (closes.rest_ended rest)
    simp only [indentedItems, List.isEmpty_nil, ↓reduceIte, List.nil_append]
    rw [first]
    simp [closes.skip]
  | cons next items =>
    have later := reads.items next items depth close rest closes
    rw [indentedItems] at later
    simp only [indentedItems, List.isEmpty_cons, Bool.false_eq_true, ↓reduceIte, List.cons_append,
      List.length_cons] at enough ⊢
    rw [reads.value item depth _ (by omega) (ended_cons (by rfl) _)]
    simp [skip_visible (show isWhite ',' = false by rfl), later (by omega)]

theorem fields_step (key : String) (value : Json) (fields : List (String × Json)) (depth : Nat)
    (close rest : List Char) (closes : Closes '\x7d' close)
    (enough : (joinItems (newLine depth)
      (indentedFields depth ((key, value) :: fields))).length < fuel + 1) :
    readFields? (fuel + 1)
        (joinItems (newLine depth) (indentedFields depth ((key, value) :: fields)) ++
          (close ++ '\x7d' :: rest)) = some ((key, value) :: fields, rest) := by
  rw [indentedFields, joinItems_cons, quotedText] at enough ⊢
  simp only [List.length_append, List.length_cons] at enough
  have blank : ∀ c ∈ [' '], isWhite c = true := List.forall_mem_singleton.mpr rfl
  have start (tail : List Char) :
      readValue? fuel (' ' :: tail) = readValue? fuel tail := readValue?_lead blank fuel tail
  rw [readFields?]
  simp only [List.append_assoc, List.cons_append, List.nil_append, skip_lead (newLine_white _),
    skip_visible (show isWhite '"' = false by rfl), readText?_quoted, Option.bind_eq_bind,
    Option.bind_some, skip_visible (show isWhite ':' = false by rfl), start]
  cases fields with
  | nil =>
    have first :=
      reads.value value depth (close ++ '\x7d' :: rest) (by omega) (closes.rest_ended rest)
    simp only [indentedFields, List.isEmpty_nil, ↓reduceIte, List.nil_append]
    rw [first]
    simp [closes.skip]
  | cons next fields =>
    obtain ⟨name, next⟩ := next
    have later := reads.fields name next fields depth close rest closes
    rw [indentedFields] at later
    simp only [indentedFields, List.isEmpty_cons, Bool.false_eq_true, ↓reduceIte, List.cons_append,
      List.length_cons] at enough ⊢
    rw [reads.value value depth _ (by omega) (ended_cons (by rfl) _)]
    simp [skip_visible (show isWhite ',' = false by rfl), later (by omega)]

end Reads

theorem reads (fuel : Nat) : Reads fuel := by
  induction fuel with
  | zero => exact ⟨nofun, nofun, nofun⟩
  | succ fuel ih => exact ⟨ih.value_step, ih.items_step, ih.fields_step⟩

def field? (key : String) : Json → Option Json
  | .object fields => fields.lookup key
  | _ => none

def int? : Json → Option Int
  | .int n => some n
  | _ => none

def bool? : Json → Option Bool
  | .bool value => some value
  | _ => none

def text? : Json → Option String
  | .string s => some (String.ofList s)
  | _ => none

def list? {α : Type} (read : Json → Option α) : Json → Option (Option (List α))
  | .null => some none
  | .array items => (items.mapM read).map some
  | _ => none

theorem text?_ofString (s : String) : (ofString s).text? = some s := by
  rw [ofString, text?, String.ofList_toList]

theorem list?_ofOptional {α : Type} {encode : α → Json} {read : Json → Option α} {kept : α → α}
    (back : ∀ item, read (encode item) = some (kept item)) (items : Option (List α)) :
    list? read (ofOptional encode items) = some (items.map (List.map kept)) := by
  cases items with
  | none => rfl
  | some items =>
    have each : (items.map encode).mapM read = some (items.map kept) := by
      induction items with
      | nil => rfl
      | cons item items ih => simp [back, ih]
    rw [ofOptional, list?, each]
    rfl

end Json

section Fields

open Json

def LineCounts.ofJson? (json : Json) : Option LineCounts := do
  return {
    physical := .ofInt (← (← json.field? "physical").int?)
    total := .ofInt (← (← json.field? "total").int?)
    code := .ofInt (← (← json.field? "code").int?)
    annotated := .ofInt (← (← json.field? "annotation").int?)
    comment := .ofInt (← (← json.field? "comment").int?)
    license := .ofInt (← (← json.field? "license").int?)
    blank := .ofInt (← (← json.field? "blank").int?)
    forbidden := .ofInt (← (← json.field? "forbidden").int?) }

def SieveStats.ofJson? (json : Json) : Option SieveStats := do
  return {
    linesBefore := ← (← json.field? "lines_before").int?
    linesAfter := ← (← json.field? "lines_after").int?
    changed := ← (← json.field? "changed").bool?
    written := ← (← json.field? "written").bool? }

def FileSummary.ofJson? (json : Json) : Option FileSummary := do
  return {
    path := ← (← json.field? "path").text?
    dialect := ← (← json.field? "dialect").text?
    encoding := ← (← json.field? "encoding").text?
    counts := ← LineCounts.ofJson? (← json.field? "counts")
    unclosedAt := ← ((json.field? "unclosed_statement_at").getD (.int 0)).int?
    sieved := ← (json.field? "rewrite").elim (some none) fun stats =>
      (SieveStats.ofJson? stats).map some }

def FolderTotals.ofJson? (json : Json) : Option FolderTotals := do
  return {
    folder := ← (← json.field? "folder").text?
    files := .ofInt (← (← json.field? "files").int?)
    counts := ← LineCounts.ofJson? (← json.field? "counts") }

def GrandTotal.ofJson? (json : Json) : Option GrandTotal := do
  return {
    files := .ofInt (← (← json.field? "files").int?)
    counts := ← LineCounts.ofJson? json }

def FileFailure.ofJson? (json : Json) : Option FileFailure := do
  return {
    path := ← (← json.field? "path").text?
    kind := FailureKind.ofName (← (← json.field? "kind").text?)
    message := ← (← json.field? "error").text? }

def Report.ofJson? (json : Json) : Option Report := do
  return {
    runId := ← (← json.field? "run_id").text?
    mode := ← (← json.field? "mode").text?
    scannedPath := ← (← json.field? "scanned_path").text?
    files := ← (← json.field? "files").list? FileSummary.ofJson?
    folders := ← (← json.field? "folders").list? FolderTotals.ofJson?
    total := ← GrandTotal.ofJson? (← json.field? "total")
    failures := ← (← json.field? "errors").list? FileFailure.ofJson? }

theorem LineCounts.ofJson?_fields (counts : LineCounts) :
    ofJson? (.object counts.fields) = some counts := by
  simp [ofJson?, fields, field?, int?, List.lookup]

theorem SieveStats.ofJson?_toJson (stats : SieveStats) : ofJson? stats.toJson = some stats := by
  simp [ofJson?, toJson, field?, int?, bool?, List.lookup]

theorem FileSummary.ofJson?_toJson (file : FileSummary) : ofJson? file.toJson = some file := by
  obtain ⟨path, dialect, encoding, counts, unclosedAt, sieved⟩ := file
  cases sieved with
  | none =>
    by_cases closed : unclosedAt = 0 <;>
      simp [ofJson?, toJson, field?, int?, List.lookup, text?_ofString,
        LineCounts.ofJson?_fields, closed]
  | some stats =>
    by_cases closed : unclosedAt = 0 <;>
      simp [ofJson?, toJson, field?, int?, List.lookup, text?_ofString,
        LineCounts.ofJson?_fields, SieveStats.ofJson?_toJson, closed]

theorem FolderTotals.ofJson?_toJson (item : FolderTotals) : ofJson? item.toJson = some item := by
  simp [ofJson?, toJson, field?, int?, List.lookup, text?_ofString, LineCounts.ofJson?_fields]

theorem GrandTotal.ofJson?_toJson (total : GrandTotal) : ofJson? total.toJson = some total := by
  simp [ofJson?, toJson, LineCounts.ofJson?, LineCounts.fields, field?, int?, List.lookup]

def FileFailure.named (failure : FileFailure) : FileFailure :=
  { failure with kind := .ofName failure.kind.name }

theorem FileFailure.ofJson?_toJson (failure : FileFailure) :
    ofJson? failure.toJson = some failure.named := by
  simp [ofJson?, toJson, field?, List.lookup, text?_ofString, named]

end Fields

namespace Report

def named (report : Report) : Report :=
  { report with failures := report.failures.map (List.map FileFailure.named) }

theorem ofJson?_toJson (report : Report) : ofJson? report.toJson = some report.named := by
  have files := Json.list?_ofOptional FileSummary.ofJson?_toJson report.files
  have folders := Json.list?_ofOptional FolderTotals.ofJson?_toJson report.folders
  have failures := Json.list?_ofOptional FileFailure.ofJson?_toJson report.failures
  simp only [List.map_id_fun'] at files folders
  simp [ofJson?, toJson, Json.field?, List.lookup, Json.text?_ofString,
    GrandTotal.ofJson?_toJson, files, folders, failures, named]

end Report

end LineSieve
