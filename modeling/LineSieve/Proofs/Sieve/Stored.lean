import LineSieve.Proofs.Classifier.Slices
import LineSieve.Proofs.Text.LineReader
import LineSieve.Run.Service

/- Rules whose markers are text come to the same whether they look at the characters of a file or at
   the bytes that it is stored as. What a byte can hide from a search, a part of a character, is
   nothing that a text starts or ends with. -/
namespace LineSieve

namespace Text

variable {piece s : List Char}

theorem utf8_inj {t : List Char} (same : utf8 s = utf8 t) : s = t := by
  rw [← chars_utf8 s, same, chars_utf8]

theorem isEmpty_utf8 (s : List Char) : (utf8 s).isEmpty = s.isEmpty := by
  rw [Bool.eq_iff_iff, List.isEmpty_iff, List.isEmpty_iff, utf8_eq_nil]

theorem trimRight_utf8 (s : List Char) : trimRight (utf8 s) = utf8 (trimRight s) := by
  rw [trimRight_bytes, glyphs_utf8, dropTrailing_map, isBlankGlyph_encoded, ← List.flatMap_def]
  rfl

theorem allBlank_utf8 (s : List Char) : allBlank (utf8 s) = allBlank s := by
  rw [allBlank_bytes, glyphs_utf8, List.all_map, isBlankGlyph_encoded]
  rfl

theorem isPrefixOf_utf8 (piece s : List Char) :
    (utf8 piece).isPrefixOf (utf8 s) = piece.isPrefixOf s := by
  rw [Bool.eq_iff_iff, List.isPrefixOf_iff_prefix, List.isPrefixOf_iff_prefix, utf8_initial_iff]

theorem isPrefixOf?_utf8 (piece s : List Char) :
    (utf8 piece).isPrefixOf? (utf8 s) = (piece.isPrefixOf? s).map utf8 := by
  cases found : piece.isPrefixOf? s with
  | none =>
    rw [← Option.not_isSome_iff_eq_none, List.isSome_isPrefixOf?_eq_isPrefixOf] at found
    rw [Option.map_none, ← Option.not_isSome_iff_eq_none, List.isSome_isPrefixOf?_eq_isPrefixOf,
      isPrefixOf_utf8]
    exact found
  | some rest =>
    obtain rfl := List.isPrefixOf?_eq_some_iff_append_eq.mp found
    exact List.isPrefixOf?_eq_some_iff_append_eq.mpr (utf8_append piece rest).symm

theorem before_utf8 (proper : piece ≠ []) (s : List Char) :
    before (utf8 piece) (utf8 s) = utf8 (before piece s) := by
  rw [before, before, cut?_utf8 proper]
  cases cut? piece s <;> rfl

theorem byteLength_utf8 (s : List Char) : byteLength (utf8 s) = byteLength s := by
  rw [byteLength_bytes, utf8_length]

theorem count_utf8 {b : UInt8} {c : Char} (single : utf8 [c] = [b]) (s : List Char) :
    (utf8 s).count b = s.count c := by
  induction s with
  | nil => rfl
  | cons d s ih =>
    rw [← List.singleton_append, utf8_append, List.count_append, List.count_append, ih]
    by_cases same : d = c
    · rw [same, single, List.count_singleton_self, List.count_singleton_self]
    · have other : c ∉ [d] := fun inside => same (List.mem_singleton.mp inside).symm
      rw [List.count_eq_zero_of_not_mem other,
        List.count_eq_zero_of_not_mem (mt (mem_utf8 single [d]).mp other)]

theorem isGap_first (c : Char) (rest : List UInt8) :
    (utf8 [c] ++ rest).dropWhile Rules.isGap =
      if Rules.isGap c then rest.dropWhile Rules.isGap else utf8 [c] ++ rest := by
  by_cases space : c = ' '
  · subst space
    rfl
  · by_cases tab : c = '\t'
    · subst tab
      rfl
    · have missing {b : UInt8} {d : Char} (single : utf8 [d] = [b]) (other : c ≠ d) :
          b ∉ utf8 [c] :=
        mt (mem_utf8 single [c]).mp fun inside => other (List.mem_singleton.mp inside).symm
      have spaceless : (32 : UInt8) ∉ utf8 [c] := missing (by decide) space
      have tabless : (9 : UInt8) ∉ utf8 [c] := missing (by decide) tab
      obtain ⟨first, more, spelled, -, -⟩ := utf8EncodeChar_split c
      have bytes : utf8 [c] = first :: more := by rw [utf8_cons, spelled, utf8_nil, List.append_nil]
      rw [bytes] at spaceless tabless ⊢
      have plain : Rules.isGap first = false := by
        have other := List.ne_and_not_mem_of_not_mem_cons spaceless
        have other' := List.ne_and_not_mem_of_not_mem_cons tabless
        rw [Rules.isGap, Bool.or_eq_false_iff, beq_eq_false_iff_ne, beq_eq_false_iff_ne]
        exact ⟨other.1.symm, other'.1.symm⟩
      have plain' : Rules.isGap c = false := by
        rw [Rules.isGap, Bool.or_eq_false_iff, beq_eq_false_iff_ne, beq_eq_false_iff_ne]
        exact ⟨space, tab⟩
      rw [plain', List.cons_append, List.dropWhile_cons, plain]
      rfl

theorem dropWhile_gap_utf8 (s : List Char) :
    (utf8 s).dropWhile Rules.isGap = utf8 (s.dropWhile Rules.isGap) := by
  induction s with
  | nil => rfl
  | cons c s ih =>
    rw [← List.singleton_append, utf8_append, isGap_first, List.singleton_append,
      List.dropWhile_cons, ih]
    split
    · rfl
    · exact (utf8_append [c] s).symm

theorem render_utf8 (lines : List (List Char)) :
    renderLines (lines.map utf8) = utf8 (renderLines lines) := by
  induction lines with
  | nil => rfl
  | cons line lines ih =>
    have newline : utf8 [charEnds.newline] = [byteEnds.newline] := by decide
    have bytes : byteEnds.render _ = _ := LineEnds.render_cons (utf8 line) (lines.map utf8)
    have chars : charEnds.render _ = _ := LineEnds.render_cons line lines
    change byteEnds.render _ = utf8 (charEnds.render _)
    change byteEnds.render _ = utf8 (charEnds.render _) at ih
    rw [List.map_cons, bytes, chars, ih, utf8_append, ← List.singleton_append, ← newline,
      ← utf8_append, List.singleton_append]

end Text

theorem Pattern.Regex.search_utf8 (re : Regex) (text : List Char) :
    re.search (Text.utf8 text) = re.search text := by
  rw [search, search, Text.chars_utf8]
  rfl

theorem State.advance_utf8 (state : State) (text : List Char) :
    state.advance (Text.utf8 text) = state.advance text := by
  have opened : (Text.utf8 text).count (Text.ofAscii '(') = text.count '(' :=
    Text.count_utf8 (by decide) text
  have closed : (Text.utf8 text).count (Text.ofAscii ')') = text.count ')' :=
    Text.count_utf8 (by decide) text
  rw [State.advance, State.advance, opened, closed]
  rfl

/-- A record with its line as it is stored. -/
def Record.stored (record : Record) : Record UInt8 :=
  { record with text := Text.utf8 record.text }

namespace Rules

/-- The same rules over the bytes of a file. -/
def stored (rules : Rules) : Rules UInt8 :=
  { rules with
    lineComment := Text.utf8 rules.lineComment
    blockOpen := Text.utf8 rules.blockOpen
    blockClose := Text.utf8 rules.blockClose
    sigil := Text.utf8 rules.sigil }

variable {spec : RuleSpec} {rules : Rules} {index : Nat} {state : State} {text : List Char}

theorem startsCall_utf8 (rules : Rules) (text : List Char) :
    rules.stored.startsCall (Text.utf8 text) = rules.startsCall text := by
  unfold startsCall stored
  cases rules.forbidden with
  | none => rfl
  | some pattern => exact pattern.search_utf8 text

theorem feedCall_utf8 (rules : Rules) (index : Nat) (state : State) (text : List Char) :
    rules.stored.feedCall index state (Text.utf8 text) = rules.feedCall index state text := by
  simp only [feedCall, startsCall_utf8, State.advance_utf8]

theorem withoutComment_utf8 (accepted : spec.Accepted rules) (text : List Char) :
    rules.stored.withoutComment (Text.utf8 text) = Text.utf8 (rules.withoutComment text) :=
  Text.before_utf8 accepted.marker_proper text

theorem isAnnotationBlock_utf8 (rules : Rules) (trimmed : List Char) :
    rules.stored.isAnnotationBlock (Text.utf8 trimmed) = rules.isAnnotationBlock trimmed := by
  simp only [isAnnotationBlock, stored, Text.isPrefixOf_utf8, Text.isPrefixOf?_utf8]
  cases rules.blockOpen.isPrefixOf? trimmed with
  | none => rfl
  | some inner => simp only [Option.map_some, Text.dropWhile_gap_utf8, Text.isPrefixOf_utf8]

theorem classifyOpener_utf8 (accepted : spec.Accepted rules) {front rest : List Char}
    (opened : Text.cut? rules.blockOpen text = some (front, rest)) :
    rules.stored.classifyOpener index state (Text.utf8 text) (Text.utf8 front) (Text.utf8 rest) =
      (rules.classifyOpener index state text front rest).map Record.stored id := by
  have lead : front <+: text := by
    rw [Text.cut?_split opened]
    exact List.prefix_append _ _
  have lengths : (Text.utf8 (rules.withoutComment text)).length = (Text.utf8 front).length ↔
      (rules.withoutComment text).length = front.length := by
    rw [Text.utf8_length, Text.utf8_length]
    exact Text.byteLength_eq_iff (rules.withoutComment_initial text) lead
  have closer : Text.cut? rules.stored.blockClose (Text.utf8 rest) = _ :=
    Text.cut?_utf8 accepted.closer_proper rest
  unfold classifyOpener
  simp only [closer, withoutComment_utf8 accepted]
  cases Text.cut? rules.blockClose rest with
  | none =>
    simp only [Option.map_none, feedCall_utf8]
    rfl
  | some halves =>
    simp only [Option.map_some, withoutComment_utf8 accepted, lengths, ← Text.utf8_append,
      ← apply_ite Text.utf8, feedCall_utf8]
    cases rules.feedCall index state _ with
    | mk category next =>
      cases category with
      | some category => rfl
      | none => simp only [Text.byteLength_utf8, Text.allBlank_utf8]; rfl

theorem classifyInBlock_utf8 (accepted : spec.Accepted rules) :
    rules.stored.classifyInBlock index state (Text.utf8 text) =
      (rules.classifyInBlock index state text).map Record.stored id := by
  have closer : Text.cut? rules.stored.blockClose (Text.utf8 text) = _ :=
    Text.cut?_utf8 accepted.closer_proper text
  unfold classifyInBlock
  simp only [closer]
  cases Text.cut? rules.blockClose text with
  | none => rfl
  | some halves =>
    simp only [Option.map_some, withoutComment_utf8 accepted, feedCall_utf8]
    split <;> rfl

theorem classifyCode_utf8 (accepted : spec.Accepted rules) :
    rules.stored.classifyCode index state (Text.utf8 text) =
      (rules.classifyCode index state text).map Record.stored id := by
  have marker : Text.cut? rules.stored.lineComment (Text.utf8 text) = _ :=
    Text.cut?_utf8 accepted.marker_proper text
  have signed (rest : List Char) :
      rules.stored.sigil.isPrefixOf (rules.stored.lineComment ++ Text.utf8 rest) =
        rules.sigil.isPrefixOf (rules.lineComment ++ rest) := by
    rw [← Text.isPrefixOf_utf8, Text.utf8_append]
    rfl
  have guarded : rules.stored.url.search (Text.utf8 text) = rules.url.search text :=
    rules.url.search_utf8 text
  unfold classifyCode
  simp only [feedCall_utf8, marker, guarded]
  cases rules.feedCall index state text with
  | mk category next =>
    cases category with
    | some category => rfl
    | none =>
      cases Text.cut? rules.lineComment text with
      | none => rfl
      | some halves =>
        simp only [Option.map_some, signed, Text.byteLength_utf8]
        split
        · rfl
        · split <;> rfl

/-- Step: the bytes of a line are classified as the line is. -/
theorem classifyLine_utf8 (accepted : spec.Accepted rules) :
    rules.stored.classifyLine index state (Text.utf8 text) =
      (rules.classifyLine index state text).map Record.stored id := by
  have opener : Text.cut? rules.stored.blockOpen (Text.utf8 text) = _ :=
    Text.cut?_utf8 accepted.opener_proper text
  have comments : rules.stored.lineComment.isPrefixOf (Text.utf8 (Text.trim text)) =
      rules.lineComment.isPrefixOf (Text.trim text) := Text.isPrefixOf_utf8 _ _
  have signed : rules.stored.sigil.isPrefixOf (Text.utf8 (Text.trim text)) =
      rules.sigil.isPrefixOf (Text.trim text) := Text.isPrefixOf_utf8 _ _
  have licensed : rules.stored.license.search (Text.utf8 (Text.trim text)) =
      rules.license.search (Text.trim text) := rules.license.search_utf8 _
  unfold classifyLine
  simp only [Text.trim_utf8, Text.isEmpty_utf8, opener, comments, signed, licensed, isAnnotationBlock_utf8]
  split
  · rfl
  · split
    · exact classifyInBlock_utf8 accepted
    · cases opened : Text.cut? rules.blockOpen text with
      | some halves =>
        simp only [Option.map_some]
        split
        · rfl
        · exact classifyOpener_utf8 accepted opened
      | none =>
        simp only [Option.map_none]
        split
        · rfl
        · split
          · split <;> rfl
          · exact classifyCode_utf8 accepted

/-- Run: the bytes of the lines are classified as the lines are. -/
theorem run_utf8 (accepted : spec.Accepted rules) (lines : List (List Char)) :
    Classifier.run ⟨rules.stored, state, index⟩ (lines.map Text.utf8) =
      ((Classifier.run ⟨rules, state, index⟩ lines).1.map Record.stored,
        ⟨rules.stored, (Classifier.run ⟨rules, state, index⟩ lines).2.state,
          (Classifier.run ⟨rules, state, index⟩ lines).2.index⟩) := by
  induction lines generalizing index state with
  | nil => rfl
  | cons line lines ih =>
    simp only [List.map_cons, Classifier.run, Classifier.next, classifyLine_utf8 accepted,
      Prod.map_fst, Prod.map_snd, id_eq, ih]

end Rules

theorem Rules.CommentStart.codeText_utf8 {spec : RuleSpec} {rules : Rules} {state : State}
    {record : Record} (start : rules.CommentStart state record) (accepted : spec.Accepted rules) :
    record.stored.codeText = Text.utf8 record.codeText := by
  rcases start.code accepted with uncut | start | ⟨code, rest, cut, start⟩
  · have uncut' : record.stored.commentAt = -1 := uncut
    rw [codeText_whole uncut, codeText_whole uncut']
    exact Text.trimRight_utf8 _
  · have start' : record.stored.commentAt = 0 := start
    rw [codeText_at_start start, codeText_at_start start']
    rfl
  · have split := Text.cut?_split cut
    have bytes : record.stored.text = Text.utf8 code ++ Text.utf8 (rules.lineComment ++ rest) := by
      rw [← Text.utf8_append, ← split]
      rfl
    have offset : record.stored.commentAt = Text.byteLength (Text.utf8 code) := by
      rw [Text.byteLength_utf8]
      exact start
    rw [codeText_cut offset bytes, codeText_cut start split, Text.trimRight_utf8]

theorem Record.decide_utf8 {record : Record}
    (code : record.stored.codeText = Text.utf8 record.codeText) :
    record.stored.decide = record.decide.map Text.utf8 id := by
  have whole : Text.utf8 record.codeText = record.stored.text ↔ record.codeText = record.text :=
    ⟨Text.utf8_inj, congrArg Text.utf8⟩
  have kind : record.stored.category = record.category := rfl
  unfold decide
  simp only [code, Text.isEmpty_utf8, whole, kind]
  cases record.category with
  | blockClose => dsimp only; split <;> rfl
  | code =>
    dsimp only
    change (if record.urlGuarded = true then _ else _) = _
    split
    · rfl
    · split
      · rfl
      · change (if 0 ≤ record.commentAt then _ else _) = _
        split
        · rfl
        · split <;> rfl
  | _ => rfl

theorem LineCounts.ofRecords_utf8 {records : List Record}
    (codes : ∀ record ∈ records, record.stored.codeText = Text.utf8 record.codeText) :
    ofRecords (records.map Record.stored) = ofRecords records := by
  have step (counts : LineCounts) (record) (listed : record ∈ records) :
      counts.addRecord record.stored = counts.addRecord record := by
    have kind : record.stored.category = record.category := rfl
    simp only [addRecord, kind, codes record listed, Text.isEmpty_utf8]
  rw [ofRecords, ofRecords, List.foldl_map, List.foldl_ext _ _ _ step]

def Sieved.stored (sieved : Sieved) : Sieved UInt8 :=
  ⟨sieved.lines.map Text.utf8, sieved.decisions⟩

theorem Sieved.stored_content (sieved : Sieved) :
    Text.encode sieved.stored.render = Text.encode sieved.render :=
  congrArg List.toByteArray (Text.render_utf8 sieved.lines)

theorem trimBlankEdges_utf8 (lines : List (List Char)) :
    trimBlankEdges (lines.map Text.utf8) = (trimBlankEdges lines).map Text.utf8 := by
  have blank : Text.allBlank ∘ Text.utf8 = Text.allBlank := funext Text.allBlank_utf8
  simp only [trimBlankEdges, List.dropWhile_map, ← List.map_reverse, blank]

theorem sieve_utf8 {records : List Record}
    (codes : ∀ record ∈ records, record.stored.codeText = Text.utf8 record.codeText) :
    sieve (records.map Record.stored) = (sieve records).stored := by
  have decided (record) (listed : record ∈ records) :
      record.stored.decide = record.decide.map Text.utf8 id :=
    Record.decide_utf8 (codes record listed)
  have kept : keptLines (records.map Record.stored) = (keptLines records).map Text.utf8 := by
    rw [keptLines_eq, keptLines_eq, List.filterMap_map, List.map_filterMap]
    refine List.filterMap_congr fun record listed => ?_
    rw [Function.comp_apply, Record.output?, Record.output?, decided record listed]
    split <;> simp_all
  have actions : (records.map Record.stored).map
      (fun record => Decision.mk record.index record.category record.decide.2) =
        records.map fun record => ⟨record.index, record.category, record.decide.2⟩ := by
    rw [List.map_map]
    refine List.map_congr_left fun record listed => ?_
    rw [Function.comp_apply, decided record listed]
    rfl
  rw [sieve, sieve, Sieved.stored, kept, trimBlankEdges_utf8, actions]

theorem RuleSpec.compile_utf8 {spec : RuleSpec} {rules : Rules}
    (compiled : spec.compile = .ok rules) : spec.inBytes.compile = .ok rules.stored := by
  obtain ⟨checked, opener, license, url, licensed, located, rfl⟩ := compile_ok_iff.mp compiled
  have empty (marker : String) : (Spelling.letters (Text.bytes (Spelling.letters marker))).isEmpty =
      (Spelling.letters marker).isEmpty := Text.isEmpty_utf8 marker.toList
  refine compile_ok_iff.mpr ⟨?_, ?_, license, url, licensed, located, rfl⟩
  · simpa only [emptyMarker?, inBytes, mapMarkers, empty] using checked
  · exact (Text.isPrefixOf_utf8 _ _).trans opener

/-- Rules whose markers are text are the same over characters as over bytes: the markers compile to
them, the records, decisions and output lines are those of the characters, as they are stored, and a
file comes to the same counts and the same content. -/
theorem stored_agrees (spec : RuleSpec) (rules : Rules) (compiled : spec.compile = .ok rules) :
    spec.inBytes.compile = .ok rules.stored ∧
    (∀ lines : List (List Char),
      rules.stored.classify (lines.map Text.utf8) = (rules.classify lines).map Record.stored ∧
      sieve (rules.stored.classify (lines.map Text.utf8)) = (sieve (rules.classify lines)).stored) ∧
    ∀ text, rules.stored.pass text = rules.pass text := by
  have accepted := RuleSpec.accepted_of_compile compiled
  have classified (lines : List (List Char)) :
      rules.stored.classify (lines.map Text.utf8) = (rules.classify lines).map Record.stored :=
    congrArg Prod.fst (Rules.run_utf8 accepted lines)
  have codes (lines : List (List Char)) : ∀ record ∈ rules.classify lines,
      record.stored.codeText = Text.utf8 record.codeText := by
    intro record listed
    obtain ⟨index, state, next, line, -, step⟩ := Classifier.run_classified listed
    exact (step.commentStart accepted).codeText_utf8 accepted
  have sieved (lines : List (List Char)) : sieve (rules.stored.classify (lines.map Text.utf8)) =
      (sieve (rules.classify lines)).stored := by
    rw [classified]
    exact sieve_utf8 (codes lines)
  refine ⟨RuleSpec.compile_utf8 compiled, fun lines => ⟨classified lines, sieved lines⟩, ?_⟩
  intro text
  have lines : (Text.splitLines (Text.ofChars text) : List (List UInt8)) =
      (Text.splitLines text).map Text.utf8 := Text.split_utf8 text
  have ran : Classifier.run { rules := rules.stored } ((Text.splitLines text).map Text.utf8) = _ :=
    Rules.run_utf8 accepted (Text.splitLines text)
  have counts := LineCounts.ofRecords_utf8 (codes (Text.splitLines text))
  have output := sieve_utf8 (codes (Text.splitLines text))
  unfold Rules.classify at counts output
  unfold Rules.pass
  simp only [lines, ran, counts, output, Sieved.stored_content]
  simp only [Sieved.stored, List.length_map]
  rfl

end LineSieve
