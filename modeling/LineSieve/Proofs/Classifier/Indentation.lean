import LineSieve.Proofs.Pattern.Words
import LineSieve.Proofs.Sieve.Cleanness
import LineSieve.Proofs.Sieve.DecisionLog

/- Indentation. Some rules look at the whole line and others at the trimmed one; spaces and tabs
   around a line mean nothing to either, because no marker holds any and the call pattern starts
   with blanks. They change no category and no state, and they come out where the line does. -/
namespace LineSieve

theorem OpenCall.advance_indented {lead trail : List Char} (leading : Text.Indent lead)
    (trailing : Text.Indent trail) (start depth : Nat) (s : List Char) :
    OpenCall.advance start depth (lead ++ (s ++ trail)) = OpenCall.advance start depth s := by
  simp only [OpenCall.advance, Text.ofAscii_char]
  have opened := Text.count_indented leading trailing s (c := '(') (by decide)
  have closed := Text.count_indented leading trailing s (c := ')') (by decide)
  rw [opened, closed]

theorem State.advance_indented {lead trail : List Char} (leading : Text.Indent lead)
    (trailing : Text.Indent trail) (state : State) (s : List Char) :
    state.advance (lead ++ (s ++ trail)) = state.advance s := by
  simp only [State.advance, Text.ofAscii_char]
  have opened := Text.count_indented leading trailing s (c := '(') (by decide)
  have closed := Text.count_indented leading trailing s (c := ')') (by decide)
  rw [opened, closed]

namespace Rules

/-- Rules to which spaces and tabs around a line mean nothing. -/
structure Indifferent (rules : Rules) : Prop where
  marker : Text.Solid rules.lineComment
  opener : Text.Solid rules.blockOpen
  closer : Text.Solid rules.blockClose
  sigil : Text.Solid rules.sigil
  marked : rules.lineComment <+: rules.blockOpen
  url : rules.url.Wordy
  calls : ∀ {lead trail : List Char}, Text.Indent lead → Text.Indent trail → ∀ s,
    rules.startsCall (lead ++ (s ++ trail)) = rules.startsCall s

theorem Lua.indifferent : Indifferent .lua where
  marker := by
    rw [lineComment_eq]
    decide
  opener := by
    rw [blockOpen_eq]
    decide
  closer := by
    rw [accepted.blockClose]
    decide
  sigil := by
    rw [sigil_eq]
    decide
  marked := accepted.opener
  url := ⟨by decide +kernel, by decide +kernel, by decide +kernel⟩
  calls leading trailing s := by
    rw [Bool.eq_iff_iff, accepted.starts, accepted.starts]
    exact Pattern.callShape_indented (by decide +kernel) leading trailing

variable {rules : Rules} {index : Nat} {state next : State} {lead trail text : List Char}
  {record : Record} (indifferent : rules.Indifferent) (leading : Text.Indent lead)
  (trailing : Text.Indent trail)

include indifferent leading trailing

theorem Indifferent.feedCall (index : Nat) (state : State) (counted : List Char) :
    rules.feedCall index state (lead ++ (counted ++ trail)) =
      rules.feedCall index state counted := by
  unfold Rules.feedCall
  rw [indifferent.calls leading trailing]
  simp only [State.advance_indented leading trailing]

theorem Indifferent.withoutComment (s : List Char) : ∃ rest, Text.Indent rest ∧
    rules.withoutComment (lead ++ (s ++ trail)) = lead ++ (rules.withoutComment s ++ rest) := by
  cases cut : Text.cut? rules.lineComment s with
  | none =>
    have absent := indifferent.marker.absent leading trailing cut
    exact ⟨trail, trailing, by rw [withoutComment_uncut absent, withoutComment_uncut cut]⟩
  | some halves =>
    have found := indifferent.marker.cut leading trailing cut
    exact ⟨[], nofun, by rw [withoutComment_cut found, withoutComment_cut cut, List.append_nil]⟩

omit leading trailing in
theorem Indifferent.commented {front rest : List Char}
    (opened : Text.cut? rules.blockOpen text = some (front, rest)) :
    ∃ code behind, Text.cut? rules.lineComment text = some (code, behind) := by
  have marked : rules.lineComment <:+: text := by
    refine indifferent.marked.isInfix.trans ⟨front, rest, ?_⟩
    rw [Text.cut?_split opened, List.append_assoc]
  obtain ⟨halves, cut⟩ := Option.ne_none_iff_exists'.mp fun none => Text.cut?_none.mp none marked
  exact ⟨halves.1, halves.2, cut⟩

omit leading in
theorem Indifferent.signed (s : List Char) :
    rules.sigil.isPrefixOf (s ++ trail) = rules.sigil.isPrefixOf s := by
  rw [Bool.eq_iff_iff, List.isPrefixOf_iff_prefix, List.isPrefixOf_iff_prefix]
  constructor
  · rintro ⟨rest, split⟩
    obtain ⟨back, rfl, -⟩ := indifferent.sigil.back trailing (a := []) split.symm
    exact List.prefix_append _ _
  · exact fun signed => signed.trans (List.prefix_append s trail)

theorem Indifferent.around {front rest : List Char}
    (opened : Text.cut? rules.blockOpen text = some (front, rest)) (after : List Char) :
    ∃ behind, Text.Indent behind ∧
      rules.around (lead ++ (text ++ trail)) (lead ++ front) (after ++ trail) =
        lead ++ (rules.around text front after ++ behind) := by
  obtain ⟨code, rest', cut⟩ := indifferent.commented opened
  have cut' := indifferent.marker.cut leading trailing cut
  have width : (lead ++ code).length = (lead ++ front).length ↔
      code.length = front.length := by
    rw [List.length_append, List.length_append]
    omega
  rw [Rules.around, Rules.around, withoutComment_cut cut, withoutComment_cut cut']
  simp only [width]
  split
  · obtain ⟨behind, indent, same⟩ := indifferent.withoutComment .nil trailing after
    rw [List.nil_append, List.nil_append] at same
    exact ⟨behind, indent, by rw [same]; simp only [List.append_assoc]⟩
  · exact ⟨[], nofun, by rw [List.append_nil]⟩

theorem Indifferent.opening {front rest : List Char}
    (opening : Opening rules state text front rest) :
    Opening rules state (lead ++ (text ++ trail)) (lead ++ front) (rest ++ trail) := by
  have trimmed := Text.trim_between leading.allBlank trailing.allBlank text
  exact ⟨trimmed ▸ opening.visible, opening.outside, trimmed ▸ opening.unmarked,
    indifferent.opener.cut leading trailing opening.opened⟩

theorem Indifferent.bare (bare : Bare rules state text) :
    Bare rules state (lead ++ (text ++ trail)) := by
  have trimmed := Text.trim_between leading.allBlank trailing.allBlank text
  exact ⟨trimmed ▸ bare.visible, bare.outside, trimmed ▸ bare.unmarked,
    indifferent.opener.absent leading trailing bare.unopened⟩

theorem Indifferent.codeLine (line : CodeLine rules state text) :
    CodeLine rules state (lead ++ (text ++ trail)) := by
  have trimmed := Text.trim_between leading.allBlank trailing.allBlank text
  refine ⟨indifferent.bare leading trailing line.toBare, trimmed ▸ line.uncommented, line.free, ?_⟩
  rw [indifferent.calls leading trailing, line.unstarted]

end Rules

/-- A record of which the code before its comment comes out. -/
def Record.Cut (record : Record) : Prop :=
  record.category = .blockClose ∨ record.category = .code ∧ record.urlGuarded = false

/-- A record whose line stays as it is. -/
def Record.Whole (record : Record) : Prop :=
  record.category = .annotated ∨ record.category = .inlineAnnotated ∨ record.category = .license ∨
    record.category = .code ∧ record.urlGuarded = true

theorem Record.Cut.output {record : Record} (cut : record.Cut) :
    record.output? = if record.codeText = [] then none else some record.codeText := by
  unfold Record.output? Record.decide
  rcases cut with same | ⟨same, unguarded⟩ <;> rw [same] <;> grind

theorem Record.Whole.output {record : Record} (whole : record.Whole) :
    record.output? = some record.text := by
  unfold Record.output? Record.decide
  rcases whole with same | same | same | ⟨same, guarded⟩ <;> simp [*]

theorem Record.silent {record : Record} (uncut : ¬ record.Cut) (gone : ¬ record.Whole) :
    record.output? = none := by
  unfold Record.output? Record.decide
  unfold Record.Cut at uncut
  unfold Record.Whole at gone
  cases same : record.category <;> simp_all

/-- Two records that differ by spaces and tabs around their lines only. -/
structure Record.Indented (lead trail : List Char) (plain indented : Record) : Prop where
  category : indented.category = plain.category
  depth : indented.depth = plain.depth
  urlGuarded : indented.urlGuarded = plain.urlGuarded
  text : indented.text = lead ++ (plain.text ++ trail)
  code : plain.Cut → indented.codeText =
    if plain.codeText = [] then [] else lead ++ plain.codeText

namespace Record.Indented

variable {lead trail line : List Char} {plain indented : Record}

theorem of_uncut (category : indented.category = plain.category)
    (depth : indented.depth = plain.depth) (urlGuarded : indented.urlGuarded = plain.urlGuarded)
    (text : indented.text = lead ++ (plain.text ++ trail)) (uncut : ¬ plain.Cut) :
    plain.Indented lead trail indented :=
  ⟨category, depth, urlGuarded, text, fun cut => absurd cut uncut⟩

theorem cut_iff (alike : plain.Indented lead trail indented) : indented.Cut ↔ plain.Cut := by
  rw [Record.Cut, Record.Cut, alike.category, alike.urlGuarded]

theorem whole_iff (alike : plain.Indented lead trail indented) : indented.Whole ↔ plain.Whole := by
  rw [Record.Whole, Record.Whole, alike.category, alike.urlGuarded]

theorem output_cut (alike : plain.Indented lead trail indented) (cut : plain.Cut) :
    indented.output? = plain.output?.map (lead ++ ·) := by
  rw [cut.output, (alike.cut_iff.mpr cut).output, alike.code cut]
  by_cases empty : plain.codeText = []
  · simp [empty]
  · simp [empty]

theorem output_whole (alike : plain.Indented lead trail indented) (whole : plain.Whole) :
    indented.output? = some (lead ++ (plain.text ++ trail)) := by
  rw [(alike.whole_iff.mpr whole).output, alike.text]

theorem output_eq_none_iff (alike : plain.Indented lead trail indented) :
    indented.output? = none ↔ plain.output? = none := by
  by_cases cut : plain.Cut
  · rw [alike.output_cut cut, Option.map_eq_none_iff]
  · by_cases whole : plain.Whole
    · rw [alike.output_whole whole, whole.output]
      simp
    · rw [Record.silent cut whole, Record.silent (mt alike.cut_iff.mp cut)
        (mt alike.whole_iff.mp whole)]

end Record.Indented

namespace Rules

variable {rules : Rules} {index : Nat} {state next : State} {lead trail text : List Char}
  {record : Record}

theorem codeText_indented {plain indented : Record} {code rest rest' : List Char}
    (leading : Text.Indent lead) (at_code : plain.commentAt = Text.byteLength code)
    (split : plain.text = code ++ rest)
    (at_indented : indented.commentAt = Text.byteLength (lead ++ code))
    (split' : indented.text = lead ++ code ++ rest') :
    indented.codeText = if plain.codeText = [] then [] else lead ++ plain.codeText := by
  rw [codeText_cut at_indented split', codeText_cut at_code split]
  simpa using Text.trimRight_indented leading .nil

/-- Step: spaces and tabs around a line lead to an indented record and the same state. -/
theorem Classified.indented (indifferent : rules.Indifferent) (leading : Text.Indent lead)
    (trailing : Text.Indent trail) (step : Classified rules index state text record next) :
    ∃ other, Classified rules index state (lead ++ (text ++ trail)) other next ∧
      record.Indented lead trail other := by
  have trimmed := Text.trim_between leading.allBlank trailing.allBlank text
  -- Outside of the two kinds of records that are cut, there is nothing to compare but the fields.
  cases step with
  | blank empty =>
    exact ⟨_, .blank (trimmed.trans empty), .of_uncut rfl rfl rfl rfl (by simp [Record.Cut])⟩
  | body visible inside unclosed =>
    have unclosed' := indifferent.closer.absent leading trailing unclosed
    exact ⟨_, .body (trimmed ▸ visible) inside unclosed',
      .of_uncut rfl rfl rfl rfl (by simp [Record.Cut])⟩
  | leave visible inside closed free =>
    have closed' := indifferent.closer.cut leading trailing closed
    refine ⟨_, .leave (trimmed ▸ visible) inside closed' free, rfl, rfl, rfl, rfl, fun _ => ?_⟩
    rw [codeText_at_start rfl, codeText_at_start rfl, if_pos rfl]
  | @leaveInCall inner after call visible inside closed running next advanced =>
    have closed' := indifferent.closer.cut leading trailing closed
    obtain ⟨behind, indent, code⟩ := indifferent.withoutComment .nil trailing after
    have same := OpenCall.advance_indented .nil indent call.start call.depth
      (rules.withoutComment after)
    rw [← code] at same
    rw [← same] at advanced
    refine ⟨_, .leaveInCall (trimmed ▸ visible) inside closed' running next advanced,
      rfl, rfl, rfl, rfl, fun _ => ?_⟩
    rw [codeText_at_start rfl, codeText_at_start rfl, if_pos rfl]
  | annotated visible outside marked =>
    exact ⟨_, .annotated (trimmed ▸ visible) outside (trimmed ▸ marked),
      .of_uncut rfl rfl rfl rfl (by simp [Record.Cut])⟩
  | @aroundCall front rest inner after category next opening closed fed =>
    have opening' := indifferent.opening leading trailing opening
    obtain ⟨behind, indent, same⟩ := indifferent.around leading trailing opening.opened after
    rw [← indifferent.feedCall leading indent, ← same] at fed
    refine ⟨_, .aroundCall opening' (Text.cut?_extend closed trail) fed,
      .of_uncut rfl rfl rfl rfl ?_⟩
    rcases feedCall_category fed with rfl | rfl <;> simp [Record.Cut]
  | @aroundCode front rest inner after opening closed free unstarted =>
    have opening' := indifferent.opening leading trailing opening
    obtain ⟨behind, indent, same⟩ := indifferent.around leading trailing opening.opened after
    rw [← indifferent.calls leading indent, ← same] at unstarted
    obtain ⟨code, tail, cut⟩ := indifferent.commented opening.opened
    have cut' := indifferent.marker.cut leading trailing cut
    have blank : Text.allBlank (lead ++ code) = Text.allBlank code := by
      rw [Text.allBlank_append, leading.allBlank, Bool.true_and]
    have step : Classified rules index state _ _ _ :=
      .aroundCode opening' (Text.cut?_extend closed trail) free unstarted
    rw [withoutComment_cut cut', blank] at step
    rw [withoutComment_cut cut]
    exact ⟨_, step, rfl, rfl, rfl, rfl, fun _ =>
      codeText_indented leading rfl (Text.cut?_split cut) rfl (Text.cut?_split cut')⟩
  | @enter front rest fed next opening unclosed read =>
    have opening' := indifferent.opening leading trailing opening
    obtain ⟨behind, indent, same⟩ := indifferent.withoutComment leading trailing text
    rw [← indifferent.feedCall leading indent, ← same] at read
    have unclosed' := indifferent.closer.absent .nil trailing unclosed
    exact ⟨_, .enter opening' unclosed' read, .of_uncut rfl rfl rfl rfl (by simp [Record.Cut])⟩
  | license bare commented early licensed =>
    have bare' := indifferent.bare leading trailing bare
    exact ⟨_, .license bare' (trimmed ▸ commented) early (trimmed ▸ licensed),
      .of_uncut rfl rfl rfl rfl (by simp [Record.Cut])⟩
  | comment bare commented plain =>
    have bare' := indifferent.bare leading trailing bare
    exact ⟨_, .comment bare' (trimmed ▸ commented) (trimmed ▸ plain),
      .of_uncut rfl rfl rfl rfl (by simp [Record.Cut])⟩
  | call bare uncommented fed =>
    have bare' := indifferent.bare leading trailing bare
    rw [← indifferent.feedCall leading trailing] at fed
    refine ⟨_, .call bare' (trimmed ▸ uncommented) fed, .of_uncut rfl rfl rfl rfl ?_⟩
    rcases feedCall_category fed with rfl | rfl <;> simp [Record.Cut]
  | code line clear =>
    have line' := indifferent.codeLine leading trailing line
    have clear' := indifferent.marker.absent leading trailing clear
    refine ⟨_, .code line' clear', rfl, rfl, rfl, rfl, fun _ => ?_⟩
    rw [codeText_whole rfl, codeText_whole rfl]
    exact Text.trimRight_indented leading trailing
  | @inline code rest line cut marked =>
    have line' := indifferent.codeLine leading trailing line
    have cut' := indifferent.marker.cut leading trailing cut
    rw [← indifferent.signed trailing, List.append_assoc] at marked
    exact ⟨_, .inline line' cut' marked, .of_uncut rfl rfl rfl rfl (by simp [Record.Cut])⟩
  | @guarded code rest line cut unmarked url =>
    have line' := indifferent.codeLine leading trailing line
    have cut' := indifferent.marker.cut leading trailing cut
    rw [← indifferent.signed trailing, List.append_assoc] at unmarked
    rw [← indifferent.url.search leading trailing] at url
    exact ⟨_, .guarded line' cut' unmarked url, .of_uncut rfl rfl rfl rfl (by simp [Record.Cut])⟩
  | @cut code rest line cut unmarked plain =>
    have line' := indifferent.codeLine leading trailing line
    have cut' := indifferent.marker.cut leading trailing cut
    rw [← indifferent.signed trailing, List.append_assoc] at unmarked
    rw [← indifferent.url.search leading trailing] at plain
    exact ⟨_, .cut line' cut' unmarked plain, rfl, rfl, rfl, rfl, fun _ =>
      codeText_indented leading rfl (Text.cut?_split cut) rfl (Text.cut?_split cut')⟩

end Rules

/-- Indentation and trailing blanks do not matter. Under the default rules of Lua, wherever a file
is, spaces and tabs around a line change neither how it is classified nor the state behind it; code
that is cut comes out with the indentation in front of it, a line that is kept comes out with all of
them, and the rest of the output stays as it is. -/
theorem indentation_irrelevant (before : List (List Char)) (line lead trail : List Char)
    (after : List (List Char)) (leading : Text.Indent lead) (trailing : Text.Indent trail) :
    let classifier := (Classifier.run { rules := .lua } before).2
    let indentedLine := lead ++ (line ++ trail)
    let plain := (classifier.next line).1
    let indented := (classifier.next indentedLine).1
    indented.category = plain.category ∧ indented.depth = plain.depth ∧
      indented.urlGuarded = plain.urlGuarded ∧
      (classifier.next indentedLine).2 = (classifier.next line).2 ∧
      (indented.decide.2 = .dropped ↔ plain.decide.2 = .dropped) ∧
      (plain.Cut → indented.output? = plain.output?.map (lead ++ ·)) ∧
      (plain.Whole → indented.output? = some indentedLine) ∧
      ∃ records : List Record,
        Rules.lua.classify (before ++ line :: after) =
          Rules.lua.classify before ++ plain :: records ∧
        Rules.lua.classify (before ++ indentedLine :: after) =
          Rules.lua.classify before ++ indented :: records ∧
        (sieve (Rules.lua.classify (before ++ line :: after))).lines =
          keptLines (Rules.lua.classify before) ++ (plain.output?.toList ++ keptLines records) ∧
        (sieve (Rules.lua.classify (before ++ indentedLine :: after))).lines =
          keptLines (Rules.lua.classify before) ++
            (indented.output?.toList ++ keptLines records) := by
  intro classifier indentedLine plain indented
  have step := Rules.lua.classify_step before line
  obtain ⟨other, step', alike⟩ := step.indented Rules.Lua.indifferent leading trailing
  obtain ⟨same, state⟩ := (Rules.lua.classify_step before indentedLine).unique step'
  rw [← same] at alike
  have next : (classifier.next indentedLine).2 = (classifier.next line).2 := by
    simp only [Classifier.next] at state ⊢
    exact congrArg (Classifier.mk classifier.rules · (classifier.index + 1)) state
  have listed := Rules.lua.classify_split before line after
  have listed' := Rules.lua.classify_split before indentedLine after
  rw [next] at listed'
  refine ⟨alike.category, alike.depth, alike.urlGuarded, next, ?_, alike.output_cut, ?_, _, listed,
    listed', ?_, ?_⟩
  · rw [← Record.output?_eq_none, ← Record.output?_eq_none]
    exact alike.output_eq_none_iff
  · intro whole
    rw [alike.output_whole whole, step.text_eq]
  · rw [sieve_lines, listed, keptLines_append, keptLines_cons]
  · rw [sieve_lines, listed', keptLines_append, keptLines_cons]

theorem indentation_irrelevant_lua :
    let before := ["x = 1", "print("].map String.toList
    let line := ") -- a".toList
    let lead := "\t ".toList
    let trail := " ".toList
    let after := ["y = 2 -- b", "z"].map String.toList
    let classifier := (Classifier.run { rules := .lua } before).2
    let indentedLine := lead ++ (line ++ trail)
    let plain := (classifier.next line).1
    let indented := (classifier.next indentedLine).1
    Text.Indent lead ∧ Text.Indent trail ∧
      indented.category = plain.category ∧ indented.depth = plain.depth ∧
      indented.urlGuarded = plain.urlGuarded ∧
      (classifier.next indentedLine).2 = (classifier.next line).2 ∧
      (indented.decide.2 = .dropped ↔ plain.decide.2 = .dropped) ∧
      (plain.Cut → indented.output? = plain.output?.map (lead ++ ·)) ∧
      (plain.Whole → indented.output? = some indentedLine) ∧
      ∃ records : List Record,
        Rules.lua.classify (before ++ line :: after) =
          Rules.lua.classify before ++ plain :: records ∧
        Rules.lua.classify (before ++ indentedLine :: after) =
          Rules.lua.classify before ++ indented :: records ∧
        (sieve (Rules.lua.classify (before ++ line :: after))).lines =
          keptLines (Rules.lua.classify before) ++ (plain.output?.toList ++ keptLines records) ∧
        (sieve (Rules.lua.classify (before ++ indentedLine :: after))).lines =
          keptLines (Rules.lua.classify before) ++
            (indented.output?.toList ++ keptLines records) := by
  intro before line lead trail after classifier indentedLine plain indented
  have leading : Text.Indent lead := by decide
  have trailing : Text.Indent trail := by decide
  exact ⟨leading, trailing, indentation_irrelevant before line lead trail after leading trailing⟩

end LineSieve
