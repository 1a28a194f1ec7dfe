import LineSieve.Proofs.Sieve.Cleanness
import LineSieve.Proofs.Sieve.OpenCalls

/- Annotations behind code. The block opener is looked for before the comment is read, so a line of
   code with an annotation behind it stays as it is only if the annotation holds no opener. With one
   the line is cut or lost, although all of it stands behind a line-comment marker. -/
namespace LineSieve

namespace Rules.Lua

/-- Outside of block comments and forbidden calls, a line of code that starts no call and whose
first comment is an annotation: `code` stands before the marker and `rest` behind it. -/
structure Trailing (state : State) (line code rest : List Char) : Prop where
  outside : state.inBlock = false
  free : state.inForbidden = false
  cut : Text.cut? Rules.lua.lineComment line = some (code, rest)
  marked : Rules.lua.sigil.isPrefixOf (Rules.lua.lineComment ++ rest) = true
  shown : Text.allBlank code = false
  unstarted : Rules.lua.startsCall code = false

variable {index : Nat} {state : State} {line code rest : List Char}

theorem Trailing.uncommented (trailing : Trailing state line code rest) :
    Rules.lua.lineComment.isPrefixOf (Text.trim line) = false := by
  rw [Bool.eq_false_iff, ne_eq, commented_iff trailing.cut, trailing.shown]
  decide

theorem Trailing.visible (trailing : Trailing state line code rest) : Text.trim line ≠ [] := by
  have initial : code <+: line := ⟨_, (Text.cut?_split trailing.cut).symm⟩
  exact Text.trim_ne_nil trailing.shown initial.isInfix

theorem Trailing.unmarked (trailing : Trailing state line code rest) :
    Rules.lua.isAnnotationBlock (Text.trim line) = false := by
  rw [Bool.eq_false_iff]
  intro annotated
  have commented := commented_of_annotated annotated
  rw [trailing.uncommented] at commented
  cases commented

theorem Trailing.openCall (trailing : Trailing state line code rest) : state.openCall = none :=
  State.openCall_eq_none.mpr trailing.free

theorem Trailing.opening (trailing : Trailing state line code rest) {front behind : List Char}
    (opened : Text.cut? Rules.lua.blockOpen line = some (front, behind)) :
    Opening .lua state line front behind :=
  ⟨trailing.visible, trailing.outside, trailing.unmarked, opened⟩

theorem Trailing.around_eq (trailing : Trailing state line code rest) {front behind : List Char}
    (opened : Text.cut? Rules.lua.blockOpen line = some (front, behind)) (after : List Char) :
    Rules.lua.around line front after = code := by
  rw [around, withoutComment_cut trailing.cut, if_neg]
  -- The opener does not stand at the first marker, because the sigil stands there.
  intro same
  have split := (Text.cut?_split trailing.cut).symm.trans (Text.cut?_split opened)
  have marked := trailing.marked
  rw [(List.append_inj split same).2, sigil_eq, blockOpen_eq] at marked
  cases marked

theorem Trailing.kept (trailing : Trailing state line code rest)
    (unopened : Text.cut? Rules.lua.blockOpen line = none) :
    Classified .lua index state line { index, text := line, category := .inlineAnnotated }
      { state with codeSeen := true } := by
  have bare := bare_of_uncommented trailing.visible trailing.outside unopened trailing.uncommented
  have unstarted := (startsCall_cut trailing.cut).trans trailing.unstarted
  exact .inline ⟨bare, trailing.uncommented, trailing.openCall, unstarted⟩ trailing.cut
    trailing.marked

theorem Trailing.clipped (trailing : Trailing state line code rest)
    {front behind inner after : List Char}
    (opened : Text.cut? Rules.lua.blockOpen line = some (front, behind))
    (closed : Text.cut? Rules.lua.blockClose behind = some (inner, after)) :
    Classified .lua index state line
      { index, text := line, category := .blockClose, commentAt := Text.byteLength code }
      { state with codeSeen := true } := by
  have unstarted : Rules.lua.startsCall (Rules.lua.around line front after) = false := by
    rw [trailing.around_eq opened, trailing.unstarted]
  have step : Classified .lua index state line _ _ :=
    .aroundCode (trailing.opening opened) closed trailing.openCall unstarted
  rwa [withoutComment_cut trailing.cut, trailing.shown, Bool.not_false, Bool.or_true] at step

theorem Trailing.lost (trailing : Trailing state line code rest) {front behind : List Char}
    (opened : Text.cut? Rules.lua.blockOpen line = some (front, behind))
    (unclosed : Text.cut? Rules.lua.blockClose behind = none) :
    Classified .lua index state line { index, text := line, category := .blockOpen }
      { state with inBlock := true } := by
  have unfed : Rules.lua.feedCall index state (Rules.lua.withoutComment line) = (none, state) := by
    rw [withoutComment_cut trailing.cut]
    exact feedCall_none_iff.mpr ⟨trailing.openCall, trailing.unstarted, rfl⟩
  exact .enter (trailing.opening opened) unclosed unfed

def trailingOutcome (line code : List Char) : List Char × Action :=
  match Text.cut? Rules.lua.blockOpen line with
  | none => (line, .kept)
  | some (_, behind) =>
    if Text.contains Rules.lua.blockClose behind then (Text.trimRight code, .stripped)
    else ([], .dropped)

theorem Trailing.decide_eq (trailing : Trailing state line code rest) {next : State}
    {record : Record} (step : Classified .lua index state line record next) :
    record.decide = trailingOutcome line code := by
  unfold trailingOutcome Text.contains
  cases opened : Text.cut? Rules.lua.blockOpen line with
  | none =>
    obtain ⟨rfl, -⟩ := step.unique (trailing.kept opened)
    rfl
  | some halves =>
    cases closed : Text.cut? Rules.lua.blockClose halves.2 with
    | none =>
      obtain ⟨rfl, -⟩ := step.unique (trailing.lost opened closed)
      simp [Record.decide, closed]
    | some parts =>
      obtain ⟨rfl, -⟩ := step.unique (trailing.clipped opened closed)
      have shown : Text.trimRight code ≠ [] := by
        rw [ne_eq, Text.trimRight_eq_nil, trailing.shown]
        decide
      have remainder : Record.codeText ⟨index, line, .blockClose, Text.byteLength code, false, 0⟩ =
          Text.trimRight code :=
        codeText_cut rfl (Text.cut?_split trailing.cut)
      simp [Record.decide, remainder, shown, closed]

theorem trailingOutcome_kept_iff :
    trailingOutcome line code = (line, .kept) ↔ ¬ Rules.lua.blockOpen <:+: line := by
  rw [← Text.cut?_none, trailingOutcome]
  cases Text.cut? Rules.lua.blockOpen line with
  | none => simp
  | some halves =>
    simp only [reduceCtorEq, iff_false]
    split <;> simp

end Rules.Lua

/-- When an annotation behind code is kept. For Lua, wherever a file is outside of block comments
and forbidden calls, a line of code with an annotation behind it stays as it is exactly if it holds
no block opener. With an opener only the code is left, if the block closes behind it, or nothing. -/
theorem inline_annotation_kept_iff (before : List (List Char)) (line : List Char)
    (after : List (List Char)) (code rest : List Char)
    (trailing :
      Rules.Lua.Trailing (Classifier.run { rules := Rules.lua } before).2.state line code rest) :
    ∃ (record : Record) (records : List Record),
      Rules.lua.classify (before ++ line :: after) =
        Rules.lua.classify before ++ record :: records ∧
      record.index = before.length + 1 ∧ record.text = line ∧
      (record.decide = (line, .kept) ↔ ¬ Rules.lua.blockOpen <:+: line) ∧
      record.decide = Rules.Lua.trailingOutcome line code ∧
      (sieve (Rules.lua.classify (before ++ line :: after))).lines =
        keptLines (Rules.lua.classify before) ++ (record.output?.toList ++ keptLines records) := by
  have step := Rules.lua.classify_step before line
  have listed := Rules.lua.classify_split before line after
  have outcome := trailing.decide_eq step
  refine ⟨_, _, listed, step.index_eq, step.text_eq, ?_, outcome, ?_⟩
  · rw [outcome]
    exact Rules.Lua.trailingOutcome_kept_iff
  · rw [sieve_lines, listed, keptLines_append, keptLines_cons]

theorem inline_annotation_kept_iff_lua :
    let before := ["print(", ")"].map String.toList
    let line := "x = 1 ---@type T ]] -- a".toList
    let after := ["y = 2"].map String.toList
    let code := "x = 1 ".toList
    let rest := "-@type T ]] -- a".toList
    Rules.Lua.Trailing (Classifier.run { rules := Rules.lua } before).2.state line code rest ∧
      ∃ (record : Record) (records : List Record),
        Rules.lua.classify (before ++ line :: after) =
          Rules.lua.classify before ++ record :: records ∧
        record.index = before.length + 1 ∧ record.text = line ∧
        (record.decide = (line, .kept) ↔ ¬ Rules.lua.blockOpen <:+: line) ∧
        record.decide = Rules.Lua.trailingOutcome line code ∧
        (sieve (Rules.lua.classify (before ++ line :: after))).lines =
          keptLines (Rules.lua.classify before) ++
            (record.output?.toList ++ keptLines records) := by
  intro before line after code rest
  have trailing :
      Rules.Lua.Trailing (Classifier.run { rules := Rules.lua } before).2.state line code rest := by
    refine ⟨by decide +kernel, by decide +kernel, ?_, ?_, rfl, by decide +kernel⟩
    · rw [Rules.Lua.lineComment_eq]
      decide
    · rw [Rules.Lua.lineComment_eq, Rules.Lua.sigil_eq]
      rfl
  exact ⟨trailing, inline_annotation_kept_iff before line after code rest trailing⟩

/-- Annotations behind code are not all kept: one that holds a block opener takes its line along. -/
theorem inline_annotation_lost :
    ¬ ∀ (before : List (List Char)) (line : List Char) (after : List (List Char))
      (code rest : List Char),
      Rules.Lua.Trailing (Classifier.run { rules := Rules.lua } before).2.state line code rest →
        line ∈ (sieve (Rules.lua.classify (before ++ line :: after))).lines := by
  intro kept
  have trailing : Rules.Lua.Trailing (Classifier.run { rules := Rules.lua } []).2.state
      "x = 1 ---@type T --[[".toList "x = 1 ".toList "-@type T --[[".toList := by
    refine ⟨rfl, rfl, ?_, ?_, rfl, by decide +kernel⟩
    · rw [Rules.Lua.lineComment_eq]
      decide
    · rw [Rules.Lua.lineComment_eq, Rules.Lua.sigil_eq]
      rfl
  exact absurd (kept [] _ [] _ _ trailing) (by decide +kernel)

end LineSieve
