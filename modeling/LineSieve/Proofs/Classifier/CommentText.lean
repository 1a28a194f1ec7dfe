import LineSieve.Proofs.Acceptance
import LineSieve.Proofs.Classifier.Run

/- What the text of a trailing comment can do. On a line without a block comment the classifier
   offers the whole line to the forbidden call, so the parentheses of the comment are counted too;
   nothing else of the comment reaches the state. -/
namespace LineSieve

theorem advance_eq_iff {start depth : Nat} {one two : List Char} :
    OpenCall.advance start depth one = OpenCall.advance start depth two ↔
      depth + one.count '(' - one.count ')' = depth + two.count '(' - two.count ')' := by
  simp only [OpenCall.advance, Text.ofAscii_char]
  split
  · split
    · simp_all
    · simp_all
      omega
  · split
    · simp_all
    · simp

namespace Rules

theorem classifyLine_bare_state {rules : Rules} {index : Nat} {state : State} {text : List Char}
    (bare : Bare rules state text)
    (uncommented : rules.lineComment.isPrefixOf (Text.trim text) = false) :
    (rules.classifyLine index state text).2 =
      match state.openCall with
      | some call => state.withCall (OpenCall.advance call.start call.depth text)
      | none =>
        if rules.startsCall text then state.withCall (OpenCall.advance index 0 text)
        else { state with codeSeen := true } := by
  rw [classifyLine_bare bare, uncommented]
  simp only [Bool.false_eq_true, ↓reduceIte, classifyCode]
  cases running : state.openCall with
  | some call => simp only [feedCall_running running]
  | none =>
    cases starts : rules.startsCall text with
    | true => simp only [feedCall_starting running starts, ↓reduceIte]
    | false =>
      simp only [feedCall_idle running starts, Bool.false_eq_true, ↓reduceIte]
      split
      · rfl
      · split
        · rfl
        · split <;> rfl

theorem classifyLine_comment_state {rules : Rules} {index : Nat} {state : State} {text : List Char}
    (visible : Text.trim text ≠ []) (outside : state.inBlock = false)
    (unopened : Text.cut? rules.blockOpen text = none)
    (commented : rules.lineComment.isPrefixOf (Text.trim text) = true) :
    (rules.classifyLine index state text).2 = state := by
  have shown : (Text.trim text).isEmpty = false := by simpa using visible
  simp only [classifyLine, shown, outside, unopened, commented, Bool.false_eq_true, ↓reduceIte]
  split
  · rfl
  · split <;> rfl

theorem classifyLine_blank_state {rules : Rules} {index : Nat} {state : State} {text : List Char}
    (blank : Text.allBlank text = true) : (rules.classifyLine index state text).2 = state := by
  rw [classifyLine_eq (.blank (Text.trim_eq_nil.mpr blank))]

theorem bare_states_iff {rules : Rules} {index : Nat} {state : State} {one two : List Char}
    (settled : state.Settled) (bare_one : Bare rules state one) (bare_two : Bare rules state two)
    (plain_one : rules.lineComment.isPrefixOf (Text.trim one) = false)
    (plain_two : rules.lineComment.isPrefixOf (Text.trim two) = false)
    (alike : rules.startsCall one = rules.startsCall two) :
    (rules.classifyLine index state one).2 = (rules.classifyLine index state two).2 ↔
      state.openCall = none ∧ rules.startsCall two = false ∨
      state.parenDepth + one.count '(' - one.count ')' =
        state.parenDepth + two.count '(' - two.count ')' := by
  rw [classifyLine_bare_state bare_one plain_one, classifyLine_bare_state bare_two plain_two, alike]
  cases running : state.openCall with
  | some call =>
    obtain ⟨-, -, depth⟩ := State.openCall_eq_some.mp running
    simp [State.withCall_inj, depth, advance_eq_iff]
  | none =>
    have depth := (settled (State.openCall_eq_none.mp running)).1
    cases starts : rules.startsCall two with
    | true => simp [State.withCall_inj, depth, advance_eq_iff]
    | false => simp

end Rules

namespace Rules.Lua

theorem accepted : (RuleSpec.ofDialect .lua).Accepted .lua :=
  RuleSpec.accepted_of_compile RuleSpec.compile_lua

theorem lineComment_eq : Rules.lua.lineComment = ['-', '-'] := accepted.lineComment

theorem blockOpen_eq : Rules.lua.blockOpen = ['-', '-', '[', '['] := accepted.blockOpen

theorem sigil_eq : Rules.lua.sigil = ['-', '-', '-', '@'] := accepted.sigil

theorem sigil_comments {s : List Char} (marked : Rules.lua.sigil.isPrefixOf s = true) :
    Rules.lua.lineComment.isPrefixOf s = true := by
  rw [List.isPrefixOf_iff_prefix] at marked ⊢
  have opener : Rules.lua.lineComment <+: Rules.lua.sigil := by
    rw [lineComment_eq, sigil_eq]
    exact ⟨['-', '@'], rfl⟩
  exact opener.trans marked

theorem commented_iff {text code rest : List Char}
    (cut : Text.cut? Rules.lua.lineComment text = some (code, rest)) :
    Rules.lua.lineComment.isPrefixOf (Text.trim text) = true ↔ Text.allBlank code = true := by
  rw [lineComment_eq] at cut ⊢
  have split := Text.cut?_split cut
  rw [List.isPrefixOf_iff_prefix]
  constructor
  · intro commented
    obtain ⟨more, lead⟩ := commented.trans (Text.trimRight_initial (Text.trimLeft text))
    have occurs : text = text.takeWhile Text.isBlank ++ (['-', '-'] ++ more) := by
      rw [lead]
      exact (List.takeWhile_append_dropWhile).symm
    have blanks : code <+: text.takeWhile Text.isBlank :=
      List.prefix_of_prefix_length_le ⟨_, split.symm⟩ ⟨_, occurs.symm⟩ (Text.cut?_first cut occurs)
    rw [Text.allBlank_chars, List.all_eq_true]
    intro c listed
    exact List.all_eq_true.mp List.all_takeWhile c (blanks.subset listed)
  · intro blank
    have trimmed : Text.trimLeft text = ['-', '-'] ++ rest := by
      rw [split, Text.trimLeft_chars, List.dropWhile_append_of_pos (List.all_eq_true.mp blank)]
      rfl
    have marker : Text.trimRight ['-', '-'] = ['-', '-'] := by decide
    rw [Text.trim, trimmed, ← marker]
    exact Text.dropTrailing_mono ⟨rest, rfl⟩

theorem startsCall_cut {text code rest : List Char}
    (cut : Text.cut? Rules.lua.lineComment text = some (code, rest)) :
    Rules.lua.startsCall text = Rules.lua.startsCall code := by
  rw [Bool.eq_iff_iff, accepted.starts, accepted.starts]
  have split := Text.cut?_split cut
  rw [lineComment_eq] at split
  constructor
  · intro shape
    rw [split] at shape
    exact shape.shorten (by decide) (by decide) (by decide) (by decide +kernel)
  · intro shape
    exact shape.extend ⟨_, split.symm⟩

theorem bare_of_uncommented {state : State} {text : List Char} (visible : Text.trim text ≠ [])
    (outside : state.inBlock = false) (unopened : Text.cut? Rules.lua.blockOpen text = none)
    (uncommented : Rules.lua.lineComment.isPrefixOf (Text.trim text) = false) :
    Bare .lua state text := by
  refine ⟨visible, outside, ?_, unopened⟩
  rw [isAnnotationBlock_unopened unopened, Bool.eq_false_iff]
  intro marked
  rw [sigil_comments marked] at uncommented
  cases uncommented

end Rules.Lua

/-- When the text of a trailing comment is without effect. For Lua, behind all lines that end outside
of a block comment and on a line with a comment but no block comment, the line and the code before
its comment lead to the same state exactly if there is no code, or no forbidden call is open or
opened, or the comment does not change the depth that the parentheses of the line lead to. -/
theorem comment_text_idle_iff (before : List (List Char)) (line code rest : List Char) :
    let classifier := (Classifier.run { rules := .lua } before).2
    let state := classifier.state
    state.inBlock = false → Text.cut? Rules.lua.lineComment line = some (code, rest) →
    Text.cut? Rules.lua.blockOpen line = none →
    ((classifier.next line).2.state = (classifier.next code).2.state ↔
      Text.allBlank code = true ∨
      state.inForbidden = false ∧ Rules.lua.startsCall code = false ∨
      state.parenDepth + line.count '(' - line.count ')' =
        state.parenDepth + code.count '(' - code.count ')') := by
  intro classifier state outside cut unopened
  have ruled : classifier.rules = .lua := Classifier.run_rules _ _
  have settled : state.Settled := Classifier.run_settled (fun _ => ⟨rfl, rfl⟩) before
  have split := Text.cut?_split cut
  have visible : Text.trim line ≠ [] := by
    intro empty
    have blank := Text.trim_eq_nil.mp empty
    rw [split, Rules.Lua.lineComment_eq, Text.allBlank_chars, List.all_append, List.all_append]
      at blank
    simp [Text.isBlank] at blank
  cases blank : Text.allBlank code with
  | true =>
    have commented := (Rules.Lua.commented_iff cut).mpr blank
    simp only [Classifier.next, ruled, true_or, iff_true]
    rw [Rules.classifyLine_comment_state visible outside unopened commented,
      Rules.classifyLine_blank_state blank]
  | false =>
    have uncommented : Rules.lua.lineComment.isPrefixOf (Text.trim line) = false := by
      rw [Bool.eq_false_iff, ne_eq, Rules.Lua.commented_iff cut, blank]
      decide
    have clear := Text.cut?_front_clear Rules.Lua.accepted.marker_proper cut
    have shown : Text.trim code ≠ [] := by
      rw [ne_eq, Text.trim_eq_nil, blank]
      decide
    have code_unopened := Rules.Lua.accepted.unopened_of_clear clear
    have code_uncommented := Rules.uncommented_of_clear clear
    simp only [Classifier.next, ruled, Bool.false_eq_true, false_or, ← State.openCall_eq_none]
    exact Rules.bare_states_iff settled
      (Rules.Lua.bare_of_uncommented visible outside unopened uncommented)
      (Rules.Lua.bare_of_uncommented shown outside code_unopened code_uncommented)
      uncommented code_uncommented (Rules.Lua.startsCall_cut cut)

theorem comment_text_idle_iff_open :
    let before := ["print(1,".toList]
    let classifier := (Classifier.run { rules := .lua } before).2
    let state := classifier.state
    let line := "2) -- (".toList
    let code := "2) ".toList
    state.inBlock = false ∧ Text.cut? Rules.lua.lineComment line = some (code, " (".toList) ∧
      Text.cut? Rules.lua.blockOpen line = none ∧
      ((classifier.next line).2.state = (classifier.next code).2.state ↔
        Text.allBlank code = true ∨
        state.inForbidden = false ∧ Rules.lua.startsCall code = false ∨
        state.parenDepth + line.count '(' - line.count ')' =
          state.parenDepth + code.count '(' - code.count ')') := by
  intro before classifier state line code
  have outside : state.inBlock = false := by decide +kernel
  have cut : Text.cut? Rules.lua.lineComment line = some (code, " (".toList) := by
    rw [Rules.Lua.lineComment_eq]
    decide
  have unopened : Text.cut? Rules.lua.blockOpen line = none := by
    rw [Rules.Lua.blockOpen_eq]
    decide
  exact ⟨outside, cut, unopened, comment_text_idle_iff before line code _ outside cut unopened⟩

/-- Comment text does decide: a parenthesis in a trailing comment keeps a call open. -/
theorem comment_text_decides :
    ¬ ∀ (lines : List (List Char)) (line code rest : List Char),
      (Classifier.run { rules := .lua } lines).2.state.inBlock = false →
      Text.cut? Rules.lua.lineComment line = some (code, rest) →
      Text.cut? Rules.lua.blockOpen line = none →
        ((Classifier.run { rules := .lua } lines).2.next line).2.state =
          ((Classifier.run { rules := .lua } lines).2.next code).2.state := by
  intro idle
  have same := idle [] "print(x) -- (".toList "print(x) ".toList " (".toList rfl
    (by rw [Rules.Lua.lineComment_eq]; decide) (by rw [Rules.Lua.blockOpen_eq]; decide)
  exact absurd same (by decide +kernel)

end LineSieve
