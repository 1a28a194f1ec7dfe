import LineSieve.Proofs.Sieve.Cleanness
import LineSieve.Proofs.Sieve.OpenCalls

/- A block comment on one line or over several. With a call open before the comment ends, its layout
   does not matter: the same parentheses are counted, and the same call is open behind it. A call
   that starts behind the comment is seen on one line only. -/
namespace LineSieve

theorem OpenCall.advance_append {start depth : Nat} {one two : List Char} {call : OpenCall}
    (still : OpenCall.advance start depth one = some call) :
    OpenCall.advance start depth (one ++ two) = OpenCall.advance call.start call.depth two := by
  simp only [OpenCall.advance, Option.ite_none_left_eq_some, Option.some.injEq] at still
  obtain ⟨proper, rfl⟩ := still
  simp only [OpenCall.advance, Text.ofAscii_char] at proper ⊢
  rw [List.count_append, List.count_append]
  have depths : depth + (one.count '(' + two.count '(') - (one.count ')' + two.count ')') =
      depth + one.count '(' - one.count ')' + two.count '(' - two.count ')' := by omega
  rw [depths]

namespace Rules

/-- A line with a block comment: `front` before it, `body` in it and `rest` behind it. -/
def blockLine (rules : Rules) (front body rest : List Char) : List Char :=
  front ++ (rules.blockOpen ++ (body ++ (rules.blockClose ++ rest)))

/-- The same text over several lines. -/
def blockLines (rules : Rules) (front first : List Char) (middle : List (List Char))
    (last rest : List Char) : List (List Char) :=
  (front ++ (rules.blockOpen ++ first)) :: (middle ++ [last ++ (rules.blockClose ++ rest)])

/-- The first marker of the line is that of its block comment, the comment ends at the first closer,
and the line is no annotation. -/
structure BlockLine (rules : Rules) (front body rest : List Char) : Prop where
  marker : ∃ behind,
    Text.cut? rules.lineComment (rules.blockLine front body rest) = some (front, behind)
  closer : Text.cut? rules.blockClose (body ++ (rules.blockClose ++ rest)) = some (body, rest)
  unmarked : rules.isAnnotationBlock (Text.trim (rules.blockLine front body rest)) = false

variable {spec : RuleSpec} {rules : Rules} {index : Nat} {state : State}
  {front body first last rest : List Char} {middle : List (List Char)}

theorem isAnnotationBlock_shorten {body more : List Char} {c : Char} (absent : c ∉ rules.sigil)
    (visible : isGap c = false)
    (marked : rules.isAnnotationBlock (rules.blockOpen ++ (body ++ c :: more)) = true) :
    rules.isAnnotationBlock (rules.blockOpen ++ body) = true := by
  rw [isAnnotationBlock_iff] at marked ⊢
  rcases marked with sigil | ⟨inner, same, sigil⟩
  · rw [← List.append_assoc] at sigil
    exact Or.inl (Text.prefix_of_not_mem absent sigil)
  · rw [← List.append_cancel_left same] at sigil
    refine Or.inr ⟨body, rfl, Text.prefix_of_not_mem (b := more) absent ?_⟩
    rw [List.dropWhile_append, List.dropWhile_cons_of_neg (by rw [visible]; decide)] at sigil
    cases empty : (body.dropWhile isGap).isEmpty with
    | true => simpa [empty, List.isEmpty_iff.mp empty] using sigil
    | false => simpa [empty] using sigil

theorem opened_of_marker (accepted : spec.Accepted rules) {behind more : List Char}
    (marker : Text.cut? rules.lineComment (front ++ (rules.blockOpen ++ more)) =
      some (front, behind)) :
    Text.cut? rules.blockOpen (front ++ (rules.blockOpen ++ more)) = some (front, more) := by
  obtain ⟨tail, spelled⟩ := accepted.opener
  refine Text.cut?_of_first rfl fun a b occurs => ?_
  refine Text.cut?_first marker (a := a) (b := tail ++ b) ?_
  rw [occurs, ← spelled, List.append_assoc]

theorem blockLine_split (rules : Rules) (front first last rest : List Char) :
    rules.blockLine front (first ++ last) rest =
      front ++ (rules.blockOpen ++ first) ++ (last ++ (rules.blockClose ++ rest)) := by
  simp only [blockLine, List.append_assoc]

namespace BlockLine

theorem opening (line : BlockLine rules front body rest) (accepted : spec.Accepted rules)
    (shown : Text.allBlank rules.blockOpen = false) (outside : state.inBlock = false) :
    Opening rules state (rules.blockLine front body rest) front
      (body ++ (rules.blockClose ++ rest)) := by
  obtain ⟨behind, marker⟩ := line.marker
  refine ⟨Text.trim_ne_nil shown ?_, outside, line.unmarked, opened_of_marker accepted marker⟩
  exact ⟨front, _, List.append_assoc _ _ _⟩

theorem around_eq (line : BlockLine rules front body rest) :
    rules.around (rules.blockLine front body rest) front rest =
      front ++ rules.withoutComment rest := by
  obtain ⟨behind, marker⟩ := line.marker
  rw [around, withoutComment_cut marker, if_pos rfl]

theorem state_eq (line : BlockLine rules front body rest) (accepted : spec.Accepted rules)
    (shown : Text.allBlank rules.blockOpen = false) (outside : state.inBlock = false)
    {category : Category} {next : State}
    (fed : rules.feedCall index state (front ++ rules.withoutComment rest) =
      (some category, next)) :
    (rules.classifyLine index state (rules.blockLine front body rest)).2 = next := by
  rw [← line.around_eq] at fed
  rw [classifyLine_eq (.aroundCall (line.opening accepted shown outside) line.closer fed)]

theorem clear (line : BlockLine rules front body rest) (accepted : spec.Accepted rules)
    {piece : List Char} (inside : piece <:+: body) : ¬ rules.blockClose <:+: piece := by
  intro occurs
  exact Text.cut?_front_clear accepted.closer_proper line.closer (occurs.trans inside)

theorem first_marker (line : BlockLine rules front (first ++ last) rest)
    (accepted : spec.Accepted rules) :
    ∃ behind, Text.cut? rules.lineComment (front ++ (rules.blockOpen ++ first)) =
      some (front, behind) := by
  obtain ⟨tail, spelled⟩ := accepted.opener
  obtain ⟨behind, marker⟩ := line.marker
  rw [blockLine_split] at marker
  refine ⟨tail ++ first, Text.cut?_take ?_ marker⟩
  rw [← spelled, List.append_assoc rules.lineComment]

theorem first_opening (line : BlockLine rules front (first ++ last) rest)
    (accepted : spec.Accepted rules) (shown : Text.allBlank rules.blockOpen = false)
    (outside : state.inBlock = false) :
    Opening rules state (front ++ (rules.blockOpen ++ first)) front first := by
  obtain ⟨behind, marker⟩ := line.first_marker accepted
  refine ⟨Text.trim_ne_nil shown ⟨front, first, List.append_assoc _ _ _⟩, outside, ?_,
    opened_of_marker accepted marker⟩
  -- What makes an annotation of the beginning makes one of the whole line.
  rw [Bool.eq_false_iff]
  intro marked
  have initial : front ++ (rules.blockOpen ++ first) <+:
      rules.blockLine front (first ++ last) rest := by
    rw [blockLine_split]
    exact List.prefix_append _ _
  have extended := isAnnotationBlock_extend (Text.trim_mono initial) marked
  rw [line.unmarked] at extended
  cases extended

theorem first_eq (line : BlockLine rules front (first ++ last) rest) (index : Nat)
    (accepted : spec.Accepted rules) (shown : Text.allBlank rules.blockOpen = false)
    (outside : state.inBlock = false) :
    ∃ record, record.output? = none ∧
      rules.classifyLine index state (front ++ (rules.blockOpen ++ first)) =
        (record, { (rules.feedCall index state front).2 with inBlock := true }) := by
  obtain ⟨behind, marker⟩ := line.first_marker accepted
  have unclosed : Text.cut? rules.blockClose first = none :=
    Text.cut?_none.mpr (line.clear accepted (List.prefix_append first last).isInfix)
  have step : Classified rules index state _ _ _ :=
    .enter (line.first_opening accepted shown outside) unclosed rfl
  rw [withoutComment_cut marker] at step
  exact ⟨_, rfl, classifyLine_eq step⟩

theorem last_cut (line : BlockLine rules front (first ++ last) rest) :
    Text.cut? rules.blockClose (last ++ (rules.blockClose ++ rest)) = some (last, rest) := by
  have closer := line.closer
  rw [List.append_assoc] at closer
  exact Text.cut?_drop closer

end BlockLine

/-- Run: no line comes out of a block comment, and none changes the state, while no closer is met.
-/
theorem run_body (classifier : Classifier) (inside : classifier.state.inBlock = true)
    (clear : ∀ line ∈ middle, ¬ classifier.rules.blockClose <:+: line) :
    ∃ records, (∀ record ∈ records, record.output? = none) ∧
      classifier.run middle =
        (records, { classifier with index := classifier.index + middle.length }) := by
  induction middle generalizing classifier with
  | nil => exact ⟨[], List.forall_mem_nil _, rfl⟩
  | cons line middle ih =>
    have step : ∃ record : Record, record.output? = none ∧
        classifier.next line = (record, { classifier with index := classifier.index + 1 }) := by
      unfold Classifier.next
      by_cases empty : Text.trim line = []
      · exact ⟨_, rfl, by rw [classifyLine_eq (.blank empty)]⟩
      · have unclosed := Text.cut?_none.mpr (clear line List.mem_cons_self)
        exact ⟨_, rfl, by rw [classifyLine_eq (.body empty inside unclosed)]⟩
    obtain ⟨record, silent, next⟩ := step
    obtain ⟨records, quiet, rest⟩ := ih (classifier.next line).2
      (by rw [next]; exact inside)
      (by rw [next]; exact fun text listed => clear text (List.mem_cons_of_mem line listed))
    refine ⟨record :: records, List.forall_mem_cons.mpr ⟨silent, quiet⟩, ?_⟩
    rw [Classifier.run_cons, rest, next, List.length_cons, Nat.add_assoc, Nat.add_comm 1]

theorem feedCall_append (accepted : spec.Accepted rules) {counted : List Char} {call : OpenCall}
    (still : (rules.feedCall index state counted).2.openCall = some call) (more : List Char) :
    ∃ category, rules.feedCall index state (counted ++ more) =
      (some category, state.withCall (OpenCall.advance call.start call.depth more)) := by
  generalize read : rules.feedCall index state counted = outcome at still
  obtain ⟨fed, next⟩ := outcome
  cases feedCall_iff.mp read with
  | continued running =>
    rw [State.openCall_withCall] at still
    rw [feedCall_running running, OpenCall.advance_append still]
    exact ⟨_, rfl⟩
  | started free starts =>
    rw [State.openCall_withCall] at still
    have longer : rules.startsCall (counted ++ more) = true := by
      rw [accepted.starts] at starts ⊢
      exact starts.extend (List.prefix_append counted more)
    rw [feedCall_iff.mpr (.started free longer), OpenCall.advance_append still]
    exact ⟨_, rfl⟩
  | idle free unstarted => cases free.symm.trans still

theorem startsCall_nil (accepted : spec.Accepted rules) : rules.startsCall [] = false := by
  rw [Bool.eq_false_iff]
  intro starts
  exact List.not_mem_nil ((accepted.starts []).mp starts).parenthesis

theorem feedCall_state {counted : List Char} {call : OpenCall}
    (still : (rules.feedCall index state counted).2.openCall = some call) :
    (rules.feedCall index state counted).2 = state.withCall (some call) := by
  generalize read : rules.feedCall index state counted = outcome at still ⊢
  obtain ⟨fed, next⟩ := outcome
  cases feedCall_iff.mp read with
  | continued | started =>
    rw [State.openCall_withCall] at still
    rw [still]
  | idle free => cases free.symm.trans still

theorem BlockLine.run_eq (line : BlockLine rules front (first ++ (middle.flatten ++ last)) rest)
    (index : Nat) (accepted : spec.Accepted rules) (shown : Text.allBlank rules.blockOpen = false)
    (outside : state.inBlock = false) :
    let entered : State := { (rules.feedCall index state front).2 with inBlock := true }
    let closing := Classifier.next ⟨rules, entered, index + 1 + middle.length⟩
      (last ++ (rules.blockClose ++ rest))
    ∃ records, (∀ record ∈ records, record.output? = none) ∧
      Classifier.run ⟨rules, state, index⟩ (rules.blockLines front first middle last rest) =
        (records ++ [closing.1], closing.2) := by
  intro entered closing
  obtain ⟨record, silent, enters⟩ := line.first_eq index accepted shown outside
  have clear : ∀ piece ∈ middle, ¬ rules.blockClose <:+: piece := by
    intro piece listed
    have within := List.infix_of_mem_flatten listed
    exact line.clear accepted (within.trans ⟨first, last, List.append_assoc _ _ _⟩)
  obtain ⟨records, quiet, body⟩ := run_body ⟨rules, entered, index + 1⟩ rfl clear
  have next : Classifier.next ⟨rules, state, index⟩ (front ++ (rules.blockOpen ++ first)) =
      (record, ⟨rules, entered, index + 1⟩) := by
    unfold Classifier.next
    rw [enters]
  refine ⟨record :: records, List.forall_mem_cons.mpr ⟨silent, quiet⟩, ?_⟩
  rw [blockLines, Classifier.run_cons, next, Classifier.run_append, body]
  rfl

end Rules

namespace Rules.Lua

theorem blockClose_eq : Rules.lua.blockClose = [']', ']'] := accepted.blockClose

theorem opener_shown : Text.allBlank Rules.lua.blockOpen = false := by
  rw [blockOpen_eq]
  decide

theorem closer_visible (last rest : List Char) :
    Text.trim (last ++ (Rules.lua.blockClose ++ rest)) ≠ [] := by
  have shown : Text.allBlank Rules.lua.blockClose = false := by
    rw [blockClose_eq]
    decide
  exact Text.trim_ne_nil shown ⟨last, rest, List.append_assoc _ _ _⟩

theorem blockLine_of_closer {body : List Char} (rest : List Char)
    (closer : Text.cut? Rules.lua.blockClose (body ++ Rules.lua.blockClose) = some (body, []))
    (unmarked : Rules.lua.isAnnotationBlock (Rules.lua.blockOpen ++ body) = false) :
    BlockLine .lua [] body rest where
  marker := by
    obtain ⟨tail, spelled⟩ := accepted.opener
    refine ⟨tail ++ (body ++ (Rules.lua.blockClose ++ rest)), ?_⟩
    rw [blockLine, ← spelled, List.nil_append, List.append_assoc]
    exact Text.cut?_here _ _
  closer := by
    have extended := Text.cut?_extend closer rest
    rwa [List.append_assoc, List.nil_append] at extended
  unmarked := by
    rw [Bool.eq_false_iff]
    intro marked
    have trimmed : Text.trim (Rules.lua.blockLine [] body rest) <+:
        Rules.lua.blockOpen ++ (body ++ ']' :: (']' :: rest)) := by
      rw [blockLine, blockClose_eq, blockOpen_eq]
      exact Text.trimRight_initial _
    have sigil : ']' ∉ Rules.lua.sigil := by
      rw [sigil_eq]
      decide
    have whole := isAnnotationBlock_extend trimmed marked
    rw [isAnnotationBlock_shorten sigil (by decide) whole] at unmarked
    cases unmarked

end Rules.Lua

/-- The layout of a block comment in a forbidden call does not matter. For Lua, take a line outside
block comments whose first marker opens a block comment, and let a call be open behind the beginning
of that comment. Then the line leads to the same state as the same text with the comment spread over
any number of lines, and no comment is open in it. -/
theorem comment_layout_irrelevant (index : Nat) (state : State) (front first : List Char)
    (middle : List (List Char)) (last rest : List Char) (outside : state.inBlock = false)
    (line : Rules.BlockLine .lua front (first ++ (middle.flatten ++ last)) rest)
    (running : (Classifier.next ⟨.lua, state, index⟩
      (front ++ (Rules.lua.blockOpen ++ first))).2.state.inForbidden = true) :
    let body := first ++ (middle.flatten ++ last)
    let one := (Classifier.next ⟨.lua, state, index⟩ (Rules.lua.blockLine front body rest)).2.state
    let many := (Classifier.run ⟨.lua, state, index⟩
      (Rules.lua.blockLines front first middle last rest)).2.state
    one = many ∧ one.inBlock = false := by
  intro body one many
  have accepted := Rules.Lua.accepted
  have shown := Rules.Lua.opener_shown
  -- The code before the comment leaves a call open, whatever the layout.
  obtain ⟨record, silent, enters⟩ := line.first_eq index accepted shown outside
  rw [Classifier.next, enters] at running
  obtain ⟨call, still⟩ : ∃ call, (Rules.lua.feedCall index state front).2.openCall = some call := by
    rw [← Option.isSome_iff_exists, ← Option.ne_none_iff_isSome, ne_eq, State.openCall_eq_none]
    exact Bool.eq_false_iff.not_left.mpr running
  have fed := Rules.feedCall_state still
  have single : one = state.withCall
      (OpenCall.advance call.start call.depth (Rules.lua.withoutComment rest)) := by
    obtain ⟨category, offered⟩ :=
      Rules.feedCall_append accepted still (Rules.lua.withoutComment rest)
    exact line.state_eq accepted shown outside offered
  have several : many = state.withCall
      (OpenCall.advance call.start call.depth (Rules.lua.withoutComment rest)) := by
    obtain ⟨records, quiet, run⟩ := line.run_eq index accepted shown outside
    have whole : Rules.BlockLine .lua front (first ++ middle.flatten ++ last) rest := by
      rwa [List.append_assoc]
    let entered : State := { (Rules.lua.feedCall index state front).2 with inBlock := true }
    have within : entered.openCall = some call := still
    have step : Rules.lua.Classified (index + 1 + middle.length) entered _ _ _ :=
      .leaveInCall (Rules.Lua.closer_visible last rest) rfl whole.last_cut within _ rfl
    have left : { entered with inBlock := false } = state.withCall (some call) := by
      simp only [entered, fed]
      rw [← outside]
      rfl
    rw [left, State.withCall_withCall] at step
    simp only [many, run]
    exact congrArg Prod.snd (Rules.classifyLine_eq step)
  rw [single, several]
  exact ⟨rfl, (State.inBlock_withCall _ _).trans outside⟩

theorem comment_layout_irrelevant_lua :
    let state := (Classifier.run { rules := .lua } ["print(1,".toList]).2.state
    let front := "2, f(".toList
    let first := " a)".toList
    let middle := ["b".toList, []]
    let last := " --c".toList
    let rest := "3) -- )".toList
    let body := first ++ (middle.flatten ++ last)
    let one := (Classifier.next ⟨.lua, state, 2⟩ (Rules.lua.blockLine front body rest)).2.state
    let many := (Classifier.run ⟨.lua, state, 2⟩
      (Rules.lua.blockLines front first middle last rest)).2.state
    state.inBlock = false ∧ Rules.BlockLine .lua front body rest ∧
      (Classifier.next ⟨.lua, state, 2⟩
        (front ++ (Rules.lua.blockOpen ++ first))).2.state.inForbidden = true ∧
      one = many ∧ one.inBlock = false ∧ one.openCall = some ⟨1, 1⟩ := by
  intro state front first middle last rest body one many
  have marker : Text.cut? Rules.lua.lineComment (Rules.lua.blockLine front body rest) =
      some (front, "[[ a)b --c]]3) -- )".toList) := by
    rw [Rules.blockLine, Rules.Lua.blockOpen_eq, Rules.Lua.blockClose_eq, Rules.Lua.lineComment_eq]
    decide
  have closer : Text.cut? Rules.lua.blockClose (body ++ (Rules.lua.blockClose ++ rest)) =
      some (body, rest) := by
    rw [Rules.Lua.blockClose_eq]
    decide
  have checked : state.inBlock = false ∧
      Rules.lua.isAnnotationBlock (Text.trim (Rules.lua.blockLine front body rest)) = false ∧
      (Classifier.next ⟨.lua, state, 2⟩
        (front ++ (Rules.lua.blockOpen ++ first))).2.state.inForbidden = true ∧
      one.openCall = some ⟨1, 1⟩ := by decide +kernel
  obtain ⟨outside, unmarked, running, depth⟩ := checked
  have line : Rules.BlockLine .lua front body rest := ⟨⟨_, marker⟩, closer, unmarked⟩
  have same := comment_layout_irrelevant 2 state front first middle last rest outside line running
  exact ⟨outside, line, running, same.1, same.2, depth⟩

/-- A call that starts behind a block comment. For Lua, outside block comments and calls, take a
block comment at the start of a line and code behind it that starts a call and leaves parentheses
open. On one line, that call is open behind the line. With the comment spread over two lines or
more, it is not: nothing comes out of those lines, and the lines behind them are classified as if
the call had not been started. -/
theorem call_behind_block (index : Nat) (state : State) (first : List Char)
    (middle : List (List Char)) (last rest : List Char) (outside : state.inBlock = false)
    (free : state.inForbidden = false)
    (closer : Text.cut? Rules.lua.blockClose
      (first ++ (middle.flatten ++ last) ++ Rules.lua.blockClose) =
        some (first ++ (middle.flatten ++ last), []))
    (unmarked : Rules.lua.isAnnotationBlock
      (Rules.lua.blockOpen ++ (first ++ (middle.flatten ++ last))) = false)
    (starts : Rules.lua.startsCall (Rules.lua.withoutComment rest) = true)
    (deeper : (Rules.lua.withoutComment rest).count ')' <
      (Rules.lua.withoutComment rest).count '(') :
    let body := first ++ (middle.flatten ++ last)
    let code := Rules.lua.withoutComment rest
    let one := Classifier.next ⟨.lua, state, index⟩ (Rules.lua.blockLine [] body rest)
    let many := Classifier.run ⟨.lua, state, index⟩
      (Rules.lua.blockLines [] first middle last rest)
    one.2 = ⟨.lua, { state with
        inForbidden := true
        parenDepth := code.count '(' - code.count ')'
        statementStart := index }, index + 1⟩ ∧
    many.2 = ⟨.lua, state, index + middle.length + 2⟩ ∧
    ∀ record ∈ many.1, record.output? = none := by
  intro body code one many
  have accepted := Rules.Lua.accepted
  have shown := Rules.Lua.opener_shown
  have free := State.openCall_eq_none.mpr free
  have line : Rules.BlockLine .lua [] (first ++ (middle.flatten ++ last)) rest :=
    Rules.Lua.blockLine_of_closer rest closer unmarked
  constructor
  · have more_open : code.count ')' < code.count '(' := deeper
    have opened : OpenCall.advance index 0 code =
        some ⟨index, code.count '(' - code.count ')'⟩ := by
      simp only [OpenCall.advance, Text.ofAscii_char, Nat.zero_add]
      rw [if_neg (by omega)]
    have fed : Rules.lua.feedCall index state ([] ++ code) = (some .forbidden,
        state.withCall (some ⟨index, code.count '(' - code.count ')'⟩)) := by
      rw [List.nil_append, Rules.feedCall_starting free starts, opened]
    simp only [one, Classifier.next, body, line.state_eq accepted shown outside fed]
    rfl
  · -- The line with the opener offers nothing, and the line with the closer offers its code to a
    -- call that is open already, but does not see whether it starts one.
    have nothing : Rules.lua.feedCall index state [] = (none, state) :=
      Rules.feedCall_none_iff.mpr ⟨free, Rules.startsCall_nil accepted, rfl⟩
    obtain ⟨records, quiet, run⟩ := line.run_eq index accepted shown outside
    have whole : Rules.BlockLine .lua [] (first ++ middle.flatten ++ last) rest := by
      rwa [List.append_assoc]
    have step : Rules.lua.Classified (index + 1 + middle.length) { state with inBlock := true }
        (last ++ (Rules.lua.blockClose ++ rest)) _ _ :=
      .leave (Rules.Lua.closer_visible last rest) rfl whole.last_cut free
    have same : { state with inBlock := false } = state := by rw [← outside]
    simp only [many, run, nothing, Classifier.next, Rules.classifyLine_eq step, same]
    refine ⟨?_, ?_⟩
    · have count : index + 1 + middle.length + 1 = index + middle.length + 2 := by omega
      rw [count]
    · intro record listed
      rcases List.mem_append.mp listed with earlier | final
      · exact quiet record earlier
      · rw [List.mem_singleton.mp final]
        exact Rules.output?_closed rfl rfl

theorem call_behind_block_lua :
    let state := (Classifier.run { rules := .lua } ["x".toList]).2.state
    let first := " a (".toList
    let last := " b".toList
    let rest := " print(f(1), -- )".toList
    let body := first ++ (([] : List (List Char)).flatten ++ last)
    let code := Rules.lua.withoutComment rest
    let one := Classifier.next ⟨.lua, state, 2⟩ (Rules.lua.blockLine [] body rest)
    let many := Classifier.run ⟨.lua, state, 2⟩ (Rules.lua.blockLines [] first [] last rest)
    state.inBlock = false ∧ state.inForbidden = false ∧
      Text.cut? Rules.lua.blockClose (body ++ Rules.lua.blockClose) = some (body, []) ∧
      Rules.lua.isAnnotationBlock (Rules.lua.blockOpen ++ body) = false ∧
      Rules.lua.startsCall code = true ∧ code.count ')' < code.count '(' ∧
      one.2 = ⟨.lua, { state with
        inForbidden := true
        parenDepth := code.count '(' - code.count ')'
        statementStart := 2 }, 3⟩ ∧
      many.2 = ⟨.lua, state, 4⟩ ∧ ∀ record ∈ many.1, record.output? = none := by
  intro state first last rest body code one many
  have checked : state.inBlock = false ∧ state.inForbidden = false ∧
      Text.cut? Rules.lua.blockClose (body ++ Rules.lua.blockClose) = some (body, []) ∧
      Rules.lua.isAnnotationBlock (Rules.lua.blockOpen ++ body) = false ∧
      Rules.lua.startsCall code = true ∧ code.count ')' < code.count '(' := by decide +kernel
  obtain ⟨outside, free, closer, unmarked, starts, deeper⟩ := checked
  exact ⟨outside, free, closer, unmarked, starts, deeper,
    call_behind_block 2 state first [] last rest outside free closer unmarked starts deeper⟩

/-- The layout of a comment in front of a call does decide: over two lines the call is not seen. -/
theorem call_behind_block_lost :
    ¬ ∀ (lines : List (List Char)) (first last rest : List Char),
      let classifier := (Classifier.run { rules := .lua } lines).2
      let code := Rules.lua.withoutComment rest
      classifier.state.inBlock = false → classifier.state.inForbidden = false →
      Text.cut? Rules.lua.blockClose (first ++ last ++ Rules.lua.blockClose) =
        some (first ++ last, []) →
      Rules.lua.isAnnotationBlock (Rules.lua.blockOpen ++ (first ++ last)) = false →
      Rules.lua.startsCall code = true → code.count ')' < code.count '(' →
        let one := (classifier.next (Rules.lua.blockLine [] (first ++ last) rest)).2.state
        let two := (classifier.run [Rules.lua.blockOpen ++ first,
          last ++ (Rules.lua.blockClose ++ rest)]).2.state
        one.inForbidden = true ∧ two.inForbidden = true ∧ one.parenDepth = two.parenDepth := by
  intro tracked
  let first := " a".toList
  let last := "b ".toList
  let rest := " print(1,".toList
  let code := Rules.lua.withoutComment rest
  have checked : Text.cut? Rules.lua.blockClose (first ++ last ++ Rules.lua.blockClose) =
        some (first ++ last, []) ∧
      Rules.lua.isAnnotationBlock (Rules.lua.blockOpen ++ (first ++ last)) = false ∧
      Rules.lua.startsCall code = true ∧ code.count ')' < code.count '(' ∧
      (Classifier.run { rules := .lua } [Rules.lua.blockOpen ++ first,
        last ++ (Rules.lua.blockClose ++ rest)]).2.state.inForbidden = false := by
    decide +kernel
  obtain ⟨closer, unmarked, starts, deeper, lost⟩ := checked
  have both := tracked [] first last rest rfl rfl closer unmarked starts deeper
  exact absurd (lost.symm.trans both.2.1) Bool.false_ne_true

end LineSieve
