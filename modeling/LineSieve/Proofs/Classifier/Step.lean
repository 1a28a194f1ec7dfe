import LineSieve.Classifier
import LineSieve.Proofs.Text.Blanks
import LineSieve.Proofs.Text.Pieces

/- One step of the classifier as a relation: one constructor for each way in which a line is
   classified, with everything that has been found out about the line by then. Facts about the
   classifier follow by cases on it, and by induction over the lines from there. -/
namespace LineSieve

/-- A forbidden call whose parentheses are still open: the line it started on and how many are
open. -/
structure OpenCall where
  start : Nat
  depth : Nat
  deriving DecidableEq, Repr

namespace State

def openCall (state : State) : Option OpenCall :=
  if state.inForbidden then some ⟨state.statementStart, state.parenDepth⟩ else none

def withCall (state : State) : Option OpenCall → State
  | some call =>
    { state with inForbidden := true, parenDepth := call.depth, statementStart := call.start }
  | none => { state with inForbidden := false, parenDepth := 0, statementStart := 0 }

@[simp] theorem openCall_withCall (state : State) (call : Option OpenCall) :
    (state.withCall call).openCall = call := by
  cases call <;> rfl

@[simp] theorem inBlock_withCall (state : State) (call : Option OpenCall) :
    (state.withCall call).inBlock = state.inBlock := by
  cases call <;> rfl

@[simp] theorem codeSeen_withCall (state : State) (call : Option OpenCall) :
    (state.withCall call).codeSeen = state.codeSeen := by
  cases call <;> rfl

@[simp] theorem unclosed?_withCall (state : State) (call : Option OpenCall) :
    (state.withCall call).unclosed? = call.map (·.start) := by
  cases call <;> rfl

@[simp] theorem withCall_withCall (state : State) (one two : Option OpenCall) :
    (state.withCall one).withCall two = state.withCall two := by
  cases one <;> cases two <;> rfl

theorem unclosed?_eq (state : State) : state.unclosed? = state.openCall.map (·.start) := by
  cases running : state.inForbidden <;> simp [unclosed?, openCall, running]

theorem withCall_inj {state : State} {one two : Option OpenCall} :
    state.withCall one = state.withCall two ↔ one = two := by
  refine ⟨fun same => ?_, congrArg _⟩
  simpa using congrArg openCall same

/-- Nothing is counted where no call is open. -/
def Settled (state : State) : Prop :=
  state.inForbidden = false → state.parenDepth = 0 ∧ state.statementStart = 0

theorem settled_withCall (state : State) (call : Option OpenCall) :
    (state.withCall call).Settled := by
  cases call with
  | none => exact fun _ => ⟨rfl, rfl⟩
  | some call => exact nofun

theorem openCall_eq_none {state : State} : state.openCall = none ↔ state.inForbidden = false := by
  simp [openCall]

theorem Settled.parenDepth_eq {state : State} (settled : state.Settled) :
    state.parenDepth = (state.openCall.map OpenCall.depth).getD 0 := by
  cases running : state.inForbidden with
  | true => simp [openCall, running]
  | false => simp [openCall, running, settled running]

theorem openCall_eq_some {state : State} {call : OpenCall} : state.openCall = some call ↔
    state.inForbidden = true ∧ state.statementStart = call.start ∧
      state.parenDepth = call.depth := by
  cases call
  simp [openCall]

end State

variable {α : Type} [DecidableEq α] [Text.Alphabet α]

def OpenCall.advance (start depth : Nat) (text : List α) : Option OpenCall :=
  let depth := depth + text.count (Text.ofAscii '(') - text.count (Text.ofAscii ')')
  if depth = 0 then none else some ⟨start, depth⟩

theorem State.advance_eq {state : State} (running : state.inForbidden = true) (text : List α) :
    state.advance text =
      state.withCall (OpenCall.advance state.statementStart state.parenDepth text) := by
  unfold State.advance OpenCall.advance
  cases state.parenDepth + text.count (Text.ofAscii '(') - text.count (Text.ofAscii ')') with
  | zero => rfl
  | succ depth => simp [withCall, running]

namespace Rules

/-- A line outside block comments without an opener that is neither blank nor an annotation. -/
structure Bare (rules : Rules α) (state : State) (text : List α) : Prop where
  visible : Text.trim text ≠ []
  outside : state.inBlock = false
  unmarked : rules.isAnnotationBlock (Text.trim text) = false
  unopened : Text.cut? rules.blockOpen text = none

/-- A line of code: bare, no comment of its own, and outside of forbidden calls. -/
structure CodeLine (rules : Rules α) (state : State) (text : List α) : Prop
    extends Bare rules state text where
  uncommented : rules.lineComment.isPrefixOf (Text.trim text) = false
  free : state.openCall = none
  unstarted : rules.startsCall text = false

/-- A line outside block comments that holds an opener and is no annotation: `rest` stands behind
the opener and `front` before it. -/
structure Opening (rules : Rules α) (state : State) (text front rest : List α) : Prop where
  visible : Text.trim text ≠ []
  outside : state.inBlock = false
  unmarked : rules.isAnnotationBlock (Text.trim text) = false
  opened : Text.cut? rules.blockOpen text = some (front, rest)

/-- What counts for a forbidden call on a line that opens and closes a block comment: the code
before the comment and, if the first comment is the block comment, the code behind it. -/
def around (rules : Rules α) (text front after : List α) : List α :=
  if (rules.withoutComment text).length = front.length then
    rules.withoutComment text ++ rules.withoutComment after
  else rules.withoutComment text

/-- Line `index` is classified by a record, and the classifier goes on in a state. -/
inductive Classified (rules : Rules α) (index : Nat) (state : State) (text : List α) :
    Record α → State → Prop where
  | blank (empty : Text.trim text = []) :
      Classified rules index state text { index, text, category := .blank } state
  | body (visible : Text.trim text ≠ []) (inside : state.inBlock = true)
      (unclosed : Text.cut? rules.blockClose text = none) :
      Classified rules index state text { index, text, category := .blockBody } state
  | leave {inner after : List α} (visible : Text.trim text ≠ []) (inside : state.inBlock = true)
      (closed : Text.cut? rules.blockClose text = some (inner, after))
      (free : state.openCall = none) :
      Classified rules index state text { index, text, category := .blockClose, commentAt := 0 }
        { state with inBlock := false }
  | leaveInCall {inner after : List α} {call : OpenCall} (visible : Text.trim text ≠ [])
      (inside : state.inBlock = true)
      (closed : Text.cut? rules.blockClose text = some (inner, after))
      (running : state.openCall = some call) (next : State)
      (advanced : next = { state with inBlock := false }.withCall
        (OpenCall.advance call.start call.depth (rules.withoutComment after))) :
      Classified rules index state text
        { index, text, category := .blockClose, commentAt := 0, depth := next.parenDepth } next
  | annotated (visible : Text.trim text ≠ []) (outside : state.inBlock = false)
      (marked : rules.isAnnotationBlock (Text.trim text) = true) :
      Classified rules index state text { index, text, category := .annotated } state
  | aroundCall {front rest inner after : List α} {category : Category} {next : State}
      (opening : Opening rules state text front rest)
      (closed : Text.cut? rules.blockClose rest = some (inner, after))
      (fed : rules.feedCall index state (rules.around text front after) = (some category, next)) :
      Classified rules index state text { index, text, category, depth := next.parenDepth } next
  | aroundCode {front rest inner after : List α} (opening : Opening rules state text front rest)
      (closed : Text.cut? rules.blockClose rest = some (inner, after))
      (free : state.openCall = none)
      (unstarted : rules.startsCall (rules.around text front after) = false) :
      Classified rules index state text
        { index, text, category := .blockClose,
          commentAt := Text.byteLength (rules.withoutComment text) }
        { state with codeSeen := state.codeSeen || !Text.allBlank (rules.withoutComment text) }
  | enter {front rest : List α} {fed : Option Category} {next : State}
      (opening : Opening rules state text front rest)
      (unclosed : Text.cut? rules.blockClose rest = none)
      (read : rules.feedCall index state (rules.withoutComment text) = (fed, next)) :
      Classified rules index state text
        { index, text, category := .blockOpen,
          depth := if fed.isSome then next.parenDepth else 0 }
        { next with inBlock := true }
  | license (bare : Bare rules state text)
      (commented : rules.lineComment.isPrefixOf (Text.trim text) = true)
      (early : state.codeSeen = false) (licensed : rules.license.search (Text.trim text) = true) :
      Classified rules index state text { index, text, category := .license } state
  | comment (bare : Bare rules state text)
      (commented : rules.lineComment.isPrefixOf (Text.trim text) = true)
      (plain : state.codeSeen = true ∨ rules.license.search (Text.trim text) = false) :
      Classified rules index state text { index, text, category := .comment } state
  | call {category : Category} {next : State} (bare : Bare rules state text)
      (uncommented : rules.lineComment.isPrefixOf (Text.trim text) = false)
      (fed : rules.feedCall index state text = (some category, next)) :
      Classified rules index state text { index, text, category, depth := next.parenDepth } next
  | code (line : CodeLine rules state text) (clear : Text.cut? rules.lineComment text = none) :
      Classified rules index state text { index, text, category := .code }
        { state with codeSeen := true }
  | inline {code rest : List α} (line : CodeLine rules state text)
      (cut : Text.cut? rules.lineComment text = some (code, rest))
      (marked : rules.sigil.isPrefixOf (rules.lineComment ++ rest) = true) :
      Classified rules index state text { index, text, category := .inlineAnnotated }
        { state with codeSeen := true }
  | guarded {code rest : List α} (line : CodeLine rules state text)
      (cut : Text.cut? rules.lineComment text = some (code, rest))
      (unmarked : rules.sigil.isPrefixOf (rules.lineComment ++ rest) = false)
      (url : rules.url.search text = true) :
      Classified rules index state text { index, text, category := .code, urlGuarded := true }
        { state with codeSeen := true }
  | cut {code rest : List α} (line : CodeLine rules state text)
      (cut : Text.cut? rules.lineComment text = some (code, rest))
      (unmarked : rules.sigil.isPrefixOf (rules.lineComment ++ rest) = false)
      (plain : rules.url.search text = false) :
      Classified rules index state text
        { index, text, category := .code, commentAt := Text.byteLength code }
        { state with codeSeen := true }

variable {rules : Rules α} {index : Nat} {state : State} {text : List α}

theorem Classified.index_eq {next : State} {record : Record α}
    (step : Classified rules index state text record next) : record.index = index := by
  cases step <;> rfl

theorem Classified.text_eq {next : State} {record : Record α}
    (step : Classified rules index state text record next) : record.text = text := by
  cases step <;> rfl

theorem feedCall_running {call : OpenCall} (running : state.openCall = some call)
    (counted : List α) : rules.feedCall index state counted =
      (some .forbiddenContinuation,
        state.withCall (OpenCall.advance call.start call.depth counted)) := by
  obtain ⟨inside, start, depth⟩ := State.openCall_eq_some.mp running
  rw [feedCall, if_pos inside, State.advance_eq inside, start, depth]

theorem feedCall_starting (free : state.openCall = none) {counted : List α}
    (starts : rules.startsCall counted = true) : rules.feedCall index state counted =
      (some .forbidden, state.withCall (OpenCall.advance index 0 counted)) := by
  rw [feedCall, State.openCall_eq_none.mp free, if_neg Bool.false_ne_true, if_pos starts]
  simp only
  rw [State.advance_eq rfl]
  cases OpenCall.advance index 0 counted <;> rfl

theorem feedCall_idle (free : state.openCall = none) {counted : List α}
    (unstarted : rules.startsCall counted = false) :
    rules.feedCall index state counted = (none, state) := by
  rw [feedCall, State.openCall_eq_none.mp free, unstarted]
  rfl

/-- What becomes of a text that is offered to the forbidden call: it goes on with the call that is
open, it starts one, or it has nothing to do with a call. -/
inductive Fed (rules : Rules α) (index : Nat) (state : State) (counted : List α) :
    Option Category → State → Prop where
  | continued {call : OpenCall} (running : state.openCall = some call) :
      Fed rules index state counted (some .forbiddenContinuation)
        (state.withCall (OpenCall.advance call.start call.depth counted))
  | started (free : state.openCall = none) (starts : rules.startsCall counted = true) :
      Fed rules index state counted (some .forbidden)
        (state.withCall (OpenCall.advance index 0 counted))
  | idle (free : state.openCall = none) (unstarted : rules.startsCall counted = false) :
      Fed rules index state counted none state

theorem feedCall_iff {counted : List α} {fed : Option Category} {next : State} :
    rules.feedCall index state counted = (fed, next) ↔ Fed rules index state counted fed next := by
  constructor
  · intro read
    cases running : state.openCall with
    | some call =>
      rw [feedCall_running running] at read
      obtain ⟨rfl, rfl⟩ := Prod.mk.inj read
      exact .continued running
    | none =>
      cases starts : rules.startsCall counted with
      | true =>
        rw [feedCall_starting running starts] at read
        obtain ⟨rfl, rfl⟩ := Prod.mk.inj read
        exact .started running starts
      | false =>
        rw [feedCall_idle running starts] at read
        obtain ⟨rfl, rfl⟩ := Prod.mk.inj read
        exact .idle running starts
  · intro outcome
    cases outcome with
    | continued running => exact feedCall_running running counted
    | started free starts => exact feedCall_starting free starts
    | idle free unstarted => exact feedCall_idle free unstarted

theorem Fed.settled {counted : List α} {fed : Option Category} {next : State}
    (outcome : Fed rules index state counted fed next) (settled : state.Settled) :
    next.Settled := by
  cases outcome with
  | continued | started => exact State.settled_withCall _ _
  | idle => exact settled

theorem feedCall_none_iff {counted : List α} {next : State} :
    rules.feedCall index state counted = (none, next) ↔
      state.openCall = none ∧ rules.startsCall counted = false ∧ next = state := by
  rw [feedCall_iff]
  constructor
  · intro outcome
    cases outcome with
    | idle free unstarted => exact ⟨free, unstarted, rfl⟩
  · rintro ⟨free, unstarted, rfl⟩
    exact .idle free unstarted

theorem feedCall_settled {counted : List α} {fed : Option Category} {next : State}
    (read : rules.feedCall index state counted = (fed, next)) (settled : state.Settled) :
    next.Settled :=
  (feedCall_iff.mp read).settled settled

theorem Classified.settled {next : State} {record : Record α}
    (step : Classified rules index state text record next) (settled : state.Settled) :
    next.Settled := by
  cases step with
  | blank | body | leave | annotated | aroundCode | license | comment | code | inline | guarded
    | cut => exact settled
  | leaveInCall visible inside closed running next advanced =>
    exact advanced ▸ State.settled_withCall _ _
  | aroundCall opening closed fed => exact feedCall_settled fed settled
  | enter opening unclosed read =>
    have inner := feedCall_settled read settled
    exact inner
  | call bare uncommented fed => exact feedCall_settled fed settled

theorem isAnnotationBlock_iff : rules.isAnnotationBlock text = true ↔
    rules.sigil <+: text ∨ ∃ inner, text = rules.blockOpen ++ inner ∧
      rules.sigil <+: inner.dropWhile isGap := by
  rw [isAnnotationBlock, Bool.or_eq_true, List.isPrefixOf_iff_prefix]
  refine or_congr_right ?_
  cases opened : rules.blockOpen.isPrefixOf? text with
  | some inner =>
    have split := List.isPrefixOf?_eq_some_iff_append_eq.mp opened
    simp [← split, List.isPrefixOf_iff_prefix]
  | none =>
    simp only [Bool.false_eq_true, false_iff, not_exists, not_and]
    rintro inner rfl
    exact absurd (List.prefix_append _ _) (Text.not_initial_of_isPrefixOf? opened)

theorem isAnnotationBlock_extend {longer : List α} (initial : text <+: longer)
    (marked : rules.isAnnotationBlock text = true) : rules.isAnnotationBlock longer = true := by
  rw [isAnnotationBlock_iff] at marked ⊢
  rcases marked with sigil | ⟨inner, rfl, sigil⟩
  · exact Or.inl (sigil.trans initial)
  · obtain ⟨more, rfl⟩ := initial
    refine Or.inr ⟨inner ++ more, List.append_assoc _ _ _, ?_⟩
    exact sigil.trans (Text.dropWhile_mono (List.prefix_append inner more))

theorem classifyOpener_classified {front rest : List α}
    (opening : Opening rules state text front rest) :
    Classified rules index state text (rules.classifyOpener index state text front rest).1
      (rules.classifyOpener index state text front rest).2 := by
  unfold classifyOpener
  cases closed : Text.cut? rules.blockClose rest with
  | some halves =>
    cases fed : rules.feedCall index state (rules.around text front halves.2) with
    | mk category next =>
      unfold around at fed
      simp only [fed]
      cases category with
      | some category => exact .aroundCall opening closed fed
      | none =>
        obtain ⟨free, unstarted, rfl⟩ := feedCall_none_iff.mp fed
        exact .aroundCode opening closed free unstarted
  | none => exact .enter opening closed rfl

theorem classifyInBlock_free {inner after : List α}
    (closed : Text.cut? rules.blockClose text = some (inner, after))
    (free : state.openCall = none) :
    rules.classifyInBlock index state text =
      ({ index, text, category := .blockClose, commentAt := 0 },
        { state with inBlock := false }) := by
  simp only [classifyInBlock, closed]
  rw [if_neg (by simp [State.openCall_eq_none.mp free])]

theorem classifyInBlock_running {inner after : List α} {call : OpenCall}
    (closed : Text.cut? rules.blockClose text = some (inner, after))
    (running : state.openCall = some call) {next : State}
    (advanced : next = { state with inBlock := false }.withCall
      (OpenCall.advance call.start call.depth (rules.withoutComment after))) :
    rules.classifyInBlock index state text =
      ({ index, text, category := .blockClose, commentAt := 0, depth := next.parenDepth },
        next) := by
  have still : ({ state with inBlock := false } : State).openCall = some call := running
  have fed : rules.feedCall index _ _ = _ := feedCall_running still (rules.withoutComment after)
  simp only [classifyInBlock, closed]
  rw [if_pos (State.openCall_eq_some.mp running).1, fed, ← advanced]

theorem classifyInBlock_classified (visible : Text.trim text ≠ []) (inside : state.inBlock = true) :
    Classified rules index state text (rules.classifyInBlock index state text).1
      (rules.classifyInBlock index state text).2 := by
  cases closed : Text.cut? rules.blockClose text with
  | none =>
    rw [classifyInBlock, closed]
    exact .body visible inside closed
  | some halves =>
    cases running : state.openCall with
    | none =>
      rw [classifyInBlock_free closed running]
      exact .leave visible inside closed running
    | some call =>
      rw [classifyInBlock_running closed running rfl]
      exact .leaveInCall visible inside closed running _ rfl

variable [Text.LawfulAlphabet α]

theorem uncommented_of_clear (clear : ¬ rules.lineComment <:+: text) :
    rules.lineComment.isPrefixOf (Text.trim text) = false := by
  rw [Bool.eq_false_iff]
  intro commented
  have occurs := (List.isPrefixOf_iff_prefix.mp commented).isInfix
  exact clear (occurs.trans (Text.trim_inside text))

theorem isAnnotationBlock_unopened (unopened : Text.cut? rules.blockOpen text = none) :
    rules.isAnnotationBlock (Text.trim text) = rules.sigil.isPrefixOf (Text.trim text) := by
  unfold isAnnotationBlock
  split
  · rename_i inner found
    have occurs : rules.blockOpen <:+: Text.trim text :=
      ⟨[], inner, List.isPrefixOf?_eq_some_iff_append_eq.mp found⟩
    exact absurd (occurs.trans (Text.trim_inside text)) (Text.cut?_none.mp unopened)
  · rw [Bool.or_false]

theorem Bare.of_unsigned (visible : Text.trim text ≠ []) (outside : state.inBlock = false)
    (unopened : Text.cut? rules.blockOpen text = none) (unsigned : ¬ rules.sigil <+: Text.trim text) :
    Bare rules state text := by
  refine ⟨visible, outside, ?_, unopened⟩
  rw [isAnnotationBlock_unopened unopened, Bool.eq_false_iff]
  exact fun signed => unsigned (List.isPrefixOf_iff_prefix.mp signed)

theorem classifyLine_bare (bare : Bare rules state text) :
    rules.classifyLine index state text =
      if rules.lineComment.isPrefixOf (Text.trim text) then
        if !state.codeSeen && rules.license.search (Text.trim text) then
          ({ index, text, category := .license }, state)
        else ({ index, text, category := .comment }, state)
      else rules.classifyCode index state text := by
  have unsigned := (isAnnotationBlock_unopened bare.unopened).symm.trans bare.unmarked
  have visible : (Text.trim text).isEmpty = false := by simpa using bare.visible
  simp only [classifyLine, visible, bare.outside, bare.unopened, unsigned, Bool.false_eq_true,
    ↓reduceIte]

theorem classifyLine_code (line : CodeLine rules state text) :
    rules.classifyLine index state text =
      match Text.cut? rules.lineComment text with
      | none => ({ index, text, category := .code }, { state with codeSeen := true })
      | some (code, rest) =>
        if rules.sigil.isPrefixOf (rules.lineComment ++ rest) then
          ({ index, text, category := .inlineAnnotated }, { state with codeSeen := true })
        else if rules.url.search text then
          ({ index, text, category := .code, urlGuarded := true },
            { state with codeSeen := true })
        else
          ({ index, text, category := .code, commentAt := Text.byteLength code },
            { state with codeSeen := true }) := by
  have fed : rules.feedCall index state text = (none, state) :=
    feedCall_none_iff.mpr ⟨line.free, line.unstarted, rfl⟩
  rw [classifyLine_bare line.toBare, line.uncommented, classifyCode, fed]
  rfl

theorem classifyBare_classified (bare : Bare rules state text) :
    Classified rules index state text (rules.classifyLine index state text).1
      (rules.classifyLine index state text).2 := by
  cases commented : rules.lineComment.isPrefixOf (Text.trim text) with
  | true =>
    rw [classifyLine_bare bare, if_pos commented]
    split
    · rename_i licensed
      rw [Bool.and_eq_true, Bool.not_eq_true'] at licensed
      exact .license bare commented licensed.1 licensed.2
    · rename_i plain
      rw [Bool.not_eq_true, Bool.and_eq_false_iff, Bool.not_eq_false'] at plain
      exact .comment bare commented plain
  | false =>
    cases fed : rules.feedCall index state text with
    | mk category next =>
      cases category with
      | some category =>
        rw [classifyLine_bare bare, commented, classifyCode, fed]
        exact .call bare commented fed
      | none =>
        obtain ⟨free, unstarted, -⟩ := feedCall_none_iff.mp fed
        have line : CodeLine rules state text := ⟨bare, commented, free, unstarted⟩
        rw [classifyLine_code line]
        cases cut : Text.cut? rules.lineComment text with
        | none => exact .code line cut
        | some halves =>
          cases marked : rules.sigil.isPrefixOf (rules.lineComment ++ halves.2) with
          | true =>
            simp only [marked, ↓reduceIte]
            exact .inline line cut marked
          | false =>
            simp only [marked, Bool.false_eq_true, ↓reduceIte]
            cases url : rules.url.search text with
            | true => exact .guarded line cut marked url
            | false => exact .cut line cut marked url

/-- Every step of the classifier is one of the listed ways. -/
theorem classified (rules : Rules α) (index : Nat) (state : State) (text : List α) :
    Classified rules index state text (rules.classifyLine index state text).1
      (rules.classifyLine index state text).2 := by
  by_cases empty : Text.trim text = []
  · simp only [classifyLine, empty, List.isEmpty_nil, ↓reduceIte]
    exact .blank empty
  have visible : (Text.trim text).isEmpty = false := by simpa using empty
  cases inside : state.inBlock with
  | true =>
    simp only [classifyLine, visible, inside, Bool.false_eq_true, ↓reduceIte]
    exact classifyInBlock_classified empty inside
  | false =>
    cases opened : Text.cut? rules.blockOpen text with
    | some halves =>
      cases marked : rules.isAnnotationBlock (Text.trim text) with
      | true =>
        simp only [classifyLine, visible, inside, opened, marked, Bool.false_eq_true, ↓reduceIte]
        exact .annotated empty inside marked
      | false =>
        simp only [classifyLine, visible, inside, opened, marked, Bool.false_eq_true, ↓reduceIte]
        exact classifyOpener_classified ⟨empty, inside, marked, opened⟩
    | none =>
      have sigil := isAnnotationBlock_unopened opened
      cases marked : rules.sigil.isPrefixOf (Text.trim text) with
      | true =>
        simp only [classifyLine, visible, inside, opened, marked, Bool.false_eq_true, ↓reduceIte]
        exact .annotated empty inside (sigil.trans marked)
      | false => exact classifyBare_classified ⟨empty, inside, sigil.trans marked, opened⟩

theorem classifyLine_eq {record : Record α} {next : State}
    (step : Classified rules index state text record next) :
    rules.classifyLine index state text = (record, next) := by
  cases step with
  | blank empty => simp [classifyLine, empty]
  | body visible inside unclosed => simp [classifyLine, visible, inside, classifyInBlock, unclosed]
  | leave visible inside closed free =>
    simp [classifyLine, visible, inside, classifyInBlock_free closed free]
  | leaveInCall visible inside closed running next advanced =>
    simp [classifyLine, visible, inside, classifyInBlock_running closed running advanced]
  | annotated visible outside marked =>
    cases opened : Text.cut? rules.blockOpen text with
    | some halves => simp [classifyLine, visible, outside, opened, marked]
    | none =>
      rw [isAnnotationBlock_unopened opened] at marked
      simp [classifyLine, visible, outside, opened, marked]
  | aroundCall opening closed fed =>
    unfold around at fed
    simp [classifyLine, opening.visible, opening.outside, opening.opened, opening.unmarked,
      classifyOpener, closed, fed]
  | aroundCode opening closed free unstarted =>
    have fed : rules.feedCall index state _ = (none, state) :=
      feedCall_none_iff.mpr ⟨free, unstarted, rfl⟩
    unfold around at fed
    simp [classifyLine, opening.visible, opening.outside, opening.opened, opening.unmarked,
      classifyOpener, closed, fed]
  | enter opening unclosed read =>
    simp [classifyLine, opening.visible, opening.outside, opening.opened, opening.unmarked,
      classifyOpener, unclosed, read]
  | license bare commented early licensed =>
    rw [classifyLine_bare bare, if_pos commented]
    simp [early, licensed]
  | comment bare commented plain =>
    rw [classifyLine_bare bare, if_pos commented]
    rcases plain with late | plain
    · simp [late]
    · simp [plain]
  | call bare uncommented fed =>
    rw [classifyLine_bare bare, uncommented]
    simp [classifyCode, fed]
  | code line clear =>
    rw [classifyLine_code line]
    simp [clear]
  | inline line cut marked =>
    rw [classifyLine_code line]
    simp [cut, marked]
  | guarded line cut unmarked url =>
    rw [classifyLine_code line]
    simp [cut, unmarked, url]
  | cut line cut unmarked plain =>
    rw [classifyLine_code line]
    simp [cut, unmarked, plain]

theorem Classified.unique {one two : Record α} {left right : State}
    (first : Classified rules index state text one left)
    (second : Classified rules index state text two right) : one = two ∧ left = right := by
  have same := (classifyLine_eq first).symm.trans (classifyLine_eq second)
  exact Prod.mk.inj same

end Rules

end LineSieve
