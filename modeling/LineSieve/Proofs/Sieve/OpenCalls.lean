import LineSieve.Proofs.Acceptance
import LineSieve.Proofs.Sieve.Kept
import Mathlib.Data.List.Induction

/- Forbidden calls go as a whole: from the line that opens one to the line that closes it, or to the
   end of the file, no line leaves code behind. -/
namespace LineSieve

set_option linter.unusedSectionVars false

variable {α : Type} [DecidableEq α] [Text.Alphabet α] [Text.LawfulAlphabet α]

theorem State.inForbidden_iff {state : State} :
    state.inForbidden = true ↔ ∃ start, state.unclosed? = some start := by
  simp [State.unclosed?]

namespace Rules

/-- A line opens a forbidden call: none is open before it, and what counts of the line has the shape
of one. On a line with a block comment only the code around the comment counts. -/
inductive Opens (rules : Rules α) (state : State) (text : List α) : Prop where
  | whole (free : state.openCall = none) (bare : Bare rules state text)
      (uncommented : rules.lineComment.isPrefixOf (Text.trim text) = false)
      (starts : rules.startsCall text = true)
  | around {front rest inner after : List α} (free : state.openCall = none)
      (opening : Opening rules state text front rest)
      (closed : Text.cut? rules.blockClose rest = some (inner, after))
      (starts : rules.startsCall (rules.around text front after) = true)
  | front {front rest : List α} (free : state.openCall = none)
      (opening : Opening rules state text front rest)
      (unclosed : Text.cut? rules.blockClose rest = none)
      (starts : rules.startsCall (rules.withoutComment text) = true)

/-- A line of a forbidden call: one is open before it, or the line opens one. -/
def InCall (rules : Rules α) (state : State) (text : List α) : Prop :=
  state.inForbidden = true ∨ rules.Opens state text

theorem InCall.opens {rules : Rules α} {state : State} {text : List α}
    (within : InCall rules state text) (free : state.openCall = none) : Opens rules state text := by
  rcases within with running | opens
  · rw [State.openCall_eq_none.mp free] at running
    cases running
  · exact opens

theorem CodeLine.outside_calls {rules : Rules α} {state : State} {text : List α}
    (line : CodeLine rules state text) : ¬ InCall rules state text := by
  intro within
  cases within.opens line.free with
  | whole free bare uncommented starts =>
    rw [line.unstarted] at starts
    cases starts
  | around free opening closed starts => cases line.unopened.symm.trans opening.opened
  | front free opening unclosed starts => cases line.unopened.symm.trans opening.opened

theorem Opening.outside_calls {rules : Rules α} {state : State}
    {text front rest inner after : List α} (opening : Opening rules state text front rest)
    (closed : Text.cut? rules.blockClose rest = some (inner, after)) (free : state.openCall = none)
    (unstarted : rules.startsCall (rules.around text front after) = false) :
    ¬ InCall rules state text := by
  intro within
  cases within.opens free with
  | whole free bare uncommented starts => cases bare.unopened.symm.trans opening.opened
  | around free other again starts =>
    obtain ⟨rfl, rfl⟩ := Prod.mk.inj (Option.some.inj (opening.opened.symm.trans other.opened))
    obtain ⟨rfl, rfl⟩ := Prod.mk.inj (Option.some.inj (closed.symm.trans again))
    rw [unstarted] at starts
    cases starts
  | front free other unclosed starts =>
    obtain ⟨rfl, rfl⟩ := Prod.mk.inj (Option.some.inj (opening.opened.symm.trans other.opened))
    cases unclosed.symm.trans closed

end Rules

/-- A record without code: nothing of its line comes out but, as it is, an annotation or a licence
header. -/
structure Record.Codeless (record : Record α) : Prop where
  not_code : record.category ≠ .code
  not_inline : record.category ≠ .inlineAnnotated
  no_remainder : record.category = .blockClose → record.codeText = []

theorem Record.Codeless.output {record : Record α} (codeless : record.Codeless) :
    record.output?.toList =
      if record.category = .annotated ∨ record.category = .license then [record.text] else [] := by
  have no_code := codeless.not_code
  have no_inline := codeless.not_inline
  have no_remainder := codeless.no_remainder
  unfold Record.output? Record.decide
  cases kind : record.category <;> simp_all

namespace Rules

theorem codeless_call {record : Record α}
    (forbidden : record.category = .forbidden ∨ record.category = .forbiddenContinuation) :
    record.Codeless := by
  constructor <;> rcases forbidden with same | same <;> simp [same]

theorem Classified.codeless {rules : Rules α} {index : Nat} {state next : State} {text : List α}
    {record : Record α} (step : Classified rules index state text record next)
    (within : InCall rules state text) : record.Codeless := by
  cases step with
  | blank | body | annotated | enter | license | comment =>
    exact ⟨nofun, nofun, nofun⟩
  | leave | leaveInCall => exact ⟨nofun, nofun, fun _ => codeText_at_start rfl⟩
  | aroundCall opening closed fed => exact codeless_call (feedCall_category fed)
  | aroundCode opening closed free unstarted =>
    exact absurd within (opening.outside_calls closed free unstarted)
  | call bare uncommented fed => exact codeless_call (feedCall_category fed)
  | code line | inline line | guarded line | cut line => exact absurd within line.outside_calls

theorem advance_start {start depth line : Nat} {counted : List α}
    (reported : (OpenCall.advance start depth counted).map OpenCall.start = some line) :
    line = start := by
  unfold OpenCall.advance at reported
  dsimp only at reported
  split at reported
  · cases reported
  · exact (Option.some.inj reported).symm

theorem feedCall_unclosed {rules : Rules α} {index start : Nat} {state next : State}
    {counted : List α} {fed : Option Category}
    (read : rules.feedCall index state counted = (fed, next))
    (unclosed : next.unclosed? = some start) :
    state.unclosed? = some start ∨
      state.openCall = none ∧ rules.startsCall counted = true ∧ start = index := by
  cases feedCall_iff.mp read with
  | continued running =>
    rw [State.unclosed?_withCall] at unclosed
    rw [State.unclosed?_eq, running, Option.map_some, advance_start unclosed]
    exact .inl rfl
  | started free starts =>
    rw [State.unclosed?_withCall] at unclosed
    exact .inr ⟨free, starts, advance_start unclosed⟩
  | idle free unstarted => exact .inl unclosed

theorem Classified.unclosed {rules : Rules α} {index start : Nat} {state next : State}
    {text : List α} {record : Record α} (step : Classified rules index state text record next)
    (unclosed : next.unclosed? = some start) :
    state.unclosed? = some start ∨ Opens rules state text ∧ start = index := by
  cases step with
  | blank | body | leave | annotated | aroundCode | license | comment | code | inline | guarded
    | cut => exact Or.inl unclosed
  | leaveInCall visible inside closed running next advanced =>
    rw [advanced, State.unclosed?_withCall] at unclosed
    rw [State.unclosed?_eq, running, Option.map_some, advance_start unclosed]
    exact Or.inl rfl
  | aroundCall opening closed fed =>
    rcases feedCall_unclosed fed unclosed with before | ⟨free, starts, same⟩
    · exact Or.inl before
    · exact Or.inr ⟨.around free opening closed starts, same⟩
  | enter opening unclosed_block read =>
    rcases feedCall_unclosed read unclosed with before | ⟨free, starts, same⟩
    · exact Or.inl before
    · exact Or.inr ⟨.front free opening unclosed_block starts, same⟩
  | call bare uncommented fed =>
    rcases feedCall_unclosed fed unclosed with before | ⟨free, starts, same⟩
    · exact Or.inl before
    · exact Or.inr ⟨.whole free bare uncommented starts, same⟩

end Rules

/-- The line `line` between `before` and `after` leaves no code behind: its record stands at its
place, has no code, and the line comes out as it is or not at all. -/
def Withheld (rules : Rules α) (before : List (List α)) (line : List α)
    (after : List (List α)) : Prop :=
  ∃ (record : Record α) (rest : List (Record α)),
    rules.classify (before ++ line :: after) = rules.classify before ++ record :: rest ∧
    record.index = before.length + 1 ∧ record.text = line ∧ record.Codeless ∧
    (sieve (rules.classify (before ++ line :: after))).lines =
      keptLines (rules.classify before) ++
        ((if record.category = .annotated ∨ record.category = .license then [line] else []) ++
          keptLines rest)

theorem withheld_of_inCall {rules : Rules α} {before : List (List α)} {line : List α}
    (after : List (List α))
    (within : rules.InCall (Classifier.run { rules } before).2.state line) :
    Withheld rules before line after := by
  have step := rules.classify_step before line
  have listed := rules.classify_split before line after
  have codeless := step.codeless within
  refine ⟨_, _, listed, step.index_eq, step.text_eq, codeless, ?_⟩
  rw [sieve_lines, listed, keptLines_append, keptLines_cons, codeless.output, step.text_eq]

/-- Run: a call that is open at the end was opened by the line it names, and it has been open ever
since. -/
theorem run_unclosed {rules : Rules α} {lines : List (List α)} {start : Nat}
    (unclosed : (Classifier.run { rules } lines).2.state.unclosed? = some start) :
    ∃ before line after, lines = before ++ line :: after ∧ start = before.length + 1 ∧
      rules.Opens (Classifier.run { rules } before).2.state line ∧
      ∀ middle, middle <+: after →
        (Classifier.run { rules } (before ++ line :: middle)).2.state.unclosed? = some start := by
  -- From the last line: either the call was open before it, or the last line opens it.
  induction lines using List.reverseRecOn with
  | nil => cases unclosed
  | append_singleton lines last ih =>
    have whole := unclosed
    rw [Classifier.run_append] at unclosed
    have step := rules.classify_step lines last
    rcases step.unclosed unclosed with earlier | ⟨opens, same⟩
    · obtain ⟨before, line, after, rfl, same, opens, held⟩ := ih earlier
      refine ⟨before, line, after ++ [last], by simp, same, opens, fun middle initial => ?_⟩
      rcases List.prefix_concat_iff.mp initial with rfl | shorter
      · simpa using whole
      · exact held middle shorter
    · refine ⟨lines, last, [], rfl, same, opens, fun middle initial => ?_⟩
      rw [List.prefix_nil.mp initial]
      exact whole

/-- Forbidden calls go as a whole. Every line of one leaves no code behind; a call that is never
closed is reported by the line that opens it, and no line from there on leaves code behind. -/
theorem open_calls_withheld (rules : Rules α) (lines : List (List α)) :
    (∀ before line after, lines = before ++ line :: after →
      rules.InCall (Classifier.run { rules } before).2.state line →
        Withheld rules before line after) ∧
    ((Classifier.run { rules } lines).2.state.inForbidden = true →
      ∃ before line after, lines = before ++ line :: after ∧
        (Classifier.run { rules } lines).2.state.unclosed? = some (before.length + 1) ∧
        rules.Opens (Classifier.run { rules } before).2.state line ∧
        ∀ middle text rest, line :: after = middle ++ text :: rest →
          Withheld rules (before ++ middle) text rest) := by
  constructor
  · intro before line after split within
    exact withheld_of_inCall after within
  · intro running
    obtain ⟨start, unclosed⟩ := State.inForbidden_iff.mp running
    obtain ⟨before, line, after, split, rfl, opens, held⟩ := run_unclosed unclosed
    refine ⟨before, line, after, split, unclosed, opens, fun middle text rest parts => ?_⟩
    apply withheld_of_inCall
    cases middle with
    | nil =>
      obtain ⟨rfl, -⟩ := List.cons.inj parts
      rw [List.append_nil]
      exact Or.inr opens
    | cons first middle =>
      obtain ⟨rfl, later⟩ := List.cons.inj parts
      have open_here := held middle ⟨text :: rest, later.symm⟩
      exact Or.inl (State.inForbidden_iff.mpr ⟨_, open_here⟩)

theorem open_calls_withheld_lua :
    let before := ["x", "print(1, --[["].map String.toList
    let line := "]] f(2)".toList
    let after := ["---@y", "z"].map String.toList
    let lines := before ++ line :: after
    Rules.lua.InCall (Classifier.run { rules := .lua } before).2.state line ∧
      Withheld .lua before line after ∧
      (Classifier.run { rules := .lua } lines).2.state.inForbidden = true ∧
      ∃ start opener later, lines = start ++ opener :: later ∧
        (Classifier.run { rules := .lua } lines).2.state.unclosed? = some (start.length + 1) ∧
        Rules.lua.Opens (Classifier.run { rules := .lua } start).2.state opener ∧
        ∀ middle text rest, opener :: later = middle ++ text :: rest →
          Withheld .lua (start ++ middle) text rest := by
  intro before line after lines
  have within : Rules.lua.InCall (Classifier.run { rules := .lua } before).2.state line :=
    Or.inl (by decide +kernel)
  have running : (Classifier.run { rules := .lua } lines).2.state.inForbidden = true := by
    decide +kernel
  have removed := open_calls_withheld .lua lines
  exact ⟨within, removed.1 before line after rfl within, running, removed.2 running⟩

end LineSieve
