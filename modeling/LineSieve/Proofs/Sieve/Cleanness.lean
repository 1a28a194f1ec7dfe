import LineSieve.Proofs.Classifier.CommentText
import LineSieve.Proofs.Sieve.Idempotence

/- What sieved files are free of. Code that comes out has lost its comment and its trailing blanks,
   and it starts no forbidden call: the call was looked for in a text that the output is a beginning
   of, and a beginning with the shape of a call gives that shape to the whole. -/
namespace LineSieve

variable {μ α : Type} [Spelling μ α] [DecidableEq α] [Text.Alphabet α]

/-- What holds of the line that comes out of a record. -/
structure Clean (rules : Rules α) (record : Record α) (line : List α) : Prop where
  visible : Text.allBlank line = false
  uncommented : record.category = .code ∧ record.urlGuarded = false ∨
      record.category = .blockClose →
    ¬ rules.lineComment <:+: line ∧ ¬ rules.blockOpen <:+: line ∧
      ∀ c, (Text.chars line).getLast? = some c → Text.isBlank c = false
  callless : record.category = .code ∨ record.category = .inlineAnnotated ∨
      record.category = .blockClose → rules.startsCall line = false

variable [Text.LawfulAlphabet α]

namespace Rules

theorem Classified.clean {spec : RuleSpec μ} {rules : Rules α} (accepted : spec.Accepted rules)
    {index : Nat} {state next : State} {text line : List α} {record : Record α}
    (step : Classified rules index state text record next) (output : record.output? = some line) :
    Clean rules record line := by
  have kept := step.kept output
  have visible := kept.visible
  -- How a whole line was kept says which record it has; cut code is clean whatever its record.
  cases kept with
  | annotated shown marked =>
    have outside : state.inBlock = false := by
      rw [Bool.eq_false_iff]
      intro inside
      rw [step.silent_inside inside] at output
      cases output
    obtain ⟨rfl, -⟩ := step.unique (.annotated shown outside marked)
    exact ⟨visible, nofun, nofun⟩
  | license bare commented early licensed =>
    obtain ⟨rfl, -⟩ := step.unique (.license bare commented early licensed)
    exact ⟨visible, nofun, nofun⟩
  | inline code cut marked =>
    obtain ⟨rfl, -⟩ := step.unique (.inline code cut marked)
    exact ⟨visible, nofun, fun _ => code.unstarted⟩
  | guarded code cut unmarked url =>
    obtain ⟨rfl, -⟩ := step.unique (.guarded code cut unmarked url)
    exact ⟨visible, nofun, fun _ => code.unstarted⟩
  | code unmarked shown lead unstarted =>
    have clear := trimmed_clear accepted text
    have unopened := Text.cut?_none.mp (accepted.unopened_of_clear clear)
    exact ⟨visible, fun _ => ⟨clear, unopened, fun c => Text.trimRight_last⟩,
      fun _ => trimmed_unstarted accepted lead unstarted⟩

end Rules

theorem classify_clean {spec : RuleSpec μ} {rules : Rules α} (accepted : spec.Accepted rules)
    {lines : List (List α)} {record : Record α} (listed : record ∈ rules.classify lines)
    {line : List α} (output : record.output? = some line) : Clean rules record line := by
  obtain ⟨index, state, next, text, -, step⟩ := Classifier.run_classified listed
  exact step.clean accepted output

theorem Pattern.CallShape.parenthesis {names : List (List Char)} {text : List Char}
    (shape : CallShape names text) : '(' ∈ text := by
  obtain ⟨lead, word, gap, rest, name, rfl, -⟩ := shape
  simp

namespace Rules.Lua

theorem callless_of_commented {line : List Char}
    (commented : Rules.lua.lineComment.isPrefixOf (Text.trim line) = true) :
    Rules.lua.startsCall line = false := by
  cases cut : Text.cut? Rules.lua.lineComment line with
  | none =>
    have clear := uncommented_of_clear (Text.cut?_none.mp cut)
    rw [commented] at clear
    cases clear
  | some halves =>
    -- Nothing but blanks stands before the marker, and so no parenthesis.
    have blank := (commented_iff cut).mp commented
    rw [startsCall_cut cut, Bool.eq_false_iff]
    intro starts
    have shape := (accepted.starts _).mp starts
    have impossible := List.all_eq_true.mp blank '(' shape.parenthesis
    exact absurd impossible (by decide)

theorem commented_of_annotated {text : List Char} (marked : Rules.lua.isAnnotationBlock text = true) :
    Rules.lua.lineComment.isPrefixOf text = true := by
  unfold isAnnotationBlock at marked
  rw [Bool.or_eq_true] at marked
  rcases marked with sigil | inner
  · exact sigil_comments sigil
  · split at inner
    · rename_i rest found
      have opener : Rules.lua.blockOpen <+: text :=
        ⟨rest, List.isPrefixOf?_eq_some_iff_append_eq.mp found⟩
      exact List.isPrefixOf_iff_prefix.mpr (accepted.opener.trans opener)
    · cases inner

theorem kept_callless {state next : State} {text line : List Char}
    (kept : Kept .lua state text line next) : Rules.lua.startsCall line = false := by
  cases kept with
  | annotated visible marked => exact callless_of_commented (commented_of_annotated marked)
  | license bare commented early licensed => exact callless_of_commented commented
  | inline code | guarded code => exact code.unstarted
  | code unmarked visible lead unstarted =>
    exact trimmed_unstarted accepted lead unstarted

end Rules.Lua

/-- Sieved files are clean. Under all rules that compile, whether their markers are text or other
bytes, the output is what comes out of the records one after another, and each line of it is clean
for its record; under the default rules of Lua no line of the output starts a forbidden call. -/
theorem sieved_clean :
    (∀ (μ α : Type) [Spelling μ α] [DecidableEq α] [Text.Alphabet α] [Text.LawfulAlphabet α]
      (spec : RuleSpec μ) (rules : Rules α), spec.compile = .ok rules → ∀ lines : List (List α),
      (sieve (rules.classify lines)).lines = (rules.classify lines).filterMap Record.output? ∧
      ∀ record ∈ rules.classify lines, ∀ line, record.output? = some line →
        Clean rules record line) ∧
    ∀ lines : List (List Char), ∀ line ∈ (sieve (Rules.lua.classify lines)).lines,
      Rules.lua.startsCall line = false := by
  constructor
  · intro μ α _ _ _ _ spec rules compiled lines
    refine ⟨sieve_lines rules lines, fun record listed line output => ?_⟩
    exact classify_clean (RuleSpec.accepted_of_compile compiled) listed output
  · intro lines line listed
    rw [sieve_lines] at listed
    obtain ⟨record, member, output⟩ := List.mem_filterMap.mp listed
    obtain ⟨index, state, next, text, -, step⟩ := Classifier.run_classified member
    exact Rules.Lua.kept_callless (step.kept output)

theorem sieved_clean_lua :
    let lines := ["x = 1 --[[ y ]] print(", "print(", ") -- z", "a --b"].map String.toList
    let record : Record := ⟨1, "x = 1 --[[ y ]] print(".toList, .blockClose, 6, false, 0⟩
    let line := "x = 1".toList
    (RuleSpec.ofDialect .lua).compile = .ok Rules.lua ∧ record ∈ Rules.lua.classify lines ∧
      record.output? = some line ∧ Clean .lua record line ∧
      "a".toList ∈ (sieve (Rules.lua.classify lines)).lines ∧
      Rules.lua.startsCall "a".toList = false := by
  intro lines record line
  have listed : record ∈ Rules.lua.classify lines := by decide +kernel
  have output : record.output? = some line := by decide +kernel
  have kept : "a".toList ∈ (sieve (Rules.lua.classify lines)).lines := by decide +kernel
  have clean := sieved_clean.1 _ _ _ _ RuleSpec.compile_lua lines
  exact ⟨RuleSpec.compile_lua, listed, output, clean.2 record listed line output, kept,
    sieved_clean.2 lines _ kept⟩

end LineSieve
