import LineSieve.Proofs.Acceptance
import LineSieve.Proofs.Sieve.Kept
import LineSieve.Proofs.Text.Glyphs

/- Annotations come through. A line that bears the sigil and is read outside of block comments comes
   out as it is, whatever else it holds and whatever call is open around it; inside a block comment
   nothing comes out. What comes out of any other line is a beginning of it. A beginning bears the
   sigil only if the whole line does, unless the line was cut inside of a character. -/
namespace LineSieve

variable {μ α : Type} [Spelling μ α] [DecidableEq α] [Text.Alphabet α]

def Rules.bearsSigil (rules : Rules α) (line : List α) : Bool :=
  rules.sigil.isPrefixOf (Text.trim line)

/-- The line-comment marker is text, or the sigil is and does not end in a blank. -/
def Rules.Textual (rules : Rules α) : Prop :=
  (∃ marker : List Char, rules.lineComment = Text.ofChars marker) ∨
    ∃ sigil : List Char, rules.sigil = Text.ofChars sigil ∧ Text.trimRight sigil = sigil

theorem Rules.textual (rules : Rules) : rules.Textual := Or.inl ⟨_, rfl⟩

namespace Rules

theorem bearsSigil_iff {rules : Rules α} {line : List α} :
    rules.bearsSigil line = true ↔ rules.sigil <+: Text.trim line :=
  List.isPrefixOf_iff_prefix

theorem annotated_of_bearsSigil {spec : RuleSpec μ} {rules : Rules α}
    (accepted : spec.Accepted rules) (index : Nat) {state : State} {text : List α}
    (marked : rules.bearsSigil text = true) (outside : state.inBlock = false) :
    Classified rules index state text { index, text, category := .annotated } state := by
  have sigil := bearsSigil_iff.mp marked
  have visible : Text.trim text ≠ [] := by
    intro empty
    rw [empty, List.prefix_nil] at sigil
    exact accepted.sigil_proper sigil
  have block : rules.isAnnotationBlock (Text.trim text) = true := by
    unfold Rules.bearsSigil at marked
    rw [isAnnotationBlock, marked, Bool.true_or]
  exact .annotated visible outside block

variable [Text.LawfulAlphabet α]

theorem trim_cut {spec : RuleSpec μ} {rules : Rules α} (accepted : spec.Accepted rules)
    {marker : List Char} (spelled : rules.lineComment = Text.ofChars marker) (text : List α) :
    Text.trim (Text.trimRight (rules.withoutComment text)) <+: Text.trim text := by
  refine (Text.trim_trimRight _).trans ?_
  cases cut : Text.cut? rules.lineComment text with
  | none => simp only [withoutComment_uncut cut, List.prefix_rfl]
  | some halves =>
    have proper := spelled ▸ accepted.marker_proper
    have front := Text.trim_before proper halves.1 halves.2
    rwa [← spelled, ← Text.cut?_split cut, ← withoutComment_cut cut] at front

theorem Textual.bearsSigil {spec : RuleSpec μ} {rules : Rules α} (accepted : spec.Accepted rules)
    (textual : rules.Textual) {text : List α}
    (marked : rules.bearsSigil (Text.trimRight (rules.withoutComment text)) = true) :
    rules.bearsSigil text = true := by
  rw [bearsSigil_iff] at marked ⊢
  rcases textual with ⟨marker, spelled⟩ | ⟨sigil, spelled, ends⟩
  · exact marked.trans (trim_cut accepted spelled text)
  · have initial := (Text.trimRight_initial _).trans (rules.withoutComment_initial text)
    rw [spelled] at marked ⊢
    exact Text.trim_extend ends initial marked

theorem Kept.bearsSigil {spec : RuleSpec μ} {rules : Rules α} (accepted : spec.Accepted rules)
    (textual : rules.Textual) {state next : State} {text line : List α}
    (kept : Kept rules state text line next) (marked : rules.bearsSigil line = true) :
    rules.bearsSigil text = true := by
  cases kept with
  | annotated | license | inline | guarded => exact marked
  | code => exact textual.bearsSigil accepted marked

theorem Classified.sigil_output {spec : RuleSpec μ} {rules : Rules α}
    (accepted : spec.Accepted rules) {index : Nat} {state next : State} {text : List α}
    {record : Record α} (step : Classified rules index state text record next)
    (marked : rules.bearsSigil text = true) (outside : state.inBlock = false) :
    record.output? = some text := by
  obtain ⟨rfl, -⟩ := step.unique (annotated_of_bearsSigil accepted index marked outside)
  rfl

/-- Step: nothing with the sigil comes out of any other line. -/
theorem Classified.output_sigil {spec : RuleSpec μ} {rules : Rules α}
    (accepted : spec.Accepted rules) (textual : rules.Textual) {index : Nat} {state next : State}
    {text : List α} {record : Record α} (step : Classified rules index state text record next) :
    record.output?.toList.filter rules.bearsSigil =
      if !state.inBlock && rules.bearsSigil text then [text] else [] := by
  cases marked : rules.bearsSigil text with
  | false =>
    rw [Bool.and_false, if_neg Bool.false_ne_true, List.filter_eq_nil_iff]
    intro line listed bears
    have output : record.output? = some line := Option.mem_toList.mp listed
    cases marked.symm.trans ((step.kept output).bearsSigil accepted textual bears)
  | true =>
    cases inside : state.inBlock with
    | true =>
      rw [step.silent_inside inside]
      rfl
    | false =>
      rw [step.sigil_output accepted marked inside]
      simp [marked]

end Rules

/-- The lines of a run that start with the sigil and are read outside of block comments. -/
def Classifier.annotations (classifier : Classifier α) (lines : List (List α)) : List (List α) :=
  ((classifier.visits lines).filter fun visit =>
    !visit.1.inBlock && classifier.rules.bearsSigil visit.2).map Prod.snd

theorem Classifier.annotations_cons (classifier : Classifier α) (line : List α)
    (lines : List (List α)) :
    classifier.annotations (line :: lines) =
      (if !classifier.state.inBlock && classifier.rules.bearsSigil line then [line] else []) ++
        (classifier.next line).2.annotations lines := by
  rw [annotations, visits, List.filter_cons, annotations, next_rules]
  split <;> rfl

variable [Text.LawfulAlphabet α]

/-- Run: from any state, the lines with the sigil that come out are those read outside of block
comments. -/
theorem run_sigil {spec : RuleSpec μ} (classifier : Classifier α)
    (accepted : spec.Accepted classifier.rules) (textual : classifier.rules.Textual)
    (lines : List (List α)) :
    (keptLines (classifier.run lines).1).filter classifier.rules.bearsSigil =
      classifier.annotations lines := by
  induction lines generalizing classifier with
  | nil => rfl
  | cons line lines ih =>
    have step := classifier.next_classified line
    have rest := ih (classifier.next line).2 accepted textual
    rw [Classifier.next_rules] at rest
    rw [Classifier.run_cons, keptLines_cons, List.filter_append, step.output_sigil accepted textual,
      rest, Classifier.annotations_cons]

theorem run_sigil_sublist {spec : RuleSpec μ} (classifier : Classifier α)
    (accepted : spec.Accepted classifier.rules) (lines : List (List α)) :
    (classifier.annotations lines).Sublist
      ((keptLines (classifier.run lines).1).filter classifier.rules.bearsSigil) := by
  induction lines generalizing classifier with
  | nil => exact List.Sublist.slnil
  | cons line lines ih =>
    have step := classifier.next_classified line
    have rest := ih (classifier.next line).2 accepted
    rw [Classifier.next_rules] at rest
    rw [Classifier.run_cons, keptLines_cons, List.filter_append, Classifier.annotations_cons]
    refine List.Sublist.append ?_ rest
    split
    · rename_i marked
      obtain ⟨outside, marked⟩ := Bool.and_eq_true_iff.mp marked
      rw [step.sigil_output accepted marked ((Bool.not_eq_true' _).mp outside)]
      simp [marked]
    · exact List.nil_sublist _

/-- Annotations are preserved under all rules that compile: the input lines that start with the sigil
and are read outside of block comments come out in their order. No other line of the output starts
with the sigil, if the line-comment marker is text, as it always is of rules over characters, or the
sigil is text that does not end in a blank. -/
theorem annotations_preserved (spec : RuleSpec μ) (rules : Rules α)
    (compiled : spec.compile = .ok rules) (lines : List (List α)) :
    let found := (sieve (rules.classify lines)).lines.filter rules.bearsSigil
    (Classifier.annotations { rules } lines).Sublist found ∧
      (rules.Textual → found = Classifier.annotations { rules } lines) := by
  intro found
  have accepted := RuleSpec.accepted_of_compile compiled
  simp only [found, sieve_lines]
  exact ⟨run_sigil_sublist { rules } accepted lines,
    fun textual => run_sigil { rules } accepted textual lines⟩

/-- One annotation stands in an open call and one holds a block opener; the third is in a block
comment and goes. -/
theorem annotations_preserved_lua :
    let lines := ["print(", " ---@a )", "---@b --[[", ")", "x --[[", "---@c", "]]"].map String.toList
    let found := (sieve (Rules.lua.classify lines)).lines.filter Rules.lua.bearsSigil
    (RuleSpec.ofDialect .lua).compile = .ok Rules.lua ∧ Rules.lua.Textual ∧
      found = [" ---@a )", "---@b --[["].map String.toList ∧
      (Classifier.annotations { rules := .lua } lines).Sublist found ∧
      found = Classifier.annotations { rules := .lua } lines := by
  intro lines found
  obtain ⟨among, same⟩ := annotations_preserved _ _ RuleSpec.compile_lua lines
  exact ⟨RuleSpec.compile_lua, Rules.lua.textual, by decide +kernel, among,
    same Rules.lua.textual⟩

/-- Of a line that starts with an em space, the first byte of the space comes out, and it is the
sigil. -/
theorem annotations_appear :
    ¬ ∀ (spec : RuleSpec (List UInt8)) (rules : Rules UInt8), spec.compile = .ok rules →
      ∀ text : List (List Char), let lines := text.map Text.utf8
        (sieve (rules.classify lines)).lines.filter rules.bearsSigil =
          Classifier.annotations { rules } lines := by
  intro preserved
  have same := preserved _ _ RuleSpec.compile_stray [" \u2003x".toList]
  exact absurd same (by decide +kernel)

end LineSieve
