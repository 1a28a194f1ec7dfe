import LineSieve.Classifier
import LineSieve.Proofs.Pattern.CallPattern
import LineSieve.Proofs.Text.Blanks
import LineSieve.Proofs.Text.Pieces

/- What compiling a specification checks, as facts about the rules that come out of it. Everything
   proved about accepted rules rests on these facts and not on how the compiler is written. -/
namespace LineSieve

open Pattern

variable {μ α : Type} [Spelling μ α]

/-- The markers are those of the specification and not empty, the block opener starts with the
line-comment marker, and a line starts a forbidden call exactly if it has the shape of one. -/
structure RuleSpec.Accepted [DecidableEq α] [Text.Alphabet α] (spec : RuleSpec μ)
    (rules : Rules α) : Prop where
  lineComment : rules.lineComment = Spelling.letters spec.lineComment
  blockOpen : rules.blockOpen = Spelling.letters spec.blockOpen
  blockClose : rules.blockClose = Spelling.letters spec.blockClose
  sigil : rules.sigil = Spelling.letters spec.sigil
  marker_proper : rules.lineComment ≠ []
  closer_proper : rules.blockClose ≠ []
  sigil_proper : rules.sigil ≠ []
  opener : rules.lineComment <+: rules.blockOpen
  starts : ∀ text, rules.startsCall text = true ↔ CallShape spec.callNames (Text.chars text)

namespace RuleSpec

theorem emptyMarker?_none {spec : RuleSpec μ} (checked : spec.emptyMarker? = none) :
    Spelling.letters spec.lineComment ≠ [] ∧ Spelling.letters spec.blockOpen ≠ [] ∧
      Spelling.letters spec.blockClose ≠ [] ∧ Spelling.letters spec.sigil ≠ [] := by
  unfold emptyMarker? at checked
  split at checked
  · cases checked
  · split at checked
    · cases checked
    · split at checked
      · cases checked
      · split at checked
        · cases checked
        · simp_all

theorem readPattern_call {names : List (List Char)} (some_name : names ≠ []) :
    readPattern "forbidden_calls" (callPattern names) = .ok (callRegex names) := by
  cases names with
  | nil => exact absurd rfl some_name
  | cons name names => rw [readPattern, parse_callPattern]; rfl

def forbiddenOf (spec : RuleSpec μ) : Option Regex :=
  if spec.callNames.isEmpty then none else some (callRegex spec.callNames)

omit [Spelling μ α] in
theorem forbiddenOf_starts [Text.Alphabet α] {spec : RuleSpec μ} {rules : Rules α}
    (forbidden : rules.forbidden = spec.forbiddenOf) (text : List α) :
    rules.startsCall text = true ↔ CallShape spec.callNames (Text.chars text) := by
  unfold Rules.startsCall
  rw [forbidden, forbiddenOf]
  cases spec.callNames with
  | nil => simp [CallShape]
  | cons name names =>
    change (callRegex (name :: names)).search (Text.chars text) = true ↔ _
    exact Regex.search_callRegex_iff

theorem compile_ok_iff [DecidableEq α] {spec : RuleSpec μ} {rules : Rules α} :
    spec.compile = .ok rules ↔ spec.emptyMarker? = none ∧
      (Spelling.letters spec.lineComment).isPrefixOf (Spelling.letters spec.blockOpen) = true ∧
      ∃ license url, readPattern "license_pattern" spec.licensePattern.toList = .ok license ∧
        readPattern "url_pattern" spec.urlPattern.toList = .ok url ∧
        rules = ⟨Spelling.letters spec.lineComment, Spelling.letters spec.blockOpen,
          Spelling.letters spec.blockClose, Spelling.letters spec.sigil, license, url,
          spec.forbiddenOf⟩ := by
  unfold compile forbiddenOf
  cases empty : spec.emptyMarker? with
  | some field => simp [throw, throwThe, MonadExceptOf.throw, bind, Except.bind]
  | none =>
    cases opener : (Spelling.letters spec.lineComment).isPrefixOf
      (Spelling.letters spec.blockOpen) with
    | false => simp [throw, throwThe, MonadExceptOf.throw, bind, Except.bind]
    | true =>
      cases license : readPattern "license_pattern" spec.licensePattern.toList with
      | error e => simp [bind, Except.bind]
      | ok license =>
        cases url : readPattern "url_pattern" spec.urlPattern.toList with
        | error e => simp [bind, Except.bind]
        | ok url =>
          by_cases names : spec.callNames = []
          · simpa [names, bind, Except.bind, pure, Except.pure] using eq_comm
          · simpa [names, readPattern_call names, bind, Except.bind, pure, Except.pure, Except.map]
              using eq_comm

variable [DecidableEq α] [Text.Alphabet α]

theorem Accepted.opener_proper {spec : RuleSpec μ} {rules : Rules α}
    (accepted : spec.Accepted rules) : rules.blockOpen ≠ [] := by
  intro empty
  have initial := accepted.opener
  rw [empty, List.prefix_nil] at initial
  exact accepted.marker_proper initial

theorem Accepted.unopened_of_clear {spec : RuleSpec μ} {rules : Rules α}
    (accepted : spec.Accepted rules) {text : List α} (clear : ¬ rules.lineComment <:+: text) :
    Text.cut? rules.blockOpen text = none :=
  Text.cut?_none.mpr fun occurs => clear (accepted.opener.isInfix.trans occurs)

theorem Accepted.marked_of_opened {spec : RuleSpec μ} {rules : Rules α}
    (accepted : spec.Accepted rules) {text front rest : List α}
    (opened : Text.cut? rules.blockOpen text = some (front, rest)) :
    ∃ code behind, Text.cut? rules.lineComment text = some (code, behind) := by
  cases cut : Text.cut? rules.lineComment text with
  | none => cases opened.symm.trans (accepted.unopened_of_clear (Text.cut?_none.mp cut))
  | some halves => exact ⟨halves.1, halves.2, rfl⟩

theorem Accepted.starts_extend [Text.LawfulAlphabet α] {spec : RuleSpec μ} {rules : Rules α}
    (accepted : spec.Accepted rules) {text longer : List α} (initial : text <+: longer)
    (starts : rules.startsCall text = true) : rules.startsCall longer = true := by
  obtain ⟨lead, word, gap, rest, name, split, leading, between, listed, spelling⟩ :=
    (accepted.starts text).mp starts
  have opened : Text.chars text = (lead ++ (word ++ gap)) ++ '(' :: rest := by simp [split]
  obtain ⟨behind, again⟩ := Text.chars_extend initial (by decide) opened
  exact (accepted.starts longer).mpr
    ⟨lead, word, gap, behind, name, by simp [again], leading, between, listed, spelling⟩

theorem accepted_of_compile {spec : RuleSpec μ} {rules : Rules α}
    (compiled : spec.compile = .ok rules) :
    spec.Accepted rules := by
  obtain ⟨checked, opener, license, url, -, -, rfl⟩ := compile_ok_iff.mp compiled
  obtain ⟨marker, -, closer, sigil⟩ := emptyMarker?_none checked
  exact {
    lineComment := rfl
    blockOpen := rfl
    blockClose := rfl
    sigil := rfl
    marker_proper := marker
    closer_proper := closer
    sigil_proper := sigil
    opener := List.isPrefixOf_iff_prefix.mp opener
    starts := forbiddenOf_starts rfl }

theorem ofDialect_lua_compiles : (ofDialect .lua).compile.toOption.isSome = true := by
  decide +kernel

end RuleSpec

theorem ok_of_toOption {ε α : Type} {result : Except ε α}
    (succeeds : result.toOption.isSome = true) : result = .ok (result.toOption.get succeeds) := by
  cases result with
  | ok value => rfl
  | error e => cases succeeds

/-- The rules of Lua with the default patterns. -/
def Rules.lua : Rules :=
  (RuleSpec.ofDialect .lua).compile.toOption.get RuleSpec.ofDialect_lua_compiles

theorem RuleSpec.compile_lua : (ofDialect .lua).compile = .ok Rules.lua :=
  ok_of_toOption ofDialect_lua_compiles

/-- Markers that are bytes of the em space, which is written `e2 80 83`. -/
def RuleSpec.stray : RuleSpec (List UInt8) :=
  { (RuleSpec.ofDialect .lua).inBytes with
    lineComment := [0x80]
    blockOpen := [0x80, 0x5b]
    sigil := [0xe2] }

theorem RuleSpec.stray_compiles : stray.compile.toOption.isSome = true := by decide +kernel

def Rules.stray : Rules UInt8 := RuleSpec.stray.compile.toOption.get RuleSpec.stray_compiles

theorem RuleSpec.compile_stray : stray.compile = .ok Rules.stray := ok_of_toOption stray_compiles

end LineSieve
