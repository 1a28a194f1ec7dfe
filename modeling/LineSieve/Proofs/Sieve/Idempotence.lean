import LineSieve.Proofs.Acceptance
import LineSieve.Proofs.Sieve.Kept

/- Sieving what has been sieved. The second pass stays outside of block comments and forbidden calls
   all the way, because no line that was kept starts either of them, and it has seen code only where
   the first pass had seen code, so a licence header is still one. -/
namespace LineSieve

set_option linter.unusedSectionVars false

variable {μ α : Type} [Spelling μ α] [DecidableEq α] [Text.Alphabet α] [Text.LawfulAlphabet α]

namespace Rules

/-- The state of a pass that is outside of block comments and forbidden calls. -/
def quiet (seen : Bool) : State := { codeSeen := seen }

theorem trimmed_clear {spec : RuleSpec μ} {rules : Rules α} (accepted : spec.Accepted rules)
    (text : List α) : ¬ rules.lineComment <:+: Text.trimRight (rules.withoutComment text) := by
  intro occurs
  have inside := occurs.trans (Text.trimRight_initial _).isInfix
  exact Text.before_clear accepted.marker_proper text inside

theorem trimmed_unstarted {spec : RuleSpec μ} {rules : Rules α} (accepted : spec.Accepted rules)
    {text counted : List α} (lead : rules.withoutComment text <+: counted)
    (unstarted : rules.startsCall counted = false) :
    rules.startsCall (Text.trimRight (rules.withoutComment text)) = false := by
  rw [Bool.eq_false_iff]
  intro starts
  rw [accepted.starts_extend ((Text.trimRight_initial _).trans lead) starts] at unstarted
  cases unstarted

theorem trimmed_codeLine {spec : RuleSpec μ} {rules : Rules α} (accepted : spec.Accepted rules)
    {text counted : List α} (seen : Bool)
    (unmarked : rules.isAnnotationBlock
      (Text.trim (Text.trimRight (rules.withoutComment text))) = false)
    (visible : Text.trimRight (rules.withoutComment text) ≠ [])
    (lead : rules.withoutComment text <+: counted) (unstarted : rules.startsCall counted = false) :
    CodeLine rules (quiet seen) (Text.trimRight (rules.withoutComment text)) := by
  have clear := trimmed_clear accepted text
  have unopened := accepted.unopened_of_clear clear
  refine ⟨⟨?_, rfl, unmarked, unopened⟩, uncommented_of_clear clear, rfl,
    trimmed_unstarted accepted lead unstarted⟩
  intro empty
  have blank := Text.trimRight_eq_nil.mpr (Text.trim_eq_nil.mp empty)
  rw [Text.trimRight_idem] at blank
  exact visible blank

theorem Bare.quiet {rules : Rules α} {state : State} {text : List α} (bare : Bare rules state text)
    (seen : Bool) : Bare rules (quiet seen) text :=
  ⟨bare.visible, rfl, bare.unmarked, bare.unopened⟩

theorem CodeLine.quiet {rules : Rules α} {state : State} {text : List α}
    (line : CodeLine rules state text) (seen : Bool) : CodeLine rules (quiet seen) text :=
  ⟨line.toBare.quiet seen, line.uncommented, rfl, line.unstarted⟩

/-- A kept line is kept as it is by a second pass that has seen no more code than the first, and
the second pass has still seen no more code behind it. -/
theorem Kept.stable {spec : RuleSpec μ} {rules : Rules α} (accepted : spec.Accepted rules)
    {state next : State} {text line : List α} (kept : Kept rules state text line next)
    (index : Nat) {seen : Bool} (behind : seen = true → state.codeSeen = true) :
    ∃ record after, Classified rules index (quiet seen) line record (quiet after) ∧
      record.decide = (line, .kept) ∧ (after = true → next.codeSeen = true) := by
  cases kept with
  | annotated visible marked => exact ⟨_, seen, .annotated visible rfl marked, rfl, behind⟩
  | license bare commented early licensed =>
    have unseen : seen = false := by
      rw [Bool.eq_false_iff]
      intro late
      rw [behind late] at early
      cases early
    exact ⟨_, seen, .license (bare.quiet seen) commented unseen licensed, rfl, behind⟩
  | inline code cut marked =>
    exact ⟨_, true, .inline (code.quiet seen) cut marked, rfl, fun _ => rfl⟩
  | guarded code cut unmarked url =>
    exact ⟨_, true, .guarded (code.quiet seen) cut unmarked url, rfl, fun _ => rfl⟩
  | code unmarked visible lead unstarted =>
    -- Cut inside of a character, bytes can start with the sigil where the line did not.
    cases marked : rules.isAnnotationBlock
        (Text.trim (Text.trimRight (rules.withoutComment text))) with
    | true =>
      have shown : Text.trim (Text.trimRight (rules.withoutComment text)) ≠ [] := by
        rw [ne_eq, Text.trim_eq_nil, ← Text.trimRight_eq_nil, Text.trimRight_idem]
        exact visible
      exact ⟨_, seen, .annotated shown rfl marked, rfl, fun _ => rfl⟩
    | false =>
      have again := trimmed_codeLine accepted seen marked visible lead unstarted
      have clear := Text.cut?_none.mpr (trimmed_clear accepted text)
      refine ⟨_, true, .code again clear, ?_, fun _ => rfl⟩
      simp [Record.decide, Record.codeText, Text.trimRight_idem, visible]

end Rules

/-- A second pass over the kept lines of a run keeps every one of them as it is. -/
theorem run_kept_stable {spec : RuleSpec μ} {rules : Rules α} (accepted : spec.Accepted rules)
    (lines : List (List α)) (index again : Nat) (state : State) (seen : Bool)
    (behind : seen = true → state.codeSeen = true) :
    ((Classifier.run ⟨rules, Rules.quiet seen, again⟩
      (keptLines (Classifier.run ⟨rules, state, index⟩ lines).1)).1.map Record.decide) =
      (keptLines (Classifier.run ⟨rules, state, index⟩ lines).1).map fun line => (line, .kept) := by
  -- The passes are at different lines; all that has to carry over is how much code was seen.
  induction lines generalizing index again state seen with
  | nil => rfl
  | cons line lines ih =>
    have step := Classifier.next_classified ⟨rules, state, index⟩ line
    rw [Classifier.run_cons, keptLines_eq, List.filterMap_cons]
    cases output : (Classifier.next ⟨rules, state, index⟩ line).1.output? with
    | none => exact ih _ _ _ _ fun late => step.codeSeen_mono (behind late)
    | some kept =>
      obtain ⟨record, after, second, decided, later⟩ :=
        (step.kept output).stable accepted again behind
      have stepped : Classifier.next ⟨rules, Rules.quiet seen, again⟩ kept =
          (record, ⟨rules, Rules.quiet after, again + 1⟩) := by
        rw [Classifier.next, Rules.classifyLine_eq second]
      rw [Classifier.run_cons, stepped, List.map_cons, List.map_cons, decided]
      exact congrArg _ (ih _ _ _ _ later)

theorem keptLines_of_decide {records : List (Record α)} {lines : List (List α)}
    (decided : records.map Record.decide = lines.map fun line => (line, .kept)) :
    keptLines records = lines := by
  have through : keptLines records = (records.map Record.decide).filterMap fun pair =>
      if pair.2 = .dropped then none else some pair.1 := by
    rw [List.filterMap_map]
    rfl
  rw [through, decided, List.filterMap_map]
  exact List.filterMap_some

theorem actions_of_decide {records : List (Record α)} {lines : List (List α)}
    (decided : records.map Record.decide = lines.map fun line => (line, .kept)) :
    ∀ decision ∈ (sieve records).decisions, decision.action = .kept := by
  intro decision listed
  obtain ⟨record, member, rfl⟩ := List.mem_map.mp listed
  have found : record.decide ∈ lines.map fun line => (line, Action.kept) :=
    decided ▸ List.mem_map_of_mem member
  obtain ⟨line, -, same⟩ := List.mem_map.mp found
  exact congrArg Prod.snd same.symm

theorem sieved_decide {spec : RuleSpec μ} {rules : Rules α} (accepted : spec.Accepted rules)
    (lines : List (List α)) :
    (rules.classify (sieve (rules.classify lines)).lines).map Record.decide =
      (sieve (rules.classify lines)).lines.map fun line => (line, .kept) := by
  rw [sieve_lines]
  exact run_kept_stable accepted lines 1 1 {} false (fun late => absurd late (by decide))

theorem sieve_again {spec : RuleSpec μ} {rules : Rules α} (accepted : spec.Accepted rules)
    (lines : List (List α)) :
    (sieve (rules.classify (sieve (rules.classify lines)).lines)).lines =
      (sieve (rules.classify lines)).lines := by
  rw [sieve_lines rules (sieve (rules.classify lines)).lines]
  exact keptLines_of_decide (sieved_decide accepted lines)

/-- Sieving is idempotent under all rules that compile: sieved again, the output stays as it is,
every line of it is kept and nothing counts as changed. -/
theorem sieve_idempotent (spec : RuleSpec μ) (rules : Rules α) (compiled : spec.compile = .ok rules)
    (lines : List (List α)) :
    let out := (sieve (rules.classify lines)).lines
    let again := sieve (rules.classify out)
    again.lines = out ∧ (∀ decision ∈ again.decisions, decision.action = .kept) ∧
      again.changed out = false := by
  intro out again
  have accepted := RuleSpec.accepted_of_compile compiled
  have same : again.lines = out := sieve_again accepted lines
  refine ⟨same, actions_of_decide (sieved_decide accepted lines), ?_⟩
  rw [Sieved.changed, same, bne_self_eq_false]

theorem sieve_idempotent_lua :
    let lines := ["--license", "print(", "---@x", ")", "a --[[", "]] b", "c -- d"].map String.toList
    let out := (sieve (Rules.lua.classify lines)).lines
    let again := sieve (Rules.lua.classify out)
    (RuleSpec.ofDialect .lua).compile = .ok Rules.lua ∧
      out = ["--license", "---@x", "c"].map String.toList ∧
      again.lines = out ∧ (∀ decision ∈ again.decisions, decision.action = .kept) ∧
      again.changed out = false :=
  ⟨RuleSpec.compile_lua, by decide +kernel, sieve_idempotent _ _ RuleSpec.compile_lua _⟩

end LineSieve
