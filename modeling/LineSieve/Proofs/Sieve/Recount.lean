import LineSieve.Proofs.Sieve.Annotations
import LineSieve.Proofs.Sieve.Idempotence
import LineSieve.Proofs.Sieve.Tally

/- Counting a sieved file again. The share that a line was counted in can be read off what comes out
   of it, so a second pass counts the output as the first one did; of the other shares nothing is
   left, and no call stays open. Only code that was cut inside of a character can be taken for an
   annotation then. -/
namespace LineSieve

open LineCounts (held)

set_option linter.unusedSectionVars false

variable {μ α : Type} [Spelling μ α] [DecidableEq α] [Text.Alphabet α] [Text.LawfulAlphabet α]

def Share.comesOut : Share → Bool
  | .code | .annotated | .license => true
  | .comment | .blank | .forbidden => false

/-- The share of a line that came out, as its text tells it. -/
def Rules.shareOf (rules : Rules α) (line : List α) : Share :=
  if rules.isAnnotationBlock (Text.trim line) then .annotated
  else if rules.lineComment.isPrefixOf (Text.trim line) then .license
  else .code

theorem Record.share?_code {record : Record α}
    (shape : record.category = .code ∨ record.category = .blockClose)
    (visible : record.codeText ≠ []) : record.share? = some .code := by
  rcases shape with same | same <;> simp [Record.share?, same, visible]

theorem Record.Regular.comesOut {record : Record α} (regular : record.Regular) :
    record.output?.isSome = true ↔ ∃ share, record.share? = some share ∧ share.comesOut = true := by
  rw [regular.output_iff]
  obtain ⟨share, same⟩ := regular.shared
  rw [same]
  cases share <;> simp [Share.comesOut]

namespace Rules

theorem CodeLine.shareOf {rules : Rules α} {state : State} {line : List α}
    (code : CodeLine rules state line) : rules.shareOf line = .code := by
  rw [Rules.shareOf, code.unmarked, code.uncommented]
  rfl

/-- A share is told right, or no difference is made between code and annotations. -/
def Told (rules : Rules α) (among : Share → Bool) : Prop :=
  rules.Textual ∨ among .code = among .annotated

theorem share_trimmed {spec : RuleSpec μ} {rules : Rules α} (accepted : spec.Accepted rules)
    {among : Share → Bool} (told : rules.Told among) {text counted line : List α}
    {record : Record α} (shape : record.category = .code ∨ record.category = .blockClose)
    (plain : record.urlGuarded = false) (output : record.output? = some line)
    (remainder : record.codeText = Text.trimRight (rules.withoutComment text))
    (unmarked : rules.isAnnotationBlock (Text.trim text) = false)
    (lead : rules.withoutComment text <+: counted) (unstarted : rules.startsCall counted = false) :
    record.share?.map among = some (among (rules.shareOf line)) := by
  obtain ⟨visible, rfl⟩ := output?_code shape plain output
  rw [Record.share?_code shape visible, Option.map_some]
  rw [remainder] at visible ⊢
  cases marked : rules.isAnnotationBlock
      (Text.trim (Text.trimRight (rules.withoutComment text))) with
  | false => rw [(trimmed_codeLine accepted false marked visible lead unstarted).shareOf]
  | true =>
    rcases told with textual | same
    · have unopened := accepted.unopened_of_clear (trimmed_clear accepted text)
      rw [isAnnotationBlock_unopened unopened] at marked
      have whole := textual.bearsSigil accepted marked
      rw [isAnnotationBlock, Bool.or_eq_false_iff] at unmarked
      cases unmarked.1.symm.trans whole
    · rw [Rules.shareOf, marked, same]
      rfl

theorem Classified.share_output {spec : RuleSpec μ} {rules : Rules α}
    (accepted : spec.Accepted rules) {among : Share → Bool} (told : rules.Told among) {index : Nat}
    {state next : State} {text line : List α} {record : Record α}
    (step : Classified rules index state text record next) (output : record.output? = some line) :
    record.share?.map among = some (among (rules.shareOf line)) := by
  have guarded := step.regular.guarded
  cases step with
  | blank | body | comment | enter => cases output
  | leave | leaveInCall =>
    rw [output?_closed rfl rfl] at output
    cases output
  | aroundCall opening closed fed | call bare uncommented fed =>
    rw [output?_call (feedCall_category fed)] at output
    cases output
  | annotated visible outside marked =>
    obtain rfl : text = line := Option.some.inj output
    rw [shareOf, marked]
    rfl
  | license bare commented early licensed =>
    obtain rfl : text = line := Option.some.inj output
    rw [shareOf, bare.unmarked, commented]
    rfl
  | inline code cut marked =>
    obtain rfl : text = line := Option.some.inj output
    rw [code.shareOf]
    rfl
  | guarded code cut unmarked url =>
    obtain rfl : text = line := Option.some.inj output
    rw [code.shareOf]
    exact congrArg (Option.map among) (Record.share?_code (Or.inl rfl) (guarded rfl rfl))
  | aroundCode opening closed free unstarted =>
    exact share_trimmed accepted told (Or.inr rfl) rfl output (rules.codeText_withoutComment rfl)
      opening.unmarked (rules.withoutComment_around text _ _) unstarted
  | code line clear =>
    have whole := withoutComment_uncut clear
    exact share_trimmed accepted told (Or.inl rfl) rfl output (by rw [codeText_whole rfl, whole])
      line.unmarked (rules.withoutComment_initial text) line.unstarted
  | cut line cut unmarked plain =>
    have front := withoutComment_cut cut
    exact share_trimmed accepted told (Or.inl rfl) rfl output
      (by rw [front, codeText_cut rfl (Text.cut?_split cut)])
      line.unmarked (rules.withoutComment_initial text) line.unstarted

theorem Kept.carries {rules : Rules α} {state next : State} {text line : List α}
    (kept : Kept rules state text line next) : next.openCall = state.openCall := by
  cases kept <;> rfl

end Rules

theorem run_carries (classifier : Classifier α) (lines : List (List α))
    (whole : ∀ record ∈ (classifier.run lines).1, record.output?.isSome = true) :
    (classifier.run lines).2.state.openCall = classifier.state.openCall := by
  induction lines generalizing classifier with
  | nil => rfl
  | cons line lines ih =>
    rw [Classifier.run_cons] at whole ⊢
    obtain ⟨kept, output⟩ := Option.isSome_iff_exists.mp (whole _ List.mem_cons_self)
    have step := (classifier.next_classified line).kept output
    exact (ih _ fun record later => whole record (List.mem_cons_of_mem _ later)).trans step.carries

/-- The lines that come out of a file, counted by what they tell. -/
theorem counted_kept {spec : RuleSpec μ} {rules : Rules α} (accepted : spec.Accepted rules)
    (lines : List (List α)) {among : Share → Bool} (told : rules.Told among)
    (kept : ∀ share, among share = true → share.comesOut = true) :
    (rules.classify lines).countP (fun record => record.share?.any among) =
      (keptLines (rules.classify lines)).countP fun line => among (rules.shareOf line) := by
  rw [keptLines_eq, List.countP_filterMap]
  apply List.countP_congr
  intro record listed
  have regular := classify_regular rules lines record listed
  cases output : record.output? with
  | none =>
    have silent : ¬ record.output?.isSome = true := by simp [output]
    simp only [Option.map_none, Option.getD_none, Bool.false_eq_true, iff_false, Option.any_eq_true]
    rintro ⟨share, counted, inside⟩
    exact silent (regular.comesOut.mpr ⟨share, counted, kept share inside⟩)
  | some line =>
    obtain ⟨index, state, next, text, -, step⟩ := Classifier.run_classified listed
    have same := step.share_output accepted told output
    obtain ⟨share, counted, tells⟩ := Option.map_eq_some_iff.mp same
    simp [counted, tells]

theorem sieved_whole {spec : RuleSpec μ} {rules : Rules α} (accepted : spec.Accepted rules)
    (lines : List (List α)) :
    ∀ record ∈ rules.classify (sieve (rules.classify lines)).lines,
      record.output?.isSome = true := by
  intro record listed
  have decided : record.decide ∈ _ := List.mem_map_of_mem listed
  rw [sieved_decide accepted] at decided
  obtain ⟨line, -, same⟩ := List.mem_map.mp decided
  simp [Record.output?, ← same]

theorem counted_again {spec : RuleSpec μ} {rules : Rules α} (accepted : spec.Accepted rules)
    (lines : List (List α)) {among : Share → Bool} (told : rules.Told among)
    (kept : ∀ share, among share = true → share.comesOut = true) :
    (rules.classify (sieve (rules.classify lines)).lines).countP
        (fun record => record.share?.any among) =
      (rules.classify lines).countP fun record => record.share?.any among := by
  have same := sieve_again accepted lines
  rw [sieve_lines rules (sieve (rules.classify lines)).lines] at same
  rw [counted_kept accepted _ told kept, same, sieve_lines, counted_kept accepted _ told kept]

theorem held_eq (share : Share) (records : List (Record α)) :
    held share records = records.countP fun record => record.share?.any (· = share) := by
  rw [held]
  congr 1
  funext record
  cases record.share? <;> simp

theorem held_effective (records : List (Record α)) :
    held .code records + held .annotated records =
      records.countP fun record =>
        record.share?.any fun share => share = .code ∨ share = .annotated := by
  induction records with
  | nil => rfl
  | cons record records ih =>
    rw [LineCounts.held_cons, LineCounts.held_cons, List.countP_cons, ← ih]
    cases same : record.share? with
    | none => simp
    | some share => cases share <;> simp <;> omega

theorem held_none {spec : RuleSpec μ} {rules : Rules α} (accepted : spec.Accepted rules)
    (lines : List (List α)) {share : Share} (gone : share.comesOut = false) :
    held share (rules.classify (sieve (rules.classify lines)).lines) = 0 := by
  have whole := sieved_whole accepted lines
  rw [held, List.countP_eq_zero]
  intro record listed found
  have regular := classify_regular rules _ record listed
  obtain ⟨other, counted, effective⟩ := regular.comesOut.mp (whole record listed)
  obtain rfl := Option.some.inj ((of_decide_eq_true found).symm.trans counted)
  rw [gone] at effective
  cases effective

theorem held_told {spec : RuleSpec μ} {rules : Rules α} (accepted : spec.Accepted rules)
    (lines : List (List α)) {share : Share} (kept : share.comesOut = true)
    (told : rules.Textual ∨ share = .license) :
    held share (rules.classify (sieve (rules.classify lines)).lines) =
      held share (rules.classify lines) := by
  rw [held_eq, held_eq]
  refine counted_again accepted lines (told.imp_right fun same => ?_) fun other found => ?_
  · simp [same]
  · rwa [of_decide_eq_true found]

theorem held_effective_again {spec : RuleSpec μ} {rules : Rules α} (accepted : spec.Accepted rules)
    (lines : List (List α)) :
    held .code (rules.classify (sieve (rules.classify lines)).lines) +
        held .annotated (rules.classify (sieve (rules.classify lines)).lines) =
      held .code (rules.classify lines) + held .annotated (rules.classify lines) := by
  rw [held_effective, held_effective]
  refine counted_again accepted lines (Or.inr (by simp)) fun share found => ?_
  rcases of_decide_eq_true found with rfl | rfl <;> rfl

/-- Counting a sieved file again under rules that compile: the counts of effective lines and licence
headers are those of the file it came from, the shares of comments, blank lines and calls are empty,
every line is effective or a licence header, and no call is reported as never closed. Code and
annotations are counted as before, too, if the line-comment marker is text, as it always is of rules
over characters, or the sigil is text that does not end in a blank. For files of less than `2 ^ 63`
lines the sums do not wrap around. -/
theorem sieved_recount (spec : RuleSpec μ) (rules : Rules α) (compiled : spec.compile = .ok rules)
    (lines : List (List α)) :
    let counts := LineCounts.ofRecords (rules.classify lines)
    let out := (sieve (rules.classify lines)).lines
    let again := LineCounts.ofRecords (rules.classify out)
    again = { again with
      physical := counts.total + counts.license
      total := counts.total
      comment := 0
      license := counts.license
      blank := 0
      forbidden := 0 } ∧
    (rules.Textual → again.code = counts.code ∧ again.annotated = counts.annotated) ∧
    (lines.length < 2 ^ 63 →
      again.physical.toInt = counts.total.toInt + counts.license.toInt ∧
      again.physical.toInt = out.length) ∧
    (Classifier.run { rules } out).2.state.unclosed? = none := by
  intro counts out again
  have accepted := RuleSpec.accepted_of_compile compiled
  have counted : counts = _ := LineCounts.ofRecords_eq (rules.classify lines)
  have recounted : again = _ := LineCounts.ofRecords_eq (rules.classify out)
  have regular := classify_regular rules lines
  have physical : (rules.classify out).length = out.length := Classifier.run_length { rules } out
  have output : out.length = held .code (rules.classify lines) +
      held .annotated (rules.classify lines) + held .license (rules.classify lines) :=
    (congrArg List.length (sieve_lines rules lines)).trans (keptLines_held regular)
  have total : held .code (rules.classify out) + held .annotated (rules.classify out) = _ :=
    held_effective_again accepted lines
  have license : held .license (rules.classify out) = _ :=
    held_told accepted lines rfl (Or.inr rfl)
  have gone (share : Share) (lost : share.comesOut = false) :
      held share (rules.classify out) = 0 := held_none accepted lines lost
  refine ⟨?_, fun textual => ?_, fun short => ?_, ?_⟩
  · rw [recounted, counted, physical, output, total, license, gone .comment rfl,
      gone .blank rfl, gone .forbidden rfl]
    simp [Int64.ofNat_add]
  · have code : held .code (rules.classify out) = _ :=
      held_told accepted lines rfl (Or.inl textual)
    have annotated : held .annotated (rules.classify out) = _ :=
      held_told accepted lines rfl (Or.inl textual)
    rw [recounted, counted, code, annotated]
    exact ⟨rfl, rfl⟩
  · have whole : (rules.classify lines).length = lines.length :=
      Classifier.run_length { rules } lines
    rw [length_held regular] at whole
    have exact_of_le : ∀ n ≤ out.length, (Int64.ofNat n).toInt = n := by
      intro n bound
      exact Int64.toInt_ofNat_of_lt (by omega)
    rw [recounted, counted, physical, exact_of_le _ (Nat.le_refl _), exact_of_le _ (by omega),
      exact_of_le (held .license _) (by omega)]
    omega
  · rw [State.unclosed?_eq, run_carries { rules } out (sieved_whole accepted lines)]
    rfl

theorem sieved_recount_lua :
    let lines := ["--license", "print(", "---@x", "a --[[ b ]]", ")", "--[[ c", "]]", "d ---@e"].map
      String.toList
    let counts := LineCounts.ofRecords (Rules.lua.classify lines)
    let out := (sieve (Rules.lua.classify lines)).lines
    let again := LineCounts.ofRecords (Rules.lua.classify out)
    (RuleSpec.ofDialect .lua).compile = .ok Rules.lua ∧ Rules.lua.Textual ∧
      out = ["--license", "---@x", "d ---@e"].map String.toList ∧ lines.length < 2 ^ 63 ∧
      again = { again with
        physical := counts.total + counts.license
        total := counts.total
        comment := 0
        license := counts.license
        blank := 0
        forbidden := 0 } ∧
      (again.code = counts.code ∧ again.annotated = counts.annotated) ∧
      (again.physical.toInt = counts.total.toInt + counts.license.toInt ∧
        again.physical.toInt = out.length) ∧
      (Classifier.run { rules := .lua } out).2.state.unclosed? = none := by
  intro lines counts out again
  have short : lines.length < 2 ^ 63 := by decide
  obtain ⟨same, told, exact_sum, closed⟩ := sieved_recount _ _ RuleSpec.compile_lua lines
  exact ⟨RuleSpec.compile_lua, Rules.lua.textual, by decide +kernel, short, same,
    told Rules.lua.textual, exact_sum short, closed⟩

/-- Code that was cut in two inside of a character is an annotation when it is counted again. -/
theorem sieved_recount_differs :
    ¬ ∀ (spec : RuleSpec (List UInt8)) (rules : Rules UInt8), spec.compile = .ok rules →
      ∀ text : List (List Char), let lines := text.map Text.utf8
        let counts := LineCounts.ofRecords (rules.classify lines)
        let again := LineCounts.ofRecords (rules.classify (sieve (rules.classify lines)).lines)
        again.code = counts.code ∧ again.annotated = counts.annotated := by
  intro counted
  have same := (counted _ _ RuleSpec.compile_stray [" \u2003x".toList]).1
  exact absurd same (by decide +kernel)

end LineSieve
