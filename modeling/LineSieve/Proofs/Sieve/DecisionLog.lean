import LineSieve.Proofs.Acceptance
import LineSieve.Proofs.Sieve.OpenCalls
import Mathlib.Data.List.Forall2

/- The log of decisions. It has an entry for every line of a file, and the entry says what came out
   of the line: nothing but a beginning of it, shortened by blanks at its end or by its comment. A
   file comes out unchanged exactly if the log says of every line that it was kept. -/
namespace LineSieve

set_option linter.unusedSectionVars false

variable {μ α : Type} [Spelling μ α] [DecidableEq α] [Text.Alphabet α] [Text.LawfulAlphabet α]

/-- What an action says of the line it was taken on and of what came out of it. -/
inductive Explained (rules : Rules α) (line : List α) : Action → Option (List α) → Prop where
  | kept : Explained rules line .kept (some line)
  | trimmed {out blanks : List α} (split : out ++ blanks = line) (proper : blanks ≠ [])
      (blank : Text.allBlank blanks = true) : Explained rules line .trimmed (some out)
  | stripped {out code rest : List α}
      (cut : Text.cut? rules.lineComment line = some (code, rest)) (initial : out <+: code)
      (shown : out ≠ []) (shorter : out.length < line.length) :
      Explained rules line .stripped (some out)
  | dropped : Explained rules line .dropped none

theorem Explained.kept_iff {rules : Rules α} {line : List α} {action : Action}
    {out : Option (List α)} (explained : Explained rules line action out) :
    action = .kept ↔ out = some line := by
  cases explained with
  | kept => exact iff_of_true rfl rfl
  | trimmed split proper blank =>
    refine iff_of_false nofun fun same => proper ?_
    rw [Option.some.inj same] at split
    exact List.append_right_eq_self.mp split
  | stripped cut initial shown shorter =>
    refine iff_of_false nofun fun same => ?_
    rw [Option.some.inj same] at shorter
    exact Nat.lt_irrefl _ shorter
  | dropped => exact iff_of_false nofun nofun

theorem Record.output?_eq_none {record : Record α} :
    record.output? = none ↔ record.decide.2 = .dropped := by
  simp [output?]

namespace Rules

theorem explained_silent {rules : Rules α} {line : List α} {record : Record α}
    (silent : record.output? = none) : Explained rules line record.decide.2 record.output? := by
  rw [silent, Record.output?_eq_none.mp silent]
  exact .dropped

theorem explained_cut {rules : Rules α} {line code rest : List α} {record : Record α}
    (proper : rules.lineComment ≠ [])
    (cut : Text.cut? rules.lineComment line = some (code, rest)) (same : record.text = line)
    (at_code : record.commentAt = Text.byteLength code)
    (shape : record.category = .code ∧ record.urlGuarded = false ∨
      record.category = .blockClose) :
    Explained rules line record.decide.2 record.output? := by
  have split := Text.cut?_split cut
  have remainder : record.codeText = Text.trimRight code := codeText_cut at_code (same.trans split)
  by_cases empty : Text.trimRight code = []
  · apply explained_silent
    rw [← remainder] at empty
    rcases shape with ⟨kind, plain⟩ | kind
    · simp [Record.output?, Record.decide, kind, plain, empty]
    · simp [Record.output?, Record.decide, kind, empty]
  · have decided : record.decide = (Text.trimRight code, .stripped) := by
      rw [← remainder] at empty ⊢
      rcases shape with ⟨kind, plain⟩ | kind
      · simp [Record.decide, kind, plain, empty, at_code]
      · simp [Record.decide, kind, empty]
    have initial := Text.trimRight_initial code
    have shorter : (Text.trimRight code).length < line.length := by
      have front := initial.length_le
      have marker := List.length_pos_iff.mpr proper
      rw [split, List.length_append, List.length_append]
      omega
    rw [Record.output?, decided]
    exact .stripped cut initial empty shorter

theorem Opening.cut {spec : RuleSpec μ} {rules : Rules α} (accepted : spec.Accepted rules)
    {state : State} {text front rest : List α} (opening : Opening rules state text front rest) :
    ∃ behind, Text.cut? rules.lineComment text = some (rules.withoutComment text, behind) := by
  obtain ⟨code, behind, cut⟩ := accepted.marked_of_opened opening.opened
  exact ⟨behind, by rw [withoutComment_cut cut, cut]⟩

theorem explained_whole {rules : Rules α} {line : List α} {record : Record α}
    (visible : Text.allBlank line = false) (same : record.text = line)
    (uncut : record.commentAt = -1) (kind : record.category = .code)
    (plain : record.urlGuarded = false) :
    Explained rules line record.decide.2 record.output? := by
  have remainder : record.codeText = Text.trimRight line := by rw [codeText_whole uncut, same]
  have shown : Text.trimRight line ≠ [] := by
    rw [ne_eq, Text.trimRight_eq_nil, visible]
    decide
  by_cases whole : Text.trimRight line = line
  · have decided : record.decide = (line, .kept) := by
      rw [whole] at remainder shown
      simp [Record.decide, kind, plain, remainder, shown, uncut, same]
    rw [Record.output?, decided]
    exact .kept
  · have decided : record.decide = (Text.trimRight line, .trimmed) := by
      simp [Record.decide, kind, plain, remainder, shown, uncut, same, whole]
    obtain ⟨blanks, split, blank⟩ := Text.trimRight_split line
    rw [Record.output?, decided]
    refine .trimmed split (fun none => whole ?_) blank
    rwa [none, List.append_nil] at split

theorem Classified.explained {spec : RuleSpec μ} {rules : Rules α} (accepted : spec.Accepted rules)
    {index : Nat} {state next : State} {text : List α} {record : Record α}
    (step : Classified rules index state text record next) :
    Explained rules text record.decide.2 record.output? := by
  cases step with
  | blank | body | comment | enter => exact .dropped
  | leave | leaveInCall => exact explained_silent (output?_closed rfl rfl)
  | aroundCall opening closed fed | call bare uncommented fed =>
    exact explained_silent (output?_call (feedCall_category fed))
  | annotated | license | inline | guarded => exact .kept
  | aroundCode opening closed free unstarted =>
    obtain ⟨behind, cut⟩ := opening.cut accepted
    exact explained_cut accepted.marker_proper cut rfl rfl (Or.inr rfl)
  | cut line cut unmarked plain =>
    exact explained_cut accepted.marker_proper cut rfl rfl (Or.inl ⟨rfl, rfl⟩)
  | code line clear =>
    have visible : Text.allBlank text = false := by
      rw [Bool.eq_false_iff]
      exact fun blank => line.visible (Text.trim_eq_nil.mpr blank)
    exact explained_whole visible rfl rfl rfl rfl

end Rules

namespace Classifier

theorem run_texts (classifier : Classifier α) (lines : List (List α)) :
    (classifier.run lines).1.map Record.text = lines := by
  induction lines generalizing classifier with
  | nil => rfl
  | cons line lines ih =>
    rw [run_cons, List.map_cons, ih, (classifier.next_classified line).text_eq]

theorem run_indices (classifier : Classifier α) (lines : List (List α)) :
    (classifier.run lines).1.map Record.index =
      (List.range' classifier.index lines.length).map Nat.cast := by
  induction lines generalizing classifier with
  | nil => rfl
  | cons line lines ih =>
    rw [run_cons, List.map_cons, ih, (classifier.next_classified line).index_eq, next_index,
      List.length_cons, List.range'_succ, List.map_cons]

end Classifier

theorem classify_explained {spec : RuleSpec μ} {rules : Rules α} (accepted : spec.Accepted rules)
    {lines : List (List α)} {record : Record α} (listed : record ∈ rules.classify lines) :
    Explained rules record.text record.decide.2 record.output? := by
  obtain ⟨index, state, next, text, -, step⟩ := Classifier.run_classified listed
  exact step.text_eq ▸ step.explained accepted

/-- The log explains the output under all rules that compile. It has one entry for each line in
order, with the index and the category of the record; the output is what comes out of the lines in
order, each as its entry explains, and trimming at the ends takes nothing away; and the output is
the input exactly if every line is kept. -/
theorem decisions_explain (spec : RuleSpec μ) (rules : Rules α) (compiled : spec.compile = .ok rules)
    (lines : List (List α)) :
    let records := rules.classify lines
    let sieved := sieve records
    sieved.decisions.map Decision.index = (List.range' 1 lines.length).map Nat.cast ∧
    sieved.decisions.map (fun decision => (decision.index, decision.category)) =
      records.map (fun record => (record.index, record.category)) ∧
    (∃ outs : List (Option (List α)), sieved.lines = outs.filterMap id ∧
      List.Forall₂ (fun entry out => Explained rules entry.1 entry.2.action out)
        (lines.zip sieved.decisions) outs) ∧
    trimBlankEdges (keptLines records) = keptLines records ∧
    (sieved.changed lines = false ↔ ∀ decision ∈ sieved.decisions, decision.action = .kept) := by
  intro records sieved
  have accepted := RuleSpec.accepted_of_compile compiled
  have explained : ∀ record ∈ records, Explained rules record.text record.decide.2 record.output? :=
    fun record listed => classify_explained accepted listed
  have texts : records.map Record.text = lines := Classifier.run_texts { rules } lines
  have whole : sieved.lines = records.filterMap Record.output? := sieve_lines rules lines
  refine ⟨?_, ?_, ⟨records.map Record.output?, ?_, ?_⟩, whole, ?_⟩
  · rw [← Classifier.run_indices { rules } lines]
    exact List.map_map
  · exact List.map_map
  · rw [whole, List.filterMap_map]
    rfl
  · have entries : lines.zip sieved.decisions = records.map fun record =>
        (record.text, (⟨record.index, record.category, record.decide.2⟩ : Decision)) := by
      rw [← texts]
      exact List.zip_map'
    rw [entries, List.forall₂_map_left_iff, List.forall₂_map_right_iff, List.forall₂_same]
    exact explained
  · rw [Sieved.changed, bne_eq_false_iff_eq, whole, ← texts,
      List.filterMap_eq_map_iff_forall_eq_some]
    simp only [sieved, sieve, List.forall_mem_map]
    exact forall₂_congr fun record listed => (explained record listed).kept_iff.symm

theorem decisions_explain_lua :
    let lines := ["x = 1  ", "y --z", "--[[", "]] a", "---@b ", "c --[[ d ]]", "print()"].map
      String.toList
    let records := Rules.lua.classify lines
    let sieved := sieve records
    (RuleSpec.ofDialect .lua).compile = .ok Rules.lua ∧
    sieved.decisions.map Decision.action =
      [.trimmed, .stripped, .dropped, .dropped, .kept, .stripped, .dropped] ∧
    sieved.decisions.map Decision.index = (List.range' 1 lines.length).map Nat.cast ∧
    sieved.decisions.map (fun decision => (decision.index, decision.category)) =
      records.map (fun record => (record.index, record.category)) ∧
    (∃ outs : List (Option (List Char)), sieved.lines = outs.filterMap id ∧
      List.Forall₂ (fun entry out => Explained .lua entry.1 entry.2.action out)
        (lines.zip sieved.decisions) outs) ∧
    trimBlankEdges (keptLines records) = keptLines records ∧
    (sieved.changed lines = false ↔ ∀ decision ∈ sieved.decisions, decision.action = .kept) :=
  ⟨RuleSpec.compile_lua, by decide +kernel, decisions_explain _ _ RuleSpec.compile_lua _⟩

end LineSieve
