import LineSieve.Proofs.Sieve.OpenCalls

/- Licence headers. The classifier keeps one bit about the lines behind it, whether it has seen
   code, and that bit says exactly that one of their records bears code. So a comment that matches
   the licence pattern is a header exactly if nothing before it bears code, and what comes out of a
   file has its headers before its code. -/
namespace LineSieve

set_option linter.unusedSectionVars false

variable {α : Type} [DecidableEq α] [Text.Alphabet α] [Text.LawfulAlphabet α]

namespace Rules

/-- A comment of its own, read outside of block comments, that matches the licence pattern. -/
structure Licensed (rules : Rules α) (state : State) (line : List α) : Prop where
  outside : state.inBlock = false
  unopened : ¬ rules.blockOpen <:+: line
  visible : Text.trim line ≠ []
  unsigned : ¬ rules.sigil <+: Text.trim line
  commented : rules.lineComment <+: Text.trim line
  matching : rules.license.search (Text.trim line) = true

theorem Licensed.bare {rules : Rules α} {state : State} {line : List α}
    (licensed : Licensed rules state line) : Bare rules state line :=
  .of_unsigned licensed.visible licensed.outside (Text.cut?_none.mpr licensed.unopened)
    licensed.unsigned

theorem Bare.licensed {rules : Rules α} {state : State} {line : List α}
    (bare : Bare rules state line)
    (commented : rules.lineComment.isPrefixOf (Text.trim line) = true)
    (matching : rules.license.search (Text.trim line) = true) : Licensed rules state line := by
  refine ⟨bare.outside, Text.cut?_none.mp bare.unopened, bare.visible, fun signed => ?_,
    List.isPrefixOf_iff_prefix.mp commented, matching⟩
  have unsigned := (isAnnotationBlock_unopened bare.unopened).symm.trans bare.unmarked
  rw [List.isPrefixOf_iff_prefix.mpr signed] at unsigned
  cases unsigned

theorem Classified.license_iff {rules : Rules α} {index : Nat} {state next : State} {text : List α}
    {record : Record α} (step : Classified rules index state text record next) :
    record.category = .license ↔ Licensed rules state text ∧ state.codeSeen = false := by
  constructor
  · intro header
    cases step with
    | license bare commented early licensed => exact ⟨bare.licensed commented licensed, early⟩
    | aroundCall opening closed fed | call bare uncommented fed =>
      rcases feedCall_category fed with same | same <;> cases same.symm.trans header
    | blank | body | leave | leaveInCall | annotated | aroundCode | enter | comment | code | inline
      | guarded | cut => cases header
  · rintro ⟨licensed, early⟩
    have commented := List.isPrefixOf_iff_prefix.mpr licensed.commented
    obtain ⟨rfl, -⟩ := step.unique (.license licensed.bare commented early licensed.matching)
    rfl

theorem unseen_of_codeless {state next : State} {record : Record α} (codeless : record.Codeless)
    (same : next.codeSeen = state.codeSeen) :
    next.codeSeen = false ↔ state.codeSeen = false ∧ record.Codeless := by
  rw [same]
  exact (and_iff_left codeless).symm

theorem unseen_of_code {state next : State} {record : Record α} (bears : ¬ record.Codeless)
    (seen : next.codeSeen = true) :
    next.codeSeen = false ↔ state.codeSeen = false ∧ record.Codeless := by
  rw [seen]
  exact ⟨nofun, fun unseen => absurd unseen.2 bears⟩

theorem Classified.unseen_iff {rules : Rules α} {index : Nat} {state next : State}
    {text : List α} {record : Record α} (step : Classified rules index state text record next) :
    next.codeSeen = false ↔ state.codeSeen = false ∧ record.Codeless := by
  cases step with
  | blank | body | annotated | license | comment =>
    exact unseen_of_codeless ⟨by simp, by simp, by simp⟩ rfl
  | leave => exact unseen_of_codeless ⟨by simp, by simp, fun _ => codeText_at_start rfl⟩ rfl
  | leaveInCall visible inside closed running next advanced =>
    exact unseen_of_codeless ⟨by simp, by simp, fun _ => codeText_at_start rfl⟩ (by simp [advanced])
  | aroundCall opening closed fed | call bare uncommented fed =>
    exact unseen_of_codeless (codeless_call (feedCall_category fed)) (feedCall_codeSeen fed)
  | enter opening unclosed read =>
    have same := feedCall_codeSeen read
    exact unseen_of_codeless ⟨by simp, by simp, by simp⟩ same
  | aroundCode opening closed free unstarted =>
    -- The only line that may or may not bear code: it does if the text before its comment shows.
    cases blank : Text.allBlank (rules.withoutComment text) with
    | true =>
      refine unseen_of_codeless ⟨by simp, by simp, fun _ => ?_⟩ (by simp)
      exact (rules.codeText_withoutComment rfl).trans (Text.trimRight_eq_nil.mpr blank)
    | false =>
      refine unseen_of_code (fun codeless => ?_) (by simp)
      have empty := codeless.no_remainder rfl
      rw [rules.codeText_withoutComment rfl, Text.trimRight_eq_nil, blank] at empty
      cases empty
  | code | guarded | cut => exact unseen_of_code (fun codeless => codeless.not_code rfl) rfl
  | inline => exact unseen_of_code (fun codeless => codeless.not_inline rfl) rfl

end Rules

/-- Run: the classifier has seen no code exactly if no record so far bears any. -/
theorem run_unseen_iff (rules : Rules α) (lines : List (List α)) :
    (Classifier.run { rules } lines).2.state.codeSeen = false ↔
      ∀ record ∈ rules.classify lines, record.Codeless := by
  induction lines using List.reverseRecOn with
  | nil => exact ⟨fun _ => nofun, fun _ => rfl⟩
  | append_singleton lines line ih =>
    have step := rules.classify_step lines line
    rw [Classifier.run_append, rules.classify_split, List.forall_mem_append, ← ih,
      List.forall_mem_cons]
    exact step.unseen_iff.trans (and_congr_right fun _ => (and_iff_left nofun).symm)

theorem classify_license_iff (rules : Rules α) (before : List (List α)) (line : List α) :
    ((Classifier.run { rules } before).2.next line).1.category = .license ↔
      rules.Licensed (Classifier.run { rules } before).2.state line ∧
        ∀ earlier ∈ rules.classify before, earlier.Codeless := by
  rw [← run_unseen_iff]
  exact (rules.classify_step before line).license_iff

theorem classify_headers_first (rules : Rules α) (lines : List (List α)) :
    (rules.classify lines).Pairwise fun earlier later =>
      later.category = .license → earlier.Codeless := by
  induction lines using List.reverseRecOn with
  | nil => exact List.Pairwise.nil
  | append_singleton lines line ih =>
    rw [rules.classify_split]
    refine List.pairwise_append.mpr ⟨ih, List.pairwise_singleton _ _, ?_⟩
    intro earlier listed later last header
    obtain rfl := List.mem_singleton.mp last
    exact ((classify_license_iff rules lines line).mp header).2 earlier listed

/-- What comes out of the records, each line with the record it comes from. -/
def emitted (records : List (Record α)) : List (Record α × List α) :=
  records.filterMap fun record => record.output?.map fun line => (record, line)

theorem emitted_lines (records : List (Record α)) :
    (emitted records).map Prod.snd = keptLines records := by
  rw [emitted, List.map_filterMap, keptLines_eq]
  congr 1
  funext record
  cases record.output? <;> rfl

theorem emitted_pairwise {records : List (Record α)} {before : Record α → Record α → Prop}
    (ordered : records.Pairwise before) :
    (emitted records).Pairwise fun earlier later => before earlier.1 later.1 := by
  refine ordered.filterMap _ fun one two related shown first other second => ?_
  obtain ⟨line, -, rfl⟩ := Option.map_eq_some_iff.mp first
  obtain ⟨text, -, rfl⟩ := Option.map_eq_some_iff.mp second
  exact related

theorem emitted_headers (records : List (Record α)) :
    (emitted records).filter (fun entry => entry.1.category = .license) =
      (records.filter fun record => record.category = .license).map fun record =>
        (record, record.text) := by
  induction records with
  | nil => rfl
  | cons record records ih =>
    unfold emitted at ih ⊢
    by_cases header : record.category = .license
    · have output : record.output? = some record.text := by
        simp [Record.output?, Record.decide, header]
      simp [output, header, ih]
    · cases output : record.output? <;> simp [output, header, ih]

/-- Licence headers stand at the top. Under all rules a line is a header exactly if it is a comment
of its own, read outside of block comments and without a block opener, that is no annotation and
matches the licence pattern, and no record before it bears code. So no header comes out behind code,
and the headers come out as they are and in their order. -/
theorem headers_first (rules : Rules α) (lines : List (List α)) :
    (∀ before line after, lines = before ++ line :: after →
      ∃ (record : Record α) (rest : List (Record α)),
        rules.classify lines = rules.classify before ++ record :: rest ∧
        record.index = before.length + 1 ∧ record.text = line ∧
        (record.category = .license ↔
          rules.Licensed (Classifier.run { rules } before).2.state line ∧
            ∀ earlier ∈ rules.classify before, earlier.Codeless)) ∧
    let records := rules.classify lines
    let shown := emitted records
    shown.map Prod.snd = (sieve records).lines ∧
      (shown.Pairwise fun earlier later =>
        later.1.category = .license → earlier.1.Codeless) ∧
      shown.filter (fun entry => entry.1.category = .license) =
        (records.filter fun record => record.category = .license).map fun record =>
          (record, record.text) := by
  constructor
  · rintro before line after rfl
    have step := rules.classify_step before line
    exact ⟨_, _, rules.classify_split before line after, step.index_eq, step.text_eq,
      classify_license_iff rules before line⟩
  · intro records shown
    refine ⟨?_, emitted_pairwise (classify_headers_first rules lines), emitted_headers records⟩
    rw [sieve_lines]
    exact emitted_lines records

/-- A block comment without code before it and an annotation do not end the top of a file; the code
before a block comment does. -/
theorem headers_first_lua :
    let before := ["-- license 1", "--[[ a ]]", "---@b"].map String.toList
    let line := "  -- Copyright 2".toList
    let after := ["c = 1 --[[ d ]]", "-- license 3"].map String.toList
    let lines := before ++ line :: after
    let records := Rules.lua.classify lines
    let shown := emitted records
    shown.map Prod.snd = ["-- license 1", "---@b", "  -- Copyright 2", "c = 1"].map String.toList ∧
      (∃ (record : Record) (rest : List Record),
        Rules.lua.classify lines = Rules.lua.classify before ++ record :: rest ∧
        record.index = before.length + 1 ∧ record.text = line ∧
        (record.category = .license ↔
          Rules.lua.Licensed (Classifier.run { rules := Rules.lua } before).2.state line ∧
            ∀ earlier ∈ Rules.lua.classify before, earlier.Codeless)) ∧
      (shown.Pairwise fun earlier later =>
        later.1.category = .license → earlier.1.Codeless) ∧
      shown.filter (fun entry => entry.1.category = .license) =
        (records.filter fun record => record.category = .license).map fun record =>
          (record, record.text) := by
  intro before line after lines records shown
  obtain ⟨exactly, -, ordered, verbatim⟩ := headers_first .lua lines
  exact ⟨by decide +kernel, exactly before line after rfl, ordered, verbatim⟩

end LineSieve
