import LineSieve.Sieve
import LineSieve.Proofs.Classifier.Run

/- What sieving keeps of a classified file. Every line that is kept has a character that is not
   blank, so there are no blank lines to trim at the ends. -/
namespace LineSieve

set_option linter.unusedSectionVars false

variable {α : Type} [DecidableEq α] [Text.Alphabet α] [Text.LawfulAlphabet α]

/-- The line that comes out of a record, if one does. -/
def Record.output? (record : Record α) : Option (List α) :=
  if record.decide.2 = .dropped then none else some record.decide.1

theorem keptLines_eq (records : List (Record α)) :
    keptLines records = records.filterMap Record.output? := rfl

theorem keptLines_append (first second : List (Record α)) :
    keptLines (first ++ second) = keptLines first ++ keptLines second := by
  rw [keptLines_eq, List.filterMap_append]
  rfl

theorem keptLines_cons (record : Record α) (records : List (Record α)) :
    keptLines (record :: records) = record.output?.toList ++ keptLines records := by
  rw [keptLines_eq, List.filterMap_cons]
  split
  · rename_i dropped
    rw [dropped]
    rfl
  · rename_i line output
    rw [output]
    rfl

theorem codeText_whole {record : Record α} (uncut : record.commentAt = -1) :
    record.codeText = Text.trimRight record.text := by
  rw [Record.codeText, uncut, if_pos (by decide)]

theorem codeText_cut {record : Record α} {front rest : List α}
    (at_front : record.commentAt = Text.byteLength front) (split : record.text = front ++ rest) :
    record.codeText = Text.trimRight front := by
  rw [Record.codeText, at_front, if_neg (by omega), Int.toNat_natCast, split,
    Text.takeBytes_byteLength]

theorem codeText_at_start {record : Record α} (start : record.commentAt = 0) :
    record.codeText = [] := by
  have front : record.commentAt = Text.byteLength ([] : List α) := start
  rw [codeText_cut front rfl, Text.trimRight_nil]

namespace Rules

theorem withoutComment_initial (rules : Rules α) (text : List α) :
    rules.withoutComment text <+: text :=
  Text.before_initial rules.lineComment text

theorem codeText_withoutComment (rules : Rules α) {record : Record α}
    (at_comment : record.commentAt = Text.byteLength (rules.withoutComment record.text)) :
    record.codeText = Text.trimRight (rules.withoutComment record.text) := by
  obtain ⟨rest, split⟩ := rules.withoutComment_initial record.text
  exact codeText_cut at_comment split.symm

theorem feedCall_category {rules : Rules α} {index : Nat} {state next : State} {counted : List α}
    {category : Category} (fed : rules.feedCall index state counted = (some category, next)) :
    category = .forbidden ∨ category = .forbiddenContinuation := by
  cases feedCall_iff.mp fed with
  | continued running => exact .inr rfl
  | started free starts => exact .inl rfl

theorem feedCall_codeSeen {rules : Rules α} {index : Nat} {state next : State} {counted : List α}
    {fed : Option Category} (read : rules.feedCall index state counted = (fed, next)) :
    next.codeSeen = state.codeSeen := by
  cases feedCall_iff.mp read with
  | continued | started => exact State.codeSeen_withCall _ _
  | idle => rfl

theorem output?_call {record : Record α}
    (forbidden : record.category = .forbidden ∨ record.category = .forbiddenContinuation) :
    record.output? = none := by
  rcases forbidden with same | same <;> simp [Record.output?, Record.decide, same]

/-- The ways in which a line of a file comes out: as it is, or as the code before its comment. -/
inductive Kept (rules : Rules α) (state : State) (text : List α) : List α → State → Prop where
  | annotated (visible : Text.trim text ≠ [])
      (marked : rules.isAnnotationBlock (Text.trim text) = true) : Kept rules state text text state
  | license (bare : Bare rules state text)
      (commented : rules.lineComment.isPrefixOf (Text.trim text) = true)
      (early : state.codeSeen = false) (licensed : rules.license.search (Text.trim text) = true) :
      Kept rules state text text state
  | inline {code rest : List α} (line : CodeLine rules state text)
      (cut : Text.cut? rules.lineComment text = some (code, rest))
      (marked : rules.sigil.isPrefixOf (rules.lineComment ++ rest) = true) :
      Kept rules state text text { state with codeSeen := true }
  | guarded {code rest : List α} (line : CodeLine rules state text)
      (cut : Text.cut? rules.lineComment text = some (code, rest))
      (unmarked : rules.sigil.isPrefixOf (rules.lineComment ++ rest) = false)
      (url : rules.url.search text = true) :
      Kept rules state text text { state with codeSeen := true }
  | code {counted : List α} (unmarked : rules.isAnnotationBlock (Text.trim text) = false)
      (visible : Text.trimRight (rules.withoutComment text) ≠ [])
      (lead : rules.withoutComment text <+: counted)
      (unstarted : rules.startsCall counted = false) :
      Kept rules state text (Text.trimRight (rules.withoutComment text))
        { state with codeSeen := true }

theorem output?_closed {record : Record α} (closed : record.category = .blockClose)
    (start : record.commentAt = 0) : record.output? = none := by
  simp [Record.output?, Record.decide, closed, codeText_at_start start]

theorem output?_code {record : Record α} {line : List α}
    (shape : record.category = .code ∨ record.category = .blockClose)
    (unguarded : record.urlGuarded = false) (output : record.output? = some line) :
    record.codeText ≠ [] ∧ line = record.codeText := by
  unfold Record.output? Record.decide at output
  rcases shape with same | same <;> rw [same] at output <;> grind

theorem withoutComment_uncut {rules : Rules α} {text : List α}
    (clear : Text.cut? rules.lineComment text = none) : rules.withoutComment text = text := by
  rw [withoutComment, Text.before, clear]

theorem withoutComment_cut {rules : Rules α} {text code rest : List α}
    (cut : Text.cut? rules.lineComment text = some (code, rest)) :
    rules.withoutComment text = code := by
  rw [withoutComment, Text.before, cut]

theorem withoutComment_around (rules : Rules α) (text front after : List α) :
    rules.withoutComment text <+: rules.around text front after := by
  unfold around
  split
  · exact List.prefix_append _ _
  · exact List.prefix_rfl

theorem Classified.kept {rules : Rules α} {index : Nat} {state next : State} {text line : List α}
    {record : Record α} (step : Classified rules index state text record next)
    (output : record.output? = some line) : Kept rules state text line next := by
  cases step with
  | blank | body | comment | enter => cases output
  | leave | leaveInCall =>
    rw [output?_closed rfl rfl] at output
    cases output
  | annotated visible outside marked =>
    obtain rfl := Option.some.inj output
    exact .annotated visible marked
  | aroundCall opening closed fed =>
    rw [output?_call (feedCall_category fed)] at output
    cases output
  | aroundCode opening closed free unstarted =>
    obtain ⟨visible, rfl⟩ := output?_code (Or.inr rfl) rfl output
    rw [rules.codeText_withoutComment rfl] at visible ⊢
    have shown : Text.allBlank (rules.withoutComment text) = false := by
      rw [Bool.eq_false_iff]
      exact fun blank => visible (Text.trimRight_eq_nil.mpr blank)
    rw [shown, Bool.not_false, Bool.or_true]
    exact .code opening.unmarked visible (rules.withoutComment_around text _ _) unstarted
  | license bare commented early licensed =>
    obtain rfl := Option.some.inj output
    exact .license bare commented early licensed
  | call bare uncommented fed =>
    rw [output?_call (feedCall_category fed)] at output
    cases output
  | code line clear =>
    obtain ⟨visible, rfl⟩ := output?_code (Or.inl rfl) rfl output
    have shown : Text.trimRight text = Text.trimRight (rules.withoutComment text) := by
      rw [withoutComment_uncut clear]
    rw [codeText_whole rfl, shown] at visible ⊢
    exact .code line.unmarked visible (rules.withoutComment_initial text) line.unstarted
  | inline line cut marked =>
    obtain rfl := Option.some.inj output
    exact .inline line cut marked
  | guarded line cut unmarked url =>
    obtain rfl := Option.some.inj output
    exact .guarded line cut unmarked url
  | cut line cut unmarked plain =>
    obtain ⟨visible, rfl⟩ := output?_code (Or.inl rfl) rfl output
    have split := Text.cut?_split cut
    rw [codeText_cut rfl split, ← withoutComment_cut cut] at visible ⊢
    exact .code line.unmarked visible (rules.withoutComment_initial text) line.unstarted

theorem Classified.silent_inside {rules : Rules α} {index : Nat} {state next : State}
    {text : List α} {record : Record α} (step : Classified rules index state text record next)
    (inside : state.inBlock = true) : record.output? = none := by
  have not_outside : state.inBlock ≠ false := by
    rw [inside]
    decide
  cases step with
  | blank | body | comment | enter => rfl
  | leave | leaveInCall => exact output?_closed rfl rfl
  | annotated visible outside marked => exact absurd outside not_outside
  | aroundCall opening | aroundCode opening => exact absurd opening.outside not_outside
  | license bare | call bare => exact absurd bare.outside not_outside
  | code line | inline line | guarded line | cut line => exact absurd line.outside not_outside

theorem Kept.visible {rules : Rules α} {state next : State} {text line : List α}
    (kept : Kept rules state text line next) : Text.allBlank line = false := by
  rw [Bool.eq_false_iff]
  intro blank
  cases kept with
  | annotated visible marked => exact visible (Text.trim_eq_nil.mpr blank)
  | license bare commented early licensed => exact bare.visible (Text.trim_eq_nil.mpr blank)
  | inline line cut marked => exact line.visible (Text.trim_eq_nil.mpr blank)
  | guarded line cut unmarked url => exact line.visible (Text.trim_eq_nil.mpr blank)
  | code unmarked visible lead unstarted =>
    rw [← Text.trimRight_idem] at visible
    exact visible (Text.trimRight_eq_nil.mpr blank)

theorem Kept.initial {rules : Rules α} {state next : State} {text line : List α}
    (kept : Kept rules state text line next) : line <+: text := by
  cases kept with
  | annotated | license | inline | guarded => exact List.prefix_rfl
  | code unmarked visible lead unstarted =>
    exact (Text.trimRight_initial _).trans (rules.withoutComment_initial text)

theorem Classified.codeSeen_mono {rules : Rules α} {index : Nat} {state next : State}
    {text : List α} {record : Record α} (step : Classified rules index state text record next)
    (seen : state.codeSeen = true) : next.codeSeen = true := by
  cases step with
  | blank | body | leave | annotated | license | comment => exact seen
  | leaveInCall visible inside closed running next advanced =>
    rw [advanced, State.codeSeen_withCall]
    exact seen
  | aroundCall opening closed fed => rw [feedCall_codeSeen fed]; exact seen
  | aroundCode => simp [seen]
  | enter opening unclosed read => exact (feedCall_codeSeen read).trans seen
  | call bare uncommented fed => rw [feedCall_codeSeen fed]; exact seen
  | code | inline | guarded | cut => rfl

end Rules

theorem dropWhile_none {α : Type} {p : α → Bool} {l : List α} (none : ∀ a ∈ l, p a = false) :
    l.dropWhile p = l := by
  cases l with
  | nil => rfl
  | cons a l => rw [List.dropWhile_cons_of_neg (by simp [none a])]

theorem trimBlankEdges_visible {lines : List (List α)}
    (visible : ∀ line ∈ lines, Text.allBlank line = false) : trimBlankEdges lines = lines := by
  unfold trimBlankEdges
  rw [dropWhile_none visible, dropWhile_none, List.reverse_reverse]
  exact fun line listed => visible line (List.mem_reverse.mp listed)

theorem keptLines_visible (classifier : Classifier α) (lines : List (List α)) :
    ∀ line ∈ keptLines (classifier.run lines).1, Text.allBlank line = false := by
  intro line listed
  rw [keptLines_eq] at listed
  obtain ⟨record, member, output⟩ := List.mem_filterMap.mp listed
  obtain ⟨index, state, next, text, -, step⟩ := Classifier.run_classified member
  exact (step.kept output).visible

theorem keptLines_initial {classifier : Classifier α} {lines : List (List α)} {line : List α}
    (listed : line ∈ keptLines (classifier.run lines).1) : ∃ text ∈ lines, line <+: text := by
  rw [keptLines_eq] at listed
  obtain ⟨record, member, output⟩ := List.mem_filterMap.mp listed
  obtain ⟨index, state, next, text, held, step⟩ := Classifier.run_classified member
  exact ⟨text, held, (step.kept output).initial⟩

theorem sieve_lines (rules : Rules α) (lines : List (List α)) :
    (sieve (rules.classify lines)).lines = keptLines (rules.classify lines) :=
  trimBlankEdges_visible (keptLines_visible { rules } lines)

end LineSieve
