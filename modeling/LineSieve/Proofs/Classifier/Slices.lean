import LineSieve.Proofs.Acceptance
import LineSieve.Proofs.Classifier.Run
import LineSieve.Proofs.Sieve.Kept
import LineSieve.Proofs.Text.Glyphs

/- The classifier by byte offsets. Every search gives an offset and every part of a line is sliced
   off at an offset, which fails outside of the line. Under rules that compile no slice fails, and
   the outcome is that of the classifier on lists. No slice is inside of a character either, if the
   markers are text; a marker that is a part of a character can be found in one. -/
namespace LineSieve

set_option linter.unusedSectionVars false

section Sliced

variable {α : Type} [DecidableEq α] [Text.Alphabet α]
  (slice : Nat → List α → Option (List α × List α))

/-- The code of a line, sliced off at the offset of its comment. -/
def Record.codeTextAt? (record : Record α) : Option (List α) :=
  if record.commentAt < 0 then some (Text.trimRight record.text)
  else (slice record.commentAt.toNat record.text).map fun halves => Text.trimRight halves.1

namespace Rules

def withoutCommentAt? (rules : Rules α) (text : List α) : Option (List α) :=
  match Text.offset? rules.lineComment text with
  | some marker => (slice marker text).map Prod.fst
  | none => some text

def isAnnotationBlockAt? (rules : Rules α) (trimmed : List α) : Option Bool :=
  if Text.startsWith rules.sigil trimmed then some true
  else if Text.startsWith rules.blockOpen trimmed then
    (slice (Text.byteLength rules.blockOpen) trimmed).map fun halves =>
      Text.startsWith rules.sigil (halves.2.dropWhile isGap)
  else some false

def aroundAt? (rules : Rules α) (text code : List α) (first : Bool) (after : Nat) :
    Option (List α) :=
  if first then do
    let (_, rest) ← slice after text
    return code ++ (← rules.withoutCommentAt? slice rest)
  else return code

def classifyOpenerAt? (rules : Rules α) (index : Nat) (state : State) (text : List α)
    (opener : Nat) : Option (Record α × State) := do
  let marker ← Text.offset? rules.lineComment text
  let (code, _) ← slice marker text
  let behind := opener + Text.byteLength rules.blockOpen
  let (_, rest) ← slice behind text
  match Text.offset? rules.blockClose rest with
  | some closer =>
    let after := behind + closer + Text.byteLength rules.blockClose
    let counted ← rules.aroundAt? slice text code (marker == opener) after
    match rules.feedCall index state counted with
    | (some category, next) =>
      return ({ index, text, category, depth := next.parenDepth }, next)
    | (none, next) =>
      return ({ index, text, category := .blockClose, commentAt := marker },
        { next with codeSeen := next.codeSeen || !Text.allBlank code })
  | none =>
    let (fed, next) := rules.feedCall index state code
    return ({ index, text, category := .blockOpen,
              depth := if fed.isSome then next.parenDepth else 0 },
      { next with inBlock := true })

def classifyInBlockAt? (rules : Rules α) (index : Nat) (state : State) (text : List α) :
    Option (Record α × State) :=
  match Text.offset? rules.blockClose text with
  | some closer =>
    let closed := { state with inBlock := false }
    if state.inForbidden then do
      let (_, after) ← slice (closer + Text.byteLength rules.blockClose) text
      let (_, next) := rules.feedCall index closed (← rules.withoutCommentAt? slice after)
      return ({ index, text, category := .blockClose, commentAt := 0, depth := next.parenDepth },
        next)
    else return ({ index, text, category := .blockClose, commentAt := 0 }, closed)
  | none => return ({ index, text, category := .blockBody }, state)

def classifyCodeAt? (rules : Rules α) (index : Nat) (state : State) (text : List α) :
    Option (Record α × State) :=
  match rules.feedCall index state text with
  | (some category, next) => return ({ index, text, category, depth := next.parenDepth }, next)
  | (none, next) =>
    let next := { next with codeSeen := true }
    match Text.offset? rules.lineComment text with
    | none => return ({ index, text, category := .code }, next)
    | some marker => do
      let (_, comment) ← slice marker text
      if Text.startsWith rules.sigil comment then
        return ({ index, text, category := .inlineAnnotated }, next)
      else if rules.url.search text then
        return ({ index, text, category := .code, urlGuarded := true }, next)
      else return ({ index, text, category := .code, commentAt := marker }, next)

def classifyLineAt? (rules : Rules α) (index : Nat) (state : State) (text : List α) :
    Option (Record α × State) :=
  let trimmed := Text.trim text
  if trimmed.isEmpty then return ({ index, text, category := .blank }, state)
  else if state.inBlock then rules.classifyInBlockAt? slice index state text
  else
    match Text.offset? rules.blockOpen text with
    | some opener => do
      if ← rules.isAnnotationBlockAt? slice trimmed then
        return ({ index, text, category := .annotated }, state)
      else rules.classifyOpenerAt? slice index state text opener
    | none =>
      if Text.startsWith rules.sigil trimmed then
        return ({ index, text, category := .annotated }, state)
      else if Text.startsWith rules.lineComment trimmed then
        if !state.codeSeen && rules.license.search trimmed then
          return ({ index, text, category := .license }, state)
        else return ({ index, text, category := .comment }, state)
      else rules.classifyCodeAt? slice index state text

end Rules

def Classifier.runAt? (classifier : Classifier α) :
    List (List α) → Option (List (Record α) × Classifier α)
  | [] => some ([], classifier)
  | line :: lines => do
    let (record, state) ←
      classifier.rules.classifyLineAt? slice classifier.index classifier.state line
    let (records, last) ←
      Classifier.runAt? { classifier with state, index := classifier.index + 1 } lines
    return (record :: records, last)

/-- The lines can be classified, and their code be taken, with every part sliced off. -/
def Rules.Sliced (rules : Rules α) (lines : List (List α)) : Prop :=
  Classifier.runAt? slice { rules } lines = some (Classifier.run { rules } lines) ∧
    ∀ record ∈ rules.classify lines, record.codeTextAt? slice = some record.codeText

end Sliced

namespace Rules

variable {μ α : Type} [Spelling μ α] [DecidableEq α] [Text.Alphabet α] [Text.LawfulAlphabet α]
  [Text.LawfulBytes α] {slice : Nat → List α → Option (List α × List α)}
  {whole : List α → Prop} {spec : RuleSpec μ}
  {rules : Rules α} {index : Nat} {state : State} {text : List α}

/-- The markers that a line is sliced at are whole. -/
structure Whole (rules : Rules α) (whole : List α → Prop) : Prop where
  lineComment : whole rules.lineComment
  blockOpen : whole rules.blockOpen
  blockClose : whole rules.blockClose

theorem withoutCommentAt?_eq (slices : Text.Slices slice whole) (accepted : spec.Accepted rules)
    (marks : rules.Whole whole) (clean : whole text) :
    rules.withoutCommentAt? slice text = some (rules.withoutComment text) := by
  have proper := accepted.marker_proper
  unfold withoutCommentAt?
  cases cut : Text.cut? rules.lineComment text with
  | none => simp only [Text.offset?_of_none proper cut, withoutComment_uncut cut]
  | some halves =>
    rw [Text.offset?_of_cut? proper cut, withoutComment_cut cut]
    simp only
    rw [slices.at_cut proper marks.lineComment clean cut]
    rfl

theorem isAnnotationBlockAt?_eq (slices : Text.Slices slice whole) (accepted : spec.Accepted rules)
    (marks : rules.Whole whole) {trimmed : List α} (clean : whole trimmed) :
    rules.isAnnotationBlockAt? slice trimmed = some (rules.isAnnotationBlock trimmed) := by
  unfold isAnnotationBlockAt? isAnnotationBlock
  simp only [Text.startsWith_eq]
  cases rules.sigil.isPrefixOf trimmed with
  | true => rfl
  | false =>
    rw [← List.isSome_isPrefixOf?_eq_isPrefixOf rules.blockOpen]
    cases opened : rules.blockOpen.isPrefixOf? trimmed with
    | none => simp
    | some inner =>
      obtain rfl := List.isPrefixOf?_eq_some_iff_append_eq.mp opened
      have here := Text.cut?_here rules.blockOpen inner
      rw [slices.apart marks.blockOpen
        (slices.halves accepted.opener_proper marks.blockOpen clean here).2]
      simp

theorem classifyOpenerAt?_eq (slices : Text.Slices slice whole) (accepted : spec.Accepted rules)
    (marks : rules.Whole whole) (clean : whole text) {front rest : List α}
    (opened : Text.cut? rules.blockOpen text = some (front, rest)) :
    rules.classifyOpenerAt? slice index state text (Text.byteLength front) =
      some (rules.classifyOpener index state text front rest) := by
  have split := Text.cut?_split opened
  obtain ⟨code, comment, cut⟩ := accepted.marked_of_opened opened
  have marker := Text.offset?_of_cut? accepted.marker_proper cut
  have lead := slices.at_cut accepted.marker_proper marks.lineComment clean cut
  have tail : slice (Text.byteLength front + Text.byteLength rules.blockOpen) text =
      some (front ++ rules.blockOpen, rest) :=
    slices.behind_cut accepted.opener_proper marks.blockOpen clean opened
  have here : Text.byteLength code = Text.byteLength front ↔ code.length = front.length :=
    Text.byteLength_eq_iff ⟨_, (Text.cut?_split cut).symm⟩ ⟨_, split.symm⟩
  unfold classifyOpenerAt? classifyOpener
  simp only [marker, lead, tail, Option.bind_eq_bind, Option.bind_some, withoutComment_cut cut]
  obtain ⟨before, behind⟩ := slices.halves accepted.opener_proper marks.blockOpen clean opened
  cases closed : Text.cut? rules.blockClose rest with
  | none =>
    simp only [Text.offset?_of_none accepted.closer_proper closed]
    rfl
  | some halves =>
    obtain ⟨inner, after⟩ := halves
    obtain ⟨within, outside⟩ := slices.halves accepted.closer_proper marks.blockClose behind closed
    have last : slice (Text.byteLength front + Text.byteLength rules.blockOpen +
        Text.byteLength inner + Text.byteLength rules.blockClose) text =
          some (front ++ rules.blockOpen ++ inner ++ rules.blockClose, after) := by
      have lead := slices.append (slices.append (slices.append before marks.blockOpen) within)
        marks.blockClose
      have found := slices.apart lead outside
      rw [split, Text.cut?_split closed]
      simpa only [Text.byteLength_append, List.append_assoc, Nat.add_assoc] using found
    have counted : rules.aroundAt? slice text code (Text.byteLength code == Text.byteLength front)
        (Text.byteLength front + Text.byteLength rules.blockOpen + Text.byteLength inner +
          Text.byteLength rules.blockClose) =
        some (if code.length = front.length then code ++ rules.withoutComment after else code) := by
      unfold aroundAt?
      simp only [beq_iff_eq, here, last, withoutCommentAt?_eq slices accepted marks outside,
        Option.bind_eq_bind, Option.bind_some, Option.pure_def]
      split <;> rfl
    simp only [Text.offset?_of_cut? accepted.closer_proper closed, counted, Option.bind_some]
    cases rules.feedCall index state _ with
    | mk category next => cases category <;> rfl

theorem classifyInBlockAt?_eq (slices : Text.Slices slice whole) (accepted : spec.Accepted rules)
    (marks : rules.Whole whole) (clean : whole text) :
    rules.classifyInBlockAt? slice index state text =
      some (rules.classifyInBlock index state text) := by
  unfold classifyInBlockAt? classifyInBlock
  cases closed : Text.cut? rules.blockClose text with
  | none =>
    simp only [Text.offset?_of_none accepted.closer_proper closed]
    rfl
  | some halves =>
    obtain ⟨inner, after⟩ := halves
    have last : slice (Text.byteLength inner + Text.byteLength rules.blockClose) text =
        some (inner ++ rules.blockClose, after) :=
      slices.behind_cut accepted.closer_proper marks.blockClose clean closed
    have outside := (slices.halves accepted.closer_proper marks.blockClose clean closed).2
    simp only [Text.offset?_of_cut? accepted.closer_proper closed, last,
      withoutCommentAt?_eq slices accepted marks outside, Option.bind_eq_bind, Option.bind_some]
    split <;> rfl

theorem classifyCodeAt?_eq (slices : Text.Slices slice whole) (accepted : spec.Accepted rules)
    (marks : rules.Whole whole) (clean : whole text) :
    rules.classifyCodeAt? slice index state text = some (rules.classifyCode index state text) := by
  unfold classifyCodeAt? classifyCode
  cases rules.feedCall index state text with
  | mk category next =>
    cases category with
    | some category => rfl
    | none =>
      cases cut : Text.cut? rules.lineComment text with
      | none =>
        simp only [Text.offset?_of_none accepted.marker_proper cut]
        rfl
      | some halves =>
        have lead := slices.at_cut accepted.marker_proper marks.lineComment clean cut
        simp only [Text.offset?_of_cut? accepted.marker_proper cut, lead, Option.bind_eq_bind,
          Option.bind_some, Text.startsWith_eq]
        split
        · rfl
        · split <;> rfl

theorem classifyLineAt?_eq (slices : Text.Slices slice whole) (accepted : spec.Accepted rules)
    (marks : rules.Whole whole) (index : Nat) (state : State) (clean : whole text) :
    rules.classifyLineAt? slice index state text = some (rules.classifyLine index state text) := by
  have trimmed := isAnnotationBlockAt?_eq slices accepted marks (slices.trim clean)
  unfold classifyLineAt? classifyLine
  simp only [Text.startsWith_eq, trimmed, Option.bind_eq_bind, Option.bind_some]
  split
  · rfl
  · split
    · exact classifyInBlockAt?_eq slices accepted marks clean
    · cases opened : Text.cut? rules.blockOpen text with
      | none =>
        simp only [Text.offset?_of_none accepted.opener_proper opened]
        split
        · rfl
        · split
          · split <;> rfl
          · exact classifyCodeAt?_eq slices accepted marks clean
      | some halves =>
        simp only [Text.offset?_of_cut? accepted.opener_proper opened]
        split
        · rfl
        · exact classifyOpenerAt?_eq slices accepted marks clean opened

/-- Where the text that can be removed from a line starts: nowhere, at the start of a line that ends
a block comment from a line before it, or at the first line-comment marker. -/
inductive CommentStart (rules : Rules α) (state : State) (record : Record α) : Prop where
  | absent (uncut : record.commentAt = -1)
  | whole (start : record.commentAt = 0) (inside : state.inBlock = true)
      (closed : rules.blockClose <:+: record.text) (kind : record.category = .blockClose)
  | marker {offset : Nat} (found : Text.offset? rules.lineComment record.text = some offset)
      (start : record.commentAt = offset)

theorem Classified.commentStart (accepted : spec.Accepted rules) {next : State}
    {record : Record α} (step : Classified rules index state text record next) :
    CommentStart rules state record := by
  cases step with
  | blank | body | annotated | aroundCall | enter | license | comment | call | code | inline
    | guarded => exact .absent rfl
  | leave visible inside closed | leaveInCall visible inside closed =>
    have occurs : rules.blockClose <:+: text :=
      ⟨_, _, by rw [List.append_assoc]; exact (Text.cut?_split closed).symm⟩
    exact .whole rfl inside occurs rfl
  | aroundCode opening closed free unstarted =>
    obtain ⟨code, behind, cut⟩ := accepted.marked_of_opened opening.opened
    refine .marker (Text.offset?_of_cut? accepted.marker_proper cut) ?_
    rw [withoutComment_cut cut]
  | cut line cut unmarked plain =>
    exact .marker (Text.offset?_of_cut? accepted.marker_proper cut) rfl

theorem CommentStart.code (accepted : spec.Accepted rules) {record : Record α}
    (start : CommentStart rules state record) :
    record.commentAt = -1 ∨ record.commentAt = 0 ∨
      ∃ code rest, Text.cut? rules.lineComment record.text = some (code, rest) ∧
        record.commentAt = Text.byteLength code := by
  cases start with
  | absent uncut => exact Or.inl uncut
  | whole start => exact Or.inr (Or.inl start)
  | marker found start =>
    rw [Text.offset?_eq accepted.marker_proper] at found
    obtain ⟨⟨code, rest⟩, cut, rfl⟩ := Option.map_eq_some_iff.mp found
    exact Or.inr (Or.inr ⟨code, rest, cut, start⟩)

theorem CommentStart.codeTextAt? (slices : Text.Slices slice whole)
    (accepted : spec.Accepted rules) (marks : rules.Whole whole) {record : Record α}
    (clean : whole record.text) (start : CommentStart rules state record) :
    record.codeTextAt? slice = some record.codeText := by
  rcases start.code accepted with uncut | start | ⟨code, rest, cut, start⟩
  · rw [codeText_whole uncut, Record.codeTextAt?, uncut, if_pos (by decide)]
  · have lead := slices.apart slices.nil clean
    rw [List.nil_append] at lead
    rw [codeText_at_start start, Record.codeTextAt?, start, if_neg (by decide)]
    exact (congrArg (Option.map _) lead).trans (congrArg some Text.trimRight_nil)
  · rw [codeText_cut start (Text.cut?_split cut), Record.codeTextAt?, start, if_neg (by omega),
      Int.toNat_natCast, slices.at_cut accepted.marker_proper marks.lineComment clean cut]
    rfl

theorem CommentStart.codeText_clear (accepted : spec.Accepted rules) {record : Record α}
    (start : CommentStart rules state record) (shown : 0 ≤ record.commentAt) :
    ¬ rules.lineComment <:+: record.codeText := by
  rcases start.code accepted with uncut | start | ⟨code, rest, cut, start⟩
  · rw [uncut] at shown
    exact absurd shown (by decide)
  · rw [codeText_at_start start, List.infix_nil]
    exact accepted.marker_proper
  · rw [codeText_cut start (Text.cut?_split cut)]
    intro occurs
    exact Text.cut?_front_clear accepted.marker_proper cut
      (occurs.trans (Text.trimRight_initial code).isInfix)

theorem runAt?_eq (slices : Text.Slices slice whole) (classifier : Classifier α)
    (accepted : spec.Accepted classifier.rules) (marks : classifier.rules.Whole whole)
    {lines : List (List α)} (clean : ∀ line ∈ lines, whole line) :
    classifier.runAt? slice lines = some (classifier.run lines) := by
  induction lines generalizing classifier with
  | nil => rfl
  | cons line lines ih =>
    obtain ⟨first, later⟩ := List.forall_mem_cons.mp clean
    have rest := ih (classifier.next line).2 accepted marks later
    rw [Classifier.runAt?, classifyLineAt?_eq slices accepted marks _ _ first]
    simp only [Option.bind_eq_bind, Option.bind_some]
    unfold Classifier.next at rest
    rw [rest]
    rfl

theorem sliced (slices : Text.Slices slice whole) (accepted : spec.Accepted rules)
    (marks : rules.Whole whole) {lines : List (List α)} (clean : ∀ line ∈ lines, whole line) :
    rules.Sliced slice lines := by
  refine ⟨runAt?_eq slices { rules } accepted marks clean, fun record listed => ?_⟩
  obtain ⟨index, state, next, line, member, step⟩ := Classifier.run_classified listed
  have here : whole record.text := step.text_eq.symm ▸ clean line member
  exact (step.commentStart accepted).codeTextAt? slices accepted marks here

/-- What the record of each line says of the comment of the line. -/
def Located (rules : Rules α) (lines : List (List α)) : Prop :=
  ∀ before line after, lines = before ++ line :: after →
    ∃ (record : Record α) (rest : List (Record α)),
      rules.classify lines = rules.classify before ++ record :: rest ∧
      record.index = before.length + 1 ∧ record.text = line ∧
      CommentStart rules (Classifier.run { rules } before).2.state record ∧
      (0 ≤ record.commentAt → ¬ rules.lineComment <:+: record.codeText)

theorem located (accepted : spec.Accepted rules) (lines : List (List α)) :
    rules.Located lines := by
  rintro before line after rfl
  have step := rules.classify_step before line
  have start := step.commentStart accepted
  exact ⟨_, _, rules.classify_split before line after, step.index_eq, step.text_eq, start,
    start.codeText_clear accepted⟩

end Rules

/-- What classifying lines of text by offsets comes to. Characters are sliced between characters
only; bytes are too, if the markers that they are sliced at are text, and otherwise anywhere. -/
def AnyRules.Sliced : AnyRules → List (List Char) → Prop
  | .ofText rules, lines => rules.Sliced Text.cutAt? lines ∧ rules.Located lines
  | .ofBytes rules, lines =>
    rules.Sliced Text.cutAt? (lines.map Text.utf8) ∧ rules.Located (lines.map Text.utf8) ∧
      (rules.Whole Text.IsText → rules.Sliced Text.cutText? (lines.map Text.utf8))

/-- Classification does not fail. Under all rules that compile, and for all lines, everything that
is sliced off is within the line, and the outcome is that of the classifier on lists. The removable
text of a line starts nowhere, at the start of a line that ends a block comment of several lines, or
at the first marker; the code has no marker in it. No slice is inside of a character, unless the
line-comment marker, the block opener or the block closer is no text. -/
theorem classification_total (spec : RuleSpec (List UInt8)) (rules : AnyRules)
    (compiled : spec.compileAny = .ok rules) (lines : List (List Char)) : rules.Sliced lines := by
  have anywhere {α : Type} [DecidableEq α] [Text.Alphabet α] (rules : Rules α) :
      rules.Whole fun _ => True := ⟨trivial, trivial, trivial⟩
  unfold RuleSpec.compileAny at compiled
  split at compiled
  · rename_i spelled _
    cases result : spelled.compile with
    | error e => simp [result, Except.map] at compiled
    | ok rules =>
      have accepted := RuleSpec.accepted_of_compile result
      obtain rfl : AnyRules.ofText rules = _ := by simpa [result, Except.map] using compiled
      exact ⟨Rules.sliced Text.slices_anywhere accepted (anywhere rules) fun _ _ => trivial,
        Rules.located accepted lines⟩
  · cases result : spec.compile with
    | error e => simp [result, Except.map] at compiled
    | ok rules =>
      have accepted := RuleSpec.accepted_of_compile result
      obtain rfl : AnyRules.ofBytes rules = _ := by simpa [result, Except.map] using compiled
      refine ⟨Rules.sliced Text.slices_anywhere accepted (anywhere rules) fun _ _ => trivial,
        Rules.located accepted _, fun marks => Rules.sliced Text.slices_text accepted marks ?_⟩
      exact List.forall_mem_map.mpr fun line _ => ⟨line, rfl⟩

theorem RuleSpec.compileAny_bytes {spec : RuleSpec (List UInt8)} {rules : Rules UInt8}
    (stray : spec.inText? = none) (compiled : spec.compile = .ok rules) :
    spec.compileAny = .ok (.ofBytes rules) := by
  rw [compileAny, stray, compiled]
  rfl

/-- Markers of several bytes that overlap: the closer is the line-comment marker, and the opener is
two of them. The sigil is no text. -/
theorem classification_total_overlap :
    let spec : RuleSpec (List UInt8) := { (RuleSpec.ofDialect .lua).inBytes with
      lineComment := Text.utf8 ['é']
      blockOpen := Text.utf8 ['é', 'é']
      blockClose := Text.utf8 ['é']
      sigil := [0x80] }
    let rules := spec.compile.toOption.get (by decide +kernel)
    let lines := ["日本 = 1 é x", "a éé b", "cé éa", "ü éé b é c"].map String.toList
    let stored := lines.map Text.utf8
    spec.compileAny = .ok (.ofBytes rules) ∧ rules.Whole Text.IsText ∧
      (rules.classify stored).map Record.commentAt = [11, -1, 0, 3] ∧
      rules.Sliced Text.cutAt? stored ∧ rules.Located stored ∧
      rules.Sliced Text.cutText? stored := by
  intro spec rules lines stored
  have stray : spec.inText? = none := Option.isNone_iff_eq_none.mp (by decide +kernel)
  have result : spec.compile = .ok rules := ok_of_toOption _
  have compiled := RuleSpec.compileAny_bytes stray result
  have accepted := RuleSpec.accepted_of_compile result
  have marks : rules.Whole Text.IsText :=
    ⟨⟨['é'], accepted.lineComment⟩, ⟨['é', 'é'], accepted.blockOpen⟩, ⟨['é'], accepted.blockClose⟩⟩
  obtain ⟨within, located, between⟩ := classification_total spec _ compiled lines
  exact ⟨compiled, marks, by decide +kernel, within, located, between marks⟩

/-- The marker `80` is found in the em space, which is written `e2 80 83`, and the line is sliced
there. -/
theorem slice_inside_character :
    ¬ ∀ (spec : RuleSpec (List UInt8)) (rules : Rules UInt8),
      spec.compileAny = .ok (.ofBytes rules) → ∀ lines : List (List Char),
        rules.Sliced Text.cutText? (lines.map Text.utf8) := by
  intro whole
  have stray : RuleSpec.stray.inText? = none := Option.isNone_iff_eq_none.mp (by decide +kernel)
  have compiled := RuleSpec.compileAny_bytes stray RuleSpec.compile_stray
  have cut := (whole _ _ compiled [" \u2003x".toList]).1
  exact absurd (congrArg Option.isSome cut) (by decide +kernel)

end LineSieve
