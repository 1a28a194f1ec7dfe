import LineSieve.Proofs.Sieve.OpenCalls
import LineSieve.Proofs.Sieve.Tally

/- Lines that can be put into a file or taken out of it. A blank line and a plain comment leave the
   state of the classifier alone wherever they stand, so the lines behind them are classified as
   before; only their numbers go up, and with them the start of a call that opens there. -/
namespace LineSieve

set_option linter.unusedSectionVars false

variable {α : Type} [DecidableEq α] [Text.Alphabet α] [Text.LawfulAlphabet α]

/-- A blank line, or a comment of its own that is no annotation and no licence header and neither
opens nor closes a block comment. -/
inductive Rules.Removable (rules : Rules α) (line : List α) : Prop where
  | blank (empty : Text.allBlank line = true)
  | comment (commented : rules.lineComment <+: Text.trim line)
      (unopened : ¬ rules.blockOpen <:+: line) (unclosed : ¬ rules.blockClose <:+: line)
      (unsigned : ¬ rules.sigil <+: Text.trim line)
      (plain : rules.license.search (Text.trim line) = false)

/-- The number of a line when another one is put in behind the first `n` lines. -/
def moved (n line : Nat) : Nat := if line ≤ n then line else line + 1

def OpenCall.moved (n : Nat) (call : OpenCall) : OpenCall :=
  { call with start := LineSieve.moved n call.start }

def State.moved (n : Nat) (state : State) : State :=
  { state with statementStart := LineSieve.moved n state.statementStart }

def Record.later (record : Record α) : Record α := { record with index := record.index + 1 }

def Classifier.moved (n : Nat) (classifier : Classifier α) : Classifier α :=
  { classifier with state := classifier.state.moved n, index := classifier.index + 1 }

namespace State

@[simp] theorem moved_openCall (n : Nat) (state : State) :
    (state.moved n).openCall = state.openCall.map (OpenCall.moved n) := by
  cases running : state.inForbidden <;> simp [openCall, moved, running, OpenCall.moved]

theorem moved_openCall_none {state : State} (n : Nat) (free : state.openCall = none) :
    (state.moved n).openCall = none := by
  rw [moved_openCall, free]
  rfl

theorem moved_openCall_some {state : State} {call : OpenCall} (n : Nat)
    (running : state.openCall = some call) :
    (state.moved n).openCall = some (call.moved n) := by
  rw [moved_openCall, running]
  rfl

theorem moved_withCall (n : Nat) (state : State) (call : Option OpenCall) :
    (state.withCall call).moved n = (state.moved n).withCall (call.map (OpenCall.moved n)) := by
  cases call with
  | none => simp [moved, withCall, LineSieve.moved]
  | some call => rfl

@[simp] theorem moved_unclosed? (n : Nat) (state : State) :
    (state.moved n).unclosed? = state.unclosed?.map (LineSieve.moved n) := by
  cases running : state.inForbidden <;> simp [unclosed?, moved, running]

theorem moved_early {state : State} {n : Nat} (settled : state.Settled)
    (early : ∀ start, state.unclosed? = some start → start ≤ n) : state.moved n = state := by
  have start : state.statementStart ≤ n := by
    cases running : state.inForbidden with
    | true => exact early _ (by simp [unclosed?, running])
    | false => simp [settled running]
  rw [moved, LineSieve.moved, if_pos start]

end State

theorem OpenCall.advance_moved (n start depth : Nat) (counted : List α) :
    OpenCall.advance (LineSieve.moved n start) depth counted =
      (OpenCall.advance start depth counted).map (OpenCall.moved n) := by
  simp only [OpenCall.advance]
  split <;> rfl

namespace Rules

variable {rules : Rules α} {index n : Nat} {state next : State} {text : List α} {record : Record α}

theorem Bare.moved (bare : Bare rules state text) : Bare rules (state.moved n) text :=
  ⟨bare.visible, bare.outside, bare.unmarked, bare.unopened⟩

theorem Opening.moved {front rest : List α} (opening : Opening rules state text front rest) :
    Opening rules (state.moved n) text front rest :=
  ⟨opening.visible, opening.outside, opening.unmarked, opening.opened⟩

theorem CodeLine.moved (line : CodeLine rules state text) : CodeLine rules (state.moved n) text :=
  ⟨line.toBare.moved, line.uncommented, State.moved_openCall_none n line.free, line.unstarted⟩

theorem feedCall_moved (late : n < index) {counted : List α} {fed : Option Category}
    (read : rules.feedCall index state counted = (fed, next)) :
    rules.feedCall (index + 1) (state.moved n) counted = (fed, next.moved n) := by
  have here : LineSieve.moved n index = index + 1 := if_neg (by omega)
  rw [feedCall_iff]
  cases feedCall_iff.mp read with
  | @continued call running =>
    have same := OpenCall.advance_moved n call.start call.depth counted
    have later : Fed rules (index + 1) (state.moved n) counted _ _ :=
      .continued (State.moved_openCall_some n running)
    rwa [OpenCall.moved, same, ← State.moved_withCall] at later
  | started free starts =>
    have same := OpenCall.advance_moved n index 0 counted
    rw [here] at same
    have later : Fed rules (index + 1) (state.moved n) counted _ _ :=
      .started (State.moved_openCall_none n free) starts
    rwa [same, ← State.moved_withCall] at later
  | idle free unstarted => exact .idle (State.moved_openCall_none n free) unstarted

/-- Step: with its number and that of an earlier start moved, a line is classified as before. -/
theorem Classified.moved (late : n < index)
    (step : Classified rules index state text record next) :
    Classified rules (index + 1) (state.moved n) text record.later (next.moved n) := by
  cases step with
  | blank empty => exact .blank empty
  | body visible inside unclosed => exact .body visible inside unclosed
  | leave visible inside closed free =>
    exact .leave visible inside closed (State.moved_openCall_none n free)
  | leaveInCall visible inside closed running next advanced =>
    have within : (state.moved n).inBlock = true := inside
    refine .leaveInCall visible within closed (State.moved_openCall_some n running) (next.moved n) ?_
    rw [advanced, State.moved_withCall, OpenCall.moved, OpenCall.advance_moved]
    rfl
  | annotated visible outside marked => exact .annotated visible outside marked
  | aroundCall opening closed fed =>
    exact .aroundCall opening.moved closed (feedCall_moved late fed)
  | aroundCode opening closed free unstarted =>
    exact .aroundCode opening.moved closed (State.moved_openCall_none n free) unstarted
  | enter opening unclosed read =>
    exact .enter opening.moved unclosed (feedCall_moved late read)
  | license bare commented early licensed => exact .license bare.moved commented early licensed
  | comment bare commented plain => exact .comment bare.moved commented plain
  | call bare uncommented fed =>
    exact .call bare.moved uncommented (feedCall_moved late fed)
  | code line clear => exact .code line.moved clear
  | inline line cut marked => exact .inline line.moved cut marked
  | guarded line cut unmarked url => exact .guarded line.moved cut unmarked url
  | cut line cut unmarked plain => exact .cut line.moved cut unmarked plain

end Rules

theorem Classifier.run_moved {n : Nat} (classifier : Classifier α) (late : n < classifier.index)
    (lines : List (List α)) :
    (classifier.moved n).run lines =
      ((classifier.run lines).1.map Record.later, (classifier.run lines).2.moved n) := by
  induction lines generalizing classifier with
  | nil => rfl
  | cons line lines ih =>
    have step := Rules.classifyLine_eq ((classifier.next_classified line).moved late)
    have rest := ih (classifier.next line).2 (by rw [next_index]; omega)
    have first : (classifier.moved n).next line =
        ((classifier.next line).1.later, (classifier.next line).2.moved n) := by
      simp only [next, moved] at step ⊢
      rw [step]
    rw [run_cons, run_cons, first, rest]
    rfl

theorem run_starts_early (rules : Rules α) (lines : List (List α)) :
    ∀ start, (Classifier.run { rules } lines).2.state.unclosed? = some start →
      start ≤ lines.length := by
  intro start unclosed
  obtain ⟨before, line, after, rfl, rfl, -⟩ := run_unclosed unclosed
  simp

theorem Rules.Removable.idle {rules : Rules α} {line : List α} (removable : rules.Removable line)
    (index : Nat) (state : State) : ∃ record, rules.Classified index state line record state ∧
      record.share? = some (if Text.allBlank line then .blank else .comment) ∧
      record.output? = none := by
  cases visible : Text.allBlank line with
  | true => exact ⟨_, .blank (Text.trim_eq_nil.mpr visible), rfl, rfl⟩
  | false =>
    have shown : Text.trim line ≠ [] := by
      rw [ne_eq, Text.trim_eq_nil, visible]
      decide
    cases removable with
    | blank empty =>
      rw [empty] at visible
      cases visible
    | comment commented unopened unclosed unsigned plain =>
      cases inside : state.inBlock with
      | true => exact ⟨_, .body shown inside (Text.cut?_none.mpr unclosed), rfl, rfl⟩
      | false =>
        have bare : Bare rules state line :=
          .of_unsigned shown inside (Text.cut?_none.mpr unopened) unsigned
        exact ⟨_, .comment bare (List.isPrefixOf_iff_prefix.mpr commented) (Or.inr plain), rfl, rfl⟩

theorem run_inserted {rules : Rules α} (before : List (List α)) {line : List α}
    (after : List (List α)) (removable : rules.Removable line) :
    ∃ (record : Record α) (rest : List (Record α)),
      rules.classify (before ++ line :: after) =
        rules.classify before ++ record :: rest.map Record.later ∧
      rules.classify (before ++ after) = rules.classify before ++ rest ∧
      record.share? = some (if Text.allBlank line then .blank else .comment) ∧
      record.output? = none ∧
      (Classifier.run { rules } (before ++ line :: after)).2.state =
        (Classifier.run { rules } (before ++ after)).2.state.moved before.length := by
  let middle := (Classifier.run { rules } before).2
  have reached : middle.index = before.length + 1 :=
    (Classifier.run_index _ _).trans (Nat.add_comm _ _)
  obtain ⟨record, step, share, output⟩ := removable.idle middle.index middle.state
  have same : middle.state.moved before.length = middle.state :=
    State.moved_early (Classifier.run_settled (fun _ => ⟨rfl, rfl⟩) before)
      (run_starts_early rules before)
  have skipped : middle.next line = (record, middle.moved before.length) := by
    have kept : middle.rules = rules := Classifier.run_rules _ _
    rw [Classifier.next, Classifier.moved, same, kept, Rules.classifyLine_eq step]
  have rest := middle.run_moved (n := before.length) (by omega) after
  refine ⟨record, (middle.run after).1, ?_, ?_, share, output, ?_⟩
  · rw [rules.classify_split]
    change _ ++ (middle.next line).1 :: ((middle.next line).2.run after).1 = _
    rw [skipped, rest]
  · rw [Rules.classify, Classifier.run_append]
    rfl
  · rw [Classifier.run_append, Classifier.run_append, Classifier.run_cons]
    change ((middle.next line).2.run after).2.state = _
    rw [skipped, rest]
    rfl

theorem keptLines_later (records : List (Record α)) :
    keptLines (records.map Record.later) = keptLines records := by
  rw [keptLines_eq, List.filterMap_map]
  rfl

namespace LineCounts

theorem held_append (share : Share) (first second : List (Record α)) :
    held share (first ++ second) = held share first + held share second :=
  List.countP_append

theorem held_later (share : Share) (records : List (Record α)) :
    held share (records.map Record.later) = held share records :=
  List.countP_map

end LineCounts

/-- Removable lines are inert. Put in anywhere, such a line changes nothing that comes out of a
file; the counts differ by one line that is blank or a comment; and the same call is reported as
unclosed, by a line number that is one higher if the call starts behind the line. -/
theorem removable_inert (rules : Rules α) (before : List (List α)) (line : List α)
    (after : List (List α)) (removable : rules.Removable line) :
    let without := rules.classify (before ++ after)
    let inserted := rules.classify (before ++ line :: after)
    let counts := LineCounts.ofRecords without
    (sieve inserted).lines = (sieve without).lines ∧
    LineCounts.ofRecords inserted =
      (if Text.allBlank line then
        { counts with physical := counts.physical + 1, blank := counts.blank + 1 }
      else { counts with physical := counts.physical + 1, comment := counts.comment + 1 }) ∧
    (Classifier.run { rules } (before ++ line :: after)).2.state.unclosed? =
      (Classifier.run { rules } (before ++ after)).2.state.unclosed?.map fun start =>
        if start ≤ before.length then start else start + 1 := by
  intro without inserted counts
  obtain ⟨record, rest, listed, plain, share, output, state⟩ :=
    run_inserted before after removable
  refine ⟨?_, ?_, ?_⟩
  · rw [sieve_lines, sieve_lines, listed, plain, keptLines_append, keptLines_append, keptLines_cons,
      output, keptLines_later]
    rfl
  · have held : ∀ part, LineCounts.held part inserted = LineCounts.held part without +
        if record.share? = some part then 1 else 0 := by
      intro part
      simp only [inserted, without, listed, plain, LineCounts.held_append, LineCounts.held_cons,
        LineCounts.held_later]
      omega
    have length : inserted.length = without.length + 1 := by
      simp only [inserted, without, listed, plain, List.length_append, List.length_cons,
        List.length_map]
      omega
    simp only [counts, LineCounts.ofRecords_eq, held, length, share]
    split <;> simp [Int64.ofNat_add]
  · rw [state, State.moved_unclosed?]
    rfl

theorem removable_inert_lua :
    let before := ["x = 1", "print("].map String.toList
    let line := "  -- a ( comment".toList
    let after := [")", "--[[", "]]", "print(1,"].map String.toList
    let without := Rules.lua.classify (before ++ after)
    let inserted := Rules.lua.classify (before ++ line :: after)
    let counts := LineCounts.ofRecords without
    Rules.lua.Removable line ∧
      (Classifier.run { rules := .lua } (before ++ line :: after)).2.state.unclosed? = some 7 ∧
      (sieve inserted).lines = (sieve without).lines ∧
      LineCounts.ofRecords inserted =
        (if Text.allBlank line then
          { counts with physical := counts.physical + 1, blank := counts.blank + 1 }
        else { counts with physical := counts.physical + 1, comment := counts.comment + 1 }) ∧
      (Classifier.run { rules := .lua } (before ++ line :: after)).2.state.unclosed? =
        (Classifier.run { rules := .lua } (before ++ after)).2.state.unclosed?.map fun start =>
          if start ≤ before.length then start else start + 1 := by
  intro before line after without inserted counts
  have checked : Rules.lua.lineComment <+: Text.trim line ∧ ¬ Rules.lua.blockOpen <:+: line ∧
      ¬ Rules.lua.blockClose <:+: line ∧ ¬ Rules.lua.sigil <+: Text.trim line ∧
      Rules.lua.license.search (Text.trim line) = false ∧
      (Classifier.run { rules := .lua } (before ++ line :: after)).2.state.unclosed? = some 7 := by
    decide +kernel
  obtain ⟨commented, unopened, unclosed, unsigned, plain, reported⟩ := checked
  have removable : Rules.lua.Removable line := .comment commented unopened unclosed unsigned plain
  exact ⟨removable, reported, removable_inert .lua before line after removable⟩

end LineSieve
