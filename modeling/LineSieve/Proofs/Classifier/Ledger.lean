import LineSieve.Proofs.Sieve.OpenCalls
import Mathlib

/- The ledger of an open forbidden call. The state keeps a start and a depth only; what they mean is
   said by the lines read so far: the depth is the balance of parentheses over the texts that were
   offered to the call since its start, and that balance was positive all the way. -/
namespace LineSieve

set_option linter.unusedSectionVars false

variable {α : Type} [DecidableEq α] [Text.Alphabet α] [Text.LawfulAlphabet α]

def balance (text : List α) : Int := text.count (Text.ofAscii '(') - text.count (Text.ofAscii ')')

namespace Rules

/-- What is offered of a line to a forbidden call: all of a bare line, the code around a block
comment, the code before one that stays open, and the code behind one that ends within a call. -/
def counted? (rules : Rules α) (state : State) (text : List α) : Option (List α) :=
  if Text.trim text = [] then none
  else if state.inBlock then
    match Text.cut? rules.blockClose text with
    | some (_, after) => if state.inForbidden then some (rules.withoutComment after) else none
    | none => none
  else if rules.isAnnotationBlock (Text.trim text) then none
  else
    match Text.cut? rules.blockOpen text with
    | some (front, rest) =>
      match Text.cut? rules.blockClose rest with
      | some (_, after) => some (rules.around text front after)
      | none => some (rules.withoutComment text)
    | none => if rules.lineComment.isPrefixOf (Text.trim text) then none else some text

/-- What becomes of the open call, and of the depth in the record, when `counted` is offered. -/
inductive Posted (rules : Rules α) (index : Nat) (state : State) (counted : List α)
    (record : Record α) (next : State) : Prop where
  | continued {call : OpenCall} (running : state.openCall = some call)
      (after : next.openCall = OpenCall.advance call.start call.depth counted)
      (depth : record.depth = next.parenDepth)
  | started (free : state.openCall = none) (starts : rules.startsCall counted = true)
      (after : next.openCall = OpenCall.advance index 0 counted)
      (depth : record.depth = next.parenDepth)
      (kind : record.category = .forbidden ∨ record.category = .blockOpen)
  | idle (free : state.openCall = none) (unstarted : rules.startsCall counted = false)
      (after : next.openCall = none)

variable {rules : Rules α} {index : Nat} {state next : State} {text counted : List α}
  {record : Record α}

theorem Bare.counted_whole (bare : Bare rules state text)
    (uncommented : rules.lineComment.isPrefixOf (Text.trim text) = false) :
    rules.counted? state text = some text := by
  simp [counted?, bare.visible, bare.outside, bare.unmarked, bare.unopened, uncommented]

theorem Bare.uncounted (bare : Bare rules state text)
    (commented : rules.lineComment.isPrefixOf (Text.trim text) = true) :
    rules.counted? state text = none := by
  simp [counted?, bare.visible, bare.outside, bare.unmarked, bare.unopened, commented]

theorem Opening.counted_around {front rest inner after : List α}
    (opening : Opening rules state text front rest)
    (closed : Text.cut? rules.blockClose rest = some (inner, after)) :
    rules.counted? state text = some (rules.around text front after) := by
  simp [counted?, opening.visible, opening.outside, opening.unmarked, opening.opened, closed]

theorem Opening.counted_front {front rest : List α}
    (opening : Opening rules state text front rest)
    (unclosed : Text.cut? rules.blockClose rest = none) :
    rules.counted? state text = some (rules.withoutComment text) := by
  simp [counted?, opening.visible, opening.outside, opening.unmarked, opening.opened, unclosed]

theorem posted_of_feedCall {fed : Option Category} {after : State}
    (read : rules.feedCall index state counted = (fed, after))
    (call : next.openCall = after.openCall)
    (depth : fed.isSome = true → record.depth = next.parenDepth)
    (kind : fed = some .forbidden → record.category = .forbidden ∨ record.category = .blockOpen) :
    Posted rules index state counted record next := by
  cases feedCall_iff.mp read with
  | continued running =>
    exact .continued running (call.trans (State.openCall_withCall _ _)) (depth rfl)
  | started free starts =>
    exact .started free starts (call.trans (State.openCall_withCall _ _)) (depth rfl) (kind rfl)
  | idle free unstarted => exact .idle free unstarted (call.trans free)

theorem CodeLine.posted (line : CodeLine rules state text) (after : next.openCall = none) :
    Posted rules index state text record next :=
  .idle line.free line.unstarted after

/-- Step: a line of which nothing is counted leaves the open call alone, and what is counted of any
other line is posted. -/
theorem Classified.posted (step : Classified rules index state text record next) :
    match rules.counted? state text with
    | none => next.openCall = state.openCall
    | some counted => Posted rules index state counted record next := by
  cases step with
  | blank empty => simp [counted?, empty]
  | body visible inside unclosed => simp [counted?, visible, inside, unclosed]
  | leave visible inside closed free =>
    simp [counted?, visible, inside, closed, State.openCall_eq_none.mp free, State.openCall]
  | leaveInCall visible inside closed running next advanced =>
    simp only [counted?, visible, inside, closed, (State.openCall_eq_some.mp running).1, ↓reduceIte]
    exact .continued running (by rw [advanced, State.openCall_withCall]) rfl
  | annotated visible outside marked => simp [counted?, visible, outside, marked]
  | aroundCall opening closed fed =>
    rw [opening.counted_around closed]
    refine posted_of_feedCall fed rfl (fun _ => rfl) fun same => ?_
    exact .inl (Option.some.inj same)
  | aroundCode opening closed free unstarted =>
    rw [opening.counted_around closed]
    exact .idle free unstarted free
  | enter opening unclosed read =>
    rw [opening.counted_front unclosed]
    refine posted_of_feedCall read rfl (fun fed => ?_) fun _ => .inr rfl
    simp only [fed, ↓reduceIte]
  | license bare commented early licensed => rw [bare.uncounted commented]
  | comment bare commented plain => rw [bare.uncounted commented]
  | call bare uncommented fed =>
    rw [bare.counted_whole uncommented]
    refine posted_of_feedCall fed rfl (fun _ => rfl) fun same => ?_
    exact .inl (Option.some.inj same)
  | code line | inline line | guarded line | cut line =>
    rw [line.toBare.counted_whole line.uncommented]
    exact line.posted line.free

end Rules

namespace OpenCall

theorem advance_depth (start depth : Nat) (counted : List α) :
    (((advance start depth counted).map OpenCall.depth).getD 0 : Int) =
      max 0 (depth + balance counted) := by
  simp only [advance, balance]
  split
  · simp only [Option.map_none, Option.getD_none]
    omega
  · simp only [Option.map_some, Option.getD_some]
    omega

theorem advance_some {start depth : Nat} {counted : List α} {call : OpenCall}
    (still : advance start depth counted = some call) :
    call.start = start ∧ (call.depth : Int) = depth + balance counted ∧ 0 < call.depth := by
  unfold balance
  simp only [advance, Option.ite_none_left_eq_some, Option.some.injEq] at still
  obtain ⟨proper, rfl⟩ := still
  refine ⟨rfl, ?_, Nat.pos_of_ne_zero proper⟩
  change ((depth + counted.count (Text.ofAscii '(') - counted.count (Text.ofAscii ')') : Nat) : Int) = _
  omega

end OpenCall

namespace Classifier

theorem visits_concat (classifier : Classifier α) (lines : List (List α)) (line : List α) :
    classifier.visits (lines ++ [line]) =
      classifier.visits lines ++ [((classifier.run lines).2.state, line)] := by
  induction lines generalizing classifier with
  | nil => rfl
  | cons first lines ih => rw [List.cons_append, visits, ih, visits, run_cons, List.cons_append]

theorem visits_length (classifier : Classifier α) (lines : List (List α)) :
    (classifier.visits lines).length = lines.length := by
  induction lines generalizing classifier with
  | nil => rfl
  | cons line lines ih => rw [visits, List.length_cons, List.length_cons, ih]

end Classifier

/-- The balances of what was counted of the lines from number `start` on. -/
def Rules.ledger (rules : Rules α) (lines : List (List α)) (start : Nat) : List Int :=
  ((Classifier.visits { rules } lines).drop (start - 1)).filterMap fun visit =>
    (rules.counted? visit.1 visit.2).map balance

section Ledger

variable {rules : Rules α} {lines : List (List α)} {line : List α} {start : Nat}

theorem Rules.ledger_concat (early : start ≤ lines.length + 1) :
    rules.ledger (lines ++ [line]) start = rules.ledger lines start ++
      ((rules.counted? (Classifier.run { rules } lines).2.state line).map balance).toList := by
  have reached : start - 1 ≤ (Classifier.visits { rules } lines).length := by
    rw [Classifier.visits_length]
    omega
  rw [ledger, Classifier.visits_concat, List.drop_append_of_le_length reached,
    List.filterMap_append, ← ledger]
  cases offered : rules.counted? (Classifier.run { rules } lines).2.state line with
  | none => simp [offered]
  | some counted => simp [offered]

theorem Rules.ledger_here :
    rules.ledger (lines ++ [line]) (lines.length + 1) =
      ((rules.counted? (Classifier.run { rules } lines).2.state line).map balance).toList := by
  rw [ledger_concat (Nat.le_refl _)]
  simp [ledger, List.drop_of_length_le, Classifier.visits_length]

/-- What the lines say of a call that is open behind them. -/
structure Booked (rules : Rules α) (lines : List (List α)) (start depth : Nat) : Prop where
  opened : ∃ before line after counted record, lines = before ++ line :: after ∧
    start = before.length + 1 ∧
    rules.counted? (Classifier.run { rules } before).2.state line = some counted ∧
    rules.startsCall counted = true ∧
    (rules.classify lines)[before.length]? = some record ∧ record.index = start ∧
    (record.category = .forbidden ∨ record.category = .blockOpen)
  deep : 0 < depth
  balanced : (depth : Int) = (rules.ledger lines start).sum
  positive : ∀ part, part <+: rules.ledger lines start → part ≠ [] → 0 < part.sum

theorem Rules.classify_concat (rules : Rules α) (lines : List (List α)) (line : List α) :
    rules.classify (lines ++ [line]) =
      rules.classify lines ++ [((Classifier.run { rules } lines).2.next line).1] :=
  rules.classify_split lines line []

theorem Rules.classify_here (rules : Rules α) (before : List (List α)) (line : List α)
    (after : List (List α)) : (rules.classify (before ++ line :: after))[before.length]? =
      some ((Classifier.run { rules } before).2.next line).1 := by
  have here : (rules.classify before).length = before.length :=
    Classifier.run_length { rules } before
  rw [rules.classify_split, ← here, List.getElem?_append_right (Nat.le_refl _), Nat.sub_self]
  rfl

theorem Booked.start_le {depth : Nat} (booked : Booked rules lines start depth) :
    1 ≤ start ∧ start ≤ lines.length := by
  obtain ⟨before, line, after, counted, record, rfl, rfl, -⟩ := booked.opened
  simp

theorem Booked.opened_concat {depth : Nat} (booked : Booked rules lines start depth)
    (line : List α) : ∃ before first after counted record,
      lines ++ [line] = before ++ first :: after ∧ start = before.length + 1 ∧
      rules.counted? (Classifier.run { rules } before).2.state first = some counted ∧
      rules.startsCall counted = true ∧
      (rules.classify (lines ++ [line]))[before.length]? = some record ∧ record.index = start ∧
      (record.category = .forbidden ∨ record.category = .blockOpen) := by
  obtain ⟨before, first, after, counted, record, split, same, offered, starts, found, index, kind⟩ :=
    booked.opened
  refine ⟨before, first, after ++ [line], counted, record, ?_, same, offered, starts, ?_, index,
    kind⟩
  · rw [split]
    simp
  · rw [rules.classify_concat]
    exact List.getElem?_append_left (List.getElem?_eq_some_iff.mp found).1 ▸ found

theorem Booked.skip {depth : Nat} (booked : Booked rules lines start depth)
    (skipped : rules.counted? (Classifier.run { rules } lines).2.state line = none) :
    Booked rules (lines ++ [line]) start depth := by
  have same : rules.ledger (lines ++ [line]) start = rules.ledger lines start := by
    rw [rules.ledger_concat (Nat.le_succ_of_le booked.start_le.2), skipped]
    exact List.append_nil _
  refine ⟨booked.opened_concat line, booked.deep, ?_, ?_⟩
  · rw [same]
    exact booked.balanced
  · rw [same]
    exact booked.positive

theorem Booked.sum_concat {depth : Nat} (booked : Booked rules lines start depth)
    {counted : List α}
    (offered : rules.counted? (Classifier.run { rules } lines).2.state line = some counted) :
    rules.ledger (lines ++ [line]) start = rules.ledger lines start ++ [balance counted] ∧
      (rules.ledger (lines ++ [line]) start).sum = depth + balance counted := by
  have longer : rules.ledger (lines ++ [line]) start =
      rules.ledger lines start ++ [balance counted] := by
    rw [rules.ledger_concat (Nat.le_succ_of_le booked.start_le.2), offered]
    rfl
  refine ⟨longer, ?_⟩
  rw [longer, List.sum_append, ← booked.balanced, List.sum_singleton]

theorem Booked.advance {depth : Nat} (booked : Booked rules lines start depth)
    {counted : List α}
    (offered : rules.counted? (Classifier.run { rules } lines).2.state line = some counted)
    {call : OpenCall} (still : OpenCall.advance start depth counted = some call) :
    Booked rules (lines ++ [line]) call.start call.depth := by
  obtain ⟨rfl, sum, positive⟩ := OpenCall.advance_some still
  obtain ⟨longer, total⟩ := booked.sum_concat offered
  refine ⟨booked.opened_concat line, positive, sum.trans total.symm, fun part initial proper => ?_⟩
  -- A part of the longer ledger is a part of the old one or the whole.
  rw [longer] at initial
  rcases List.prefix_concat_iff.mp initial with rfl | shorter
  · rw [← longer, total, ← sum]
    exact Int.natCast_pos.mpr positive
  · exact booked.positive part shorter proper

theorem booked_start {counted : List α} {record : Record α} {call : OpenCall}
    (offered : rules.counted? (Classifier.run { rules } lines).2.state line = some counted)
    (starts : rules.startsCall counted = true)
    (listed : ((Classifier.run { rules } lines).2.next line).1 = record)
    (numbered : record.index = (lines.length + 1 : Nat))
    (kind : record.category = .forbidden ∨ record.category = .blockOpen)
    (still : OpenCall.advance (lines.length + 1) 0 counted = some call) :
    Booked rules (lines ++ [line]) call.start call.depth := by
  obtain ⟨same, sum, positive⟩ := OpenCall.advance_some still
  rw [Int.ofNat_zero, Int.zero_add] at sum
  have books : rules.ledger (lines ++ [line]) call.start = [balance counted] := by
    rw [same, rules.ledger_here, offered]
    rfl
  refine ⟨⟨lines, line, [], counted, record, rfl, same, offered, starts, ?_, ?_, kind⟩, positive,
    ?_, ?_⟩
  · rw [rules.classify_here, listed]
  · rw [numbered, same]
  · rw [books, List.sum_singleton, sum]
  · intro part initial proper
    rw [books, ← List.nil_append [balance counted]] at initial
    rcases List.prefix_concat_iff.mp initial with rfl | none
    · rw [List.nil_append, List.sum_singleton, ← sum]
      exact Int.natCast_pos.mpr positive
    · exact absurd (List.prefix_nil.mp none) proper

/-- Run: a call that is open behind the lines is booked in them. -/
theorem run_booked {call : OpenCall}
    (running : (Classifier.run { rules } lines).2.state.openCall = some call) :
    Booked rules lines call.start call.depth := by
  -- From the last line: it was skipped, or it continues the call, or it starts it.
  induction lines using List.reverseRecOn generalizing call with
  | nil => cases running
  | append_singleton lines line ih =>
    have step := rules.classify_step lines line
    rw [Classifier.run_append] at running
    have posted := step.posted
    cases offered : rules.counted? (Classifier.run { rules } lines).2.state line with
    | none =>
      rw [offered] at posted
      exact (ih (posted.symm.trans running)).skip offered
    | some counted =>
      rw [offered] at posted
      cases posted with
      | continued before after depth =>
        exact (ih before).advance offered (after.symm.trans running)
      | started free starts after depth kind =>
        exact booked_start offered starts rfl step.index_eq kind (after.symm.trans running)
      | idle free unstarted after => cases after.symm.trans running

theorem depth_posted {counted : List α}
    (offered : rules.counted? (Classifier.run { rules } lines).2.state line = some counted)
    (within : (Classifier.run { rules } lines).2.state.inForbidden = true ∨
      rules.startsCall counted = true) :
    ((Classifier.run { rules } lines).2.next line).1.depth =
      max 0 (rules.ledger (lines ++ [line])
        (if (Classifier.run { rules } lines).2.state.inForbidden then
          (Classifier.run { rules } lines).2.state.statementStart else lines.length + 1)).sum := by
  have step := rules.classify_step lines line
  have posted := step.posted
  rw [offered] at posted
  have settled := (step.settled (Classifier.run_settled (fun _ => ⟨rfl, rfl⟩) lines)).parenDepth_eq
  cases posted with
  | @continued call running after depth =>
    obtain ⟨inside, start, -⟩ := State.openCall_eq_some.mp running
    obtain ⟨-, total⟩ := (run_booked running).sum_concat offered
    rw [depth, settled, after, OpenCall.advance_depth, if_pos inside, start, total]
  | started free starts after depth =>
    rw [depth, settled, after, OpenCall.advance_depth, State.openCall_eq_none.mp free]
    simp [rules.ledger_here, offered]
  | idle free unstarted after =>
    rcases within with running | starts
    · rw [State.openCall_eq_none.mp free] at running
      cases running
    · rw [unstarted] at starts
      cases starts

end Ledger

/-- The depth ledger. In every state that a file can lead to, a call is open exactly if its depth is
positive and exactly if it has a start, and otherwise both are zero. An open call started on the
line it names, by a text that has the shape of a call; its depth is the sum of the ledger since
then, and every partial sum is positive. The depth in the record of each line that was offered to a
call is the sum of the ledger up to this line, or zero where the call ends below it. -/
theorem depth_ledger (rules : Rules α) (lines : List (List α)) :
    let state := (Classifier.run { rules } lines).2.state
    (state.inForbidden = true ↔ 0 < state.parenDepth) ∧
    (state.inForbidden = true ↔ 1 ≤ state.statementStart) ∧
    (state.inForbidden = false → state.parenDepth = 0 ∧ state.statementStart = 0) ∧
    (state.inForbidden = true → Booked rules lines state.statementStart state.parenDepth) ∧
    ∀ before line after counted, lines = before ++ line :: after →
      let prior := (Classifier.run { rules } before).2.state
      let start := if prior.inForbidden then prior.statementStart else before.length + 1
      rules.counted? prior line = some counted →
      (prior.inForbidden = true ∨ rules.startsCall counted = true) →
        ∃ record, (rules.classify lines)[before.length]? = some record ∧
          record.depth = max 0 (rules.ledger (before ++ [line]) start).sum := by
  intro state
  have settled : state.Settled := Classifier.run_settled (fun _ => ⟨rfl, rfl⟩) lines
  have booked : state.inForbidden = true →
      Booked rules lines state.statementStart state.parenDepth := by
    intro running
    have call : state.openCall = some ⟨state.statementStart, state.parenDepth⟩ :=
      State.openCall_eq_some.mpr ⟨running, rfl, rfl⟩
    exact run_booked call
  refine ⟨⟨fun running => (booked running).deep, fun deep => ?_⟩,
    ⟨fun running => (booked running).start_le.1, fun started => ?_⟩, settled, booked, ?_⟩
  · by_contra closed
    rw [(settled (Bool.eq_false_iff.mpr closed)).1] at deep
    exact absurd deep (Nat.lt_irrefl 0)
  · by_contra closed
    rw [(settled (Bool.eq_false_iff.mpr closed)).2] at started
    exact absurd started (Nat.lt_irrefl 0)
  · rintro before line after counted rfl prior start offered within
    exact ⟨_, rules.classify_here before line after, depth_posted offered within⟩

theorem depth_ledger_lua :
    let before := ["x = 1", "print(f(1), --[["].map String.toList
    let line := "]] g(".toList
    let after := ["---@type (", "2)"].map String.toList
    let lines := before ++ line :: after
    let prior := (Classifier.run { rules := .lua } before).2.state
    let state := (Classifier.run { rules := .lua } lines).2.state
    state.inForbidden = true ∧ Booked .lua lines state.statementStart state.parenDepth ∧
      Rules.lua.counted? prior line = some " g(".toList ∧ prior.inForbidden = true ∧
      ∃ record, (Rules.lua.classify lines)[before.length]? = some record ∧
        record.depth = max 0 (Rules.lua.ledger (before ++ [line]) prior.statementStart).sum := by
  intro before line after lines prior state
  have running : state.inForbidden = true := by decide +kernel
  have within : prior.inForbidden = true := by decide +kernel
  have offered : Rules.lua.counted? prior line = some " g(".toList := by decide +kernel
  obtain ⟨-, -, -, booked, posted⟩ := depth_ledger .lua lines
  have deeper := posted before line after _ rfl offered (.inl within)
  rw [if_pos within] at deeper
  exact ⟨running, booked running, offered, within, deeper⟩

end LineSieve
