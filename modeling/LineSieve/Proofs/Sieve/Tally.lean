import LineSieve.Counts
import LineSieve.Proofs.Acceptance
import LineSieve.Proofs.Sieve.Kept
import Mathlib

/- The counts of a file and its output agree. Every record that a classifier makes is counted in
   exactly one share, and the records that come out are those in the shares of code, annotations and
   licence headers. Records from elsewhere may be in no share, or be kept and counted as comments.
   -/
namespace LineSieve

inductive Share where
  | code
  | annotated
  | comment
  | license
  | blank
  | forbidden
  deriving DecidableEq, Repr

variable {α : Type} [Text.Alphabet α]

def Record.share? (record : Record α) : Option Share :=
  match record.category with
  | .blank => some .blank
  | .comment | .blockOpen | .blockBody => some .comment
  | .blockClose | .code => some (if record.codeText.isEmpty then .comment else .code)
  | .inlineAnnotated => some .code
  | .annotated => some .annotated
  | .license => some .license
  | .forbidden | .forbiddenContinuation => some .forbidden
  | .unlisted _ => none

namespace LineCounts

def part (counts : LineCounts) : Share → Int64
  | .code => counts.code
  | .annotated => counts.annotated
  | .comment => counts.comment
  | .license => counts.license
  | .blank => counts.blank
  | .forbidden => counts.forbidden

/-- How many of the records are in a share. -/
def held (share : Share) (records : List (Record α)) : Nat :=
  records.countP fun record => record.share? = some share

theorem held_cons (share : Share) (record : Record α) (records : List (Record α)) :
    held share (record :: records) =
      held share records + if record.share? = some share then 1 else 0 := by
  simp [held, List.countP_cons]

theorem addRecord_part (counts : LineCounts) (record : Record α) (share : Share) :
    (counts.addRecord record).part share =
      counts.part share + Int64.ofNat (if record.share? = some share then 1 else 0) := by
  unfold addRecord Record.share?
  cases record.category with
  | blockClose | code =>
    by_cases empty : record.codeText.isEmpty <;> cases share <;> simp [part, empty]
  | _ => cases share <;> simp [part]

theorem addRecord_physical (counts : LineCounts) (record : Record α) :
    (counts.addRecord record).physical = counts.physical + 1 := by
  unfold addRecord
  cases record.category with
  | blockClose | code => by_cases empty : record.codeText.isEmpty <;> simp [empty]
  | _ => rfl

theorem foldl_part (records : List (Record α)) (counts : LineCounts) (share : Share) :
    (records.foldl addRecord counts).part share =
      counts.part share + Int64.ofNat (held share records) := by
  induction records generalizing counts with
  | nil => simp [held]
  | cons record records ih =>
    rw [List.foldl_cons, ih, addRecord_part, held_cons, Nat.add_comm, Int64.ofNat_add,
      Int64.add_assoc]

theorem foldl_physical (records : List (Record α)) (counts : LineCounts) :
    (records.foldl addRecord counts).physical =
      counts.physical + Int64.ofNat records.length := by
  induction records generalizing counts with
  | nil => simp
  | cons record records ih =>
    rw [List.foldl_cons, ih, addRecord_physical, List.length_cons, Nat.add_comm, Int64.ofNat_add,
      Int64.add_assoc]
    rfl

theorem ofRecords_eq (records : List (Record α)) :
    ofRecords records = {
      physical := Int64.ofNat records.length
      total := Int64.ofNat (held .code records + held .annotated records)
      code := Int64.ofNat (held .code records)
      annotated := Int64.ofNat (held .annotated records)
      comment := Int64.ofNat (held .comment records)
      license := Int64.ofNat (held .license records)
      blank := Int64.ofNat (held .blank records)
      forbidden := Int64.ofNat (held .forbidden records) } := by
  have parts := foldl_part records {}
  have physical := foldl_physical records {}
  have code := parts .code
  have annotated := parts .annotated
  have comment := parts .comment
  have license := parts .license
  have blank := parts .blank
  have forbidden := parts .forbidden
  simp only [part, Int64.zero_add] at physical code annotated comment license blank forbidden
  simp only [ofRecords, physical, code, annotated, comment, license, blank, forbidden,
    Int64.ofNat_add]

end LineCounts

open LineCounts (held held_cons)

/-- What holds of every record that a classifier makes, and not of every record: its category is
listed, and a guarded line of code is not blank. -/
structure Record.Regular (record : Record α) : Prop where
  listed : ∀ number, record.category ≠ .unlisted number
  guarded : record.category = .code → record.urlGuarded = true → record.codeText ≠ []

theorem Record.Regular.shared {record : Record α} (regular : record.Regular) :
    ∃ share, record.share? = some share := by
  unfold Record.share?
  cases kind : record.category with
  | unlisted number => exact absurd kind (regular.listed number)
  | _ => exact ⟨_, rfl⟩

theorem length_held {records : List (Record α)} (regular : ∀ record ∈ records, record.Regular) :
    records.length = held .code records + held .annotated records + held .comment records +
      held .license records + held .blank records + held .forbidden records := by
  induction records with
  | nil => rfl
  | cons record records ih =>
    have rest := ih fun other listed => regular other (List.mem_cons_of_mem record listed)
    obtain ⟨share, counted⟩ := (regular record List.mem_cons_self).shared
    simp only [List.length_cons, held_cons, counted]
    cases share <;> simp <;> omega

variable [DecidableEq α]

theorem Record.Regular.output_iff {record : Record α} (regular : record.Regular) :
    record.output?.isSome = true ↔ record.share? = some .code ∨ record.share? = some .annotated ∨
      record.share? = some .license := by
  have guarded := regular.guarded
  unfold Record.output? Record.decide Record.share?
  cases kind : record.category with
  | blockClose => by_cases empty : record.codeText = [] <;> simp [empty]
  | code =>
    by_cases empty : record.codeText = []
    · have plain : record.urlGuarded = false := by
        rw [Bool.eq_false_iff]
        intro url
        exact guarded kind url empty
      simp [empty, plain]
    · simp only [List.isEmpty_iff, empty]
      split <;> simp
      split
      · simp
      · split <;> simp
  | _ => simp

variable [Text.LawfulAlphabet α]

theorem Rules.Classified.regular {rules : Rules α} {index : Nat} {state next : State}
    {text : List α} {record : Record α} (step : Classified rules index state text record next) :
    record.Regular := by
  cases step with
  | aroundCall opening closed fed =>
    rcases feedCall_category fed with same | same <;> rw [same] <;> exact ⟨nofun, nofun⟩
  | call bare uncommented fed =>
    rcases feedCall_category fed with same | same <;> rw [same] <;> exact ⟨nofun, nofun⟩
  | guarded line cut unmarked url =>
    refine ⟨nofun, fun _ _ => ?_⟩
    rw [codeText_whole rfl]
    intro empty
    exact line.visible (Text.trim_eq_nil.mpr (Text.trimRight_eq_nil.mp empty))
  | blank | body | leave | leaveInCall | annotated | aroundCode | enter | license | comment | code
    | inline | cut => exact ⟨nofun, nofun⟩

theorem keptLines_held {records : List (Record α)} (regular : ∀ record ∈ records, record.Regular) :
    (keptLines records).length =
      held .code records + held .annotated records + held .license records := by
  induction records with
  | nil => rfl
  | cons record records ih =>
    have rest := ih fun other listed => regular other (List.mem_cons_of_mem record listed)
    have first := (regular record List.mem_cons_self).output_iff
    rw [keptLines_cons, List.length_append, rest, held_cons, held_cons, held_cons]
    cases output : record.output? with
    | none =>
      rw [output] at first
      simp only [Option.isSome_none, Bool.false_eq_true, false_iff, not_or] at first
      simp [first]
    | some line =>
      rw [output] at first
      rcases first.mp rfl with same | same | same <;> simp [same] <;> omega

theorem classify_regular (rules : Rules α) (lines : List (List α)) :
    ∀ record ∈ rules.classify lines, record.Regular := by
  intro record listed
  obtain ⟨index, state, next, text, -, step⟩ := Classifier.run_classified listed
  exact step.regular

/-- The counts of a file say how many lines sieving leaves: the effective lines and the licence
headers are the lines that come out, and every line is counted in exactly one share. Counters wrap
around, so the equations hold between counters; for files of less than `2 ^ 63` lines they hold
between numbers of lines. -/
theorem counts_match_sieve (rules : Rules α) (lines : List (List α)) :
    let records := rules.classify lines
    let counts := LineCounts.ofRecords records
    let out := (sieve records).lines
    (counts.total + counts.license = Int64.ofNat out.length ∧
      counts.total = counts.code + counts.annotated ∧
      counts.physical = Int64.ofNat lines.length ∧
      counts.physical = counts.code + counts.annotated + counts.comment + counts.license +
        counts.blank + counts.forbidden) ∧
    (lines.length < 2 ^ 63 →
      counts.total.toInt + counts.license.toInt = out.length ∧
      counts.total.toInt = counts.code.toInt + counts.annotated.toInt ∧
      counts.physical.toInt = lines.length ∧
      counts.physical.toInt = counts.code.toInt + counts.annotated.toInt + counts.comment.toInt +
        counts.license.toInt + counts.blank.toInt + counts.forbidden.toInt) := by
  intro records counts out
  have regular : ∀ record ∈ records, record.Regular := classify_regular rules lines
  have counted : counts = _ := LineCounts.ofRecords_eq records
  have physical : records.length = lines.length := Classifier.run_length { rules } lines
  have output : out.length =
      held .code records + held .annotated records + held .license records :=
    (congrArg List.length (sieve_lines rules lines)).trans (keptLines_held regular)
  have whole := physical.symm.trans (length_held regular)
  rw [counted, physical, output]
  constructor
  · simp only [Int64.ofNat_add, whole, and_self]
  · intro short
    have exact_of_le : ∀ n ≤ lines.length, (Int64.ofNat n).toInt = n := by
      intro n bound
      exact Int64.toInt_ofNat_of_lt (Nat.lt_of_le_of_lt bound short)
    rw [exact_of_le lines.length (Nat.le_refl _), exact_of_le _ (by omega),
      exact_of_le (held .code records) (by omega), exact_of_le (held .annotated records) (by omega),
      exact_of_le (held .comment records) (by omega), exact_of_le (held .license records) (by omega),
      exact_of_le (held .blank records) (by omega), exact_of_le (held .forbidden records) (by omega)]
    omega

theorem counts_match_sieve_lua :
    let lines := ["--license", "print(", "---@x", ")", "a --[[ b ]]", "-- c", ""].map String.toList
    let records := Rules.lua.classify lines
    let counts := LineCounts.ofRecords records
    let out := (sieve records).lines
    lines.length < 2 ^ 63 ∧ out = ["--license", "---@x", "a"].map String.toList ∧
      counts.total.toInt + counts.license.toInt = out.length ∧
      counts.total.toInt = counts.code.toInt + counts.annotated.toInt ∧
      counts.physical.toInt = lines.length ∧
      counts.physical.toInt = counts.code.toInt + counts.annotated.toInt + counts.comment.toInt +
        counts.license.toInt + counts.blank.toInt + counts.forbidden.toInt := by
  intro lines records counts out
  have short : lines.length < 2 ^ 63 := by decide
  exact ⟨short, by decide +kernel, (counts_match_sieve .lua lines).2 short⟩

end LineSieve
