import LineSieve.Proofs.Classifier.Step

/- Runs of the classifier: what holds from line to line. A run over two pieces of a file is the run
   over the first, continued over the second. -/
namespace LineSieve

variable {α : Type} [DecidableEq α] [Text.Alphabet α]

namespace Classifier

theorem run_cons (classifier : Classifier α) (line : List α) (lines : List (List α)) :
    classifier.run (line :: lines) =
      ((classifier.next line).1 :: ((classifier.next line).2.run lines).1,
        ((classifier.next line).2.run lines).2) := rfl

theorem run_append (classifier : Classifier α) (first second : List (List α)) :
    classifier.run (first ++ second) =
      ((classifier.run first).1 ++ ((classifier.run first).2.run second).1,
        ((classifier.run first).2.run second).2) := by
  induction first generalizing classifier with
  | nil => rfl
  | cons line first ih => rw [List.cons_append, run_cons, run_cons, ih]; rfl

@[simp] theorem next_rules (classifier : Classifier α) (line : List α) :
    (classifier.next line).2.rules = classifier.rules := rfl

@[simp] theorem next_index (classifier : Classifier α) (line : List α) :
    (classifier.next line).2.index = classifier.index + 1 := rfl

@[simp] theorem run_rules (classifier : Classifier α) (lines : List (List α)) :
    (classifier.run lines).2.rules = classifier.rules := by
  induction lines generalizing classifier with
  | nil => rfl
  | cons line lines ih => rw [run_cons, ih, next_rules]

@[simp] theorem run_index (classifier : Classifier α) (lines : List (List α)) :
    (classifier.run lines).2.index = classifier.index + lines.length := by
  induction lines generalizing classifier with
  | nil => rfl
  | cons line lines ih =>
    rw [run_cons, ih, next_index, List.length_cons]
    omega

@[simp] theorem run_length (classifier : Classifier α) (lines : List (List α)) :
    (classifier.run lines).1.length = lines.length := by
  induction lines generalizing classifier with
  | nil => rfl
  | cons line lines ih => rw [run_cons, List.length_cons, List.length_cons, ih]

/-- The lines of a run, each with the state that it is read in. -/
def visits (classifier : Classifier α) : List (List α) → List (State × List α)
  | [] => []
  | line :: lines => (classifier.state, line) :: (classifier.next line).2.visits lines

variable [Text.LawfulAlphabet α]

theorem next_classified (classifier : Classifier α) (line : List α) :
    classifier.rules.Classified classifier.index classifier.state line (classifier.next line).1
      (classifier.next line).2.state :=
  Rules.classified classifier.rules classifier.index classifier.state line

theorem run_settled {classifier : Classifier α} (settled : classifier.state.Settled)
    (lines : List (List α)) : (classifier.run lines).2.state.Settled := by
  induction lines generalizing classifier with
  | nil => exact settled
  | cons line lines ih =>
    rw [run_cons]
    exact ih ((classifier.next_classified line).settled settled)

theorem run_classified {classifier : Classifier α} {lines : List (List α)} {record : Record α}
    (listed : record ∈ (classifier.run lines).1) :
    ∃ index state next, ∃ line ∈ lines,
      classifier.rules.Classified index state line record next := by
  induction lines generalizing classifier with
  | nil => cases listed
  | cons line lines ih =>
    rw [run_cons] at listed
    rcases List.mem_cons.mp listed with first | later
    · exact ⟨_, _, _, line, List.mem_cons_self, first ▸ next_classified classifier line⟩
    · obtain ⟨index, state, next, text, member, step⟩ := ih later
      exact ⟨index, state, next, text, List.mem_cons_of_mem line member, step⟩

end Classifier

namespace Rules

theorem classify_split (rules : Rules α) (before : List (List α)) (line : List α)
    (after : List (List α)) :
    rules.classify (before ++ line :: after) = rules.classify before ++
      ((Classifier.run { rules } before).2.next line).1 ::
        (((Classifier.run { rules } before).2.next line).2.run after).1 := by
  rw [classify, Classifier.run_append, Classifier.run_cons]
  rfl

variable [Text.LawfulAlphabet α]

theorem classify_step (rules : Rules α) (before : List (List α)) (line : List α) :
    rules.Classified (before.length + 1) (Classifier.run { rules } before).2.state line
      ((Classifier.run { rules } before).2.next line).1
      ((Classifier.run { rules } before).2.next line).2.state := by
  have step := Classifier.next_classified (Classifier.run { rules } before).2 line
  rwa [Classifier.run_rules, Classifier.run_index, Nat.add_comm] at step

end Rules

end LineSieve
