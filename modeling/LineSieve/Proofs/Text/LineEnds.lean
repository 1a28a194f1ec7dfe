import LineSieve.Text.Alphabet

/- Rendering lines and splitting them again. Splitting drops a carriage return at the end of a line,
   so lines that end in one do not come back; all others do, unless they hold a newline. -/
namespace LineSieve.Text

variable {α : Type}

theorem LineEnds.render_cons {ends : LineEnds α} (line : List α) (lines : List (List α)) :
    ends.render (line :: lines) = line ++ ends.newline :: ends.render lines := by
  simp [render]

def LineEnds.Ended (ends : LineEnds α) (text : List α) : Prop :=
  text = [] ∨ text.getLast? = some ends.newline

theorem LineEnds.Ended.behind {ends : LineEnds α} {line rest : List α}
    (ended : ends.Ended (line ++ ends.newline :: rest)) : ends.Ended rest := by
  cases rest with
  | nil => exact Or.inl rfl
  | cons c rest => exact ended.imp (by simp) (by simp [List.getLast?_append])

theorem LineEnds.render_ended (ends : LineEnds α) (lines : List (List α)) :
    ends.Ended (ends.render lines) := by
  induction lines with
  | nil => exact Or.inl rfl
  | cons line lines ih =>
    rw [render_cons]
    refine Or.inr ?_
    rcases ih with empty | last
    · simp [empty]
    · cases shown : ends.render lines with
      | nil => simp
      | cons c rest => rw [shown] at last; simpa [List.getLast?_append] using last

theorem LineEnds.Ended.final {ends : LineEnds α} {text whole : List α} (ended : ends.Ended whole)
    (final : text <:+ whole) : ends.Ended text := by
  cases text with
  | nil => exact Or.inl rfl
  | cons c text =>
    obtain ⟨front, rfl⟩ := final
    exact Or.inr (by simpa [Ended, List.getLast?_append] using ended)

variable [BEq α]

theorem dropLast?_append {x : α} (a : List α) {s : List α} (proper : s ≠ []) :
    dropLast? x (a ++ s) = a ++ dropLast? x s := by
  induction a with
  | nil => rfl
  | cons c a ih =>
    obtain ⟨d, t, same⟩ := List.exists_cons_of_ne_nil (List.append_ne_nil_of_right_ne_nil a proper)
    rw [List.cons_append, List.cons_append, ← ih, same, dropLast?]

theorem dropLast?_initial (x : α) (s : List α) : dropLast? x s <+: s := by
  fun_induction dropLast? x s with
  | case1 => exact List.prefix_rfl
  | case2 c same => exact List.nil_prefix
  | case3 c other => exact List.prefix_rfl
  | case4 c d s ih => exact List.prefix_cons_inj c |>.mpr ih

variable [LawfulBEq α]

theorem splitOn_absent {sep : α} {s : List α} (absent : sep ∉ s) : splitOn sep s = [s] := by
  induction s with
  | nil => rfl
  | cons c s ih =>
    obtain ⟨other, absent⟩ := List.ne_and_not_mem_of_not_mem_cons absent
    simp [splitOn, beq_eq_false_iff_ne.mpr other.symm, ih absent]

theorem splitOn_first {sep : α} {a : List α} (absent : sep ∉ a) (s : List α) :
    splitOn sep (a ++ sep :: s) = a :: splitOn sep s := by
  induction a with
  | nil => simp [splitOn]
  | cons c a ih =>
    obtain ⟨other, absent⟩ := List.ne_and_not_mem_of_not_mem_cons absent
    simp [splitOn, beq_eq_false_iff_ne.mpr other.symm, ih absent]

theorem splitOn_clear {sep : α} {s piece : List α} (listed : piece ∈ splitOn sep s) :
    sep ∉ piece := by
  induction s generalizing piece with
  | nil =>
    rw [splitOn, List.mem_singleton] at listed
    simp [listed]
  | cons c s ih =>
    unfold splitOn at listed
    split at listed
    · rcases List.mem_cons.mp listed with rfl | later
      · simp
      · exact ih later
    · rename_i other
      have differs : sep ≠ c := fun same => other (by simp [same])
      split at listed
      · rw [List.mem_singleton] at listed
        simp [listed, differs]
      · rename_i first rest pieces
        rcases List.mem_cons.mp listed with rfl | later
        · have clear : sep ∉ first := ih (by rw [pieces]; exact List.mem_cons_self)
          simp [differs, clear]
        · exact ih (by rw [pieces]; exact List.mem_cons_of_mem _ later)

theorem dropLast?_concat (x : α) (a : List α) : dropLast? x (a ++ [x]) = a := by
  rw [dropLast?_append a (by simp)]
  simp [dropLast?]

theorem dropLast?_eq_self_iff {x : α} {s : List α} : dropLast? x s = s ↔ s.getLast? ≠ some x := by
  fun_induction dropLast? x s with
  | case1 => simp
  | case2 c same => simpa using same
  | case3 c other => simpa using other
  | case4 c d s ih => simpa using ih

theorem map_dropLast?_eq_self_iff {x : α} {lines : List (List α)} :
    lines.map (dropLast? x) = lines ↔ ∀ line ∈ lines, line.getLast? ≠ some x := by
  induction lines with
  | nil => simp
  | cons line lines ih =>
    rw [List.map_cons, List.cons.injEq, dropLast?_eq_self_iff, ih, List.forall_mem_cons]

namespace LineEnds

variable {ends : LineEnds α}

theorem split_clear {text line : List α} (listed : line ∈ ends.split text) :
    ends.newline ∉ line := by
  unfold split at listed
  split at listed
  · cases listed
  · obtain ⟨piece, member, rfl⟩ := List.mem_map.mp listed
    exact fun inside => splitOn_clear member ((dropLast?_initial _ piece).subset inside)

theorem splitOn_render {line : List α} {lines : List (List α)}
    (clear : ∀ text ∈ line :: lines, ends.newline ∉ text) :
    splitOn ends.newline (dropLast? ends.newline (ends.render (line :: lines))) = line :: lines := by
  induction lines generalizing line with
  | nil =>
    rw [render_cons]
    change splitOn _ (dropLast? _ (line ++ [ends.newline])) = _
    rw [dropLast?_concat, splitOn_absent (clear line List.mem_cons_self)]
  | cons second lines ih =>
    have more : ends.render (second :: lines) ≠ [] := by simp [render_cons]
    rw [render_cons, List.append_cons, dropLast?_append _ more, ← List.append_cons,
      splitOn_first (clear line List.mem_cons_self),
      ih fun text listed => clear text (List.mem_cons_of_mem _ listed)]

/-- Lines without newlines come back from their rendering, less one carriage return at their
end. -/
theorem split_render {lines : List (List α)} (clear : ∀ line ∈ lines, ends.newline ∉ line) :
    ends.split (ends.render lines) = lines.map (dropLast? ends.carriageReturn) := by
  cases lines with
  | nil => rfl
  | cons line lines =>
    have some_text : (ends.render (line :: lines)).isEmpty = false := by simp [render_cons]
    rw [split, some_text, splitOn_render clear]
    rfl

theorem split_last {line : List α} (proper : line ≠ []) (clear : ends.newline ∉ line) :
    ends.split line = [dropLast? ends.carriageReturn line] := by
  have whole : dropLast? ends.newline line = line :=
    dropLast?_eq_self_iff.mpr fun last => clear (List.mem_of_getLast? last)
  rw [split, List.isEmpty_eq_false_iff.mpr proper, whole, splitOn_absent clear]
  rfl

theorem split_cons {line : List α} (clear : ends.newline ∉ line) (rest : List α) :
    ends.split (line ++ ends.newline :: rest) =
      dropLast? ends.carriageReturn line :: ends.split rest := by
  have proper : (line ++ ends.newline :: rest).isEmpty = false := by simp
  rw [split, proper, if_neg Bool.false_ne_true]
  cases rest with
  | nil => rw [dropLast?_concat, splitOn_absent clear]; rfl
  | cons c rest =>
    rw [List.append_cons, dropLast?_append _ (List.cons_ne_nil c rest), ← List.append_cons,
      splitOn_first clear]
    rfl

theorem render_split_length {text : List α} (ended : ends.Ended text) :
    (ends.render (ends.split text)).length ≤ text.length := by
  induction size : text.length using Nat.strongRecOn generalizing text with
  | ind n ih =>
    rcases ended with rfl | last
    · exact Nat.zero_le _
    · obtain ⟨line, rest, rfl, clear⟩ :=
        List.eq_append_cons_of_mem (List.mem_of_getLast? last)
      have behind : ends.Ended rest := Ended.behind (Or.inr last)
      rw [List.length_append, List.length_cons] at size
      have later := ih rest.length (by omega) behind rfl
      have shorter := (dropLast?_initial ends.carriageReturn line).length_le
      rw [split_cons clear, render_cons, List.length_append, List.length_cons]
      omega

end LineEnds

end LineSieve.Text
