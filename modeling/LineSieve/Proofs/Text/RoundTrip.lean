import LineSieve.Proofs.Text.LineReader

/- Splitting and rendering as inverses of each other, in any alphabet with two different line ends.
   What rendering cannot make, a missing newline at the end or a carriage return in front of a
   newline, is exactly what splitting loses. -/
namespace LineSieve.Text

namespace LineEnds

variable {α : Type} {ends : LineEnds α}

/-- A text that is empty, or ended by a newline and without a carriage return in front of one. -/
def Settled (ends : LineEnds α) (text : List α) : Prop :=
  text = [] ∨ text.getLast? = some ends.newline ∧
    ¬ [ends.carriageReturn, ends.newline] <:+: text

theorem return_cons_iff (apart : ends.newline ≠ ends.carriageReturn) {line rest : List α}
    (clear : ends.newline ∉ line) :
    [ends.carriageReturn, ends.newline] <:+: line ++ ends.newline :: rest ↔
      line.getLast? = some ends.carriageReturn ∨
        [ends.carriageReturn, ends.newline] <:+: rest := by
  constructor
  · rintro ⟨before, behind, split⟩
    rw [List.append_assoc] at split
    -- The pair starts in the line, so it ends with the newline behind it, or later.
    rcases List.append_eq_append_iff.mp split with ⟨more, rfl, tail⟩ | ⟨more, rfl, tail⟩
    · rcases more with _ | ⟨first, _ | ⟨second, more⟩⟩
      · exact absurd (List.cons.inj tail).1.symm apart
      · exact Or.inl (by simp [(List.cons.inj tail).1])
      · exact absurd (by simp [← (List.cons.inj (List.cons.inj tail).2).1]) clear
    · rcases more with _ | ⟨first, more⟩
      · exact absurd (List.cons.inj tail).1 apart
      · exact Or.inr ⟨more, behind, by simpa using (List.cons.inj tail).2.symm⟩
  · rintro (last | ⟨before, behind, rfl⟩)
    · obtain ⟨front, rfl⟩ := List.getLast?_eq_some_iff.mp last
      exact ⟨front, rest, by simp⟩
    · exact ⟨line ++ ends.newline :: before, behind, by simp⟩

theorem settled_cons_iff (apart : ends.newline ≠ ends.carriageReturn) {line rest : List α}
    (clear : ends.newline ∉ line) : ends.Settled (line ++ ends.newline :: rest) ↔
      line.getLast? ≠ some ends.carriageReturn ∧ ends.Settled rest := by
  have proper : line ++ ends.newline :: rest ≠ [] := by simp
  have last : (line ++ ends.newline :: rest).getLast? = some ends.newline ↔
      rest = [] ∨ rest.getLast? = some ends.newline := by
    cases rest with
    | nil => simp
    | cons c rest => simp [List.getLast?_append]
  unfold Settled
  rw [return_cons_iff apart clear, last]
  constructor
  · rintro (empty | ⟨ended, unreturned⟩)
    · exact absurd empty proper
    · refine ⟨fun returned => unreturned (Or.inl returned), ended.imp_right fun ended => ?_⟩
      exact ⟨ended, fun inside => unreturned (Or.inr inside)⟩
  · rintro ⟨plain, rfl | ⟨ended, unreturned⟩⟩
    · exact Or.inr ⟨Or.inl rfl, by simpa using plain⟩
    · refine Or.inr ⟨Or.inr ended, ?_⟩
      rintro (returned | inside)
      · exact plain returned
      · exact unreturned inside

variable [BEq α] [LawfulBEq α]

theorem split_eq_nil_iff {text : List α} : ends.split text = [] ↔ text = [] := by
  constructor
  · intro nothing
    by_cases more : ends.newline ∈ text
    · obtain ⟨line, rest, rfl, clear⟩ := List.eq_append_cons_of_mem more
      rw [split_cons clear] at nothing
      cases nothing
    · by_contra proper
      rw [split_last proper more] at nothing
      cases nothing
  · rintro rfl
    rfl

theorem split_render_iff {lines : List (List α)} : ends.split (ends.render lines) = lines ↔
    ∀ line ∈ lines, ends.newline ∉ line ∧ line.getLast? ≠ some ends.carriageReturn := by
  constructor
  · intro same line listed
    have clear : ∀ line ∈ lines, ends.newline ∉ line := by
      intro line listed
      rw [← same] at listed
      exact split_clear listed
    rw [split_render clear] at same
    exact ⟨clear line listed, map_dropLast?_eq_self_iff.mp same line listed⟩
  · intro plain
    rw [split_render fun line listed => (plain line listed).1]
    exact map_dropLast?_eq_self_iff.mpr fun line listed => (plain line listed).2

theorem render_split_iff (apart : ends.newline ≠ ends.carriageReturn) (text : List α) :
    ends.render (ends.split text) = text ↔ ends.Settled text := by
  -- Line by line: what stands behind the first newline is a shorter text.
  induction size : text.length using Nat.strongRecOn generalizing text with
  | ind n ih =>
    by_cases more : ends.newline ∈ text
    · obtain ⟨line, rest, rfl, clear⟩ := List.eq_append_cons_of_mem more
      have shorter : rest.length < n := by rw [← size]; simp; omega
      rw [split_cons clear, render_cons, settled_cons_iff apart clear, ← ih _ shorter rest rfl,
        ← dropLast?_eq_self_iff]
      constructor
      · intro same
        by_cases returned : line.getLast? = some ends.carriageReturn
        · obtain ⟨front, rfl⟩ := List.getLast?_eq_some_iff.mp returned
          rw [dropLast?_concat, List.append_assoc] at same
          exact absurd (List.cons.inj (List.append_cancel_left same)).1 apart
        · have plain := dropLast?_eq_self_iff.mpr returned
          rw [plain] at same
          exact ⟨plain, (List.cons.inj (List.append_cancel_left same)).2⟩
      · rintro ⟨plain, settled⟩
        rw [plain, settled]
    · by_cases empty : text = []
      · subst empty
        exact ⟨fun _ => Or.inl rfl, fun _ => rfl⟩
      · have ended : ends.render (ends.split text) ≠ text := by
          rw [split_last empty more]
          intro same
          exact more (same ▸ by simp [render])
        refine ⟨fun same => absurd same ended, ?_⟩
        rintro (nothing | ⟨last, -⟩)
        · exact absurd nothing empty
        · exact absurd (List.mem_of_getLast? last) more

end LineEnds

/-- Rendering and splitting undo each other exactly where they can. Lines come back from their
rendering if and only if none of them holds a newline or ends in a carriage return; only the empty
text has no lines; and a text comes back from its lines if and only if it is empty, or ends in a
newline and has no carriage return in front of one. The same holds of bytes. -/
theorem lines_round_trip :
    (∀ lines : List (List Char), splitLines (renderLines lines) = lines ↔
      ∀ line ∈ lines, '\n' ∉ line ∧ line.getLast? ≠ some '\r') ∧
    (∀ text : List Char, splitLines text = [] ↔ text = []) ∧
    (∀ text : List Char, renderLines (splitLines text) = text ↔
      text = [] ∨ text.getLast? = some '\n' ∧ ¬ ['\r', '\n'] <:+: text) ∧
    (∀ lines : List (List UInt8), splitLines (renderLines lines) = lines ↔
      ∀ line ∈ lines, 10 ∉ line ∧ line.getLast? ≠ some 13) ∧
    (∀ text : List UInt8, splitLines text = [] ↔ text = []) ∧
    (∀ text : List UInt8, renderLines (splitLines text) = text ↔
      text = [] ∨ text.getLast? = some 10 ∧ ¬ [13, 10] <:+: text) := by
  have chars : charEnds.newline ≠ charEnds.carriageReturn := by decide
  have bytes : byteEnds.newline ≠ byteEnds.carriageReturn := by decide
  exact ⟨fun _ => LineEnds.split_render_iff, fun _ => LineEnds.split_eq_nil_iff,
    LineEnds.render_split_iff chars, fun _ => LineEnds.split_render_iff,
    fun _ => LineEnds.split_eq_nil_iff, LineEnds.render_split_iff bytes⟩

example : renderLines (splitLines "a\r\nb".toList) = "a\nb\n".toList := by decide

end LineSieve.Text
