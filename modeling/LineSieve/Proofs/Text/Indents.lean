import LineSieve.Proofs.Text.Blanks
import LineSieve.Proofs.Text.Pieces

/- Spaces and tabs around a text. A word that holds none of them occurs in the text between them
   only where it occurs in the text itself, and trimming takes them away. -/
namespace LineSieve.Text

theorem allBlank_append (a b : List Char) : allBlank (a ++ b) = (allBlank a && allBlank b) :=
  List.all_append

theorem dropTrailing_all {p : Char → Bool} {s : List Char} (all : s.all p = true) (a : List Char) :
    dropTrailing p (a ++ s) = dropTrailing p a := by
  rw [dropTrailing_append, if_pos (dropTrailing_eq_nil.mpr all)]

theorem trim_between {lead trail : List Char} (leading : allBlank lead = true)
    (trailing : allBlank trail = true) (s : List Char) :
    trim (lead ++ (s ++ trail)) = trim s := by
  have skipped : trimLeft (lead ++ (s ++ trail)) = trimLeft (s ++ trail) :=
    List.dropWhile_append_of_pos (List.all_eq_true.mp leading)
  unfold trim
  rw [skipped]
  by_cases blank : trimLeft s = []
  · have all : allBlank s = true := by rw [← trimLeft_allBlank, blank]; rfl
    have whole : allBlank (s ++ trail) = true := by rw [allBlank_append, all, trailing]; rfl
    rw [trimRight_eq_nil.mpr ((trimLeft_allBlank _).trans whole),
      trimRight_eq_nil.mpr ((trimLeft_allBlank _).trans all)]
  · have kept : trimLeft (s ++ trail) = trimLeft s ++ trail := by
      rw [trimLeft_chars] at blank ⊢
      rw [trimLeft_chars, List.dropWhile_append, if_neg (by simpa using blank)]
    rw [kept]
    exact dropTrailing_all trailing _

def Indent (s : List Char) : Prop := ∀ c ∈ s, c = ' ' ∨ c = '\t'

instance (s : List Char) : Decidable (Indent s) := List.decidableBAll _ s

theorem Indent.nil : Indent [] := nofun

/-- Without spaces and tabs, and not empty. -/
structure Solid (word : List Char) : Prop where
  proper : word ≠ []
  space : ' ' ∉ word
  tab : '\t' ∉ word

instance (word : List Char) : Decidable (Solid word) :=
  decidable_of_iff (word ≠ [] ∧ ' ' ∉ word ∧ '\t' ∉ word)
    ⟨fun ⟨proper, space, tab⟩ => ⟨proper, space, tab⟩,
      fun solid => ⟨solid.proper, solid.space, solid.tab⟩⟩

theorem Indent.allBlank {s : List Char} (indent : Indent s) : allBlank s = true := by
  rw [allBlank_chars, List.all_eq_true]
  intro c listed
  rcases indent c listed with rfl | rfl <;> decide

theorem Solid.disjoint {word s : List Char} (solid : Solid word) (indent : Indent s) {c : Char}
    (listed : c ∈ word) : c ∉ s := by
  intro among
  rcases indent c among with rfl | rfl
  · exact solid.space listed
  · exact solid.tab listed

variable {lead trail s word : List Char}

theorem Solid.front (solid : Solid word) (leading : Indent lead) {a b : List Char}
    (occurs : lead ++ s = a ++ (word ++ b)) :
    ∃ front, a = lead ++ front ∧ s = front ++ (word ++ b) := by
  rcases List.append_eq_append_iff.mp occurs with ⟨front, rfl, rest⟩ | ⟨excess, rfl, rest⟩
  · exact ⟨front, rfl, rest⟩
  · cases excess with
    | nil => exact ⟨[], by simp, rest.symm⟩
    | cons c excess =>
      obtain ⟨d, word, rfl⟩ := List.exists_cons_of_ne_nil solid.proper
      obtain ⟨rfl, -⟩ := List.cons.inj rest
      exact absurd (by simp) (solid.disjoint leading List.mem_cons_self)

theorem Solid.back (solid : Solid word) (trailing : Indent trail) {a b : List Char}
    (occurs : s ++ trail = a ++ (word ++ b)) :
    ∃ back, s = a ++ (word ++ back) ∧ b = back ++ trail := by
  rw [← List.append_assoc] at occurs
  rcases List.append_eq_append_iff.mp occurs with ⟨excess, whole, rest⟩ | ⟨back, rfl, rest⟩
  · rcases List.eq_nil_or_concat excess with rfl | ⟨excess, c, rfl⟩
    · exact ⟨[], by simpa using whole.symm, by simpa using rest.symm⟩
    · obtain ⟨word, d, rfl⟩ := (List.eq_nil_or_concat word).resolve_left solid.proper
      rw [List.concat_eq_append, List.concat_eq_append, ← List.append_assoc, ← List.append_assoc]
        at whole
      obtain ⟨-, last⟩ := List.append_inj' whole rfl
      obtain ⟨rfl, -⟩ := List.cons.inj last
      refine absurd ?_ (solid.disjoint trailing (show d ∈ word.concat d by simp))
      simp [rest]
  · exact ⟨back, List.append_assoc _ _ _, rest⟩

theorem Solid.within (solid : Solid word) (leading : Indent lead) (trailing : Indent trail)
    {a b : List Char} (occurs : lead ++ (s ++ trail) = a ++ (word ++ b)) :
    ∃ front back, a = lead ++ front ∧ s = front ++ (word ++ back) ∧ b = back ++ trail := by
  obtain ⟨front, rfl, rest⟩ := solid.front leading occurs
  obtain ⟨back, split, rfl⟩ := solid.back trailing rest
  exact ⟨front, back, rfl, split, rfl⟩

theorem Solid.absent (solid : Solid word) (leading : Indent lead) (trailing : Indent trail)
    (missing : cut? word s = none) : cut? word (lead ++ (s ++ trail)) = none := by
  refine cut?_none.mpr ?_
  rintro ⟨a, b, occurs⟩
  rw [List.append_assoc] at occurs
  obtain ⟨front, back, -, split, -⟩ := solid.within leading trailing occurs.symm
  exact cut?_none.mp missing ⟨front, back, by rw [split, List.append_assoc]⟩

theorem Solid.cut (solid : Solid word) (leading : Indent lead) (trailing : Indent trail)
    {a b : List Char} (found : cut? word s = some (a, b)) :
    cut? word (lead ++ (s ++ trail)) = some (lead ++ a, b ++ trail) := by
  have whole := cut?_split found
  refine cut?_of_first (by rw [whole]; simp only [List.append_assoc]) fun c d occurs => ?_
  obtain ⟨front, back, rfl, split, -⟩ := solid.within leading trailing occurs
  have first := cut?_first found split
  rw [List.length_append, List.length_append]
  omega

theorem count_indented {lead trail : List Char} (leading : Indent lead)
    (trailing : Indent trail) (s : List Char) {c : Char} (solid : Solid [c]) :
    (lead ++ (s ++ trail)).count c = s.count c := by
  have absent {blanks : List Char} (indent : Indent blanks) : blanks.count c = 0 :=
    List.count_eq_zero.mpr (solid.disjoint indent List.mem_cons_self)
  rw [List.count_append, List.count_append, absent leading, absent trailing]
  omega

theorem trimRight_indented (leading : Indent lead) (trailing : Indent trail) :
    trimRight (lead ++ (s ++ trail)) =
      if trimRight s = [] then [] else lead ++ trimRight s := by
  rw [← List.append_assoc, trimRight_chars, trimRight_chars, dropTrailing_all trailing.allBlank,
    dropTrailing_append, dropTrailing_eq_nil.mpr leading.allBlank]

end LineSieve.Text
