import Mathlib.Data.List.DropRight
import LineSieve.Text.Alphabet

/- Trimming: what is left is a beginning or an end of the text that starts or stops at a character
   that is not blank. Bytes are trimmed like characters, but a beginning of bytes may end inside of a
   character, so only trimming characters keeps the order of beginnings. -/
namespace LineSieve.Text

section Trailing

variable {α : Type} (p : α → Bool)

theorem dropTrailing_append (a s : List α) :
    dropTrailing p (a ++ s) =
      if dropTrailing p s = [] then dropTrailing p a else a ++ dropTrailing p s := by
  induction a with
  | nil => by_cases gone : dropTrailing p s = [] <;> simp [gone, dropTrailing]
  | cons c a ih =>
    rw [List.cons_append, dropTrailing, ih]
    by_cases gone : dropTrailing p s = []
    · rw [if_pos gone, if_pos gone, dropTrailing]
    · have more := List.append_ne_nil_of_right_ne_nil a gone
      obtain ⟨d, rest, shown⟩ := List.exists_cons_of_ne_nil more
      rw [if_neg gone, if_neg gone, List.cons_append, shown]

theorem dropTrailing_eq (s : List α) : dropTrailing p s = s.rdropWhile p := by
  induction s using List.reverseRecOn with
  | nil => rfl
  | append_singleton s c ih =>
    rw [dropTrailing_append, List.rdropWhile_concat, ih]
    by_cases drops : p c = true
    · simp [dropTrailing, drops]
    · simp [dropTrailing, drops]

theorem dropTrailing_initial (s : List α) : dropTrailing p s <+: s := by
  rw [dropTrailing_eq]
  exact List.rdropWhile_prefix p s

theorem dropTrailing_idem (s : List α) :
    dropTrailing p (dropTrailing p s) = dropTrailing p s := by
  simp only [dropTrailing_eq, List.rdropWhile_idempotent]

theorem dropTrailing_map {β : Type} (f : β → α) (s : List β) :
    dropTrailing p (s.map f) = (dropTrailing (p ∘ f) s).map f := by
  induction s with
  | nil => rfl
  | cons c s ih =>
    rw [List.map_cons, dropTrailing, ih, dropTrailing]
    cases dropTrailing (p ∘ f) s with
    | nil => by_cases drops : p (f c) = true <;> simp [drops]
    | cons d s => rfl

variable {p}

theorem dropTrailing_mono {a s : List α} (initial : a <+: s) :
    dropTrailing p a <+: dropTrailing p s := by
  obtain ⟨t, rfl⟩ := initial
  rw [dropTrailing_append]
  split
  · exact List.prefix_rfl
  · exact (dropTrailing_initial p a).trans (List.prefix_append a _)

theorem dropTrailing_split (s : List α) :
    ∃ rest, dropTrailing p s ++ rest = s ∧ rest.all p = true := by
  refine ⟨s.rtakeWhile p, ?_, List.all_eq_true.mpr fun c => List.mem_rtakeWhile_imp⟩
  rw [dropTrailing_eq, List.rdropWhile_append_rtakeWhile]

theorem dropTrailing_eq_nil {s : List α} : dropTrailing p s = [] ↔ s.all p = true := by
  rw [dropTrailing_eq, List.rdropWhile_eq_nil_iff, List.all_eq_true]

theorem dropTrailing_last {s : List α} {c : α} (last : (dropTrailing p s).getLast? = some c) :
    p c = false := by
  rw [dropTrailing_eq] at last
  obtain ⟨shown, rfl⟩ := List.mem_getLast?_eq_getLast last
  simpa using List.rdropWhile_last_not p s shown

theorem all_dropWhile (s : List α) : (s.dropWhile p).all p = s.all p := by
  induction s with
  | nil => rfl
  | cons c s ih =>
    by_cases drops : p c = true
    · simpa only [List.dropWhile_cons_of_pos drops, List.all_cons, drops, Bool.true_and] using ih
    · rw [List.dropWhile_cons_of_neg drops]

theorem dropWhile_mono {a s : List α} (initial : a <+: s) : a.dropWhile p <+: s.dropWhile p := by
  obtain ⟨t, rfl⟩ := initial
  rw [List.dropWhile_append]
  by_cases gone : (a.dropWhile p).isEmpty
  · rw [List.isEmpty_iff.mp gone]
    exact List.nil_prefix
  · rw [if_neg gone]
    exact List.prefix_append _ _

end Trailing

/-- What holds of the texts of any alphabet. -/
class LawfulAlphabet (α : Type) [Alphabet α] : Prop where
  size_pos (c : α) : 0 < Alphabet.size c
  trimLeft_final (s : List α) : trimLeft s <:+ s
  trimLeft_allBlank (s : List α) : allBlank (trimLeft s) = allBlank s
  trimRight_split (s : List α) : ∃ blanks, trimRight s ++ blanks = s ∧ allBlank blanks = true
  trimRight_eq_nil {s : List α} : trimRight s = [] ↔ allBlank s = true
  trimRight_idem (s : List α) : trimRight (trimRight s) = trimRight s
  trimRight_last {s : List α} {c : Char} (last : (chars (trimRight s)).getLast? = some c) :
    isBlank c = false
  /-- An ASCII character is one wherever it stands, so what is read before it stays the same. -/
  chars_extend {a s : List α} {c : Char} {front rest : List Char} (initial : a <+: s)
    (ascii : c.toNat < 128) (shown : chars a = front ++ c :: rest) :
    ∃ behind, chars s = front ++ c :: behind
  trim_trimRight (s : List α) : trim (trimRight s) <+: trim s
  trim_before {marker : List Char} (proper : (ofChars marker : List α) ≠ []) (code rest : List α) :
    trim code <+: trim (code ++ (ofChars marker ++ rest))
  /-- A beginning may be cut inside of a character, but not inside of one that is read in it. -/
  trim_extend {piece : List Char} {a s : List α} (ends : trimRight piece = piece)
    (initial : a <+: s) (shown : ofChars piece <+: trim a) : ofChars piece <+: trim s

export LawfulAlphabet (trimLeft_final trimLeft_allBlank trimRight_split trimRight_eq_nil
  trimRight_idem trimRight_last chars_extend trim_trimRight trim_before trim_extend)

section Characters

variable {s : List Char}

@[simp] theorem ofAscii_char (c : Char) : ofAscii c = c := rfl

@[simp] theorem chars_self (s : List Char) : chars s = s := rfl

@[simp] theorem ofChars_self (s : List Char) : ofChars s = s := rfl

theorem trimLeft_chars (s : List Char) : trimLeft s = s.dropWhile isBlank := rfl

theorem trimRight_chars (s : List Char) : trimRight s = dropTrailing isBlank s := rfl

theorem allBlank_chars (s : List Char) : allBlank s = s.all isBlank := rfl

theorem trim_mono {a : List Char} (initial : a <+: s) : trim a <+: trim s :=
  dropTrailing_mono (dropWhile_mono initial)

instance : LawfulAlphabet Char where
  size_pos := Char.utf8Size_pos
  trimLeft_final _ := List.dropWhile_suffix isBlank
  trimLeft_allBlank := all_dropWhile
  trimRight_split := dropTrailing_split
  trimRight_eq_nil := dropTrailing_eq_nil
  trimRight_idem := dropTrailing_idem isBlank
  trimRight_last := dropTrailing_last
  chars_extend := by
    rintro a _ c front rest ⟨more, rfl⟩ - shown
    exact ⟨rest ++ more, (congrArg (· ++ more) shown).trans (by simp)⟩
  trim_trimRight s := trim_mono (dropTrailing_initial isBlank s)
  trim_before _ code rest := trim_mono (List.prefix_append code _)
  trim_extend _ initial shown := shown.trans (trim_mono initial)

theorem trim_ne_nil {part : List Char} (shown : allBlank part = false) (inside : part <:+: s) :
    trim s ≠ [] := by
  intro empty
  have all : allBlank s = true := by rwa [← trimLeft_allBlank, ← trimRight_eq_nil]
  obtain ⟨c, listed, visible⟩ := List.all_eq_false.mp shown
  exact visible (List.all_eq_true.mp all c (inside.subset listed))

end Characters

variable {α : Type} [Alphabet α] [LawfulAlphabet α]

theorem trimRight_initial (s : List α) : trimRight s <+: s := by
  obtain ⟨blanks, split, -⟩ := trimRight_split s
  exact ⟨blanks, split⟩

theorem trimRight_nil : trimRight ([] : List α) = [] :=
  List.prefix_nil.mp (trimRight_initial [])

theorem trim_eq_nil {s : List α} : trim s = [] ↔ allBlank s = true := by
  rw [trim, trimRight_eq_nil, trimLeft_allBlank]

theorem trim_inside (s : List α) : trim s <:+: s :=
  (trimRight_initial _).isInfix.trans (trimLeft_final s).isInfix

theorem takeBytes_byteLength (a b : List α) : takeBytes (byteLength a) (a ++ b) = a := by
  induction a with
  | nil =>
    cases b with
    | nil => rfl
    | cons c b =>
      have wide := LawfulAlphabet.size_pos c
      simp only [byteLength, List.nil_append, takeBytes]
      rw [if_neg (by omega)]
  | cons c a ih =>
    simp only [byteLength, List.cons_append, takeBytes]
    rw [if_pos (by omega), Nat.add_sub_cancel_left, ih]

end LineSieve.Text
