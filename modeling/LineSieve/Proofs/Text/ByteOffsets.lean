import LineSieve.Proofs.Text.Blanks
import LineSieve.Proofs.Text.Pieces

/- Texts searched and cut as UTF-8 bytes. A search for the bytes of a piece finds them only where a
   character starts, because a byte inside of a character never looks like the first one of another.
   So the offset that a search gives is one at which the text can be cut. -/
namespace LineSieve.Text

theorem encode_eq (s : List Char) : encode s = (utf8 s).toByteArray := rfl

@[simp] theorem utf8_nil : utf8 [] = [] := rfl

theorem utf8_cons (c : Char) (s : List Char) :
    utf8 (c :: s) = String.utf8EncodeChar c ++ utf8 s := rfl

theorem utf8_append (s t : List Char) : utf8 (s ++ t) = utf8 s ++ utf8 t :=
  List.flatMap_append

theorem utf8_length (s : List Char) : (utf8 s).length = byteLength s := by
  induction s with
  | nil => rfl
  | cons c s ih =>
    rw [utf8_cons, List.length_append, String.length_utf8EncodeChar, ih]
    rfl

theorem utf8_eq_nil {s : List Char} : utf8 s = [] ↔ s = [] := by
  cases s with
  | nil => simp
  | cons c s => simp [utf8_cons]

theorem utf8_initial_iff {piece s : List Char} : utf8 piece <+: utf8 s ↔ piece <+: s := by
  constructor
  · rintro ⟨rest, split⟩
    refine List.isPrefix_of_utf8Encode_append_eq_utf8Encode rest.toByteArray ?_
    change (utf8 piece).toByteArray ++ rest.toByteArray = (utf8 s).toByteArray
    rw [← split, List.toByteArray_append]
  · rintro ⟨rest, rfl⟩
    rw [utf8_append]
    exact List.prefix_append _ _

theorem utf8EncodeChar_split (c : Char) : ∃ first more, String.utf8EncodeChar c = first :: more ∧
    first.IsUTF8FirstByte ∧ ∀ b ∈ more, ¬ b.IsUTF8FirstByte := by
  cases bytes : String.utf8EncodeChar c with
  | nil => exact absurd bytes String.utf8EncodeChar_ne_nil
  | cons first more =>
    have leads : ∀ i (inside : i < (first :: more).length),
        ((first :: more)[i]).IsUTF8FirstByte ↔ i = 0 := by
      rw [← bytes]
      intro i inside
      exact UInt8.isUTF8FirstByte_getElem_utf8EncodeChar
    refine ⟨first, more, rfl, (leads 0 (by simp)).mpr rfl, fun b listed starts => ?_⟩
    obtain ⟨i, inside, rfl⟩ := List.mem_iff_getElem.mp listed
    have zero := (leads (i + 1) (by simpa using inside)).mp starts
    omega

theorem cut?_skip {first : UInt8} {piece more s : List UInt8} (other : ∀ b ∈ more, b ≠ first) :
    cut? (first :: piece) (more ++ s) =
      (cut? (first :: piece) s).map fun halves => (more ++ halves.1, halves.2) := by
  induction more with
  | nil => simp
  | cons b more ih =>
    have differs : first ≠ b := (other b List.mem_cons_self).symm
    have rest := ih fun d listed => other d (List.mem_cons_of_mem b listed)
    simp [cut?, List.isPrefixOf?, differs, rest, Function.comp_def]

theorem cut?_pass {piece s : List Char} {c : Char} (proper : piece ≠ [])
    (absent : ¬ piece <+: c :: s) :
    cut? (utf8 piece) (utf8 (c :: s)) =
      (cut? (utf8 piece) (utf8 s)).map fun halves =>
        (String.utf8EncodeChar c ++ halves.1, halves.2) := by
  cases piece with
  | nil => exact absurd rfl proper
  | cons d piece =>
    obtain ⟨first, more, bytes, -, trails⟩ := utf8EncodeChar_split c
    obtain ⟨start, tail, spelled, begins, -⟩ := utf8EncodeChar_split d
    have other : ∀ b ∈ more, b ≠ start := by
      rintro b listed rfl
      exact trails b listed begins
    have missing : (utf8 (d :: piece)).isPrefixOf? (utf8 (c :: s)) = none := by
      rw [← Option.not_isSome_iff_eq_none, List.isSome_isPrefixOf?_eq_isPrefixOf,
        List.isPrefixOf_iff_prefix, utf8_initial_iff]
      exact absent
    rw [utf8_cons d, spelled, List.cons_append, utf8_cons c, bytes, List.cons_append] at missing ⊢
    rw [cut?, missing]
    simp only [cut?_skip other, Option.map_map]
    rfl

theorem cut?_utf8 {piece : List Char} (proper : piece ≠ []) (s : List Char) :
    cut? (utf8 piece) (utf8 s) =
      (cut? piece s).map fun halves => (utf8 halves.1, utf8 halves.2) := by
  induction s with
  | nil =>
    have bytes : utf8 piece ≠ [] := mt utf8_eq_nil.mp proper
    simp [cut?, proper, bytes]
  | cons c s ih =>
    cases here : piece.isPrefixOf? (c :: s) with
    | some after =>
      have split := List.isPrefixOf?_eq_some_iff_append_eq.mp here
      rw [← split, utf8_append, cut?_here, cut?_here]
      rfl
    | none =>
      rw [cut?_pass proper (not_initial_of_isPrefixOf? here), ih, cut?, here]
      simp only [Option.map_map]
      rfl

/-- What holds of the bytes of any alphabet: searching them for the bytes of a piece finds the piece,
and nothing else. -/
class LawfulBytes (α : Type) [DecidableEq α] [Alphabet α] : Prop where
  length_bytes (s : List α) : (bytes s).length = byteLength s
  initial_iff {piece s : List α} : bytes piece <+: bytes s ↔ piece <+: s
  cut?_bytes {piece : List α} (proper : piece ≠ []) (s : List α) :
    cut? (bytes piece) (bytes s) =
      (cut? piece s).map fun halves => (bytes halves.1, bytes halves.2)

instance : LawfulBytes Char where
  length_bytes := utf8_length
  initial_iff := utf8_initial_iff
  cut?_bytes := cut?_utf8

theorem byteLength_bytes (s : List UInt8) : byteLength s = s.length := by
  induction s with
  | nil => rfl
  | cons b s ih => rw [byteLength, ih, List.length_cons, Nat.add_comm]; rfl

instance : LawfulBytes UInt8 where
  length_bytes s := (byteLength_bytes s).symm
  initial_iff := Iff.rfl
  cut?_bytes _ _ := (Option.map_id_apply).symm

section Offsets

variable {α : Type} [Alphabet α]

/-- Cut at a byte offset. There is no cut past the end, and none inside of a letter. -/
def cutAt? : Nat → List α → Option (List α × List α)
  | 0, s => some ([], s)
  | _ + 1, [] => none
  | n + 1, c :: s =>
    if Alphabet.size c ≤ n + 1 then
      (cutAt? (n + 1 - Alphabet.size c) s).map fun halves => (c :: halves.1, halves.2)
    else none

example : cutAt? 2 ['é', 'a'] = some (['é'], ['a']) ∧ cutAt? 1 ['é', 'a'] = none ∧
    cutAt? 4 ['é', 'a'] = none ∧ cutAt? 1 (utf8 ['é']) = some ([0xC3], [0xA9]) := by decide

theorem byteLength_append (s t : List α) : byteLength (s ++ t) = byteLength s + byteLength t := by
  induction s with
  | nil => exact (Nat.zero_add _).symm
  | cons c s ih => rw [List.cons_append, byteLength, byteLength, ih, Nat.add_assoc]

variable [LawfulAlphabet α]

theorem cutAt?_eq_some_iff {n : Nat} {s a b : List α} :
    cutAt? n s = some (a, b) ↔ s = a ++ b ∧ byteLength a = n := by
  induction s generalizing n a with
  | nil =>
    cases n with
    | zero => cases a <;> simp [cutAt?, byteLength, eq_comm]
    | succ n => cases a <;> simp [cutAt?, byteLength]
  | cons c s ih =>
    have wide := LawfulAlphabet.size_pos c
    cases n with
    | zero =>
      cases a with
      | nil => simp [cutAt?, byteLength]
      | cons d a =>
        have wide := LawfulAlphabet.size_pos d
        simp only [cutAt?, Option.some.injEq, Prod.mk.injEq, byteLength]
        simp
        omega
    | succ n =>
      cases a with
      | nil => simp [cutAt?, byteLength]
      | cons d a =>
        simp only [cutAt?, Option.ite_none_right_eq_some, Option.map_eq_some_iff, Prod.exists,
          Prod.mk.injEq, List.cons.injEq, byteLength, List.cons_append]
        constructor
        · rintro ⟨fits, front, rest, found, ⟨rfl, rfl⟩, rfl⟩
          obtain ⟨split, long⟩ := ih.mp found
          exact ⟨⟨rfl, split⟩, by omega⟩
        · rintro ⟨⟨rfl, split⟩, long⟩
          exact ⟨by omega, a, b, ih.mpr ⟨split, by omega⟩, ⟨rfl, rfl⟩, rfl⟩

theorem cutAt?_front (a b : List α) : cutAt? (byteLength a) (a ++ b) = some (a, b) :=
  cutAt?_eq_some_iff.mpr ⟨rfl, rfl⟩

theorem byteLength_eq_iff {s a b : List α} (one : a <+: s) (two : b <+: s) :
    byteLength a = byteLength b ↔ a.length = b.length := by
  obtain ⟨c, split⟩ := one
  obtain ⟨d, other⟩ := two
  constructor
  · intro same
    have first : cutAt? (byteLength a) s = some (a, c) := cutAt?_eq_some_iff.mpr ⟨split.symm, rfl⟩
    have second : cutAt? (byteLength a) s = some (b, d) :=
      cutAt?_eq_some_iff.mpr ⟨other.symm, same.symm⟩
    rw [first] at second
    rw [(Prod.mk.inj (Option.some.inj second)).1]
  · intro same
    rw [(List.append_inj (split.trans other.symm) same).1]

end Offsets

section Search

variable {α : Type} [DecidableEq α] [Alphabet α]

/-- The byte offset of the first occurrence of `piece`. -/
def offset? (piece s : List α) : Option Nat :=
  (cut? (bytes piece) (bytes s)).map fun halves => halves.1.length

def startsWith (piece s : List α) : Bool := (bytes piece).isPrefixOf (bytes s)

variable [LawfulBytes α]

theorem startsWith_eq (piece s : List α) : startsWith piece s = piece.isPrefixOf s := by
  rw [startsWith, Bool.eq_iff_iff, List.isPrefixOf_iff_prefix, List.isPrefixOf_iff_prefix,
    LawfulBytes.initial_iff]

theorem offset?_eq {piece : List α} (proper : piece ≠ []) (s : List α) :
    offset? piece s = (cut? piece s).map fun halves => byteLength halves.1 := by
  rw [offset?, LawfulBytes.cut?_bytes proper, Option.map_map]
  simp only [Function.comp_def, LawfulBytes.length_bytes]

theorem offset?_of_cut? {piece s front rest : List α} (proper : piece ≠ [])
    (found : cut? piece s = some (front, rest)) : offset? piece s = some (byteLength front) := by
  rw [offset?_eq proper, found]
  rfl

theorem offset?_of_none {piece s : List α} (proper : piece ≠ [])
    (missing : cut? piece s = none) : offset? piece s = none := by
  rw [offset?_eq proper, missing]
  rfl

end Search

end LineSieve.Text
