import LineSieve.Proofs.Text.ByteOffsets

/- The letters that bytes are read as: the characters whose bytes stand there, and every byte that
   belongs to none. A character is found wherever its bytes stand, so the first letters are read
   alike with more bytes behind them, unless they break off inside of a character. -/
namespace LineSieve.Text

theorem decode?_encode (s : List Char) : decode? (encode s) = some s := by
  have valid : (encode s).IsValidUTF8 := (String.ofList s).isValidUTF8
  rw [decode?, String.fromUTF8?, dif_pos valid]
  exact congrArg some String.toList_ofList

theorem encode_inj {s t : List Char} (same : encode s = encode t) : s = t := by
  have decoded := decode?_encode s
  rw [same, decode?_encode t] at decoded
  exact (Option.some.inj decoded).symm

theorem leading?_eq_some_iff {bytes : List UInt8} {c : Char} :
    leading? bytes = some c ↔ String.utf8EncodeChar c <+: bytes := by
  constructor
  · intro found
    have split := ByteArray.eq_of_utf8DecodeChar?_eq_some found
    have shown := congrArg (fun b : ByteArray => b.data.toList) split
    simp only [ByteArray.data_append, Array.toList_append, List.toList_data_toByteArray] at shown
    exact (shown ▸ List.prefix_append _ _).trans (List.take_prefix 4 bytes)
  · rintro ⟨rest, rfl⟩
    have short : (String.utf8EncodeChar c).length ≤ 4 := by
      rw [String.length_utf8EncodeChar]
      exact c.utf8Size_le_four
    rw [leading?, List.take_append, List.take_of_length_le short, List.toByteArray_append]
    exact ByteArray.utf8DecodeChar?_utf8EncodeChar_append

theorem leading?_encoded (c : Char) (rest : List UInt8) :
    leading? (String.utf8EncodeChar c ++ rest) = some c :=
  leading?_eq_some_iff.mpr (List.prefix_append _ rest)

theorem leading?_mono {a s : List UInt8} {c : Char} (initial : a <+: s)
    (found : leading? a = some c) : leading? s = some c :=
  leading?_eq_some_iff.mpr ((leading?_eq_some_iff.mp found).trans initial)

theorem leading?_trail {b : UInt8} (trails : ¬ b.IsUTF8FirstByte) (rest : List UInt8) :
    leading? (b :: rest) = none := by
  cases found : leading? (b :: rest) with
  | none => rfl
  | some c =>
    obtain ⟨first, more, spelled, leads, -⟩ := utf8EncodeChar_split c
    obtain ⟨behind, split⟩ := leading?_eq_some_iff.mp found
    rw [spelled, List.cons_append] at split
    exact absurd ((List.cons.inj split).1 ▸ leads) trails

theorem glyphs_stray {b : UInt8} {rest : List UInt8} (stray : leading? (b :: rest) = none) :
    glyphs (b :: rest) = [b] :: glyphs rest := by
  rw [glyphs, stray]
  rfl

theorem glyphs_trails {trail : List UInt8} (trails : ∀ b ∈ trail, ¬ b.IsUTF8FirstByte)
    (rest : List UInt8) : glyphs (trail ++ rest) = trail.map (fun b => [b]) ++ glyphs rest := by
  induction trail with
  | nil => rfl
  | cons b trail ih =>
    have stray := leading?_trail (trails b List.mem_cons_self) (trail ++ rest)
    rw [List.cons_append, glyphs_stray stray,
      ih fun other listed => trails other (List.mem_cons_of_mem b listed)]
    rfl

theorem glyphs_encoded (c : Char) (rest : List UInt8) :
    glyphs (String.utf8EncodeChar c ++ rest) = String.utf8EncodeChar c :: glyphs rest := by
  obtain ⟨first, trail, spelled, -, trails⟩ := utf8EncodeChar_split c
  have found := leading?_encoded c rest
  have size := String.length_utf8EncodeChar c
  rw [spelled] at found size ⊢
  rw [List.cons_append] at found ⊢
  rw [glyphs, found, Option.map_some, Option.getD_some, ← size, List.length_cons,
    Nat.add_sub_cancel, List.take_left, glyphs_trails trails, List.drop_left' (by simp)]

theorem glyphs_spelled (s : List Char) (rest : List UInt8) :
    glyphs (utf8 s ++ rest) = s.map String.utf8EncodeChar ++ glyphs rest := by
  induction s with
  | nil => rfl
  | cons c s ih => rw [utf8_cons, List.append_assoc, glyphs_encoded, ih, List.map_cons]; rfl

theorem glyphs_utf8 (s : List Char) : glyphs (utf8 s) = s.map String.utf8EncodeChar := by
  simpa [glyphs] using glyphs_spelled s []

theorem isBlankGlyph_encoded : isBlankGlyph ∘ String.utf8EncodeChar = isBlank := by
  funext c
  rw [Function.comp_apply, isBlankGlyph, leading?_eq_some_iff.mpr List.prefix_rfl]
  rfl

/-- Bytes start with a stray byte or with a character. -/
@[elab_as_elim]
theorem glyphs_induction {motive : List UInt8 → Prop} (nil : motive [])
    (stray : ∀ b rest, leading? (b :: rest) = none → motive rest → motive (b :: rest))
    (encoded : ∀ c rest, motive rest → motive (String.utf8EncodeChar c ++ rest))
    (bytes : List UInt8) : motive bytes := by
  induction size : bytes.length using Nat.strongRecOn generalizing bytes with
  | ind n ih =>
    cases found : leading? bytes with
    | some c =>
      obtain ⟨rest, rfl⟩ := leading?_eq_some_iff.mp found
      refine encoded c rest (ih _ ?_ rest rfl)
      rw [← size, List.length_append, String.length_utf8EncodeChar]
      have wide := c.utf8Size_pos
      omega
    | none =>
      cases bytes with
      | nil => exact nil
      | cons b rest => exact stray b rest found (ih _ (by simp [← size]) rest rfl)

theorem glyphs_flatten (bytes : List UInt8) : (glyphs bytes).flatten = bytes := by
  induction bytes using glyphs_induction with
  | nil => rfl
  | stray b rest stray ih => rw [glyphs_stray stray, List.flatten_cons, ih]; rfl
  | encoded c rest ih => rw [glyphs_encoded, List.flatten_cons, ih]

theorem glyphs_proper {bytes glyph : List UInt8} (listed : glyph ∈ glyphs bytes) : glyph ≠ [] := by
  induction bytes using glyphs_induction with
  | nil => cases listed
  | stray b rest stray ih =>
    rw [glyphs_stray stray] at listed
    rcases List.mem_cons.mp listed with rfl | later
    · exact List.cons_ne_nil b []
    · exact ih later
  | encoded c rest ih =>
    rw [glyphs_encoded] at listed
    rcases List.mem_cons.mp listed with rfl | later
    · exact String.utf8EncodeChar_ne_nil
    · exact ih later

theorem flatten_initial {l : List (List UInt8)} {bytes : List UInt8} (initial : l <+: glyphs bytes) :
    l.flatten <+: bytes := by
  obtain ⟨more, split⟩ := initial
  exact ⟨more.flatten, by rw [← List.flatten_append, split, glyphs_flatten]⟩

theorem flatten_final {l : List (List UInt8)} {bytes : List UInt8} (final : l <:+ glyphs bytes) :
    l.flatten <:+ bytes := by
  obtain ⟨more, split⟩ := final
  exact ⟨more.flatten, by rw [← List.flatten_append, split, glyphs_flatten]⟩

theorem glyphs_initial {l : List (List UInt8)} {bytes : List UInt8} (initial : l <+: glyphs bytes) :
    glyphs l.flatten = l := by
  induction bytes using glyphs_induction generalizing l with
  | nil => rw [List.prefix_nil.mp initial]; rfl
  | stray b rest stray ih =>
    rw [glyphs_stray stray] at initial
    rcases List.prefix_cons_iff.mp initial with rfl | ⟨l, rfl, later⟩
    · rfl
    · have shorter : b :: l.flatten <+: b :: rest :=
        List.cons_prefix_cons.mpr ⟨rfl, flatten_initial later⟩
      have alone : leading? (b :: l.flatten) = none := by
        rw [Option.eq_none_iff_forall_not_mem]
        intro c found
        cases stray.symm.trans (leading?_mono shorter found)
      rw [List.flatten_cons, List.singleton_append, glyphs_stray alone, ih later]
  | encoded c rest ih =>
    rw [glyphs_encoded] at initial
    rcases List.prefix_cons_iff.mp initial with rfl | ⟨l, rfl, later⟩
    · rfl
    · rw [List.flatten_cons, glyphs_encoded, ih later]

theorem glyphs_final {l : List (List UInt8)} {bytes : List UInt8} (final : l <:+ glyphs bytes) :
    glyphs l.flatten = l := by
  induction bytes using glyphs_induction with
  | nil => rw [List.suffix_nil.mp final]; rfl
  | stray b rest stray ih =>
    rw [glyphs_stray stray] at final
    rcases List.suffix_cons_iff.mp final with rfl | later
    · rw [List.flatten_cons, glyphs_flatten, List.singleton_append, glyphs_stray stray]
    · exact ih later
  | encoded c rest ih =>
    rw [glyphs_encoded] at final
    rcases List.suffix_cons_iff.mp final with rfl | later
    · rw [List.flatten_cons, glyphs_flatten, glyphs_encoded]
    · exact ih later

theorem chars_stray {b : UInt8} {rest : List UInt8} (stray : leading? (b :: rest) = none) :
    chars (b :: rest) = '\ufffd' :: chars rest := by
  have alone : leading? [b] = none := by
    rw [Option.eq_none_iff_forall_not_mem]
    intro c found
    cases stray.symm.trans (leading?_mono (List.prefix_append [b] rest) found)
  change (glyphs (b :: rest)).map _ = _ :: (glyphs rest).map _
  rw [glyphs_stray stray, List.map_cons, alone]
  rfl

theorem chars_encoded (c : Char) (rest : List UInt8) :
    chars (String.utf8EncodeChar c ++ rest) = c :: chars rest := by
  have alone : leading? (String.utf8EncodeChar c) = some c :=
    leading?_eq_some_iff.mpr List.prefix_rfl
  change (glyphs (String.utf8EncodeChar c ++ rest)).map _ = _ :: (glyphs rest).map _
  rw [glyphs_encoded, List.map_cons, alone]
  rfl

theorem chars_utf8 (s : List Char) : chars (utf8 s) = s := by
  induction s with
  | nil => rfl
  | cons c s ih => rw [utf8_cons, chars_encoded, ih]

theorem encoded_of_mem_chars {bytes : List UInt8} {c : Char} (listed : c ∈ chars bytes)
    (known : c ≠ '\ufffd') : String.utf8EncodeChar c <:+: bytes := by
  induction bytes using glyphs_induction with
  | nil => cases listed
  | stray b rest stray ih =>
    rw [chars_stray stray] at listed
    rcases List.mem_cons.mp listed with same | later
    · exact absurd same known
    · exact (ih later).trans (List.suffix_cons b rest).isInfix
  | encoded d rest ih =>
    rw [chars_encoded] at listed
    rcases List.mem_cons.mp listed with rfl | later
    · exact (List.prefix_append _ rest).isInfix
    · exact (ih later).trans (List.suffix_append _ rest).isInfix

theorem eq_of_ascii {c d : Char} (ascii : c.toNat < 128)
    (inside : String.utf8EncodeChar c <:+: String.utf8EncodeChar d) : c = d := by
  have single : c.utf8Size = 1 := Char.utf8Size_eq_one_iff.mpr (by
    rw [UInt32.le_iff_toNat_le]
    exact Nat.le_of_lt_succ ascii)
  obtain ⟨b, trail, spelled, leads, -⟩ := utf8EncodeChar_split c
  obtain ⟨first, more, shown, -, trails⟩ := utf8EncodeChar_split d
  have short := String.length_utf8EncodeChar c
  rw [spelled, single, List.length_cons, Nat.add_eq_right, List.length_eq_zero_iff] at short
  subst short
  have listed : b ∈ first :: more := shown ▸ inside.subset (spelled ▸ List.mem_singleton_self b)
  rcases List.mem_cons.mp listed with rfl | later
  · have initial : String.utf8EncodeChar c <+: String.utf8EncodeChar d ++ [] := by
      rw [spelled, shown, List.append_nil]
      exact ⟨more, rfl⟩
    have found := leading?_eq_some_iff.mpr initial
    rw [leading?_encoded] at found
    exact (Option.some.inj found).symm
  · exact absurd leads (trails b later)

/-- Bytes that break off inside of a character hold no ASCII character. -/
theorem not_mem_broken {bytes more : List UInt8} {c d : Char} (stray : leading? bytes = none)
    (found : leading? (bytes ++ more) = some d) (ascii : c.toNat < 128) : c ∉ chars bytes := by
  intro listed
  have known : c ≠ '\ufffd' := by
    rintro rfl
    exact absurd ascii (by decide)
  have inside := encoded_of_mem_chars listed known
  have whole := leading?_eq_some_iff.mp found
  rcases List.prefix_or_prefix_of_prefix whole (List.prefix_append bytes more) with
    complete | broken
  · rw [leading?_eq_some_iff.mpr complete] at stray
    cases stray
  · obtain rfl := eq_of_ascii ascii (inside.trans broken.isInfix)
    have same := inside.sublist.antisymm broken.sublist
    rw [← same, leading?_eq_some_iff.mpr List.prefix_rfl] at stray
    cases stray

theorem chars_initial {a s : List UInt8} {c : Char} {front rest : List Char} (initial : a <+: s)
    (ascii : c.toNat < 128) (shown : chars a = front ++ c :: rest) :
    ∃ behind, chars s = front ++ c :: behind := by
  have known : c ≠ '\ufffd' := by
    rintro rfl
    exact absurd ascii (by decide)
  induction a using glyphs_induction generalizing s front with
  | nil => cases front <;> cases shown
  | encoded d a ih =>
    obtain ⟨more, rfl⟩ := initial
    rw [List.append_assoc, chars_encoded]
    rw [chars_encoded] at shown
    cases front with
    | nil =>
      obtain ⟨rfl, -⟩ := List.cons.inj shown
      exact ⟨_, rfl⟩
    | cons e front =>
      obtain ⟨rfl, later⟩ := List.cons.inj shown
      obtain ⟨behind, split⟩ := ih (List.prefix_append a more) later
      exact ⟨behind, by rw [split]; rfl⟩
  | stray b a stray ih =>
    obtain ⟨more, rfl⟩ := initial
    cases found : leading? (b :: a ++ more) with
    | none =>
      rw [List.cons_append] at found ⊢
      rw [chars_stray found]
      rw [chars_stray stray] at shown
      cases front with
      | nil => exact absurd (List.cons.inj shown).1.symm known
      | cons e front =>
        obtain ⟨rfl, later⟩ := List.cons.inj shown
        obtain ⟨behind, split⟩ := ih (List.prefix_append a more) later
        exact ⟨behind, by rw [split]; rfl⟩
    | some d =>
      have listed : c ∈ chars (b :: a) := by rw [shown]; simp
      exact absurd listed (not_mem_broken stray found ascii)

theorem trimLeft_bytes (s : List UInt8) :
    trimLeft s = ((glyphs s).dropWhile isBlankGlyph).flatten := rfl

theorem trimRight_bytes (s : List UInt8) :
    trimRight s = (dropTrailing isBlankGlyph (glyphs s)).flatten := rfl

theorem allBlank_bytes (s : List UInt8) : allBlank s = (glyphs s).all isBlankGlyph := rfl

theorem glyphs_trimRight (s : List UInt8) :
    glyphs (trimRight s) = dropTrailing isBlankGlyph (glyphs s) :=
  glyphs_initial (dropTrailing_initial _ _)

theorem trim_bytes (s : List UInt8) :
    trim s = (dropTrailing isBlankGlyph ((glyphs s).dropWhile isBlankGlyph)).flatten := by
  rw [trim, trimRight_bytes, trimLeft_bytes, glyphs_final (List.dropWhile_suffix _)]

theorem trim_mono_glyphs {a s : List UInt8} (initial : glyphs a <+: glyphs s) :
    trim a <+: trim s := by
  obtain ⟨more, split⟩ := dropTrailing_mono (dropWhile_mono (p := isBlankGlyph) initial)
  exact ⟨more.flatten, by rw [trim_bytes, trim_bytes, ← List.flatten_append, split]⟩

theorem leading?_before {a : List UInt8} (proper : a ≠ []) {first : UInt8}
    (leads : first.IsUTF8FirstByte) (rest : List UInt8) :
    leading? (a ++ first :: rest) = leading? a := by
  cases found : leading? (a ++ first :: rest) with
  | none =>
    refine (Option.eq_none_iff_forall_not_mem.mpr fun c within => ?_).symm
    rw [leading?_mono (List.prefix_append a _) within] at found
    cases found
  | some c =>
    have whole := leading?_eq_some_iff.mp found
    rcases List.prefix_or_prefix_of_prefix whole (List.prefix_append a _) with inside | broken
    · exact (leading?_eq_some_iff.mpr inside).symm
    · -- A character that broke off there would go on in `first`, which starts one.
      obtain ⟨start, trail, spelled, -, trails⟩ := utf8EncodeChar_split c
      obtain ⟨more, behind⟩ := broken
      cases more with
      | nil =>
        rw [List.append_nil] at behind
        exact (leading?_eq_some_iff.mpr (behind ▸ List.prefix_rfl)).symm
      | cons b more =>
        -- The character would hold the first byte of another one.
        have same : b = first := by
          rw [← behind] at whole
          exact (List.cons_prefix_cons.mp ((List.prefix_append_right_inj a).mp whole)).1
        obtain ⟨d, a, rfl⟩ := List.exists_cons_of_ne_nil proper
        rw [spelled, List.cons_append] at behind
        have listed : b ∈ trail := by rw [← (List.cons.inj behind).2]; simp
        exact absurd (same ▸ leads) (trails b listed)

/-- What stands before a character is read as it is without what is behind. -/
theorem glyphs_before (a : List UInt8) {first : UInt8} (leads : first.IsUTF8FirstByte)
    (rest : List UInt8) : glyphs (a ++ first :: rest) = glyphs a ++ glyphs (first :: rest) := by
  induction a using glyphs_induction with
  | nil => rfl
  | stray b a stray ih =>
    have alone : leading? (b :: (a ++ first :: rest)) = none := by
      rw [← List.cons_append, leading?_before (List.cons_ne_nil b a) leads, stray]
    rw [List.cons_append, glyphs_stray alone, glyphs_stray stray, ih, List.cons_append]
  | encoded c a ih =>
    rw [List.append_assoc, glyphs_encoded, glyphs_encoded, ih, List.cons_append]

theorem trimLeft_stray {b : UInt8} {rest : List UInt8} (stray : leading? (b :: rest) = none) :
    trimLeft (b :: rest) = b :: rest := by
  have alone : isBlankGlyph [b] = false := by
    rw [isBlankGlyph, Option.any_eq_false]
    intro c found
    cases stray.symm.trans (leading?_mono (List.prefix_append [b] rest) found)
  rw [trimLeft_bytes, glyphs_stray stray, List.dropWhile_cons, alone, if_neg Bool.false_ne_true,
    ← glyphs_stray stray, glyphs_flatten]

theorem trimLeft_encoded (c : Char) (rest : List UInt8) :
    trimLeft (String.utf8EncodeChar c ++ rest) =
      if isBlank c then trimLeft rest else String.utf8EncodeChar c ++ rest := by
  have blank : isBlankGlyph (String.utf8EncodeChar c) = isBlank c :=
    congrFun isBlankGlyph_encoded c
  rw [trimLeft_bytes, glyphs_encoded, List.dropWhile_cons, blank]
  split
  · rfl
  · rw [← glyphs_encoded, glyphs_flatten]

theorem trimLeft_extend {c : Char} {piece : List Char} {a s : List UInt8} (initial : a <+: s)
    (shown : utf8 (c :: piece) <+: trimLeft a) : utf8 (c :: piece) <+: trimLeft s := by
  rw [utf8_cons] at shown ⊢
  obtain ⟨more, rfl⟩ := initial
  induction a using glyphs_induction with
  | nil => exact absurd (List.prefix_nil.mp shown) (by simp)
  | stray b a stray ih =>
    rw [trimLeft_stray stray] at shown
    have leads := leading?_eq_some_iff.mpr ((List.prefix_append _ _).trans shown)
    cases stray.symm.trans leads
  | encoded d a ih =>
    rw [trimLeft_encoded] at shown
    rw [List.append_assoc, trimLeft_encoded]
    by_cases blank : isBlank d = true
    · rw [if_pos blank] at shown ⊢
      exact ih shown
    · rw [if_neg blank] at shown ⊢
      rw [← List.append_assoc]
      exact shown.trans (List.prefix_append _ more)

theorem trimRight_spelled {piece : List Char} (ends : trimRight piece = piece) (rest : List UInt8) :
    utf8 piece <+: trimRight (utf8 piece ++ rest) := by
  have kept : dropTrailing (isBlankGlyph ∘ String.utf8EncodeChar) piece = piece :=
    isBlankGlyph_encoded ▸ ends
  rw [trimRight_bytes, glyphs_spelled, dropTrailing_append, dropTrailing_map, kept, ← glyphs_utf8]
  split
  · simp only [glyphs_flatten, List.prefix_rfl]
  · rw [List.flatten_append, glyphs_flatten]
    exact List.prefix_append _ _

theorem trim_extend_bytes {piece : List Char} {a s : List UInt8} (ends : trimRight piece = piece)
    (initial : a <+: s) (shown : utf8 piece <+: trim a) : utf8 piece <+: trim s := by
  cases piece with
  | nil => exact List.nil_prefix
  | cons c piece =>
    have left := shown.trans (flatten_initial (dropTrailing_initial isBlankGlyph _))
    obtain ⟨rest, split⟩ := trimLeft_extend initial left
    rw [trim, ← split]
    exact trimRight_spelled ends rest

instance : LawfulAlphabet UInt8 where
  size_pos _ := Nat.one_pos
  trimLeft_final _ := flatten_final (List.dropWhile_suffix _)
  trimLeft_allBlank s := by
    rw [allBlank_bytes, trimLeft_bytes, glyphs_final (List.dropWhile_suffix _), all_dropWhile,
      allBlank_bytes]
  trimRight_split s := by
    obtain ⟨blanks, split, blank⟩ := dropTrailing_split (p := isBlankGlyph) (glyphs s)
    refine ⟨blanks.flatten, ?_, ?_⟩
    · rw [trimRight_bytes, ← List.flatten_append, split, glyphs_flatten]
    · rw [allBlank_bytes, glyphs_final ⟨_, split⟩, blank]
  trimRight_eq_nil {s} := by
    rw [trimRight_bytes, allBlank_bytes, ← dropTrailing_eq_nil, List.flatten_eq_nil_iff]
    refine ⟨fun empty => List.eq_nil_iff_forall_not_mem.mpr fun glyph listed => ?_, by simp_all⟩
    exact glyphs_proper ((dropTrailing_initial _ _).subset listed) (empty glyph listed)
  trimRight_idem s := by
    rw [trimRight_bytes (trimRight s), glyphs_trimRight, dropTrailing_idem, trimRight_bytes]
  trimRight_last {s c} last := by
    change ((glyphs (trimRight s)).map _).getLast? = some c at last
    rw [glyphs_trimRight, List.getLast?_map] at last
    obtain ⟨glyph, found, rfl⟩ := Option.map_eq_some_iff.mp last
    have visible := dropTrailing_last found
    unfold isBlankGlyph at visible
    cases read : leading? glyph with
    | none => rfl
    | some c => simpa [read] using visible
  chars_extend := chars_initial
  trim_extend := trim_extend_bytes
  trim_trimRight s := trim_mono_glyphs (glyphs_trimRight s ▸ dropTrailing_initial _ _)
  trim_before {marker} proper code rest := by
    obtain ⟨c, marker, rfl⟩ := List.exists_cons_of_ne_nil (mt utf8_eq_nil.mpr proper)
    obtain ⟨first, more, spelled, leads, -⟩ := utf8EncodeChar_split c
    apply trim_mono_glyphs
    change glyphs code <+: glyphs (code ++ (utf8 (c :: marker) ++ rest))
    rw [utf8_cons, spelled, List.cons_append, List.cons_append, glyphs_before code leads]
    exact List.prefix_append _ _

/-- A way to slice texts at byte offsets that works between two whole parts, and everything that a
line is sliced into at whole markers is whole. -/
structure Slices {α : Type} [DecidableEq α] [Alphabet α]
    (slice : Nat → List α → Option (List α × List α)) (whole : List α → Prop) : Prop where
  nil : whole []
  append {a b : List α} (front : whole a) (rest : whole b) : whole (a ++ b)
  trim {s : List α} (clean : whole s) : whole (trim s)
  halves {piece s front rest : List α} (proper : piece ≠ []) (mark : whole piece) (clean : whole s)
    (found : cut? piece s = some (front, rest)) : whole front ∧ whole rest
  apart {a b : List α} (front : whole a) (rest : whole b) :
    slice (byteLength a) (a ++ b) = some (a, b)

namespace Slices

variable {α : Type} [DecidableEq α] [Alphabet α] {slice : Nat → List α → Option (List α × List α)}
  {whole : List α → Prop} {piece s front rest : List α}

theorem at_cut (slices : Slices slice whole) (proper : piece ≠ []) (mark : whole piece)
    (clean : whole s) (found : cut? piece s = some (front, rest)) :
    slice (byteLength front) s = some (front, piece ++ rest) := by
  obtain ⟨before, behind⟩ := slices.halves proper mark clean found
  rw [cut?_split found, slices.apart before (slices.append mark behind)]

theorem behind_cut (slices : Slices slice whole) (proper : piece ≠ []) (mark : whole piece)
    (clean : whole s) (found : cut? piece s = some (front, rest)) :
    slice (byteLength front + byteLength piece) s = some (front ++ piece, rest) := by
  obtain ⟨before, behind⟩ := slices.halves proper mark clean found
  rw [cut?_split found, ← List.append_assoc, ← byteLength_append,
    slices.apart (slices.append before mark) behind]

end Slices

theorem slices_anywhere {α : Type} [DecidableEq α] [Alphabet α] [LawfulAlphabet α] :
    Slices (α := α) cutAt? fun _ => True where
  nil := trivial
  append _ _ := trivial
  trim _ := trivial
  halves _ _ _ _ := ⟨trivial, trivial⟩
  apart _ _ := cutAt?_front _ _

/-- Bytes that are a text. -/
def IsText (s : List UInt8) : Prop := ∃ t : List Char, s = utf8 t

/-- Cut at a byte offset of a text, but not inside of a character. -/
def cutText? (n : Nat) (s : List UInt8) : Option (List UInt8 × List UInt8) :=
  (cutAt? n s).filter fun halves =>
    utf8 (chars halves.1) == halves.1 && utf8 (chars halves.2) == halves.2

example : cutText? 2 (utf8 ['é', 'a']) = some (utf8 ['é'], utf8 ['a']) ∧
    cutText? 1 (utf8 ['é', 'a']) = none := by decide +kernel

theorem trim_utf8 (s : List Char) : trim (utf8 s) = utf8 (trim s) := by
  rw [trim_bytes, glyphs_utf8, List.dropWhile_map, dropTrailing_map, isBlankGlyph_encoded,
    ← List.flatMap_def]
  rfl

theorem slices_text : Slices cutText? IsText where
  nil := ⟨[], rfl⟩
  append := by
    rintro _ _ ⟨a, rfl⟩ ⟨b, rfl⟩
    exact ⟨a ++ b, (utf8_append a b).symm⟩
  trim := by
    rintro _ ⟨s, rfl⟩
    exact ⟨_, trim_utf8 s⟩
  halves := by
    rintro _ _ front rest proper ⟨piece, rfl⟩ ⟨s, rfl⟩ found
    rw [cut?_utf8 (mt utf8_eq_nil.mpr proper)] at found
    obtain ⟨halves, -, same⟩ := Option.map_eq_some_iff.mp found
    obtain ⟨rfl, rfl⟩ := Prod.mk.inj same
    exact ⟨⟨_, rfl⟩, ⟨_, rfl⟩⟩
  apart := by
    rintro _ _ ⟨a, rfl⟩ ⟨b, rfl⟩
    rw [cutText?, cutAt?_front, Option.filter_some, chars_utf8, chars_utf8, beq_self_eq_true,
      beq_self_eq_true]
    rfl

end LineSieve.Text
