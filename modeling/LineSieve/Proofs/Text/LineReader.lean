import LineSieve.Proofs.Text.LineEnds
import LineSieve.Proofs.Text.ByteOffsets
import LineSieve.Text.LineReader
import Mathlib.Data.List.Infix

/- Reading lines through a buffer comes to the lines of the whole text. The buffer never stands full
   when it has to be filled: it grows until it is larger than the text. Nor does the alphabet
   matter: the lines of a text are written in bytes as its bytes are split. -/
namespace LineSieve.Text

section Bytes

theorem toList_loop (bytes : ByteArray) (index : Nat) (read : List UInt8) :
    ByteArray.toList.loop bytes index read = read.reverse ++ bytes.data.toList.drop index := by
  fun_induction ByteArray.toList.loop bytes index read with
  | case1 index read inside ih =>
    have here : bytes.data.toList.drop index =
        bytes.get! index :: bytes.data.toList.drop (index + 1) := by
      rw [List.drop_eq_getElem_cons (by simpa using inside), ByteArray.get!,
        getElem!_pos bytes.data index inside, Array.getElem_toList]
    rw [ih, here, List.reverse_cons, List.append_assoc]
    rfl
  | case2 index read done =>
    rw [List.drop_eq_nil_of_le (by simpa using done), List.append_nil]

theorem toList_encode (s : List Char) : (encode s).toList = utf8 s := by
  rw [encode_eq, ByteArray.toList, toList_loop]
  exact List.toList_data_toByteArray

theorem mem_utf8 {b : UInt8} {c : Char} (single : utf8 [c] = [b]) (s : List Char) :
    b ∈ utf8 s ↔ c ∈ s := by
  have cut := cut?_utf8 (List.cons_ne_nil c []) s
  rw [single] at cut
  rw [← List.singleton_infix_iff, ← List.singleton_infix_iff, ← not_iff_not, ← cut?_none,
    ← cut?_none, cut, Option.map_eq_none_iff]

theorem dropLast?_utf8 {b : UInt8} {c : Char} (single : utf8 [c] = [b]) (s : List Char) :
    dropLast? b (utf8 s) = utf8 (dropLast? c s) := by
  rcases List.eq_nil_or_concat s with rfl | ⟨front, d, rfl⟩
  · rfl
  · have proper : utf8 [d] ≠ [] := mt utf8_eq_nil.mp (List.cons_ne_nil d [])
    rw [List.concat_eq_append, utf8_append, dropLast?_append _ proper,
      dropLast?_append _ (List.cons_ne_nil d []), utf8_append]
    congr 1
    by_cases same : d = c
    · rw [same, single]
      simp [dropLast?]
    · have whole : dropLast? b (utf8 [d]) = utf8 [d] :=
        dropLast?_eq_self_iff.mpr fun last =>
          same (List.mem_singleton.mp ((mem_utf8 single [d]).mp (List.mem_of_getLast? last))).symm
      simp [whole, dropLast?, same]

theorem split_utf8 (text : List Char) :
    byteEnds.split (utf8 text) = (splitLines text).map utf8 := by
  have newline : utf8 [charEnds.newline] = [byteEnds.newline] := by decide
  have dropped (s : List Char) : dropLast? byteEnds.carriageReturn (utf8 s) =
      utf8 (dropLast? charEnds.carriageReturn s) := dropLast?_utf8 (by decide) s
  have clear {s : List Char} (absent : charEnds.newline ∉ s) : byteEnds.newline ∉ utf8 s :=
    mt (mem_utf8 newline s).mp absent
  change byteEnds.split (utf8 text) = (charEnds.split text).map utf8
  induction size : text.length using Nat.strongRecOn generalizing text with
  | ind n ih =>
    by_cases more : charEnds.newline ∈ text
    · obtain ⟨line, rest, rfl, absent⟩ := List.eq_append_cons_of_mem more
      have later := ih rest.length (by rw [← size]; simp; omega) rest rfl
      have bytes : utf8 (line ++ charEnds.newline :: rest) =
          utf8 line ++ byteEnds.newline :: utf8 rest := by
        rw [List.append_cons, utf8_append, utf8_append, newline, List.append_assoc]
        rfl
      rw [bytes, LineEnds.split_cons (clear absent), LineEnds.split_cons absent, dropped, later]
      rfl
    · by_cases empty : text = []
      · rw [empty]
        rfl
      · rw [LineEnds.split_last empty more,
          LineEnds.split_last (mt utf8_eq_nil.mp empty) (clear more), dropped]
        rfl

theorem split_encode (text : List Char) :
    byteEnds.split (encode text).toList = (splitLines text).map utf8 := by
  rw [toList_encode, split_utf8]

end Bytes

namespace LineReader

/-- What the buffer holds fits in it, it may grow to more than is left of the source, and nothing is
left behind the end. -/
structure Sound (reader : LineReader) : Prop where
  proper : 0 < reader.size
  fits : reader.stop ≤ reader.size
  roomy : reader.held.length + reader.ahead.length < reader.limit
  drained : reader.ended = true → reader.ahead = []

variable {reader : LineReader}

def rest (reader : LineReader) : List UInt8 := reader.held ++ reader.ahead

/-- A step to a sound reader with the same text to come. -/
structure Keeps (reader next : LineReader) : Prop where
  sound : next.Sound
  rest : next.rest = reader.rest
  ended : next.ended = reader.ended

theorem Sound.shift (sound : reader.Sound) : reader.Keeps reader.shift ∧
    (reader.shift.stop = reader.shift.size → reader.shift.start = 0) := by
  have fits := sound.fits
  unfold stop at fits
  unfold LineReader.shift
  split
  · refine ⟨⟨⟨sound.proper, ?_, sound.roomy, sound.drained⟩, rfl, rfl⟩, fun _ => rfl⟩
    simp only [stop]
    omega
  · rename_i unmoved
    refine ⟨⟨sound, rfl, rfl⟩, fun full => ?_⟩
    by_contra moved
    exact unmoved (by simp [full, Nat.pos_of_ne_zero moved])

theorem Sound.grow (sound : reader.Sound) (moved : reader.stop = reader.size → reader.start = 0) :
    ∃ wide, reader.grow = .ok wide ∧ reader.Keeps wide ∧ wide.stop < wide.size := by
  obtain ⟨proper, fits, roomy, drained⟩ := sound
  unfold LineReader.grow
  by_cases full : reader.stop = reader.size
  · -- All of a full buffer is held, and that is less than the limit.
    have held : reader.held.length = reader.size := by
      rw [← full, stop, moved full, Nat.zero_add]
    have larger : reader.size < min (2 * reader.size) reader.limit := by omega
    rw [if_pos full, if_neg (by omega), if_neg (by omega)]
    refine ⟨_, rfl, ⟨⟨?_, ?_, roomy, drained⟩, rfl, rfl⟩, ?_⟩ <;> simp only [stop] <;> omega
  · rw [if_neg full]
    exact ⟨reader, rfl, ⟨⟨proper, fits, roomy, drained⟩, rfl, rfl⟩, by omega⟩

theorem Sound.read (sound : reader.Sound) (unended : reader.ended = false)
    (room : reader.stop < reader.size) :
    ∃ next, reader.read = .ok next ∧ next.Sound ∧ next.rest = reader.rest := by
  obtain ⟨proper, fits, roomy, drained⟩ := sound
  unfold LineReader.read
  cases empty : reader.ahead.isEmpty with
  | true =>
    have nothing := List.isEmpty_iff.mp empty
    exact ⟨_, rfl, ⟨proper, fits, roomy, fun _ => nothing⟩, rfl⟩
  | false =>
    have some_room : reader.size - reader.stop ≠ 0 := by omega
    simp only [Bool.false_eq_true, ↓reduceIte, some_room]
    refine ⟨_, rfl, ⟨proper, ?_, ?_, ?_⟩, ?_⟩
    · simp only [stop, List.length_append, List.length_take] at room ⊢
      omega
    · simp only [List.length_append, List.length_take, List.length_drop]
      omega
    · simp [unended]
    · simp [rest]

theorem Sound.fill (sound : reader.Sound) (unended : reader.ended = false) :
    ∃ next, reader.fill = .ok next ∧ next.Sound ∧ next.rest = reader.rest := by
  obtain ⟨shifted, moved⟩ := sound.shift
  obtain ⟨wide, grown, kept, room⟩ := shifted.sound.grow moved
  have open_end := kept.ended.trans (shifted.ended.trans unended)
  obtain ⟨next, filled, sound', same⟩ := kept.sound.read open_end room
  refine ⟨next, ?_, sound', same.trans (kept.rest.trans shifted.rest)⟩
  rw [LineReader.fill, grown]
  exact filled

theorem Sound.skip (sound : reader.Sound) {advance : Nat}
    (held : advance ≤ reader.held.length) : (reader.skip advance).Sound := by
  obtain ⟨proper, fits, roomy, drained⟩ := sound
  refine ⟨proper, ?_, ?_, drained⟩
  · simp only [stop, LineReader.skip, List.length_drop] at fits ⊢
    omega
  · simp only [LineReader.skip, List.length_drop]
    omega

theorem line?_cases {advance : Nat} {line : List UInt8}
    (found : reader.line? = some (advance, line)) : ∃ text,
      byteEnds.newline ∉ text ∧ line = dropLast? byteEnds.carriageReturn text ∧
      ((∃ more, reader.held = text ++ byteEnds.newline :: more ∧ advance = text.length + 1) ∨
        reader.ended = true ∧ text ≠ [] ∧ reader.held = text ∧ advance = text.length) := by
  unfold line? at found
  split at found
  · rename_i index newline
    obtain ⟨inside, same, first⟩ := List.idxOf?_eq_some_iff.mp newline
    obtain ⟨rfl, rfl⟩ := Prod.mk.inj (Option.some.inj found)
    refine ⟨reader.held.take index, fun listed => ?_, rfl,
      .inl ⟨reader.held.drop (index + 1), ?_, ?_⟩⟩
    · obtain ⟨i, early, there⟩ := List.mem_iff_getElem.mp listed
      rw [List.getElem_take] at there
      rw [List.length_take] at early
      exact first i (by omega) there
    · rw [← same, ← List.drop_eq_getElem_cons inside, List.take_append_drop]
    · rw [List.length_take]
      omega
  · rename_i clear
    split at found
    · rename_i last
      obtain ⟨rfl, rfl⟩ := Prod.mk.inj (Option.some.inj found)
      obtain ⟨ended, proper⟩ := Bool.and_eq_true_iff.mp last
      exact ⟨reader.held, List.idxOf?_eq_none_iff.mp clear, rfl,
        .inr ⟨ended, by simpa using proper, rfl, rfl⟩⟩
    · cases found

theorem Sound.line (sound : reader.Sound) {advance : Nat} {line : List UInt8}
    (found : reader.line? = some (advance, line)) : (reader.skip advance).Sound ∧
      byteEnds.split reader.rest = line :: byteEnds.split (reader.skip advance).rest := by
  obtain ⟨text, clear, rfl, ⟨more, held, rfl⟩ | ⟨ended, proper, held, rfl⟩⟩ := line?_cases found
  · have behind : (reader.skip (text.length + 1)).rest = more ++ reader.ahead := by
      rw [rest, LineReader.skip, held, List.append_cons, List.drop_left' (by simp)]
    refine ⟨sound.skip (by simp [held]), ?_⟩
    rw [behind, rest, held, List.append_assoc, List.cons_append]
    exact LineEnds.split_cons clear _
  · have behind : (reader.skip text.length).rest = [] := by
      rw [rest, LineReader.skip, held, List.drop_length, sound.drained ended]
      rfl
    refine ⟨sound.skip (by simp [held]), ?_⟩
    rw [behind, rest, held, sound.drained ended, List.append_nil]
    exact LineEnds.split_last proper clear

theorem Sound.nothing (sound : reader.Sound) (ended : reader.ended = true)
    (missing : reader.line? = none) : reader.rest = [] := by
  have held : reader.held = [] := by
    unfold line? at missing
    split at missing
    · cases missing
    · simpa [ended] using missing
  rw [rest, held, sound.drained ended]
  rfl

/-- The lines that are read are those of the text that is to come. -/
theorem Sound.lines (sound : reader.Sound) : reader.lines = .ok (byteEnds.split reader.rest) := by
  fun_induction LineReader.lines reader with
  | case1 reader advance line found ih =>
    obtain ⟨sound', split⟩ := sound.line found
    rw [ih sound', split]
    rfl
  | case2 reader missing ended =>
    rw [sound.nothing ended missing]
    rfl
  | case3 reader missing unended next filled ih =>
    obtain ⟨other, filled', sound', same⟩ := sound.fill (Bool.eq_false_iff.mpr unended)
    obtain rfl := Except.ok.inj (filled.symm.trans filled')
    rw [ih sound', same]
  | case4 reader missing unended failure failed =>
    obtain ⟨other, filled, -, -⟩ := sound.fill (Bool.eq_false_iff.mpr unended)
    rw [failed] at filled
    cases filled

theorem sound_ofBytes (content : List UInt8) : (ofBytes content).Sound where
  proper := Nat.zero_lt_succ _
  fits := by simp [ofBytes, stop]
  roomy := by simp [ofBytes]
  drained := nofun

theorem lines_ofBytes (content : List UInt8) :
    (ofBytes content).lines = .ok (byteEnds.split content) :=
  (sound_ofBytes content).lines

end LineReader

end LineSieve.Text
