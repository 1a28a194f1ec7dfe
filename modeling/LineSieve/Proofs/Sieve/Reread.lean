import LineSieve.Encoding.Decoder
import LineSieve.Proofs.Sieve.Idempotence
import LineSieve.Proofs.Text.Glyphs
import LineSieve.Proofs.Text.LineEnds

/- Output that is written to a file and read again. Reading takes a byte order mark from the front
   and a carriage return from the end of each line, so the lines that come back are the lines that
   were written exactly if there was nothing to take. -/
namespace LineSieve

open Encoding

theorem default_decode_encode (s : List Char) :
    Decoder.default.decode (Text.encode s) = .ok ⟨dropMark s, "utf-8"⟩ := by
  simp [Decoder.decode, Decoder.default, Decoder.firstAccepting, Charset.decode, Text.decode?_encode]

def reread (lines : List (List Char)) : List (List Char) :=
  Text.splitLines (dropMark (Text.renderLines lines))

/-- The first line does not start with a byte order mark and no line ends with a carriage return. -/
def Rereadable (lines : List (List Char)) : Prop :=
  lines.head?.bind List.head? ≠ some byteOrderMark ∧ ∀ line ∈ lines, line.getLast? ≠ some '\r'

theorem dropMark_suffix (s : List Char) : dropMark s <:+ s := by
  unfold dropMark
  split
  · split
    · exact List.suffix_cons _ _
    · exact List.suffix_rfl
  · exact List.suffix_rfl

theorem dropMark_eq_self_iff {s : List Char} : dropMark s = s ↔ s.head? ≠ some byteOrderMark := by
  cases s with
  | nil => simp [dropMark]
  | cons c s =>
    by_cases mark : c = byteOrderMark
    · simp [dropMark, mark]
    · simp [dropMark, mark]

theorem dropMark_append {s : List Char} {c : Char} (other : c ≠ byteOrderMark) (t : List Char) :
    dropMark (s ++ c :: t) = dropMark s ++ c :: t := by
  cases s with
  | nil => simp [dropMark, other]
  | cons d s =>
    by_cases mark : d = byteOrderMark
    · simp [dropMark, mark]
    · simp [dropMark, mark]

theorem renderLines_cons (line : List Char) (lines : List (List Char)) :
    Text.renderLines (line :: lines) = line ++ '\n' :: Text.renderLines lines :=
  Text.LineEnds.render_cons line lines

theorem reread_cons {line : List Char} {lines : List (List Char)}
    (clear : ∀ text ∈ line :: lines, '\n' ∉ text) :
    reread (line :: lines) = (dropMark line :: lines).map (Text.dropLast? '\r') := by
  unfold reread
  rw [renderLines_cons, dropMark_append (by decide), ← renderLines_cons]
  refine Text.LineEnds.split_render fun text listed inside => ?_
  rcases List.mem_cons.mp listed with rfl | later
  · exact clear line List.mem_cons_self ((dropMark_suffix line).subset inside)
  · exact clear text (List.mem_cons_of_mem _ later) inside

theorem reread_of_rereadable {lines : List (List Char)} (clear : ∀ line ∈ lines, '\n' ∉ line)
    (readable : Rereadable lines) : reread lines = lines := by
  cases lines with
  | nil => rfl
  | cons line lines =>
    have unmarked : dropMark line = line := dropMark_eq_self_iff.mpr readable.1
    rw [reread_cons clear, unmarked]
    exact Text.map_dropLast?_eq_self_iff.mpr readable.2

section Lengths

variable {α : Type} [DecidableEq α] [Text.Alphabet α]

theorem renderLines_length_cons (line : List α)
    (lines : List (List α)) : (Text.renderLines (line :: lines)).length =
      line.length + 1 + (Text.renderLines lines).length := by
  rw [Text.renderLines, Text.LineEnds.render_cons, List.length_append, List.length_cons]
  change _ + ((Text.renderLines lines).length + 1) = _
  omega

theorem renderLines_map_length {f : List α → List α} (shortens : ∀ line, (f line).Sublist line)
    (lines : List (List α)) :
    (Text.renderLines (lines.map f)).length ≤ (Text.renderLines lines).length ∧
      ((Text.renderLines lines).length ≤ (Text.renderLines (lines.map f)).length →
        lines.map f = lines) := by
  induction lines with
  | nil => exact ⟨Nat.le_refl _, fun _ => rfl⟩
  | cons line lines ih =>
    obtain ⟨shorter, same⟩ := ih
    have first := (shortens line).length_le
    rw [List.map_cons, renderLines_length_cons, renderLines_length_cons]
    refine ⟨by omega, fun long => ?_⟩
    rw [(shortens line).eq_of_length (by omega), same (by omega)]

variable [Text.LawfulAlphabet α]

theorem keptLines_length (classifier : Classifier α) (lines : List (List α)) :
    (Text.renderLines (keptLines (classifier.run lines).1)).length ≤
      (Text.renderLines lines).length := by
  induction lines generalizing classifier with
  | nil => exact Nat.le_refl _
  | cons line lines ih =>
    have rest := ih (classifier.next line).2
    rw [Classifier.run_cons, renderLines_length_cons, keptLines_cons]
    cases output : (classifier.next line).1.output? with
    | none =>
      rw [Option.toList_none, List.nil_append]
      omega
    | some kept =>
      have step := classifier.next_classified line
      have shorter := (step.kept output).initial.length_le
      rw [Option.toList_some, List.singleton_append, renderLines_length_cons]
      omega

theorem sieve_length (rules : Rules α) (lines : List (List α)) :
    (Text.renderLines (sieve (rules.classify lines)).lines).length ≤
      (Text.renderLines lines).length := by
  rw [sieve_lines]
  exact keptLines_length { rules } lines

theorem sieve_clear (rules : Rules α) (text : List α) :
    ∀ line ∈ (sieve (rules.classify (Text.splitLines text))).lines,
      (Text.Alphabet.ends (α := α)).newline ∉ line := by
  intro line listed inside
  rw [sieve_lines] at listed
  obtain ⟨whole, member, initial⟩ := keptLines_initial listed
  exact Text.LineEnds.split_clear member (initial.subset inside)

/-- Output that renders as the text it was read from has lost nothing: neither the reading, if it only
took something from the start, nor the sieving took anything away. -/
theorem render_eq_iff (rules : Rules α) {whole text : List α} (final : text <:+ whole) :
    let lines := Text.splitLines text
    let output := sieve (rules.classify lines)
    output.render = whole ↔ whole = Text.renderLines lines ∧ output.lines = lines := by
  intro lines output
  constructor
  · rintro rfl
    have clear := sieve_clear rules text
    have ended := (Text.LineEnds.render_ended _ output.lines).final final
    have long : output.render.length ≤ (Text.renderLines lines).length := sieve_length rules lines
    have short : (Text.renderLines lines).length ≤ text.length :=
      Text.LineEnds.render_split_length ended
    have same : text = output.render := final.eq_of_length_le (long.trans short)
    have back : lines = output.lines.map (Text.dropLast? Text.Alphabet.ends.carriageReturn) := by
      rw [← Text.LineEnds.split_render clear]
      exact congrArg Text.splitLines same
    have kept : output.lines.map _ = output.lines := (renderLines_map_length
      (fun line => (Text.dropLast?_initial _ line).sublist) output.lines).2 (back ▸ long)
    rw [kept] at back
    exact ⟨congrArg Text.renderLines back.symm, back.symm⟩
  · rintro ⟨rendered, kept⟩
    rw [Sieved.render, kept, ← rendered]

end Lengths

theorem rereadable_of_length {lines : List (List Char)} (clear : ∀ line ∈ lines, '\n' ∉ line)
    (long : (Text.renderLines lines).length ≤ (Text.renderLines (reread lines)).length) :
    Rereadable lines := by
  cases lines with
  | nil => exact ⟨nofun, nofun⟩
  | cons line lines =>
    obtain ⟨shorter, same⟩ := renderLines_map_length
      (fun text => (Text.dropLast?_initial '\r' text).sublist) (dropMark line :: lines)
    have first := (dropMark_suffix line).length_le
    have marked := renderLines_length_cons (dropMark line) lines
    have whole := renderLines_length_cons line lines
    rw [reread_cons clear] at long
    have unmarked : dropMark line = line := (dropMark_suffix line).eq_of_length (by omega)
    rw [unmarked] at same long
    exact ⟨dropMark_eq_self_iff.mp unmarked, Text.map_dropLast?_eq_self_iff.mp (same long)⟩

theorem sieve_reread_iff {spec : RuleSpec} {rules : Rules} (accepted : spec.Accepted rules)
    (text : List Char) :
    let out := (sieve (rules.classify (Text.splitLines text))).lines
    (sieve (rules.classify (reread out))).render = Text.renderLines out ↔ Rereadable out := by
  intro out
  have clear := sieve_clear rules text
  constructor
  · intro same
    -- Reading back and sieving both only shorten, so at the same length neither took anything.
    have shorter := sieve_length rules (reread out)
    have long : (sieve (rules.classify (reread out))).render.length =
        (Text.renderLines out).length := congrArg List.length same
    exact rereadable_of_length clear (long ▸ shorter)
  · intro readable
    rw [reread_of_rereadable clear readable, Sieved.render]
    exact congrArg Text.renderLines (sieve_again accepted _)

end LineSieve
