import LineSieve.Proofs.Run.Strip
import LineSieve.Proofs.Verify

/- The findings of a file. They are found in order, by line, then by the entry of the list of
   patterns, then by column. Each is an occurrence of its pattern, no two of one entry overlap in a
   line, and every occurrence is met by one. -/
namespace LineSieve.Verify

section Occurrences

variable {pattern line : List UInt8} {offset : Nat}

theorem occurrences_none (missing : Text.cut? pattern line = none) :
    occurrences pattern offset line = [] := by
  rw [occurrences, missing]
  split <;> rfl

theorem occurrences_some {front rest : List UInt8} (proper : pattern ≠ [])
    (cut : Text.cut? pattern line = some (front, rest)) : occurrences pattern offset line =
      (offset + front.length) ::
        occurrences pattern (offset + front.length + pattern.length) rest := by
  have shorter : rest.length < line.length := by
    have positive := List.length_pos_iff.mpr proper
    rw [Text.cut?_split cut, List.length_append, List.length_append]
    omega
  rw [occurrences, if_neg (by simpa using proper), cut]
  simp only [shorter, ↓reduceDIte]

/-- What holds of a line with no occurrence, and of a line if it holds of what is behind the first
occurrence, holds of every line. -/
theorem occurrences_induction {motive : Nat → List UInt8 → Prop} (proper : pattern ≠ [])
    (none : ∀ offset line, Text.cut? pattern line = none → motive offset line)
    (some : ∀ offset line front rest, Text.cut? pattern line = some (front, rest) →
      motive (offset + front.length + pattern.length) rest → motive offset line)
    (offset : Nat) (line : List UInt8) : motive offset line := by
  induction size : line.length using Nat.strongRecOn generalizing offset line with
  | ind n ih =>
    cases cut : Text.cut? pattern line with
    | none => exact none offset line cut
    | some halves =>
      refine some offset line halves.1 halves.2 cut (ih _ ?_ _ _ rfl)
      have positive := List.length_pos_iff.mpr proper
      have long := congrArg List.length (Text.cut?_split cut)
      simp only [List.length_append] at long
      omega

theorem occurrences_proper {found : Nat} (listed : found ∈ occurrences pattern offset line) :
    pattern ≠ [] := by
  rintro rfl
  rw [occurrences] at listed
  cases listed

theorem occurrences_stand (proper : pattern ≠ []) {found : Nat}
    (listed : found ∈ occurrences pattern offset line) :
    ∃ place, found = offset + place ∧ pattern <+: line.drop place := by
  induction offset, line using occurrences_induction proper with
  | none offset line missing =>
    rw [occurrences_none missing] at listed
    cases listed
  | some offset line front rest cut ih =>
    have split := Text.cut?_split cut
    rw [occurrences_some proper cut] at listed
    rcases List.mem_cons.mp listed with rfl | later
    · refine ⟨front.length, rfl, ?_⟩
      rw [split, List.drop_left]
      exact List.prefix_append _ _
    · obtain ⟨place, rfl, stands⟩ := ih later
      refine ⟨front.length + pattern.length + place, by omega, ?_⟩
      rw [split, ← List.append_assoc, List.drop_append, List.drop_eq_nil_of_le (by simp)]
      simpa using stands

theorem occurrences_apart (proper : pattern ≠ []) :
    (occurrences pattern offset line).Pairwise fun one two => one + pattern.length ≤ two := by
  induction offset, line using occurrences_induction proper with
  | none offset line missing =>
    rw [occurrences_none missing]
    exact .nil
  | some offset line front rest cut ih =>
    rw [occurrences_some proper cut]
    refine List.pairwise_cons.mpr ⟨fun found later => ?_, ih⟩
    obtain ⟨place, rfl, -⟩ := occurrences_stand proper later
    omega

example : occurrences [97, 97] 0 [97, 97, 97, 97, 97] = [0, 2] := by cbv

theorem occurrences_meet (proper : pattern ≠ []) (offset : Nat) {place : Nat}
    (stands : pattern <+: line.drop place) : ∃ found ∈ occurrences pattern offset line,
      found ≤ offset + place ∧ offset + place < found + pattern.length := by
  have positive := List.length_pos_iff.mpr proper
  induction offset, line using occurrences_induction proper generalizing place with
  | none offset line missing =>
    exact absurd (stands.isInfix.trans (List.drop_suffix place line).isInfix)
      (Text.cut?_none.mp missing)
  | some offset line front rest cut ih =>
    have split := Text.cut?_split cut
    obtain ⟨behind, occurs⟩ := stands
    have within : place ≤ line.length := by
      by_contra beyond
      rw [List.drop_eq_nil_of_le (by omega)] at occurs
      exact proper (List.append_eq_nil_iff.mp occurs).1
    have first : front.length ≤ place := by
      have early := Text.cut?_first cut (a := line.take place) (b := behind)
        (by rw [occurs, List.take_append_drop])
      rw [List.length_take] at early
      omega
    rw [occurrences_some proper cut]
    by_cases near : place < front.length + pattern.length
    · exact ⟨_, List.mem_cons_self, by omega, by omega⟩
    · have later : pattern <+: rest.drop (place - (front.length + pattern.length)) := by
        refine ⟨behind, ?_⟩
        rw [occurs, split, ← List.append_assoc, List.drop_append,
          List.drop_eq_nil_of_le (by simp; omega)]
        simp
      obtain ⟨found, listed, low, high⟩ := ih later
      exact ⟨found, List.mem_cons_of_mem _ listed, by omega, by omega⟩

end Occurrences

/-- An occurrence of a pattern: the line and the entry of the list of patterns, both counted from
zero, the byte of the line that it starts at, and the pattern. -/
structure Hit where
  line : Nat
  entry : Nat
  offset : Nat
  pattern : String

namespace Hit

def finding (path : String) (hit : Hit) : Finding :=
  ⟨path, hit.line + 1, hit.offset + 1, hit.pattern⟩

structure Sound (patterns : List String) (lines : List (List UInt8)) (hit : Hit) : Prop where
  listed : patterns[hit.entry]? = some hit.pattern
  proper : hit.pattern ≠ ""
  stands : ∃ line, lines[hit.line]? = some line ∧
    hit.pattern.toUTF8.toList <+: line.drop hit.offset

/-- By line, then by entry, then by offset, and without overlap in one entry. -/
def Before (one two : Hit) : Prop :=
  one.line < two.line ∨ one.line = two.line ∧ (one.entry < two.entry ∨
    one.entry = two.entry ∧ one.offset + one.pattern.toUTF8.toList.length ≤ two.offset)

end Hit

def entryHits (number : Nat) (line : List UInt8) (entry : String × Nat) : List Hit :=
  (occurrences entry.1.toUTF8.toList 0 line).map (⟨number, entry.2, ·, entry.1⟩)

def lineHits (patterns : List String) (line : List UInt8 × Nat) : List Hit :=
  patterns.zipIdx.flatMap (entryHits line.2 line.1)

def contentHits (patterns : List String) (content : ByteArray) : List Hit :=
  (Text.byteEnds.split content.toList).zipIdx.flatMap (lineHits patterns)

section Hits

variable {path : String} {patterns : List String} {content : ByteArray} {hit : Hit}

theorem lineFindings_eq (path : String) (patterns : List String) (number : Nat)
    (line : List UInt8) :
    lineFindings path patterns (number + 1) line =
      (lineHits patterns (line, number)).map (Hit.finding path) := by
  rw [lineFindings, lineHits, List.map_flatMap]
  conv_lhs => rw [← List.zipIdx_map_fst 0 patterns, List.flatMap_map]
  simp [entryHits, Hit.finding, Function.comp_def]

theorem linesFindings_eq (path : String) (patterns : List String) (number : Nat)
    (lines : List (List UInt8)) : linesFindings path patterns (number + 1) lines =
      ((lines.zipIdx number).flatMap (lineHits patterns)).map (Hit.finding path) := by
  induction lines generalizing number with
  | nil => rfl
  | cons line lines ih =>
    rw [linesFindings, ih, lineFindings_eq, List.zipIdx_cons, List.flatMap_cons, List.map_append]

theorem contentFindings_eq (path : String) (patterns : List String) (content : ByteArray) :
    contentFindings path patterns content = (contentHits patterns content).map (Hit.finding path) :=
  linesFindings_eq path patterns 0 _

theorem mem_contentHits : hit ∈ contentHits patterns content ↔
    ∃ line, (Text.byteEnds.split content.toList)[hit.line]? = some line ∧
      patterns[hit.entry]? = some hit.pattern ∧
      hit.offset ∈ occurrences hit.pattern.toUTF8.toList 0 line := by
  obtain ⟨number, entry, offset, pattern⟩ := hit
  simp only [contentHits, lineHits, entryHits, List.mem_flatMap, List.mem_map, Prod.exists,
    List.mem_zipIdx_iff_getElem?, Hit.mk.injEq]
  constructor
  · rintro ⟨line, _, held, _, _, listed, _, found, rfl, rfl, rfl, rfl⟩
    exact ⟨line, held, listed, found⟩
  · rintro ⟨line, held, listed, found⟩
    exact ⟨line, number, held, pattern, entry, listed, offset, found, rfl, rfl, rfl, rfl⟩

theorem contentHits_sound (listed : hit ∈ contentHits patterns content) :
    hit.Sound patterns (Text.byteEnds.split content.toList) := by
  obtain ⟨line, held, entered, found⟩ := mem_contentHits.mp listed
  have proper := occurrences_proper found
  obtain ⟨place, same, stands⟩ := occurrences_stand proper found
  rw [Nat.zero_add] at same
  exact ⟨entered, mt toUTF8_toList_eq_nil_iff.mpr proper, line, held, same ▸ stands⟩

theorem entryHits_before (number : Nat) (line : List UInt8) (entry : String × Nat) :
    (entryHits number line entry).Pairwise Hit.Before := by
  rw [entryHits, List.pairwise_map]
  by_cases empty : entry.1.toUTF8.toList = []
  · rw [empty, occurrences]
    exact .nil
  · exact (occurrences_apart empty).imp fun apart => .inr ⟨rfl, .inr ⟨rfl, apart⟩⟩

theorem zipIdx_ascending {α : Type} (items : List α) :
    items.zipIdx.Pairwise fun one two => one.2 < two.2 := by
  rw [← List.pairwise_map, List.zipIdx_map_snd]
  exact List.pairwise_lt_range'

theorem lineHits_before (patterns : List String) (line : List UInt8 × Nat) :
    (lineHits patterns line).Pairwise Hit.Before := by
  refine List.pairwise_flatMap.mpr ⟨fun entry _ => entryHits_before _ _ entry, ?_⟩
  refine (zipIdx_ascending patterns).imp fun earlier one listed two listed' => ?_
  obtain ⟨_, -, rfl⟩ := List.mem_map.mp listed
  obtain ⟨_, -, rfl⟩ := List.mem_map.mp listed'
  exact .inr ⟨rfl, .inl earlier⟩

theorem line_of_lineHits {line : List UInt8 × Nat} (listed : hit ∈ lineHits patterns line) :
    hit.line = line.2 := by
  obtain ⟨entry, -, listed⟩ := List.mem_flatMap.mp listed
  obtain ⟨_, -, rfl⟩ := List.mem_map.mp listed
  rfl

theorem contentHits_before (patterns : List String) (content : ByteArray) :
    (contentHits patterns content).Pairwise Hit.Before := by
  refine List.pairwise_flatMap.mpr ⟨fun line _ => lineHits_before patterns line, ?_⟩
  refine (zipIdx_ascending _).imp fun earlier one listed two listed' => .inl ?_
  rw [line_of_lineHits listed, line_of_lineHits listed']
  exact earlier

theorem contentHits_meet {number entry place : Nat} {line : List UInt8} {pattern : String}
    (held : (Text.byteEnds.split content.toList)[number]? = some line)
    (listed : patterns[entry]? = some pattern) (proper : pattern ≠ "")
    (stands : pattern.toUTF8.toList <+: line.drop place) :
    ∃ hit ∈ contentHits patterns content, hit.line = number ∧ hit.entry = entry ∧
      hit.pattern = pattern ∧ hit.offset ≤ place ∧
      place < hit.offset + pattern.toUTF8.toList.length := by
  obtain ⟨found, among, low, high⟩ :=
    occurrences_meet (mt toUTF8_toList_eq_nil_iff.mp proper) 0 stands
  rw [Nat.zero_add] at low high
  exact ⟨⟨number, entry, found, pattern⟩, mem_contentHits.mpr ⟨line, held, listed, among⟩,
    rfl, rfl, rfl, low, high⟩

end Hits

/-- Scanning a file that can be read finds exactly its forbidden texts. It does not fail, the
findings are hits in the lines of the content, in order and without overlap, each hit is an
occurrence and each occurrence is met by a hit, and nothing is found exactly if no line holds a
pattern. The lines of a text in UTF-8 are those that it is split into before it is classified. -/
theorem scanFile_exact (tree : FileTree) (patterns : List String) (path display : String)
    (content : ByteArray) (read : tree.readFile path = .ok content) :
    let lines := Text.byteEnds.split content.toList
    ∃ hits : List Hit,
      scanFile tree patterns path display = .ok (hits.map (Hit.finding display)) ∧
      (∀ hit ∈ hits, hit.Sound patterns lines) ∧ hits.Pairwise Hit.Before ∧
      (∀ (number entry place : Nat) (line : List UInt8) (pattern : String),
        lines[number]? = some line → patterns[entry]? = some pattern → pattern ≠ "" →
        pattern.toUTF8.toList <+: line.drop place →
        ∃ hit ∈ hits, hit.line = number ∧ hit.entry = entry ∧ hit.pattern = pattern ∧
          hit.offset ≤ place ∧ place < hit.offset + pattern.toUTF8.toList.length) ∧
      (scanFile tree patterns path display = .ok [] ↔ ¬ Tainted patterns content) ∧
      ∀ text, content = Text.encode text → lines = (Text.splitLines text).map Text.utf8 := by
  intro lines
  have scanned := scanFile_read read patterns display
  refine ⟨contentHits patterns content, ?_, fun hit listed => contentHits_sound listed,
    contentHits_before patterns content, ?_, ?_, ?_⟩
  · rw [scanned, contentFindings_eq]
  · exact fun number entry place line pattern held listed proper stands =>
      contentHits_meet held listed proper stands
  · rw [scanned, Except.ok.injEq]
    exact contentFindings_eq_nil_iff
  · rintro text rfl
    exact Text.split_encode text

theorem scanFile_exact_script :
    let content := Text.encode "print(DEBUG)\r\nDEBUG_LOG_LEVEL".toList
    let tree := FileTree.script content
    let lines := Text.byteEnds.split content.toList
    tree.readFile Target.script.path = .ok content ∧ ∃ hits : List Hit,
      scanFile tree defaultPatterns Target.script.path "a.lua" =
        .ok (hits.map (Hit.finding "a.lua")) ∧
      (∀ hit ∈ hits, hit.Sound defaultPatterns lines) ∧ hits.Pairwise Hit.Before ∧
      (∀ (number entry place : Nat) (line : List UInt8) (pattern : String),
        lines[number]? = some line → defaultPatterns[entry]? = some pattern → pattern ≠ "" →
        pattern.toUTF8.toList <+: line.drop place →
        ∃ hit ∈ hits, hit.line = number ∧ hit.entry = entry ∧ hit.pattern = pattern ∧
          hit.offset ≤ place ∧ place < hit.offset + pattern.toUTF8.toList.length) ∧
      (scanFile tree defaultPatterns Target.script.path "a.lua" = .ok [] ↔
        ¬ Tainted defaultPatterns content) ∧
      ∀ text, content = Text.encode text → lines = (Text.splitLines text).map Text.utf8 := by
  intro content tree lines
  have read := FileTree.readFile_script content
  exact ⟨read, scanFile_exact tree defaultPatterns Target.script.path "a.lua" content read⟩

end LineSieve.Verify
