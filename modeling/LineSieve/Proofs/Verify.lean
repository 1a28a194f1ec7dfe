import LineSieve.Proofs.Faults
import LineSieve.Proofs.Text.LineReader

/- What a check for forbidden content comes to. It succeeds if the walk does, every file it selects
   can be read and none of them has a pattern in a line, and it reports forbidden content if the
   walk succeeds, every file can be read and some file has a pattern in a line. -/
namespace LineSieve.Verify

/-- A line of the content holds a pattern that is not empty. -/
def Tainted (patterns : List String) (content : ByteArray) : Prop :=
  ∃ line ∈ Text.byteEnds.split content.toList, ∃ pattern ∈ patterns, pattern ≠ "" ∧
    pattern.toUTF8.toList <:+: line

/-- The findings in the content of a file, by line, then pattern, then column. -/
def contentFindings (path : String) (patterns : List String) (content : ByteArray) : List Finding :=
  linesFindings path patterns 1 (Text.byteEnds.split content.toList)

theorem scanFile_read {tree : FileTree} {path : String} {content : ByteArray}
    (read : tree.readFile path = .ok content) (patterns : List String) (display : String) :
    scanFile tree patterns path display = .ok (contentFindings display patterns content) := by
  simp only [scanFile, read, Text.LineReader.lines_ofBytes, contentFindings]

section Findings

theorem toUTF8_toList (pattern : String) : pattern.toUTF8.toList = Text.utf8 pattern.toList := by
  have spelled : (String.ofList pattern.toList).toUTF8 = Text.encode pattern.toList := rfl
  rw [← Text.toList_encode, ← spelled, String.ofList_toList]

theorem toUTF8_toList_eq_nil_iff {pattern : String} :
    pattern.toUTF8.toList = [] ↔ pattern = "" := by
  rw [toUTF8_toList, Text.utf8_eq_nil, String.toList_eq_nil_iff]

theorem occurrences_eq_nil_iff {pattern line : List UInt8} {offset : Nat} (proper : pattern ≠ []) :
    occurrences pattern offset line = [] ↔ ¬ pattern <:+: line := by
  rw [occurrences, if_neg (by simpa using proper), ← Text.cut?_none]
  cases cut : Text.cut? pattern line with
  | none => simp
  | some halves =>
    simp only [reduceCtorEq, iff_false]
    split <;> exact List.cons_ne_nil _ _

theorem lineFindings_eq_nil_iff {path : String} {patterns : List String} {number : Nat}
    {line : List UInt8} : lineFindings path patterns number line = [] ↔
      ∀ pattern ∈ patterns, pattern ≠ "" → ¬ pattern.toUTF8.toList <:+: line := by
  unfold lineFindings
  rw [List.flatMap_eq_nil_iff]
  apply forall_congr'
  intro pattern
  apply forall_congr'
  intro _
  rw [List.map_eq_nil_iff]
  by_cases empty : pattern = ""
  · rw [occurrences, if_pos (List.isEmpty_iff.mpr (toUTF8_toList_eq_nil_iff.mpr empty))]
    simp [empty]
  · have proper : pattern.toUTF8.toList ≠ [] := mt toUTF8_toList_eq_nil_iff.mp empty
    rw [occurrences_eq_nil_iff proper]
    simp [empty]

theorem linesFindings_eq_nil_iff {path : String} {patterns : List String} {number : Nat}
    {lines : List (List UInt8)} : linesFindings path patterns number lines = [] ↔
      ∀ line ∈ lines, ∀ pattern ∈ patterns, pattern ≠ "" → ¬ pattern.toUTF8.toList <:+: line := by
  induction lines generalizing number with
  | nil => simp [linesFindings]
  | cons line lines ih =>
    rw [linesFindings, List.append_eq_nil_iff, ih, lineFindings_eq_nil_iff, List.forall_mem_cons]

theorem contentFindings_eq_nil_iff {path : String} {patterns : List String} {content : ByteArray} :
    contentFindings path patterns content = [] ↔ ¬ Tainted patterns content := by
  rw [contentFindings, linesFindings_eq_nil_iff, Tainted]
  simp

instance (patterns : List String) (content : ByteArray) : Decidable (Tainted patterns content) :=
  decidable_of_iff (contentFindings "" patterns content ≠ []) (by
    rw [ne_eq, contentFindings_eq_nil_iff, not_not])

end Findings

def effective (given usual : List String) : List String := if given.isEmpty then usual else given

/-- The files that a check looks at: those that are selected by extension, or the root itself if it
is no directory. -/
def files (tree : FileTree) (root : String) (extensions : List String) (selection : Selection) :
    Visited (List Target) :=
  match tree.stat root with
  | .error e => ([], some (.within "stat path" (.ofFile e)))
  | .ok (.directory _) => tree.select root { selection with extensions }
  | .ok _ => ([⟨root, String.ofList (Path.base root.toList), Dialect.forFile? root⟩], none)

def look (tree : FileTree) (patterns : List String) : Visitor (List Finding) := fun found target =>
  match scanFile tree patterns target.path target.display with
  | .ok more => (found ++ more, none)
  | .error fault => (found, some fault)

section Check

variable {tree : FileTree} {root : String} {patterns extensions : List String}
  {selection : Selection} {targets : List Target}

theorem files_plain {fault : Fault} (failed : (files tree root extensions selection).2 = some fault) :
    fault.Plain := by
  unfold files at failed
  split at failed
  · cases failed
    exact Fault.plain_cause nofun
  · exact FileTree.select_plain failed
  · cases failed

theorem scan_eq (tree : FileTree) (root : String) (patterns extensions : List String)
    (selection : Selection) : scan tree root patterns extensions selection =
      Visited.offered (files tree root (effective extensions defaultExtensions) selection)
        (look tree (effective patterns defaultPatterns)) [] := by
  unfold scan files
  cases tree.stat root with
  | error e => rfl
  | ok node =>
    cases node with
    | directory entries => exact tree.walk_eq root _ _ []
    | file | link =>
      simp only [Visited.offered, offerAll_singleton, Visited.andThen_idle]
      rfl

/-- Every file can be read. -/
def Readable (tree : FileTree) (targets : List Target) : Prop :=
  ∀ target ∈ targets, ∃ content, tree.readFile target.path = .ok content

/-- Some file has a pattern in one of its lines. -/
def Forbidden (tree : FileTree) (patterns : List String) (targets : List Target) : Prop :=
  ∃ target ∈ targets, ∃ content, tree.readFile target.path = .ok content ∧ Tainted patterns content

theorem look_readable (readable : Readable tree targets) (found : List Finding) :
    ∃ more, offerAll (look tree patterns) targets found = (found ++ more, none) ∧
      (more = [] ↔ ¬ Forbidden tree patterns targets) := by
  induction targets generalizing found with
  | nil => exact ⟨[], by simp [offerAll], by simp [Forbidden]⟩
  | cons target targets ih =>
    obtain ⟨content, read⟩ := readable target List.mem_cons_self
    obtain ⟨more, rest, clean⟩ := ih (fun other among => readable other (List.mem_cons_of_mem _ among))
      (found ++ contentFindings target.display patterns content)
    refine ⟨contentFindings target.display patterns content ++ more, ?_, ?_⟩
    · simp only [offerAll, look, scanFile_read read, Visited.andThen]
      rw [← List.append_assoc]
      exact rest
    · rw [List.append_eq_nil_iff, clean, contentFindings_eq_nil_iff]
      simp [Forbidden, read, not_or]

theorem look_unreadable (unreadable : ¬ Readable tree targets) (found : List Finding) :
    ∃ fault, (offerAll (look tree patterns) targets found).2 = some fault ∧ fault.Plain := by
  induction targets generalizing found with
  | nil => exact absurd (fun _ among => absurd among List.not_mem_nil) unreadable
  | cons target targets ih =>
    cases read : tree.readFile target.path with
    | error e =>
      simp only [offerAll, look, scanFile, read, Visited.andThen]
      exact ⟨_, rfl, Fault.plain_cause (by simp)⟩
    | ok content =>
      simp only [offerAll, look, scanFile_read read, Visited.andThen]
      apply ih
      intro readable
      apply unreadable
      intro other among
      rcases List.mem_cons.mp among with rfl | among
      · exact ⟨content, read⟩
      · exact readable other among

/-- How a check ends: for a fault of its own, with nothing found, or with forbidden content. -/
inductive Ending (tree : FileTree) (patterns : List String) (selected : Visited (List Target)) :
    Option Fault → Prop where
  | failed {fault} (unfinished : selected.2 ≠ none ∨ ¬ Readable tree selected.1)
      (plain : fault.Plain) : Ending tree patterns selected (some fault)
  | clean (finished : selected.2 = none) (readable : Readable tree selected.1)
      (clean : ¬ Forbidden tree patterns selected.1) : Ending tree patterns selected none
  | found {fault} (finished : selected.2 = none) (readable : Readable tree selected.1)
      (forbidden : Forbidden tree patterns selected.1) (tells : fault.has .forbiddenContent = true) :
      Ending tree patterns selected (some fault)

theorem check_ending (tree : FileTree) (root : String) (patterns extensions : List String)
    (selection : Selection) :
    Ending tree (effective patterns defaultPatterns)
      (files tree root (effective extensions defaultExtensions) selection)
      (check tree root patterns extensions selection).2 := by
  have plain (fault : Fault)
      (failed : (files tree root (effective extensions defaultExtensions) selection).2 =
        some fault) : fault.Plain := files_plain failed
  unfold check
  rw [scan_eq]
  generalize files tree root (effective extensions defaultExtensions) selection = selected at plain ⊢
  obtain ⟨targets, stopped⟩ := selected
  by_cases readable : Readable tree targets
  · obtain ⟨found, looked, clean⟩ := look_readable readable []
    rw [Visited.offered, looked, Visited.andThen, List.nil_append]
    cases stopped with
    | some fault => exact .failed (.inl (Option.some_ne_none _)) (plain fault rfl)
    | none =>
      cases found with
      | nil => exact .clean rfl readable (clean.mp rfl)
      | cons first rest =>
        have forbidden : Forbidden tree (effective patterns defaultPatterns) targets :=
          Classical.byContradiction fun clear => List.cons_ne_nil _ _ (clean.mpr clear)
        exact .found rfl readable forbidden (by simp [Fault.has, Fault.causes])
  · obtain ⟨fault, stopped, plain⟩ : ∃ fault, (offerAll (look tree (effective patterns
        defaultPatterns)) targets []).2 = some fault ∧ fault.Plain := look_unreadable readable []
    obtain ⟨found, looked⟩ : ∃ found, offerAll (look tree (effective patterns defaultPatterns))
        targets [] = (found, some fault) := ⟨_, Prod.ext rfl stopped⟩
    rw [Visited.offered, looked]
    exact .failed (.inr readable) plain

end Check

end LineSieve.Verify
