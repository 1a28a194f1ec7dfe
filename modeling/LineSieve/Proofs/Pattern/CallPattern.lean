import LineSieve.Proofs.Pattern.Matching
import LineSieve.Proofs.Text.LetterCase
import LineSieve.Rules

/- The pattern of the forbidden calls. Quoting keeps every character of a name from acting as an
   operator, so the pattern text always reads as one expression: blanks, one of the names up to
   letter case, blanks, an opening parenthesis, from the start of the line on. -/
namespace LineSieve.Pattern

def letter (c : Char) : Regex := .chars (.single c.toNat true)

def spelled (name : List Char) : Regex := Regex.sequence (name.map letter)

def blankRun : Regex := .star (.chars (.ofItem ⟨spaceRanges, true, false⟩))

/-- What the pattern of the forbidden calls reads as. -/
def callRegex (names : List (List Char)) : Regex :=
  .seq (.anchor .beginText)
    (.seq blankRun (.seq (Regex.choice (names.map spelled)) (.seq blankRun (letter '('))))

namespace Reader

theorem run_step {r next : Reader} {c : Char} {t : List Char} (rest : List Char)
    (stepped : r.step c t = .ok (next, rest)) (shorter : rest.length ≤ t.length) :
    r.run (c :: t) = next.run rest := by
  rw [Reader.run, stepped]
  simp [shorter]

theorem step_plain {r : Reader} {c : Char} {t : List Char} (plain : isOperator c = false) :
    r.step c t = .ok (r.pushLiteral c.toNat, t) := by
  unfold Reader.step
  split
  all_goals first | rfl | exact absurd plain (by decide)

theorem step_quoted {r : Reader} {c : Char} {t : List Char} (operator : isOperator c = true) :
    r.step '\\' (c :: t) = .ok (r.pushLiteral c.toNat, t) := by
  have listed : c ∈ ['\\', '.', '+', '*', '?', '(', ')', '|', '[', ']', '\x7b', '\x7d', '^', '$'] := by
    simpa [isOperator] using operator
  simp only [List.mem_cons, List.not_mem_nil, or_false] at listed
  rcases listed with rfl | rfl | rfl | rfl | rfl | rfl | rfl | rfl | rfl | rfl | rfl | rfl | rfl |
    rfl
  all_goals rfl

theorem run_quote (r : Reader) (name rest : List Char) :
    r.run (quote name ++ rest) =
      (name.foldl (fun r c => r.pushLiteral c.toNat) r).run rest := by
  induction name generalizing r with
  | nil => rfl
  | cons c name ih =>
    rw [List.foldl_cons, ← ih, quote]
    split
    · rename_i operator
      exact run_step _ (step_quoted operator) (by simp)
    · rename_i plain
      exact run_step _ (step_plain (by simpa using plain)) (Nat.le_refl _)

theorem foldl_pushLiteral (r : Reader) (name : List Char) (fresh : r.lastRepeat = [])
    (folding : r.flags.fold = true) :
    name.foldl (fun r c => r.pushLiteral c.toNat) r =
      { r with current := { r.current with
        parts := (name.map fun c => Part.mk (letter c) 1).reverse ++ r.current.parts } } := by
  induction name generalizing r with
  | nil => simp
  | cons c name ih =>
    rw [List.foldl_cons, ih (r.pushLiteral c.toNat) rfl folding]
    simp [pushLiteral, pushRegex, push, letter, folding, fresh]

theorem branch_spelled (outer : Flags) (branches : List Part) (name : List Char) :
    (Group.mk outer branches (name.map fun c => Part.mk (letter c) 1).reverse).branch.regex =
      spelled name := by
  simp [Group.branch, spelled, Function.comp_def]

/-- Quoted names with bars between them read as branches of the current group. -/
theorem run_names (name : List Char) (names : List (List Char)) (rest : List Char) (r : Reader)
    (fresh : r.lastRepeat = []) (folding : r.flags.fold = true) (clear : r.current.parts = []) :
    ∃ group : Group, group.outerFlags = r.current.outerFlags ∧
      group.close.regex = Regex.choice
        (r.current.branches.reverse.map (·.regex) ++ (name :: names).map spelled) ∧
      r.run (Text.join ['|'] ((name :: names).map quote) ++ rest) =
        Reader.run { r with current := group } rest := by
  induction names generalizing name r with
  | nil =>
    refine ⟨⟨r.current.outerFlags, r.current.branches,
      (name.map fun c => Part.mk (letter c) 1).reverse⟩, rfl, ?_, ?_⟩
    · simp only [Group.close, List.reverse_cons, List.map_append, List.map_cons, List.map_nil,
        branch_spelled]
    · simp only [List.map_cons, List.map_nil, Text.join]
      rw [run_quote, foldl_pushLiteral r name fresh folding, clear, List.append_nil]
  | cons second names ih =>
    let read : Group := ⟨r.current.outerFlags, r.current.branches,
      (name.map fun c => Part.mk (letter c) 1).reverse⟩
    let next : Reader := { r with current := ⟨read.outerFlags, read.branch :: read.branches, []⟩ }
    obtain ⟨group, flags, closed, ran⟩ := ih second next fresh folding rfl
    refine ⟨group, flags, ?_, ?_⟩
    · rw [closed]
      simp only [next, List.reverse_cons, List.map_append, List.map_cons, List.map_nil,
        List.append_assoc, List.cons_append, List.nil_append]
      rw [branch_spelled]
    · have bar : Reader.run { r with current := read }
          ('|' :: (Text.join ['|'] ((second :: names).map quote) ++ rest)) =
            next.run (Text.join ['|'] ((second :: names).map quote) ++ rest) := by
        refine run_step _ ?_ (Nat.le_refl _)
        simp only [Reader.step, nextBranch, next, fresh]
      simp only [List.map_cons, Text.join, List.append_assoc, List.cons_append, List.nil_append]
      rw [run_quote, foldl_pushLiteral r name fresh folding, clear, List.append_nil]
      exact bar.trans ran

def callFlags : Flags := ⟨true, false, false⟩

def callLead : List Part := [⟨blankRun, 1⟩, ⟨.anchor .beginText, 1⟩]

theorem run_callLead (whole tail : List Char) :
    (start whole).run ("(?i)^\\s*(?:".toList ++ tail) =
      Reader.run ⟨whole, callFlags, [⟨⟨false, false, false⟩, [], callLead⟩],
        ⟨callFlags, [], []⟩, []⟩ tail := by
  change (start whole).run ('(' :: '?' :: 'i' :: ')' :: '^' :: '\\' :: 's' :: '*' :: '(' :: '?' ::
    ':' :: tail) = _
  rw [run_step ('^' :: '\\' :: 's' :: '*' :: '(' :: '?' :: ':' :: tail) rfl (by simp),
    run_step ('\\' :: 's' :: '*' :: '(' :: '?' :: ':' :: tail) rfl (by simp),
    run_step ('*' :: '(' :: '?' :: ':' :: tail) rfl (by simp),
    run_step ('(' :: '?' :: ':' :: tail) rfl (by simp), run_step tail rfl (by simp; omega)]
  rfl

theorem run_callTail (whole : List Char) (group : Group) (outer : group.outerFlags = callFlags) :
    Reader.run ⟨whole, callFlags, [⟨⟨false, false, false⟩, [], callLead⟩], group, []⟩
        ")\\s*\\(".toList =
      .ok ⟨whole, callFlags, [], ⟨⟨false, false, false⟩, [],
        ⟨letter '(', 1⟩ :: ⟨blankRun, 1⟩ :: group.close :: callLead⟩, []⟩ := by
  change Reader.run _ [')', '\\', 's', '*', '\\', '('] = _
  rw [run_step ['\\', 's', '*', '\\', '('] rfl (by simp), outer,
    run_step ['*', '\\', '('] rfl (by simp), run_step ['\\', '('] rfl (by simp),
    run_step [] rfl (by simp), Reader.run]
  rfl

end Reader

theorem parse_callPattern (name : List Char) (names : List (List Char)) :
    Regex.parse (RuleSpec.callPattern (name :: names)) = .ok (callRegex (name :: names)) := by
  unfold Regex.parse RuleSpec.callPattern
  rw [List.append_assoc, Reader.run_callLead]
  obtain ⟨group, outer, closed, ran⟩ := Reader.run_names name names ")\\s*\\(".toList
    ⟨_, Reader.callFlags, [⟨⟨false, false, false⟩, [], Reader.callLead⟩],
      ⟨Reader.callFlags, [], []⟩, []⟩ rfl rfl rfl
  rw [ran, Reader.run_callTail _ group outer]
  simp only [Group.close, Group.branch, Reader.callLead, List.reverse_cons, List.reverse_nil,
    List.nil_append, List.cons_append, List.map_cons, List.map_nil, Regex.choice, Regex.sequence]
  rw [callRegex]
  simpa [Group.close, Group.branch] using closed

def isPatternBlank (c : Char) : Bool := spaceRanges.contains c.toNat

/-- `word` is `name` up to the case of letters. -/
def SpelledAs : List Char → List Char → Prop
  | [], [] => True
  | c :: word, d :: name => d.toNat ∈ Text.caseOrbit c.toNat ∧ SpelledAs word name
  | _, _ => False

/-- The text starts with a call of one of the names. -/
def CallShape (names : List (List Char)) (text : List Char) : Prop :=
  ∃ lead word gap rest name, text = lead ++ (word ++ (gap ++ '(' :: rest)) ∧
    (∀ c ∈ lead, isPatternBlank c = true) ∧ (∀ c ∈ gap, isPatternBlank c = true) ∧
    name ∈ names ∧ SpelledAs word name

theorem low_of_patternBlank {n : Nat} (blank : spaceRanges.contains n = true) : n < 65 := by
  simp only [spaceRanges, CodePoint.Ranges.contains, List.any_cons, List.any_nil, Bool.or_false,
    Bool.or_eq_true, Bool.and_eq_true, decide_eq_true_eq] at blank
  omega

theorem blankClass_contains (c : Char) :
    (CharClass.ofItem ⟨spaceRanges, true, false⟩).contains c = isPatternBlank c := by
  have orbit : (Text.caseOrbit c.toNat).any spaceRanges.contains = spaceRanges.contains c.toNat := by
    rw [Bool.eq_iff_iff, List.any_eq_true]
    constructor
    · rintro ⟨n, listed, blank⟩
      rw [(Text.mem_caseOrbit_low (low_of_patternBlank blank)).mp listed]
      exact blank
    · intro blank
      exact ⟨_, (Text.mem_caseOrbit_low (low_of_patternBlank blank)).mpr rfl, blank⟩
  simp [CharClass.ofItem, CharClass.contains, ClassItem.contains, orbit, isPatternBlank]

theorem single_contains {n : Nat} {c : Char} :
    (CharClass.single n true).contains c = true ↔ n ∈ Text.caseOrbit c.toNat := by
  simp only [CharClass.single, CharClass.contains, ClassItem.contains, CodePoint.Ranges.contains,
    List.any_cons, List.any_nil, Bool.or_false, Bool.bne_false, if_true, List.any_eq_true,
    Bool.and_eq_true, decide_eq_true_eq]
  constructor
  · rintro ⟨m, listed, low, high⟩
    rwa [Nat.le_antisymm low high]
  · intro listed
    exact ⟨n, listed, Nat.le_refl n, Nat.le_refl n⟩

namespace Regex

theorem matches_blankRun_iff {w : List Char} {prev next : Option Char} :
    Matches blankRun prev w next ↔ ∀ c ∈ w, isPatternBlank c = true := by
  induction w generalizing prev with
  | nil => simpa using show Matches blankRun prev [] next from .starDone
  | cons c w ih =>
    constructor
    · intro matched
      obtain ⟨u, v, rfl, once, more⟩ := matches_star_cons matched
      obtain ⟨d, word, member⟩ := matches_chars_iff.mp once
      obtain ⟨rfl, rfl⟩ := List.cons.inj word
      intro e listed
      rcases List.mem_cons.mp listed with rfl | later
      · rwa [blankClass_contains] at member
      · exact ih.mp more e later
    · intro blank
      have first : (CharClass.ofItem ⟨spaceRanges, true, false⟩).contains c = true := by
        rw [blankClass_contains]
        exact blank c (by simp)
      have rest : Matches blankRun (some c) w next :=
        ih.mpr fun d listed => blank d (List.mem_cons_of_mem c listed)
      exact .starMore (u := [c]) (.chars first) rest

theorem matches_sequence_cons_iff {part : Regex} {parts : List Regex} {w : List Char}
    {prev next : Option Char} : Matches (sequence (part :: parts)) prev w next ↔
      Matches (.seq part (sequence parts)) prev w next := by
  cases parts with
  | cons second parts => rfl
  | nil =>
    rw [sequence, sequence, matches_seq_iff]
    constructor
    · intro matched
      exact ⟨w, [], by simp, by simpa using matched, .empty⟩
    · rintro ⟨u, v, rfl, one, two⟩
      rw [matches_empty_iff] at two
      subst two
      simpa using one

theorem matches_choice_iff {branch : Regex} {branches : List Regex} {w : List Char}
    {prev next : Option Char} : Matches (choice (branch :: branches)) prev w next ↔
      ∃ re ∈ branch :: branches, Matches re prev w next := by
  induction branches generalizing branch with
  | nil => simp [choice]
  | cons second branches ih =>
    rw [choice, matches_alt_iff, ih]
    · simp only [List.mem_cons, exists_eq_or_imp]
    · simp

theorem matches_spelled_iff {name w : List Char} {prev next : Option Char} :
    Matches (spelled name) prev w next ↔ SpelledAs w name := by
  unfold spelled
  induction name generalizing w prev with
  | nil =>
    rw [List.map_nil, sequence, matches_empty_iff]
    cases w <;> simp [SpelledAs]
  | cons d name ih =>
    rw [List.map_cons, matches_sequence_cons_iff, matches_seq_iff]
    constructor
    · rintro ⟨u, v, rfl, one, two⟩
      obtain ⟨c, rfl, member⟩ := matches_chars_iff.mp one
      exact ⟨single_contains.mp member, ih.mp two⟩
    · intro same
      cases w with
      | nil => cases same
      | cons c w =>
        exact ⟨[c], w, rfl, .chars (single_contains.mpr same.1), ih.mpr same.2⟩

theorem search_callRegex_iff {name : List Char} {names : List (List Char)} {text : List Char} :
    search (callRegex (name :: names)) text = true ↔ CallShape (name :: names) text := by
  rw [search_iff, callRegex]
  constructor
  · rintro ⟨a, u, v, rfl, matched⟩
    obtain ⟨u₁, lead, rfl, anchor, matched⟩ := matches_seq_iff.mp matched
    obtain ⟨rfl, start⟩ := matches_anchor_iff.mp anchor
    obtain ⟨lead, word, rfl, leading, matched⟩ := matches_seq_iff.mp matched
    obtain ⟨word, gap, rfl, chosen, matched⟩ := matches_seq_iff.mp matched
    obtain ⟨gap, paren, rfl, between, matched⟩ := matches_seq_iff.mp matched
    obtain ⟨c, rfl, member⟩ := matches_chars_iff.mp matched
    have opening : c = '(' := by
      have code := (Text.mem_caseOrbit_low (by decide)).mp (single_contains.mp member)
      exact Char.toNat_inj.mp code
    have first : a = [] := by simpa [Anchor.holds] using start
    rw [List.map_cons, matches_choice_iff] at chosen
    obtain ⟨re, listed, spelling⟩ := chosen
    rw [← List.map_cons, List.mem_map] at listed
    obtain ⟨found, listed, rfl⟩ := listed
    refine ⟨lead, word, gap, v, found, ?_, matches_blankRun_iff.mp leading,
      matches_blankRun_iff.mp between, listed, matches_spelled_iff.mp spelling⟩
    simp [first, opening]
  · rintro ⟨lead, word, gap, rest, found, rfl, leading, between, listed, spelling⟩
    refine ⟨[], lead ++ (word ++ (gap ++ ['('])), rest, by simp, ?_⟩
    refine .seq (u := []) (.anchor rfl) (.seq (matches_blankRun_iff.mpr leading) (.seq ?_
      (.seq (matches_blankRun_iff.mpr between) (.chars (single_contains.mpr ?_)))))
    · rw [List.map_cons, matches_choice_iff, ← List.map_cons]
      exact ⟨spelled found, List.mem_map_of_mem listed, matches_spelled_iff.mpr spelling⟩
    · exact (Text.mem_caseOrbit_low (by decide)).mpr rfl

end Regex

theorem CallShape.extend {names : List (List Char)} {text longer : List Char}
    (shape : CallShape names text) (initial : text <+: longer) : CallShape names longer := by
  obtain ⟨lead, word, gap, rest, name, rfl, leading, between, listed, spelling⟩ := shape
  obtain ⟨more, rfl⟩ := initial
  exact ⟨lead, word, gap, rest ++ more, name, by simp, leading, between, listed, spelling⟩

theorem SpelledAs.mem_low {word name : List Char} (spelling : SpelledAs word name) {c : Char}
    (low : c.toNat < 65) (listed : c ∈ word) : c ∈ name := by
  induction word generalizing name with
  | nil => cases listed
  | cons d word ih =>
    cases name with
    | nil => cases spelling
    | cons e name =>
      obtain ⟨orbit, spelling⟩ := spelling
      rcases List.mem_cons.mp listed with rfl | later
      · rw [Text.caseOrbit_low low, List.mem_singleton] at orbit
        rw [Char.toNat_inj.mp orbit]
        exact List.mem_cons_self
      · exact List.mem_cons_of_mem _ (ih spelling later)

theorem CallShape.shorten {names : List (List Char)} {text rest : List Char} {mark : Char}
    (shape : CallShape names (text ++ mark :: rest)) (low : mark.toNat < 65)
    (unblank : isPatternBlank mark = false) (unopened : mark ≠ '(')
    (unnamed : ∀ name ∈ names, mark ∉ name) : CallShape names text := by
  obtain ⟨lead, word, gap, tail, name, split, leading, between, listed, spelling⟩ := shape
  have absent : mark ∉ lead ++ (word ++ (gap ++ ['('])) := by
    simp only [List.mem_append, List.mem_singleton]
    rintro (inside | inside | inside | same)
    · rw [leading mark inside] at unblank
      cases unblank
    · exact unnamed name listed (spelling.mem_low low inside)
    · rw [between mark inside] at unblank
      cases unblank
    · exact unopened same
  have call : lead ++ (word ++ (gap ++ ['('])) <+: text ++ mark :: rest := by
    rw [split]
    exact ⟨tail, by simp⟩
  have marked : text ++ [mark] <+: text ++ mark :: rest := ⟨rest, by simp⟩
  have within : lead ++ (word ++ (gap ++ ['('])) <+: text := by
    rcases List.prefix_or_prefix_of_prefix call marked with shorter | longer
    · rcases List.prefix_concat_iff.mp shorter with whole | shorter
      · exact absurd (whole ▸ List.mem_concat_self) absent
      · exact shorter
    · exact absurd (longer.subset List.mem_concat_self) absent
  obtain ⟨more, rfl⟩ := within
  exact ⟨lead, word, gap, more, name, by simp, leading, between, listed, spelling⟩

end LineSieve.Pattern
