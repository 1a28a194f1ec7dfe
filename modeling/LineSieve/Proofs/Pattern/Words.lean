import LineSieve.Proofs.Pattern.CallPattern
import LineSieve.Proofs.Text.Indents

/- Patterns to which spaces and tabs around a text mean nothing. An expression without anchors whose
   characters are neither of them finds the same words with or without them; the shape of a call
   starts behind blanks and ends in a parenthesis, so it is there with or without them too. -/
namespace LineSieve.Pattern

namespace Regex

def avoids (c : Char) : Regex → Bool
  | .empty => true
  | .chars cls => !cls.contains c
  | .anchor _ => false
  | .seq first second => avoids c first && avoids c second
  | .alt left right => avoids c left && avoids c right
  | .star body => avoids c body

variable {re : Regex} {c : Char} {w : List Char} {prev next : Option Char}

theorem Matches.avoids (matched : Matches re prev w next) (avoids : re.avoids c = true) :
    c ∉ w ∧ ∀ before behind, Matches re before w behind := by
  induction matched with
  | empty => exact ⟨by simp, fun _ _ => .empty⟩
  | @chars cls d _ _ member =>
    refine ⟨?_, fun _ _ => .chars member⟩
    rw [List.mem_singleton]
    rintro rfl
    rw [Regex.avoids, member] at avoids
    cases avoids
  | anchor holds => cases avoids
  | seq left right first second =>
    rw [Regex.avoids, Bool.and_eq_true] at avoids
    obtain ⟨clear, anywhere⟩ := first avoids.1
    obtain ⟨clear', anywhere'⟩ := second avoids.2
    exact ⟨by simp [clear, clear'], fun _ _ => .seq (anywhere _ _) (anywhere' _ _)⟩
  | altLeft chosen ih =>
    rw [Regex.avoids, Bool.and_eq_true] at avoids
    exact ⟨(ih avoids.1).1, fun _ _ => .altLeft ((ih avoids.1).2 _ _)⟩
  | altRight chosen ih =>
    rw [Regex.avoids, Bool.and_eq_true] at avoids
    exact ⟨(ih avoids.2).1, fun _ _ => .altRight ((ih avoids.2).2 _ _)⟩
  | starDone => exact ⟨by simp, fun _ _ => .starDone⟩
  | starMore once more first rest =>
    obtain ⟨clear, anywhere⟩ := first avoids
    obtain ⟨clear', anywhere'⟩ := rest avoids
    exact ⟨by simp [clear, clear'], fun _ _ => .starMore (anywhere _ _) (anywhere' _ _)⟩

/-- The expression matches words without spaces and tabs only, wherever they stand. -/
structure Wordy (re : Regex) : Prop where
  space : re.avoids ' ' = true
  tab : re.avoids '\t' = true
  proper : re.nullable none none = false

theorem Wordy.solid (wordy : Wordy re) (matched : Matches re prev w next) : Text.Solid w := by
  refine ⟨?_, (matched.avoids wordy.space).1, (matched.avoids wordy.tab).1⟩
  rintro rfl
  have empty := matches_nil_iff.mp ((matched.avoids wordy.space).2 none none)
  rw [wordy.proper] at empty
  cases empty

theorem Wordy.search (wordy : Wordy re) {lead trail s : List Char} (leading : Text.Indent lead)
    (trailing : Text.Indent trail) : re.search (lead ++ (s ++ trail)) = re.search s := by
  rw [Bool.eq_iff_iff, search_iff, search_iff]
  constructor
  · rintro ⟨a, u, v, split, matched⟩
    obtain ⟨front, back, -, within, -⟩ := (wordy.solid matched).within leading trailing split
    exact ⟨front, u, back, within, (matched.avoids wordy.space).2 _ _⟩
  · rintro ⟨a, u, v, rfl, matched⟩
    exact ⟨lead ++ a, u, v ++ trail, by simp, (matched.avoids wordy.space).2 _ _⟩

end Regex

theorem isPatternBlank_of_indent {s : List Char} (indent : Text.Indent s) :
    ∀ c ∈ s, isPatternBlank c = true := by
  intro c listed
  rcases indent c listed with rfl | rfl <;> decide

theorem SpelledAs.solid {word name : List Char} (spelling : SpelledAs word name)
    (solid : Text.Solid name) : Text.Solid word := by
  refine ⟨?_, fun listed => solid.space (spelling.mem_low (by decide) listed),
    fun listed => solid.tab (spelling.mem_low (by decide) listed)⟩
  rintro rfl
  cases name with
  | nil => exact solid.proper rfl
  | cons c name => cases spelling

theorem callShape_indented {names : List (List Char)} (solid : ∀ name ∈ names, Text.Solid name)
    {lead trail s : List Char} (leading : Text.Indent lead) (trailing : Text.Indent trail) :
    CallShape names (lead ++ (s ++ trail)) ↔ CallShape names s := by
  constructor
  · rintro ⟨blanks, word, gap, rest, name, split, blank, between, listed, spelling⟩
    obtain ⟨front, rfl, inner⟩ := (spelling.solid (solid name listed)).front leading split
    have parenthesis : Text.Solid ['('] := by decide
    obtain ⟨back, rfl, -⟩ := parenthesis.back trailing (a := front ++ (word ++ gap)) (b := rest)
      (by rw [inner]; simp)
    refine ⟨front, word, gap, back, name, by simp, ?_, between, listed, spelling⟩
    exact fun c among => blank c (List.mem_append_right lead among)
  · rintro ⟨blanks, word, gap, rest, name, rfl, blank, between, listed, spelling⟩
    refine ⟨lead ++ blanks, word, gap, rest ++ trail, name, by simp, ?_, between, listed, spelling⟩
    intro c among
    rcases List.mem_append.mp among with indent | inside
    · exact isPatternBlank_of_indent leading c indent
    · exact blank c inside

end LineSieve.Pattern
