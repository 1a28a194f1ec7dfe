import LineSieve.Pattern.Regex

/- What a regular expression matches, apart from how it is searched for. A match reads a word
   between two characters of the text, each of which may be missing; anchors look at these. The
   search by partial derivatives finds a match exactly where there is one. -/
namespace LineSieve.Pattern.Regex

/-- `re` matches `word` where `prev` stands before it and `next` behind it. -/
inductive Matches : Regex → Option Char → List Char → Option Char → Prop where
  | empty {prev next : Option Char} : Matches .empty prev [] next
  | chars {cls : CharClass} {c : Char} {prev next : Option Char}
      (member : cls.contains c = true) : Matches (.chars cls) prev [c] next
  | anchor {condition : Anchor} {prev next : Option Char}
      (holds : condition.holds prev next = true) : Matches (.anchor condition) prev [] next
  | seq {first second : Regex} {u v : List Char} {prev next : Option Char}
      (left : Matches first prev u (v.head?.or next))
      (right : Matches second (u.getLast?.or prev) v next) :
      Matches (.seq first second) prev (u ++ v) next
  | altLeft {left right : Regex} {u : List Char} {prev next : Option Char}
      (chosen : Matches left prev u next) : Matches (.alt left right) prev u next
  | altRight {left right : Regex} {u : List Char} {prev next : Option Char}
      (chosen : Matches right prev u next) : Matches (.alt left right) prev u next
  | starDone {body : Regex} {prev next : Option Char} : Matches (.star body) prev [] next
  | starMore {body : Regex} {u v : List Char} {prev next : Option Char}
      (once : Matches body prev u (v.head?.or next))
      (more : Matches (.star body) (u.getLast?.or prev) v next) :
      Matches (.star body) prev (u ++ v) next

theorem matches_seq_iff {first second : Regex} {w : List Char} {prev next : Option Char} :
    Matches (.seq first second) prev w next ↔
      ∃ u v, w = u ++ v ∧ Matches first prev u (v.head?.or next) ∧
        Matches second (u.getLast?.or prev) v next := by
  constructor
  · intro matched
    cases matched with
    | seq left right => exact ⟨_, _, rfl, left, right⟩
  · rintro ⟨u, v, rfl, left, right⟩
    exact .seq left right

theorem matches_alt_iff {left right : Regex} {w : List Char} {prev next : Option Char} :
    Matches (.alt left right) prev w next ↔
      Matches left prev w next ∨ Matches right prev w next := by
  constructor
  · intro matched
    cases matched with
    | altLeft chosen => exact Or.inl chosen
    | altRight chosen => exact Or.inr chosen
  · rintro (chosen | chosen)
    · exact .altLeft chosen
    · exact .altRight chosen

theorem matches_chars_iff {cls : CharClass} {w : List Char} {prev next : Option Char} :
    Matches (.chars cls) prev w next ↔ ∃ c, w = [c] ∧ cls.contains c = true := by
  constructor
  · intro matched
    cases matched with
    | chars member => exact ⟨_, rfl, member⟩
  · rintro ⟨c, rfl, member⟩
    exact .chars member

theorem matches_anchor_iff {condition : Anchor} {w : List Char} {prev next : Option Char} :
    Matches (.anchor condition) prev w next ↔ w = [] ∧ condition.holds prev next = true := by
  constructor
  · intro matched
    cases matched with
    | anchor holds => exact ⟨rfl, holds⟩
  · rintro ⟨rfl, holds⟩
    exact .anchor holds

theorem matches_empty_iff {w : List Char} {prev next : Option Char} :
    Matches .empty prev w next ↔ w = [] := by
  constructor
  · intro matched
    cases matched
    rfl
  · rintro rfl
    exact .empty

theorem matches_nil_iff {re : Regex} {prev next : Option Char} :
    Matches re prev [] next ↔ nullable prev next re = true := by
  induction re generalizing prev next with
  | empty => simp [matches_empty_iff, nullable]
  | chars cls => simp [matches_chars_iff, nullable]
  | anchor condition => simp [matches_anchor_iff, nullable]
  | seq first second left right =>
    rw [matches_seq_iff, nullable, Bool.and_eq_true, ← left, ← right]
    constructor
    · rintro ⟨u, v, split, one, two⟩
      obtain ⟨rfl, rfl⟩ := List.append_eq_nil_iff.mp split.symm
      exact ⟨one, two⟩
    · rintro ⟨one, two⟩
      exact ⟨[], [], rfl, one, two⟩
  | alt a b left right => rw [matches_alt_iff, nullable, Bool.or_eq_true, left, right]
  | star body ih => exact ⟨fun _ => rfl, fun _ => .starDone⟩

theorem matches_followedBy_iff {first second : Regex} {w : List Char} {prev next : Option Char} :
    Matches (followedBy first second) prev w next ↔ Matches (.seq first second) prev w next := by
  unfold followedBy
  split
  · rw [matches_seq_iff]
    constructor
    · intro matched
      exact ⟨[], w, rfl, .empty, matched⟩
    · rintro ⟨u, v, rfl, left, right⟩
      rw [matches_empty_iff] at left
      subst left
      exact right
  · rfl

theorem last_or_cons (c : Char) (u : List Char) (prev : Option Char) :
    (c :: u).getLast?.or prev = u.getLast?.or (some c) := by
  rw [List.getLast?_cons]
  cases u.getLast? <;> rfl

theorem matches_seq_cons_iff {first second : Regex} {c : Char} {s : List Char}
    {prev next : Option Char} :
    Matches (.seq first second) prev (c :: s) next ↔
      (∃ u v, s = u ++ v ∧ Matches first prev (c :: u) (v.head?.or next) ∧
        Matches second (u.getLast?.or (some c)) v next) ∨
      Matches first prev [] (some c) ∧ Matches second prev (c :: s) next := by
  rw [matches_seq_iff]
  constructor
  · rintro ⟨u, v, word, one, two⟩
    cases u with
    | nil =>
      obtain rfl : c :: s = v := word
      exact .inr ⟨one, two⟩
    | cons d u =>
      obtain ⟨rfl, rfl⟩ := List.cons.inj word
      rw [last_or_cons] at two
      exact .inl ⟨u, v, rfl, one, two⟩
  · rintro (⟨u, v, rfl, one, two⟩ | ⟨one, two⟩)
    · refine ⟨c :: u, v, rfl, one, ?_⟩
      rwa [last_or_cons]
    · exact ⟨[], c :: s, rfl, one, two⟩

theorem matches_star_cons {body : Regex} {c : Char} {s : List Char} {prev next : Option Char}
    (matched : Matches (.star body) prev (c :: s) next) :
    ∃ u v, s = u ++ v ∧ Matches body prev (c :: u) (v.head?.or next) ∧
      Matches (.star body) (u.getLast?.or (some c)) v next := by
  generalize shape : Regex.star body = re at matched
  generalize word : c :: s = w at matched
  induction matched with
  | empty | chars | anchor | seq | altLeft | altRight => cases shape
  | starDone => cases word
  | @starMore inner u v prev next once more _ again =>
    cases shape
    cases u with
    | nil => exact again rfl word
    | cons d u =>
      obtain ⟨rfl, rfl⟩ := List.cons.inj word
      rw [last_or_cons] at more
      exact ⟨u, v, rfl, once, more⟩

/-- The partial derivatives after `c` match exactly the words that the expression matches with `c`
in front. -/
theorem matches_cons_iff {re : Regex} {c : Char} {s : List Char} {prev next : Option Char} :
    Matches re prev (c :: s) next ↔ ∃ r ∈ partials prev c re, Matches r (some c) s next := by
  induction re generalizing prev next s with
  | empty => simp [matches_empty_iff, partials]
  | anchor condition => simp [matches_anchor_iff, partials]
  | chars cls =>
    rw [matches_chars_iff, partials]
    constructor
    · rintro ⟨d, word, member⟩
      obtain ⟨rfl, rfl⟩ := List.cons.inj word
      rw [if_pos member]
      exact ⟨.empty, by simp, .empty⟩
    · rintro ⟨r, listed, rest⟩
      split at listed
      · next member =>
        rw [List.mem_singleton.mp listed, matches_empty_iff] at rest
        exact ⟨c, by rw [rest], member⟩
      · cases listed
  | alt a b left right =>
    rw [matches_alt_iff, left, right, partials]
    simp only [List.mem_append, or_and_right, exists_or]
  | seq first second left right =>
    rw [matches_seq_cons_iff, matches_nil_iff, right, partials]
    simp only [List.mem_append, List.mem_map]
    constructor
    · rintro (⟨u, v, rfl, one, two⟩ | ⟨empty, r, listed, rest⟩)
      · obtain ⟨r, listed, rest⟩ := left.mp one
        exact ⟨_, .inl ⟨r, listed, rfl⟩, matches_followedBy_iff.mpr (.seq rest two)⟩
      · exact ⟨r, .inr (by rwa [if_pos empty]), rest⟩
    · rintro ⟨r, ⟨part, listed, rfl⟩ | listed, rest⟩
      · obtain ⟨u, v, rfl, one, two⟩ := matches_seq_iff.mp (matches_followedBy_iff.mp rest)
        exact .inl ⟨u, v, rfl, left.mpr ⟨part, listed, one⟩, two⟩
      · split at listed
        · next empty => exact .inr ⟨empty, r, listed, rest⟩
        · cases listed
  | star body ih =>
    rw [partials]
    simp only [List.mem_map]
    constructor
    · intro matched
      obtain ⟨u, v, rfl, once, more⟩ := matches_star_cons matched
      obtain ⟨r, listed, rest⟩ := ih.mp once
      exact ⟨_, ⟨r, listed, rfl⟩, matches_followedBy_iff.mpr (.seq rest more)⟩
    · rintro ⟨r, ⟨part, listed, rfl⟩, rest⟩
      obtain ⟨u, v, rfl, once, more⟩ := matches_seq_iff.mp (matches_followedBy_iff.mp rest)
      rw [← last_or_cons c u prev] at more
      exact .starMore (u := c :: u) (ih.mpr ⟨part, listed, once⟩) more

def AnyMatch (live : List Regex) (prev : Option Char) (s : List Char) : Prop :=
  ∃ re ∈ live, ∃ u v, s = u ++ v ∧ Matches re prev u v.head?

theorem anyMatch_nil_iff {live : List Regex} {prev : Option Char} :
    AnyMatch live prev [] ↔ live.any (nullable prev none) = true := by
  simp only [AnyMatch, List.any_eq_true, ← matches_nil_iff]
  constructor
  · rintro ⟨re, listed, u, v, split, matched⟩
    obtain ⟨rfl, rfl⟩ := List.append_eq_nil_iff.mp split.symm
    exact ⟨re, listed, matched⟩
  · rintro ⟨re, listed, matched⟩
    exact ⟨re, listed, [], [], rfl, matched⟩

theorem anyMatch_cons_iff {live : List Regex} {prev : Option Char} {c : Char} {s : List Char} :
    AnyMatch live prev (c :: s) ↔ live.any (nullable prev (some c)) = true ∨
      AnyMatch (live.flatMap (partials prev c)) (some c) s := by
  simp only [AnyMatch, List.any_eq_true, ← matches_nil_iff, List.mem_flatMap]
  constructor
  · rintro ⟨re, listed, u, v, split, matched⟩
    cases u with
    | nil =>
      rw [← show c :: s = v from split] at matched
      exact Or.inl ⟨re, listed, matched⟩
    | cons d u =>
      obtain ⟨rfl, rfl⟩ := List.cons.inj split
      obtain ⟨r, derived, rest⟩ := matches_cons_iff.mp matched
      exact Or.inr ⟨r, ⟨re, listed, derived⟩, u, v, rfl, rest⟩
  · rintro (⟨re, listed, matched⟩ | ⟨r, ⟨re, listed, derived⟩, u, v, rfl, rest⟩)
    · exact ⟨re, listed, [], c :: s, rfl, matched⟩
    · exact ⟨re, listed, c :: u, v, rfl, matches_cons_iff.mpr ⟨r, derived, rest⟩⟩

def MatchesWithin (re : Regex) (prev : Option Char) (s : List Char) : Prop :=
  ∃ a u v, s = a ++ (u ++ v) ∧ Matches re (a.getLast?.or prev) u v.head?

theorem matchesWithin_nil_iff {re : Regex} {prev : Option Char} :
    MatchesWithin re prev [] ↔ AnyMatch [re] prev [] := by
  constructor
  · rintro ⟨a, u, v, split, matched⟩
    obtain ⟨rfl, rest⟩ := List.append_eq_nil_iff.mp split.symm
    exact ⟨re, by simp, u, v, rest.symm, matched⟩
  · rintro ⟨r, listed, u, v, split, matched⟩
    rw [List.mem_singleton.mp listed] at matched
    exact ⟨[], u, v, split, matched⟩

theorem matchesWithin_cons_iff {re : Regex} {prev : Option Char} {c : Char} {s : List Char} :
    MatchesWithin re prev (c :: s) ↔ AnyMatch [re] prev (c :: s) ∨ MatchesWithin re (some c) s := by
  constructor
  · rintro ⟨a, u, v, split, matched⟩
    cases a with
    | nil => exact Or.inl ⟨re, by simp, u, v, split, matched⟩
    | cons d a =>
      obtain ⟨rfl, rfl⟩ := List.cons.inj split
      rw [last_or_cons] at matched
      exact Or.inr ⟨a, u, v, rfl, matched⟩
  · rintro (⟨r, listed, u, v, split, matched⟩ | ⟨a, u, v, rfl, matched⟩)
    · rw [List.mem_singleton.mp listed] at matched
      exact ⟨[], u, v, split, matched⟩
    · refine ⟨c :: a, u, v, rfl, ?_⟩
      rw [last_or_cons]
      exact matched

theorem anyMatch_cons_left {re : Regex} {live : List Regex} {prev : Option Char} {s : List Char} :
    AnyMatch (re :: live) prev s ↔ AnyMatch [re] prev s ∨ AnyMatch live prev s := by
  simp [AnyMatch, or_and_right, exists_or]

theorem anyMatch_eraseDups {live : List Regex} {prev : Option Char} {s : List Char} :
    AnyMatch live.eraseDups prev s ↔ AnyMatch live prev s := by
  simp [AnyMatch, List.mem_eraseDups]

theorem searchFrom_iff {start : Regex} {prev : Option Char} {live : List Regex} {s : List Char} :
    searchFrom start prev live s = true ↔ AnyMatch live prev s ∨ MatchesWithin start prev s := by
  induction s generalizing prev live with
  | nil =>
    rw [searchFrom, ← anyMatch_nil_iff, anyMatch_cons_left, matchesWithin_nil_iff, or_comm]
  | cons c s ih =>
    rw [searchFrom, Bool.or_eq_true, ih, anyMatch_eraseDups, ← or_assoc, ← anyMatch_cons_iff,
      anyMatch_cons_left, matchesWithin_cons_iff]
    constructor
    · rintro ((here | started) | later)
      · exact Or.inr (Or.inl here)
      · exact Or.inl started
      · exact Or.inr (Or.inr later)
    · rintro (started | here | later)
      · exact Or.inl (Or.inr started)
      · exact Or.inl (Or.inl here)
      · exact Or.inr later

theorem search_iff {re : Regex} {text : List Char} :
    search re text = true ↔ MatchesWithin re none text := by
  rw [search, searchFrom_iff]
  exact or_iff_right (by simp [AnyMatch])

end LineSieve.Pattern.Regex
