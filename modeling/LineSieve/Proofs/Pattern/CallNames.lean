import LineSieve.Proofs.Acceptance
import LineSieve.Proofs.Text.Blanks
import LineSieve.Proofs.Text.CaseFolding

/- The names of the forbidden calls stand for themselves. Whatever characters a name holds,
   compiling a specification does not fail because of it, and a line is refused exactly if it starts
   with the name, up to letter case, and an opening parenthesis, blanks before and between. -/
namespace LineSieve

open Pattern

theorem isPatternBlank_iff {c : Char} :
    isPatternBlank c = true ↔ c ∈ ['\t', '\n', '\x0c', '\r', ' '] := by
  simp only [isPatternBlank, spaceRanges, CodePoint.Ranges.contains, List.any_cons, List.any_nil,
    Bool.or_false, Bool.or_eq_true, Bool.and_eq_true, decide_eq_true_eq, List.mem_cons,
    List.not_mem_nil, or_false, ← Char.toNat_inj]
  change _ ↔ c.toNat = 9 ∨ c.toNat = 10 ∨ c.toNat = 12 ∨ c.toNat = 13 ∨ c.toNat = 32
  omega

theorem spelledAs_iff {word name : List Char} :
    SpelledAs word name ↔ Text.equalFold word name = true := by
  rw [Text.equalFold_iff]
  induction word generalizing name with
  | nil => cases name <;> simp [SpelledAs]
  | cons c word ih =>
    cases name with
    | nil => simp [SpelledAs]
    | cons d name =>
      rw [SpelledAs, ih, Text.mem_caseOrbit_iff, List.map_cons, List.map_cons, List.cons.injEq,
        eq_comm (a := Text.foldKey d.toNat)]

variable {μ α : Type} [Spelling μ α] [DecidableEq α] [Text.Alphabet α]

namespace RuleSpec

omit [Spelling μ α] [DecidableEq α] [Text.Alphabet α] in
theorem mem_callNames {spec : RuleSpec μ} {names : List String} {name : List Char} :
    name ∈ ({ spec with forbiddenCalls := some names } : RuleSpec μ).callNames ↔
      ∃ written ∈ names, Text.allBlank written.toList = false ∧
        Text.trim written.toList = name := by
  have proper (s : List Char) : (!(Text.trim s).isEmpty) = true ↔ Text.allBlank s = false := by
    rw [Bool.not_eq_true', List.isEmpty_eq_false_iff, ne_eq, Text.trim_eq_nil, Bool.not_eq_true]
  simp only [callNames, Option.getD_some, List.mem_filter, List.mem_map]
  constructor
  · rintro ⟨⟨written, listed, rfl⟩, some_name⟩
    exact ⟨written, listed, (proper _).mp some_name, rfl⟩
  · rintro ⟨written, listed, shown, rfl⟩
    exact ⟨⟨written, listed, rfl⟩, (proper _).mpr shown⟩

omit [Text.Alphabet α] in
theorem compile_names {spec : RuleSpec μ} {bare : Rules α}
    (accepted : ({ spec with forbiddenCalls := none } : RuleSpec μ).compile = .ok bare)
    (calls : Option (List String)) :
    let called : RuleSpec μ := { spec with forbiddenCalls := calls }
    called.compile = .ok { bare with forbidden := called.forbiddenOf } := by
  obtain ⟨checked, opener, license, url, licensed, located, rfl⟩ := compile_ok_iff.mp accepted
  exact compile_ok_iff.mpr ⟨checked, opener, license, url, licensed, located, rfl⟩

end RuleSpec

/-- The names of the forbidden calls are matched literally. Take a specification that is accepted
without forbidden calls, its markers text or bytes, and any list of names. It is accepted with them
too, and all else in the rules is the same. A line starts a forbidden call if and only if its
characters are a run of ASCII white space, a text that equals one of the trimmed names up to letter
case, a run of ASCII white space and an opening parenthesis, with anything behind it; blank names do
not count, and with no other name nothing is forbidden. A line that starts a call starts one however
it goes on. -/
theorem call_names_literal [Text.LawfulAlphabet α] (spec : RuleSpec μ) (bare : Rules α)
    (accepted : ({ spec with forbiddenCalls := none } : RuleSpec μ).compile = .ok bare)
    (names : List String) :
    ∃ rules : Rules α,
      ({ spec with forbiddenCalls := some names } : RuleSpec μ).compile = .ok rules ∧
      { rules with forbidden := none } = bare ∧
      (∀ line : List α, rules.startsCall line = true ↔
        ∃ lead word gap rest, ∃ name ∈ names,
          Text.chars line = lead ++ (word ++ (gap ++ '(' :: rest)) ∧
          (∀ c ∈ lead, c ∈ ['\t', '\n', '\x0c', '\r', ' ']) ∧
          (∀ c ∈ gap, c ∈ ['\t', '\n', '\x0c', '\r', ' ']) ∧
          Text.allBlank name.toList = false ∧
          Text.equalFold word (Text.trim name.toList) = true) ∧
      ((∀ name ∈ names, Text.allBlank name.toList = true) →
        rules.forbidden = none ∧ ∀ line : List α, rules.startsCall line = false) ∧
      (∀ line more : List α, rules.startsCall line = true →
        rules.startsCall (line ++ more) = true) := by
  have compiled := RuleSpec.compile_names accepted (some names)
  refine ⟨_, compiled, ?_, ?_, ?_, ?_⟩
  · obtain ⟨-, -, license, url, -, -, rfl⟩ := RuleSpec.compile_ok_iff.mp accepted
    rfl
  · intro line
    rw [RuleSpec.forbiddenOf_starts rfl line]
    constructor
    · rintro ⟨lead, word, gap, rest, name, split, leading, between, listed, spelling⟩
      obtain ⟨written, among, shown, rfl⟩ := RuleSpec.mem_callNames.mp listed
      exact ⟨lead, word, gap, rest, written, among, split,
        fun c inside => isPatternBlank_iff.mp (leading c inside),
        fun c inside => isPatternBlank_iff.mp (between c inside), shown,
        spelledAs_iff.mp spelling⟩
    · rintro ⟨lead, word, gap, rest, written, listed, split, leading, between, shown, folded⟩
      exact ⟨lead, word, gap, rest, Text.trim written.toList, split,
        fun c inside => isPatternBlank_iff.mpr (leading c inside),
        fun c inside => isPatternBlank_iff.mpr (between c inside),
        RuleSpec.mem_callNames.mpr ⟨written, listed, shown, rfl⟩, spelledAs_iff.mpr folded⟩
  · intro blank
    have none_left : ({ spec with forbiddenCalls := some names } : RuleSpec μ).callNames = [] := by
      rw [List.eq_nil_iff_forall_not_mem]
      intro name listed
      obtain ⟨written, listed, shown, -⟩ := RuleSpec.mem_callNames.mp listed
      rw [blank written listed] at shown
      cases shown
    have free : ({ spec with forbiddenCalls := some names } : RuleSpec μ).forbiddenOf = none := by
      rw [RuleSpec.forbiddenOf, none_left]
      rfl
    rw [free]
    exact ⟨rfl, fun line => rfl⟩
  · intro line more starts
    exact (RuleSpec.accepted_of_compile compiled).starts_extend (List.prefix_append line more) starts

theorem RuleSpec.compile_lua_bare :
    ({ ofDialect .lua with forbiddenCalls := none } : RuleSpec).compile =
      .ok { Rules.lua with forbidden := none } := by
  obtain ⟨checked, opener, license, url, licensed, located, same⟩ := compile_ok_iff.mp compile_lua
  rw [same]
  exact compile_ok_iff.mpr ⟨checked, opener, license, url, licensed, located, rfl⟩

/-- A dot and a bar in names: the names themselves are refused, and nothing that the two characters
would match as operators. -/
theorem call_names_literal_operators :
    let names := ["a.b", " x|y ", " "]
    ({ RuleSpec.ofDialect .lua with forbiddenCalls := none } : RuleSpec).compile =
        .ok { Rules.lua with forbidden := none } ∧
      ∃ rules, ({ RuleSpec.ofDialect .lua with forbiddenCalls := some names } : RuleSpec).compile =
          .ok rules ∧
        rules.startsCall "\tX|Y (1".toList = true ∧
        rules.startsCall "\tX|Y (1, 2)".toList = true ∧
        rules.startsCall "a+b(1)".toList = false ∧ rules.startsCall "x(1)".toList = false := by
  intro names
  obtain ⟨rules, compiled, -, shape, -, extends'⟩ := call_names_literal (.ofDialect .lua) _
    RuleSpec.compile_lua_bare names
  have refused : rules.startsCall "\tX|Y (1".toList = true := by
    refine (shape _).mpr ⟨['\t'], "X|Y".toList, [' '], ['1'], " x|y ", by decide, rfl,
      List.forall_mem_singleton.mpr (by decide), List.forall_mem_singleton.mpr (by decide), ?_, ?_⟩
    all_goals decide +kernel
  have passed : (({ RuleSpec.ofDialect .lua with forbiddenCalls := some names } :
      RuleSpec).compile.toOption.map fun rules =>
        ["a+b(1)", "x(1)"].map (rules.startsCall ·.toList)) = some [false, false] := by
    decide +kernel
  rw [compiled] at passed
  simp only [Except.toOption, Option.map_some, List.map_cons, List.map_nil, Option.some.injEq,
    List.cons.injEq, and_true] at passed
  exact ⟨RuleSpec.compile_lua_bare, rules, compiled, refused, extends' _ ", 2)".toList refused,
    passed.1, passed.2⟩

end LineSieve
