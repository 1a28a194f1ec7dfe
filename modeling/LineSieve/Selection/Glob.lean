import LineSieve.Text.Search

/- Glob patterns for paths. A star matches a run within one component, a question mark one
   character, brackets one of a set, braces one of several patterns; two stars as a component of
   their own match any number of components. -/
namespace LineSieve.Glob

structure Malformed where
  deriving DecidableEq, Repr

/-- Cut before and behind the first `mark` that has no backslash before it. -/
def cutUnescaped? (mark : Char) (previous : Option Char) :
    List Char → Option (List Char × List Char)
  | [] => none
  | c :: s =>
    if c == mark && previous != some '\\' then some ([], s)
    else
      -- A mark that was escaped does not itself escape what follows.
      (cutUnescaped? mark (if c == mark then none else some c) s).map fun halves =>
        (c :: halves.1, halves.2)

/-- The patterns between braces, and what stands behind the closing one. Nested braces stay in one
piece. -/
def alternatives (depth : Nat) (current : List Char) (done : List (List Char)) :
    List Char → Option (List (List Char) × List Char)
  | [] => none
  | '\\' :: c :: s => alternatives depth (c :: '\\' :: current) done s
  | '{' :: s => alternatives (depth + 1) ('{' :: current) done s
  | '}' :: s =>
    match depth with
    | 0 => some ((current.reverse :: done).reverse, s)
    | depth + 1 => alternatives depth ('}' :: current) done s
  | ',' :: s =>
    if depth = 0 then alternatives 0 [] (current.reverse :: done) s
    else alternatives depth (',' :: current) done s
  | c :: s => alternatives depth (c :: current) done s

def setBound : List Char → Except Malformed (Char × List Char)
  | [] => .error {}
  | '-' :: _ => .error {}
  | ['\\'] => .error {}
  | '\\' :: c :: s => .ok (c, s)
  | c :: s => .ok (c, s)

def inSet (c : Char) (found : Bool) (set : List Char) : Except Malformed Bool :=
  if set.isEmpty then .ok found
  else
    match setBound set with
    | .error e => .error e
    | .ok (low, rest) =>
      match rest with
      | '-' :: more =>
        match setBound more with
        | .error e => .error e
        | .ok (high, rest) =>
          if _h : rest.length < set.length then inSet c (found || (low ≤ c && c ≤ high)) rest
          else .error {}
      | _ =>
        if _h : rest.length < set.length then inSet c (found || c == low) rest else .error {}
termination_by set.length

def setAccepts (c : Char) (set : List Char) : Except Malformed Bool :=
  match set with
  | [] => .error {}
  | '^' :: rest => (inSet c false rest).map (!·)
  | _ => inSet c false set

def suffixes : List Char → List (List Char)
  | [] => []
  | c :: s => (c :: s) :: suffixes s

def firstAnswer : List (Except Malformed (Option (List (List Char)))) →
    Except Malformed (Option (List (List Char)))
  | [] => .ok none
  | .ok none :: rest => firstAnswer rest
  | answer :: _ => answer

def allAnswers : List (Except Malformed (Option (List (List Char)))) →
    Except Malformed (Option (List (List Char)))
  | [] => .ok none
  | .error e :: _ => .error e
  | .ok found :: rest =>
    match allAnswers rest, found with
    | .error e, _ => .error e
    | .ok more, none => .ok more
    | .ok more, some patterns => .ok (some (patterns ++ more.getD []))

/-- Match one component of a name against the start of a pattern. A match gives the patterns that
the rest of the name may match; a pattern used up adds none. `fuel` bounds the length of the
pattern. -/
def component : Nat → List Char → List Char → Except Malformed (Option (List (List Char)))
  | 0, _, _ => .ok none
  | fuel + 1, pattern, name =>
    match pattern, name with
    | [], [] => .ok (some [])
    | [], _ :: _ => .ok none
    | '/' :: rest, [] => .ok (some [rest])
    | '/' :: _, _ :: _ => .ok none
    | '*' :: rest, [] => component fuel rest []
    | '*' :: rest, _ :: _ =>
      match rest with
      | [] => .ok (some [])
      | '/' :: after => .ok (some [after])
      | _ => firstAnswer ((suffixes name).map (component fuel rest))
    | '{' :: rest, _ =>
      match alternatives 0 [] [] rest with
      | none => .error {}
      | some (options, after) =>
        allAnswers (options.map fun option => component fuel (option ++ after) name)
    | '\\' :: rest, c :: name =>
      match rest with
      | [] => .error {}
      | escaped :: rest => if escaped == c then component fuel rest name else .ok none
    | '[' :: rest, c :: name =>
      match cutUnescaped? ']' none rest with
      | none => .error {}
      | some (set, after) =>
        match setAccepts c set with
        | .error e => .error e
        | .ok true => component fuel after name
        | .ok false => .ok none
    | p :: rest, c :: name => if p == '?' || p == c then component fuel rest name else .ok none
    | _ :: _, [] => .ok none

def tails (name : List Char) : List (List Char) :=
  match cutUnescaped? '/' none name with
  | none => [name]
  | some (_, rest) => if _h : rest.length < name.length then name :: tails rest else [name]
termination_by name.length

def matchWith : Nat → List Char → List Char → Except Malformed Bool
  | 0, _, _ => .ok false
  | fuel + 1, pattern, name =>
    if pattern.isEmpty then .ok name.isEmpty
    else
      match cutUnescaped? '/' none pattern with
      | none => if pattern == ['*', '*'] then .ok true else byComponent fuel pattern name
      | some (first, rest) =>
        if first == ['*', '*'] then
          .ok ((tails name).any fun tail => (matchWith fuel rest tail).toOption == some true)
        else byComponent fuel pattern name
where
  /-- Match the first component and then any of the patterns that are left. -/
  byComponent (fuel : Nat) (pattern name : List Char) : Except Malformed Bool :=
    let (head, tail) := match cutUnescaped? '/' none name with
      | none => (name, none)
      | some (head, tail) => (head, some tail)
    match component (pattern.length + 1) pattern head, tail with
    | .error e, _ => .error e
    | .ok none, _ => .ok false
    | .ok (some left), none => .ok left.isEmpty
    | .ok (some left), some tail => firstTrue (left.map fun pattern => matchWith fuel pattern tail)
  /-- The first answer that is a match or an error. -/
  firstTrue : List (Except Malformed Bool) → Except Malformed Bool
    | [] => .ok false
    | .ok false :: rest => firstTrue rest
    | answer :: _ => answer

def «matches» (pattern name : List Char) : Except Malformed Bool :=
  matchWith (pattern.length + 1) pattern name

end LineSieve.Glob
