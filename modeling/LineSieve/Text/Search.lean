/- Searching in lists: the first occurrence of a piece, and what stands around it. The element type
   is a parameter, so the same search serves characters and bytes. Splitting into lines drops one
   final newline and one carriage return at the end of each line; rendering ends each line with a
   newline. -/
namespace LineSieve.Text

variable {α : Type} [BEq α]

/-- Cut at the first occurrence of `piece`: what stands before it and what stands behind it. -/
def cut? (piece : List α) : List α → Option (List α × List α)
  | [] => if piece.isEmpty then some ([], []) else none
  | c :: s =>
    match piece.isPrefixOf? (c :: s) with
    | some after => some ([], after)
    | none => (cut? piece s).map fun halves => (c :: halves.1, halves.2)

def contains (piece s : List α) : Bool := (cut? piece s).isSome

/-- The text before the first occurrence of `piece`, or all of it. -/
def before (piece s : List α) : List α :=
  match cut? piece s with
  | some halves => halves.1
  | none => s

def splitOn (sep : α) : List α → List (List α)
  | [] => [[]]
  | c :: s =>
    if c == sep then [] :: splitOn sep s
    else
      match splitOn sep s with
      | [] => [[c]]
      | first :: rest => (c :: first) :: rest

/-- Remove one trailing occurrence of `x`, if there is one. -/
def dropLast? (x : α) : List α → List α
  | [] => []
  | [c] => if c == x then [] else [c]
  | c :: d :: s => c :: dropLast? x (d :: s)

def replaceAll (old new s : List α) : List α :=
  if old.isEmpty then s
  else
    match cut? old s with
    | none => s
    | some (front, rest) =>
      if _h : rest.length < s.length then front ++ new ++ replaceAll old new rest else s
termination_by s.length

def join (sep : List α) : List (List α) → List α
  | [] => []
  | [part] => part
  | part :: next :: rest => part ++ sep ++ join sep (next :: rest)

structure LineEnds (α : Type) where
  newline : α
  carriageReturn : α

def LineEnds.split (ends : LineEnds α) (text : List α) : List (List α) :=
  if text.isEmpty then []
  else (splitOn ends.newline (dropLast? ends.newline text)).map (dropLast? ends.carriageReturn)

def LineEnds.render (ends : LineEnds α) (lines : List (List α)) : List α :=
  lines.flatMap fun line => line ++ [ends.newline]

end LineSieve.Text
