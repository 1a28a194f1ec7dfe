import LineSieve.Text.Alphabet

/- Reading the lines of a source through a buffer. The buffer holds a stretch of the source and is
   filled again when there is no whole line in it. It grows for a line that does not fit, up to a
   limit. Sizes are not bounded otherwise. -/
namespace LineSieve.Text

/-- A reader in the middle of a source: where in the buffer the bytes start that it holds, these
bytes, the size of the buffer and its limit, the rest of the source, and whether its end has been
met. -/
structure LineReader where
  start : Nat := 0
  held : List UInt8 := []
  size : Nat
  limit : Nat
  ahead : List UInt8
  ended : Bool := false
  deriving DecidableEq, Repr

namespace LineReader

inductive Failure where
  | tooLong
  | noProgress
  deriving DecidableEq, Repr

def Failure.message : Failure → String
  | .tooLong => "bufio.Scanner: token too long"
  | .noProgress => "multiple Read calls return no data or error"

/-- The size of a buffer that grows from nothing. -/
def leastSize : Nat := 4096

def stop (reader : LineReader) : Nat := reader.start + reader.held.length

/-- The line that is held, if a whole one is, and how many bytes it takes with what ends it. Behind
the end of the source, all that is held is a line. -/
def line? (reader : LineReader) : Option (Nat × List UInt8) :=
  match reader.held.idxOf? byteEnds.newline with
  | some index => some (index + 1, dropLast? byteEnds.carriageReturn (reader.held.take index))
  | none =>
    if reader.ended && !reader.held.isEmpty then
      some (reader.held.length, dropLast? byteEnds.carriageReturn reader.held)
    else none

def skip (reader : LineReader) (advance : Nat) : LineReader :=
  { reader with start := reader.start + advance, held := reader.held.drop advance }

def shift (reader : LineReader) : LineReader :=
  if 0 < reader.start && (reader.stop = reader.size || reader.size / 2 < reader.start) then
    { reader with start := 0 }
  else reader

def grow (reader : LineReader) : Except Failure LineReader :=
  if reader.stop = reader.size then
    if reader.limit ≤ reader.size then .error .tooLong
    else
      let size := if reader.size = 0 then leastSize else 2 * reader.size
      .ok { reader with start := 0, size := min size reader.limit }
  else .ok reader

def read (reader : LineReader) : Except Failure LineReader :=
  let room := reader.size - reader.stop
  if reader.ahead.isEmpty then .ok { reader with ended := true }
  else if room = 0 then .error .noProgress
  else
    .ok { reader with
      held := reader.held ++ reader.ahead.take room
      ahead := reader.ahead.drop room }

def fill (reader : LineReader) : Except Failure LineReader := do
  let reader ← reader.shift.grow
  reader.read

/-- As much is left of the source, its end counted. -/
def left (reader : LineReader) : Nat := reader.ahead.length + if reader.ended then 0 else 1

theorem line?_skip {reader : LineReader} {advance : Nat} {line : List UInt8}
    (found : reader.line? = some (advance, line)) :
    (reader.skip advance).held.length < reader.held.length := by
  suffices some_held : 0 < advance ∧ 0 < reader.held.length by
    rw [skip, List.length_drop]
    omega
  unfold line? at found
  split at found
  · rename_i index newline
    obtain ⟨inside, -⟩ := List.idxOf?_eq_some_iff.mp newline
    obtain ⟨rfl, -⟩ := Prod.mk.inj (Option.some.inj found)
    omega
  · split at found
    · rename_i last
      obtain ⟨rfl, -⟩ := Prod.mk.inj (Option.some.inj found)
      have proper : 0 < reader.held.length := by
        simpa [List.length_pos_iff] using (Bool.and_eq_true_iff.mp last).2
      exact ⟨proper, proper⟩
    · cases found

theorem grow_ahead {reader next : LineReader} (grown : reader.shift.grow = .ok next) :
    next.ahead = reader.ahead ∧ next.ended = reader.ended := by
  have shifted : reader.shift.ahead = reader.ahead ∧ reader.shift.ended = reader.ended := by
    unfold shift
    split <;> exact ⟨rfl, rfl⟩
  unfold grow at grown
  split at grown
  · split at grown <;> cases grown
    exact shifted
  · cases grown
    exact shifted

theorem fill_left {reader next : LineReader} (unended : reader.ended = false)
    (filled : reader.fill = .ok next) : next.left < reader.left := by
  unfold fill at filled
  cases grown : reader.shift.grow with
  | error failure =>
    rw [grown] at filled
    cases filled
  | ok wide =>
    obtain ⟨ahead, ended⟩ := grow_ahead grown
    rw [grown] at filled
    change wide.read = .ok next at filled
    simp only [read, ahead] at filled
    rw [left, left, unended]
    split at filled
    · rename_i drained
      cases filled
      simp [List.isEmpty_iff.mp drained]
    · rename_i more
      split at filled <;> cases filled
      have proper : 0 < reader.ahead.length := by simpa [List.length_pos_iff] using more
      simp only [ended, unended, List.length_drop]
      omega

def lines (reader : LineReader) : Except Failure (List (List UInt8)) :=
  match _found : reader.line? with
  | some (advance, line) => (reader.skip advance).lines.map (line :: ·)
  | none =>
    if _ended : reader.ended then .ok []
    else
      match _filled : reader.fill with
      | .ok next => next.lines
      | .error failure => .error failure
termination_by (reader.left, reader.held.length)
decreasing_by
  · exact Prod.Lex.right _ (line?_skip _found)
  · exact Prod.Lex.left _ _ (fill_left (Bool.eq_false_iff.mpr _ended) _filled)

def ofBytes (content : List UInt8) : LineReader where
  size := 65536
  limit := content.length + 1
  ahead := content

end LineReader

end LineSieve.Text
