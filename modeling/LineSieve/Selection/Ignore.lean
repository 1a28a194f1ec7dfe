import LineSieve.Pattern.Parser
import LineSieve.Text.Alphabet

/- Ignore lists. Each line turns into a regular expression over paths; lines apply in order, and a
   line with an exclamation mark takes back what earlier ones ignored. -/
namespace LineSieve.Ignore

open Pattern (Regex)

structure Rule where
  pattern : Regex
  negated : Bool

/-- Something that is neither a slash nor a plus, a slash, and later a star before a dot: such a
line is tied to the root. -/
def rootedShape : Regex :=
  .seq (.chars ⟨[⟨[(0x2B, 0x2B), (0x2F, 0x2F)], false, false⟩], true⟩)
    (.seq (.chars (.single '/'.toNat false))
      (.seq (.star (.chars .anyButNewline))
        (.seq (.chars (.single '*'.toNat false)) (.chars (.single '.'.toNat false)))))

private def replace (old new : String) (s : List Char) : List Char :=
  Text.replaceAll old.toList new.toList s

def starMark : String := "#$~"

/-- The wildcards of a line as operators of a regular expression. Everything else in the line keeps
the meaning that it has there. -/
def translateStars (line : List Char) : List Char :=
  let line := replace "." "\\." line
  let line := if "/**/".toList.isPrefixOf line then line.drop 1 else line
  let line := replace "/**/" "(/|/.+/)" line
  let line := replace "**/" ("(|." ++ starMark ++ "/)") line
  let line := replace "/**" ("(|/." ++ starMark ++ ")") line
  let line := replace "\\*" ("\\" ++ starMark) line
  let line := replace "*" "([^/]*)" line
  let line := replace "?" "\\?" line
  replace starMark "*" line

def expressionText (line : List Char) : List Char :=
  let line := if rootedShape.search line && line.head? != some '/' then '/' :: line else line
  let body := translateStars line
  let body := body ++ (if body.getLast? == some '/' then "(|.*)$" else "(|/.*)$").toList
  match body with
  | '/' :: rest => "^(|/)".toList ++ rest
  | _ => "^(|.*/)".toList ++ body

def Rule.ofLine? (line : List Char) : Option Rule :=
  let line := Text.dropTrailing (· == '\r') line
  if line.head? == some '#' then none
  else
    let line := Text.dropTrailing (· == ' ') (line.dropWhile (· == ' '))
    match line with
    | [] => none
    | first :: rest =>
      let negated := first == '!'
      let line := if negated then rest else line
      let line := match line with
        | '#' :: rest => rest
        | '!' :: rest => rest
        | _ => line
      (Regex.parse (expressionText line)).toOption.map (⟨·, negated⟩)

def rules (lines : List (List Char)) : List Rule := lines.filterMap Rule.ofLine?

def ignores (rules : List Rule) (path : List Char) : Bool :=
  rules.foldl (fun ignored rule => if rule.pattern.search path then !rule.negated else ignored)
    false

end LineSieve.Ignore
