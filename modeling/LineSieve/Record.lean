import LineSieve.Text.Alphabet

/- The classification of one line: its category, and where its comment starts. -/
namespace LineSieve

/-- What a line is. `unlisted` stands for numeric codes outside the list, which only foreign
records carry. -/
inductive Category where
  | blank
  | comment
  | blockOpen
  | blockBody
  | blockClose
  | annotated
  | inlineAnnotated
  | license
  | forbidden
  | forbiddenContinuation
  | code
  | unlisted (number : Int)
  deriving DecidableEq, Repr

namespace Category

def listed : List Category :=
  [.blank, .comment, .blockOpen, .blockBody, .blockClose, .annotated, .inlineAnnotated,
    .license, .forbidden, .forbiddenContinuation, .code]

def ofCode (number : Int) : Category :=
  if number < 0 then .unlisted number else listed[number.toNat]?.getD (.unlisted number)

def name : Category → String
  | .blank => "blank"
  | .comment => "comment"
  | .blockOpen => "block_open"
  | .blockBody => "block_body"
  | .blockClose => "block_close"
  | .annotated => "annotation"
  | .inlineAnnotated => "inline_annotation"
  | .license => "license"
  | .forbidden => "forbidden"
  | .forbiddenContinuation => "forbidden_continuation"
  | .code => "code"
  | .unlisted number => "category(" ++ toString number ++ ")"

def isForbidden (category : Category) : Bool :=
  category == .forbidden || category == .forbiddenContinuation

end Category

/-- One classified line. `commentAt` is the byte offset where removable comment text starts, or
negative if there is none; `depth` is the parenthesis depth behind the line of a forbidden call. -/
structure Record (α : Type := Char) where
  index : Int
  text : List α
  category : Category
  commentAt : Int := -1
  urlGuarded : Bool := false
  depth : Int := 0
  deriving DecidableEq, Repr

def Record.codeText {α : Type} [Text.Alphabet α] (record : Record α) : List α :=
  if record.commentAt < 0 then Text.trimRight record.text
  else Text.trimRight (Text.takeBytes record.commentAt.toNat record.text)

end LineSieve
