import LineSieve.CodePoint.Ranges
import LineSieve.CodePoint.GeneralCategory
import LineSieve.CodePoint.Script

/- Character properties by name: general categories with their groups and long names, scripts, and
   three special sets. Names are compared without regard to case, blanks, hyphens or underscores. -/
namespace LineSieve.CodePoint

def canonicalName (name : List Char) : List Char :=
  (name.filter fun c => !(c == '_' || c == '-' || c == ' ')).map Char.toLower

def categoryGroups : List (String × List String) := [
  ("L", ["Lu", "Ll", "Lt", "Lm", "Lo"]), ("LC", ["Lu", "Ll", "Lt"]), ("M", ["Mn", "Mc", "Me"]),
  ("N", ["Nd", "Nl", "No"]), ("P", ["Pc", "Pd", "Ps", "Pe", "Pi", "Pf", "Po"]),
  ("S", ["Sm", "Sc", "Sk", "So"]), ("Z", ["Zs", "Zl", "Zp"]), ("C", ["Cc", "Cf", "Cs", "Co"])]

def categoryAliases : List (String × String) := [
  ("Cased_Letter", "LC"), ("Close_Punctuation", "Pe"), ("Combining_Mark", "M"),
  ("Connector_Punctuation", "Pc"), ("Control", "Cc"), ("Currency_Symbol", "Sc"),
  ("Dash_Punctuation", "Pd"), ("Decimal_Number", "Nd"), ("Enclosing_Mark", "Me"),
  ("Final_Punctuation", "Pf"), ("Format", "Cf"), ("Initial_Punctuation", "Pi"), ("Letter", "L"),
  ("Letter_Number", "Nl"), ("Line_Separator", "Zl"), ("Lowercase_Letter", "Ll"), ("Mark", "M"),
  ("Math_Symbol", "Sm"), ("Modifier_Letter", "Lm"), ("Modifier_Symbol", "Sk"),
  ("Nonspacing_Mark", "Mn"), ("Number", "N"), ("Open_Punctuation", "Ps"), ("Other", "C"),
  ("Other_Letter", "Lo"), ("Other_Number", "No"), ("Other_Punctuation", "Po"),
  ("Other_Symbol", "So"), ("Paragraph_Separator", "Zp"), ("Private_Use", "Co"),
  ("Punctuation", "P"), ("Separator", "Z"), ("Space_Separator", "Zs"), ("Spacing_Mark", "Mc"),
  ("Surrogate", "Cs"), ("Symbol", "S"), ("Titlecase_Letter", "Lt"), ("Unassigned", "Cn"),
  ("Uppercase_Letter", "Lu"), ("cntrl", "Cc"), ("digit", "Nd"), ("punct", "P")]

structure Property where
  ranges : Ranges
  negated : Bool

private def lookupName {α : Type} (table : List (String × α)) (name : List Char) : Option α :=
  (table.find? fun entry => canonicalName entry.1.toList == name).map (·.2)

private def categoryRanges? (name : List Char) : Option Ranges :=
  match lookupName generalCategories name with
  | some rows => some (Ranges.ofRows rows)
  | none =>
    (lookupName categoryGroups name).map fun members =>
      members.flatMap fun member =>
        ((lookupName generalCategories (canonicalName member.toList)).map Ranges.ofRows).getD []

def Property.ofName? (name : List Char) : Option Property :=
  let key := canonicalName name
  if key == "any".toList then some ⟨[(0, 0x10FFFF)], false⟩
  else if key == "ascii".toList then some ⟨[(0, 0x7F)], false⟩
  else if key == "assigned".toList then (categoryRanges? "cn".toList).map (⟨·, true⟩)
  else
    match categoryRanges? key with
    | some ranges => some ⟨ranges, false⟩
    | none =>
      match lookupName scripts key with
      | some rows => some ⟨Ranges.ofRows rows, false⟩
      | none =>
        (lookupName categoryAliases key).bind fun category =>
          (categoryRanges? (canonicalName category.toList)).map (⟨·, false⟩)

end LineSieve.CodePoint
