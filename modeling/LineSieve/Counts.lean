import LineSieve.Record

/- Line counts per category, and their sums. Counts are machine integers of 64 bits, and sums wrap
   around. -/
namespace LineSieve

structure LineCounts where
  physical : Int64 := 0
  total : Int64 := 0
  code : Int64 := 0
  annotated : Int64 := 0
  comment : Int64 := 0
  license : Int64 := 0
  blank : Int64 := 0
  forbidden : Int64 := 0
  deriving DecidableEq, Repr

namespace LineCounts

def add (a b : LineCounts) : LineCounts where
  physical := a.physical + b.physical
  total := a.total + b.total
  code := a.code + b.code
  annotated := a.annotated + b.annotated
  comment := a.comment + b.comment
  license := a.license + b.license
  blank := a.blank + b.blank
  forbidden := a.forbidden + b.forbidden

instance : Add LineCounts := ⟨add⟩

def annotationPercent (counts : LineCounts) : Float :=
  if counts.total = 0 then 0
  else counts.annotated.toFloat / counts.total.toFloat * 100

def addRecord {α : Type} [Text.Alphabet α] (counts : LineCounts) (record : Record α) : LineCounts :=
  let counts := { counts with physical := counts.physical + 1 }
  match record.category with
  | .blank => { counts with blank := counts.blank + 1 }
  | .comment | .blockOpen | .blockBody => { counts with comment := counts.comment + 1 }
  | .blockClose | .code =>
    if record.codeText.isEmpty then { counts with comment := counts.comment + 1 }
    else { counts with code := counts.code + 1 }
  | .inlineAnnotated => { counts with code := counts.code + 1 }
  | .annotated => { counts with annotated := counts.annotated + 1 }
  | .license => { counts with license := counts.license + 1 }
  | .forbidden | .forbiddenContinuation => { counts with forbidden := counts.forbidden + 1 }
  | .unlisted _ => counts

def ofRecords {α : Type} [Text.Alphabet α] (records : List (Record α)) : LineCounts :=
  let counts := records.foldl addRecord {}
  { counts with total := counts.code + counts.annotated }

end LineCounts

structure GrandTotal where
  files : Int64 := 0
  counts : LineCounts := {}
  deriving DecidableEq, Repr

def GrandTotal.addFile (total : GrandTotal) (counts : LineCounts) : GrandTotal :=
  ⟨total.files + 1, total.counts + counts⟩

end LineSieve
