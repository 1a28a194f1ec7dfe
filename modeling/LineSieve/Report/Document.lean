import LineSieve.Json
import LineSieve.Summary

/- Reports and records as JSON documents. -/
namespace LineSieve

namespace Json

def ofOptional {α : Type} (encode : α → Json) : Option (List α) → Json
  | none => .null
  | some items => .array (items.map encode)

end Json

def LineCounts.fields (counts : LineCounts) : List (String × Json) :=
  [("physical", .int counts.physical.toInt), ("total", .int counts.total.toInt),
    ("code", .int counts.code.toInt), ("annotation", .int counts.annotated.toInt),
    ("comment", .int counts.comment.toInt), ("license", .int counts.license.toInt),
    ("blank", .int counts.blank.toInt), ("forbidden", .int counts.forbidden.toInt)]

def SieveStats.toJson (stats : SieveStats) : Json :=
  .object [("lines_before", .int stats.linesBefore), ("lines_after", .int stats.linesAfter),
    ("changed", .bool stats.changed), ("written", .bool stats.written)]

def FileSummary.toJson (file : FileSummary) : Json :=
  .object ([("path", .ofString file.path), ("dialect", .ofString file.dialect),
    ("encoding", .ofString file.encoding), ("counts", .object file.counts.fields)] ++
    (if file.unclosedAt = 0 then [] else [("unclosed_statement_at", .int file.unclosedAt)]) ++
    match file.sieved with
    | none => []
    | some stats => [("rewrite", stats.toJson)])

def FolderTotals.toJson (item : FolderTotals) : Json :=
  .object [("folder", .ofString item.folder), ("files", .int item.files.toInt),
    ("counts", .object item.counts.fields)]

def GrandTotal.toJson (total : GrandTotal) : Json :=
  .object (("files", .int total.files.toInt) :: total.counts.fields)

def FileFailure.toJson (item : FileFailure) : Json :=
  .object [("path", .ofString item.path), ("kind", .ofString item.kind.name),
    ("error", .ofString item.message)]

namespace Report

def toJson (report : Report) : Json :=
  .object [("run_id", .ofString report.runId), ("mode", .ofString report.mode),
    ("scanned_path", .ofString report.scannedPath),
    ("files", .ofOptional FileSummary.toJson report.files),
    ("folders", .ofOptional FolderTotals.toJson report.folders),
    ("total", report.total.toJson), ("errors", .ofOptional FileFailure.toJson report.failures)]

def document (report : Report) : List Char := report.toJson.indented 0 ++ ['\n']

end Report

/-- A record; the guard and the depth are left out when they say nothing. -/
def Record.toJson (record : Record) : Json :=
  .object ([("index", .int record.index), ("text", .string record.text),
    ("category", .ofString record.category.name), ("comment_at", .int record.commentAt)] ++
    (if record.urlGuarded then [("url_guarded", .bool true)] else []) ++
    if record.depth = 0 then [] else [("depth", .int record.depth)])

def recordsDocument (records : List Record) : List Char :=
  (Json.array (records.map Record.toJson)).compact

end LineSieve
