import LineSieve.Aggregate
import LineSieve.Dialect
import LineSieve.Report.Columns
import LineSieve.Verify

/- Reports as tables for people. -/
namespace LineSieve.Report

def tabbed (cells : List String) : List Char := ("\t".intercalate cells ++ "\n").toList

def percent (counts : LineCounts) : String := tenths counts.annotationPercent ++ "%"

def count (n : Int64) : String := grouped n.toInt

def changeLabel (stats : SieveStats) : String :=
  if stats.written then "written" else if stats.changed then "pending" else "-"

def headSection (report : LineSieve.Report) : List Char :=
  tabbed ["RUN ID", report.runId] ++ tabbed ["MODE", report.mode] ++
    tabbed ["SCANNED PATH", report.scannedPath] ++ ['\n']

def totalSection (total : GrandTotal) : List Char :=
  tabbed ["FILES", "TOTAL", "CODE", "ANNOTATION", "ANN%", "COMMENT", "LICENSE", "BLANK",
    "FORBIDDEN"] ++
  tabbed [count total.files, count total.counts.total, count total.counts.code,
    count total.counts.annotated, percent total.counts, count total.counts.comment,
    count total.counts.license, count total.counts.blank, count total.counts.forbidden]

def folderSection (folders : List FolderTotals) : List Char :=
  if folders.isEmpty then []
  else
    '\n' :: (tabbed ["FOLDER", "FILES", "TOTAL", "CODE", "ANNOTATION", "ANN%"] ++
      folders.flatMap fun item =>
        tabbed [item.folder ++ "/", count item.files, count item.counts.total,
          count item.counts.code, count item.counts.annotated, percent item.counts])

def fileCells (sieving : Bool) (file : FileSummary) : List String :=
  let cells := [String.ofList (Path.base file.path.toList), folderOf file.path ++ "/",
    count file.counts.total, count file.counts.code, count file.counts.annotated,
    percent file.counts, count file.counts.forbidden]
  match sieving, file.sieved with
  | true, some stats =>
    cells ++ [grouped stats.linesBefore, grouped stats.linesAfter, changeLabel stats]
  | _, _ => cells

def fileSection (sieving : Bool) (files : List FileSummary) : List Char :=
  if files.isEmpty then []
  else
    let titles := ["FILE", "FOLDER", "TOTAL", "CODE", "ANNOTATION", "ANN%", "FORBIDDEN"] ++
      if sieving then ["BEFORE", "AFTER", "CHANGED"] else []
    '\n' :: (tabbed titles ++ files.flatMap fun file => tabbed (fileCells sieving file))

def failureSection (failures : List FileFailure) : List Char :=
  if failures.isEmpty then []
  else
    '\n' :: (tabbed ["ERROR FILE", "KIND", "MESSAGE"] ++
      failures.flatMap fun item => tabbed [item.path, item.kind.name, item.message])

def table (report : LineSieve.Report) : List Char :=
  let sieving := report.mode != "" && report.mode != "analyze"
  align (headSection report ++ totalSection report.total ++
    folderSection (report.folders.getD []) ++ fileSection sieving (report.files.getD []) ++
    failureSection (report.failures.getD []))

def findingsTable (findings : List Finding) : List Char :=
  if findings.isEmpty then "no forbidden content found\n".toList
  else
    align (tabbed ["FILE", "LINE", "COLUMN", "PATTERN"] ++
      findings.flatMap (fun item =>
        tabbed [item.path, toString item.line, toString item.column, item.pattern]) ++
      ("\n" ++ grouped findings.length ++ " findings\n").toList)

def dialectTable (dialects : List Dialect) : List Char :=
  align (tabbed ["DIALECT", "EXTENSIONS", "LINE", "BLOCK", "ANNOTATION"] ++
    dialects.flatMap fun item =>
      tabbed [item.name, ", ".intercalate item.extensions, item.lineComment,
        item.blockOpen ++ " " ++ item.blockClose, item.sigil])

end LineSieve.Report
