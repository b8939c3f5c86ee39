import LintLedger.Analyzer.Basic
import LintLedger.Digest.Sha256
import LintLedger.Settings

/-!
# Jscpd

Copied code.  A clone is a pair of places; it is reported once per unordered pair however
often and in whichever direction the report lists it.

## Main Definitions

* `Jscpd.Side` -- one place of a clone
* `Jscpd.pairKey` -- what makes two listed clones the same
* `Jscpd.cloneRows`, `Jscpd.fileRows` -- the findings of clones, and of files
* `Jscpd.analyzer` -- the analyzer
-/

namespace LintLedger.Jscpd

/-- The command line; with `outDir?` the report is written to a directory. -/
def commandInto (settings : JscpdSettings) (outDir? : Option String) (target : String) :
    List String :=
  ["jscpd", "--reporters", "json", "--silent"]
  ++ (match outDir? with | some dir => ["--output", dir] | none => [])
  ++ (if settings.formats.isEmpty then [] else ["--format", ",".intercalate settings.formats])
  ++ settings.patterns.flatMap (fun pattern => ["--pattern", pattern])
  ++ (if settings.gitignore then ["--gitignore"] else [])
  ++ settings.ignore.flatMap (fun glob => ["--ignore", glob])
  ++ (match settings.minTokens? with | some n => ["--min-tokens", toString n] | none => [])
  ++ (match settings.minLines? with | some n => ["--min-lines", toString n] | none => [])
  ++ [target]

/-- The command line by which the tool is known. -/
def command (settings : JscpdSettings) (target : String) : List String :=
  commandInto settings none target

/-! ## Sides -/

/-- One place of a clone. -/
structure Side where
  /-- The file relative to the working directory. -/
  file : String
  first : Int
  last : Int
  /-- The file as it was reported. -/
  reportedFile : String
  firstColumn? : Option Int
  lastColumn? : Option Int
deriving DecidableEq, Repr

/-- The order of two optional integers, an absent one first. -/
def compareOption : Option Int → Option Int → Ordering
  | none, none => .eq
  | none, some _ => .lt
  | some _, none => .gt
  | some a, some b => compare a b

namespace Side

/-- The order of sides: by file, lines, reported file and columns. -/
def cmp (a b : Side) : Ordering :=
  (compare a.file b.file).then <| (compare a.first b.first).then <|
  (compare a.last b.last).then <| (compare a.reportedFile b.reportedFile).then <|
  (compareOption a.firstColumn? b.firstColumn?).then <|
  compareOption a.lastColumn? b.lastColumn?

/-- Two sides, the smaller first. -/
def sorted (a b : Side) : Side × Side := if a.cmp b = .gt then (b, a) else (a, b)

/-- The text of a side in keys and messages. -/
def label (s : Side) : String := s.file ++ ":" ++ toString s.first ++ "-" ++ toString s.last

/-- A side as reported; without a file there is none, a missing line is zero. -/
def ofInstance? (ctx : PathContext) (place : Json) : Option Side :=
  let name? := (Json.asText? (place.get? "name")).or (Json.asText? (place.get? "file"))
  name?.map fun name =>
    let line (loc plain : String) :=
      ((Json.asInt? (place.dig? [loc, "line"])).or (Json.asInt? (place.get? plain))).getD 0
    { file := ctx.relative name
      first := line "startLoc" "start"
      last := line "endLoc" "end"
      reportedFile := name
      firstColumn? := Json.asInt? (place.dig? ["startLoc", "column"])
      lastColumn? := Json.asInt? (place.dig? ["endLoc", "column"]) }

end Side

/-! ## Clones -/

/-- A listed clone with both of its places, smaller first, and what identifies the pair. -/
structure Clone where
  primary : Side
  other : Side
  key : String
  lines? : Option Int
  tokens? : Option Int
  format? : Option String

/-- The two places of a listed clone, in any of the three ways in which they are listed. -/
def places (clone : Json) : Option (Json × Json) :=
  let named (a b : String) := (clone.get? a).bind fun x => (clone.get? b).map fun y => (x, y)
  ((named "firstFile" "secondFile").or (named "duplicationA" "duplicationB")).or
    (match Json.itemsOf (clone.get? "instances") with
      | a :: b :: _ => some (a, b)
      | _ => none)

/-- What identifies an unordered pair of places; the text of the clone takes part if asked
for. -/
def pairKey (settings : JscpdSettings) (primary other : Side) (fragment? : Option String) :
    String :=
  let spans := primary.label ++ "|" ++ other.label
  match fragment? with
  | some fragment =>
    if settings.fragmentInKey then spans ++ "|" ++ Sha256.hex fragment else spans
  | none => spans

/-- A listed clone, if both places can be read and it is not one to leave out. -/
def clone? (settings : JscpdSettings) (ctx : PathContext) (listed : Json) : Option Clone :=
  (places listed).bind fun (x, y) =>
    (Side.ofInstance? ctx x).bind fun a => (Side.ofInstance? ctx y).bind fun b =>
      if !settings.allowIntraFile && a.file == b.file then none
      else
        let (primary, other) := a.sorted b
        some
          { primary := primary
            other := other
            key := pairKey settings primary other (listed.textAt? "fragment")
            lines? := Json.asInt? (listed.get? "lines")
            tokens? := Json.asInt? (listed.get? "tokens")
            format? :=
              (Json.asText? (listed.get? "format")).or (Json.asText? (listed.get? "language")) }

/-- The first clone of every key. -/
def firstOfKey (clones : List Clone) : List Clone :=
  (clones.foldl (fun (kept, seen) c =>
    if seen.contains c.key then (kept, seen) else (c :: kept, c.key :: seen)) ([], [])).1.reverse

/-- A number, or a remark that there is none. -/
def orMissing : Option Int → String
  | some n => toString n
  | none => "n/a"

/-- The message on one side of a clone, worded from that side so that the direction in which
the report lists the pair never shows. -/
def Clone.message (c : Clone) (side counterpart : Side) : String :=
  "Duplicate block (" ++ orMissing c.lines? ++ " lines, " ++ orMissing c.tokens?
    ++ " tokens) between " ++ side.label ++ " and " ++ counterpart.label

/-- The other side of a clone as a document, its members in key order. -/
def Side.toJson (ctx : PathContext) (s : Side) : Json :=
  .obj [
    ("end_col", Json.ofOption Json.ofInt s.lastColumn?),
    ("end_line", Json.ofInt s.last),
    ("file", .str (ctx.filePath s.reportedFile)),
    ("start_col", Json.ofOption Json.ofInt s.firstColumn?),
    ("start_line", Json.ofInt s.first)]

/-- The finding on one side of a clone. -/
def sideRow (ctx : PathContext) (root : String) (c : Clone) (side counterpart : Side) : Finding :=
  (Finding.blank .jscpd (ctx.filePath side.reportedFile) root).lines
      (some side.first) (some side.last)
    |>.columns side.firstColumn? side.lastColumn?
    |>.text "row_type" (some "issue")
    |>.text "rule_id" (some "duplicate")
    |>.text "fingerprint" (some (Sha256.hex c.key))
    |>.text "message" (some (c.message side counterpart))
    |>.text "format" c.format?
    |>.int "lines" c.lines?
    |>.int "tokens" c.tokens?
    |>.json "counterpart" (some (counterpart.toJson ctx))

/-- The findings of a clone: on its smaller side, or on both. -/
def cloneRows (settings : JscpdSettings) (ctx : PathContext) (root : String) (c : Clone) :
    List Finding :=
  sideRow ctx root c c.primary c.other ::
    if settings.emitBothSides then [sideRow ctx root c c.other c.primary] else []

/-- The listed clones: the first of two members that has items. -/
def listedClones (report : Json) : List Json :=
  match Json.itemsOf (report.get? "duplicates") with
  | [] => Json.itemsOf (report.get? "clones")
  | items => items

/-- The findings of the clones of a report.  A pair that is listed again is left out, unless
both sides of every clone are asked for. -/
def issueRows (settings : JscpdSettings) (ctx : PathContext) (root : String) (report : Json) :
    List Finding :=
  let clones := (listedClones report).filterMap (clone? settings ctx)
  let kept := if settings.emitBothSides then clones else firstOfKey clones
  kept.flatMap (cloneRows settings ctx root)

/-! ## Files -/

/-- The finding of a file of one format. -/
def fileRow (ctx : PathContext) (root format : String) (source : String × Json) : Finding :=
  let entry := source.2
  (Finding.blank .jscpd (ctx.filePath source.1) root).text "row_type" (some "file")
    |>.text "format" (some format)
    |>.int "lines" (Json.asInt? (entry.get? "lines"))
    |>.int "tokens" (Json.asInt? (entry.get? "tokens"))
    |>.int "clones" (Json.asInt? (entry.get? "clones"))
    |>.int "duplicated_lines" (Json.asInt? (entry.get? "duplicatedLines"))
    |>.real "percentage" (Json.asFloat? (entry.get? "percentage"))

/-- The findings of the files of a report, format by format. -/
def fileRows (ctx : PathContext) (root : String) (report : Json) : List Finding :=
  (((report.dig? ["statistics", "formats"]).bind Json.obj?).getD []).flatMap fun format =>
    (((format.2.get? "sources").bind Json.obj?).getD []).map (fileRow ctx root format.1)

/-- The findings of a run: clones, then files. -/
def findings (settings : JscpdSettings) (run : RunRecord) (ctx : PathContext) : List Finding :=
  let report := run.document
  let root := ctx.root []
  issueRows settings ctx root report ++ fileRows ctx root report

/-- The analyzer. -/
def analyzer (settings : JscpdSettings) : Analyzer :=
  .plain .jscpd (command settings) (findings settings)

end LintLedger.Jscpd
