import ShardDump.Cli.Commands
import ShardDump.Proofs.BufferedReading
import ShardDump.Proofs.ExportFailure

/-!
# The export command's two passes over its input

The export command reads its input twice. The first pass counts the lines that are not blank,
and the count fixes the plan; the second pass hands each line that is not blank to the export,
numbered over all lines, blank ones included. Both passes read the same lines, each taken
through its newline (`rawLines`), and the two tests of blankness agree line by line, so on a
file whose lines are all UTF-8 the count is exactly the number of items the second pass hands
on: the export never runs short of records.

Main statement (`export_command_follows_lines`): on such a file and into a root that does not
exist, the command is the export of the lines' records by the plan of their count. Once the
root is made, it succeeds when every line that is not blank is a record that passes the checks,
and the shards of the plan then hold the records in order; otherwise it fails at the first line
that is not, naming that line by its number when it is no JSON record, and the records before
it stay in the dump. A line that is not UTF-8 stops the command in the first pass, before the
disk is touched.
-/

namespace ShardDump

/-! ## The lines of a file -/

namespace BufferedReader

theorem lineOf_ne_nil {bytes : Bytes} (h : bytes ≠ []) : lineOf bytes ≠ [] := by
  cases bytes with
  | nil => exact absurd rfl h
  | cons b rest =>
    unfold lineOf
    split <;> simp

/-- The lines of `bytes` as a reader of lines takes them: each through its newline, and the
bytes after the last newline, when there are any. -/
def rawLines : Bytes → List Bytes
  | [] => []
  | b :: rest => lineOf (b :: rest) :: rawLines ((b :: rest).drop (lineOf (b :: rest)).length)
termination_by bytes => bytes.length
decreasing_by
  have hline := List.length_pos_iff.2 (lineOf_ne_nil (List.cons_ne_nil b rest))
  simp only [List.length_drop, List.length_cons]
  omega

@[simp] theorem rawLines_nil : rawLines [] = [] := by
  rw [rawLines]

theorem rawLines_of_ne_nil {bytes : Bytes} (h : bytes ≠ []) :
    rawLines bytes = lineOf bytes :: rawLines (bytes.drop (lineOf bytes).length) := by
  cases bytes with
  | nil => exact absurd rfl h
  | cons b rest => rw [rawLines]

end BufferedReader

namespace Cli

open BufferedReader (rawLines lineOf)

/-- Reading the lines of an open file, with more reads than bytes left, gives the text of each
of its lines in turn. -/
theorem lineItemsUpTo_of_file {d : Disk} {r : BufferedReader} {i : Nat}
    (hfile : r.handle = .file i) {fuel : Nat} (hfuel : (r.unread d).length < fuel) :
    lineItemsUpTo d fuel r = (rawLines (r.unread d)).map lineText := by
  induction fuel generalizing r with
  | zero => omega
  | succ fuel ih =>
    obtain ⟨line, hline⟩ := BufferedReader.readLine_file_isOk d hfile
    match hr : r.readLine d with
    | (.error e, _) =>
      rw [hr] at hline
      cases hline
    | (.ok line', r') =>
      obtain ⟨hhandle, hl, hsplit⟩ := BufferedReader.readLine_ok hr
      simp only [lineItemsUpTo, hr]
      by_cases hempty : r.unread d = []
      · rw [hl, hempty]
        simp
      · -- one line is taken, and the reads left still outnumber the bytes left
        have hpos : 0 < line'.length :=
          hl ▸ List.length_pos_iff.2 (BufferedReader.lineOf_ne_nil hempty)
        have hrest : (r.unread d).drop line'.length = r'.unread d := by
          rw [hsplit, List.drop_left]
        have hshorter : (r'.unread d).length < fuel := by
          have := congrArg List.length hsplit
          rw [List.length_append] at this
          omega
        rw [if_neg (by simpa [List.isEmpty_iff, List.length_pos_iff] using hpos),
          BufferedReader.rawLines_of_ne_nil hempty, List.map_cons, ← hl, hrest,
          ih (hhandle.trans hfile) hshorter]

/-- The input of an export that is a file is read as the text of each of its lines. -/
theorem inputLines_of_file {d : Disk} {path : String} {i : Nat}
    (hopen : d.openRead path = .ok (.file i)) :
    inputLines d path = .ok ((rawLines (d.content i)).map lineText) := by
  have hfuel : ((BufferedReader.ofHandle (.file i)).unread d).length <
      (BufferedReader.ofHandle (.file i)).remaining d + 2 := by
    rw [BufferedReader.remaining_eq_length_unread]
    omega
  simp only [inputLines, hopen]
  rw [lineItemsUpTo_of_file rfl hfuel, BufferedReader.unread_ofHandle_file]

/-- A line fails to read exactly when it is not UTF-8. -/
theorem lineText_eq_error {bytes : Bytes} {e : IoError} (h : lineText bytes = .error e) :
    e = Disk.invalidTextError := by
  unfold lineText at h
  split at h
  · cases h
    rfl
  · cases h

theorem lineText_of_fromUTF8?_none {bytes : Bytes}
    (h : String.fromUTF8? ⟨bytes.toArray⟩ = none) :
    lineText bytes = .error Disk.invalidTextError := by
  simp [lineText, h]

/-! ## The first pass -/

/-- The first pass adds one for each line that is not blank. -/
theorem countLinesFrom_map_ok (count : Nat) (texts : List String) :
    countLinesFrom count (texts.map .ok) =
      .ok (count + (texts.filter fun t => !Text.isBlank t).length) := by
  induction texts generalizing count with
  | nil => rfl
  | cons t texts ih =>
    cases hb : Text.isBlank t
    · simp only [List.map_cons, countLinesFrom, hb, ih, List.filter_cons, Bool.not_false,
        Bool.false_eq_true, ↓reduceIte, List.length_cons, Except.ok.injEq]
      omega
    · simp [countLinesFrom, hb, ih]

/-- The first pass stops at the first line that cannot be read; when all such lines fail
alike, that is their error. -/
theorem countLinesFrom_of_error {e : IoError} (count : Nat) {items : List (Except IoError String)}
    (hmem : .error e ∈ items) (halike : ∀ e', .error e' ∈ items → e' = e) :
    countLinesFrom count items = .error e := by
  induction items generalizing count with
  | nil => cases hmem
  | cons x items ih =>
    cases x with
    | error e' => rw [countLinesFrom, halike e' List.mem_cons_self]
    | ok t =>
      rw [countLinesFrom]
      exact ih _ (by simpa using hmem) fun e' h => halike e' (List.mem_cons_of_mem _ h)

/-! ## The second pass -/

/-- What line number `n` of the input gives the export: its record, when the line is a JSON
record with a vector and metadata and the record passes the checks; otherwise the error that
stops the export there, which names the line when it is no such JSON record. -/
def lineRecord (n : Nat) (line : String) : Except DumpError Record :=
  match Json.RecordLine.parse line >>= Json.RecordLine.toRecord with
  | .error m => .error (.source ("line " ++ toString n ++ ": " ++ m))
  | .ok r => r.validate.map fun _ => r

/-- What the lines of the input that are not blank give the export, in order, with the lines
numbered from 1 over all lines. -/
def lineRecords (texts : List String) : List (Except DumpError Record) :=
  ((texts.zipIdx 1).filter fun p => !Text.isBlank p.1).map fun p => lineRecord p.2 p.1

theorem toRecord_recordOfLine (n : Nat) (line : String) :
    (recordOfLine n line).toRecord = lineRecord n line := by
  unfold recordOfLine lineRecord
  cases Json.RecordLine.parse line with
  | error m => rfl
  | ok l =>
    cases hr : l.toRecord with
    | error m => simp [hr, SourceItem.toRecord, bind, Except.bind]
    | ok r =>
      cases hv : r.validate <;>
        simp [hr, hv, SourceItem.toRecord, bind, Except.bind, Except.map]

/-- The second pass hands on, for each line that is not blank, what that line gives. -/
theorem map_toRecord_sourceOfLines (texts : List String) :
    (sourceOfLines (texts.map .ok)).map SourceItem.toRecord = lineRecords texts := by
  unfold sourceOfLines lineRecords
  rw [List.zipIdx_map, List.filter_map, List.map_map, List.map_map]
  exact List.map_congr_left fun p _ => toRecord_recordOfLine p.2 p.1

/-- Numbering a list and filtering on the items keeps the items the filter keeps. -/
theorem map_fst_filter_zipIdx {α : Type} (f : α → Bool) (l : List α) (n : Nat) :
    ((l.zipIdx n).filter fun p => f p.1).map Prod.fst = l.filter f := by
  conv_rhs => rw [← List.zipIdx_map_fst n l, List.filter_map]
  rfl

theorem length_filter_zipIdx {α : Type} (f : α → Bool) (l : List α) (n : Nat) :
    ((l.zipIdx n).filter fun p => f p.1).length = (l.filter f).length := by
  rw [← map_fst_filter_zipIdx f l n, List.length_map]

/-- The two passes agree: the first counts as many lines as the second hands on. -/
theorem countLinesFrom_eq_length_sourceOfLines (texts : List String) :
    countLinesFrom 0 (texts.map .ok) = .ok (sourceOfLines (texts.map .ok)).length := by
  have hlen : (sourceOfLines (texts.map .ok)).length = (lineRecords texts).length := by
    rw [← map_toRecord_sourceOfLines, List.length_map]
  rw [countLinesFrom_map_ok, hlen, lineRecords, List.length_map, Nat.zero_add]
  exact congrArg Except.ok (length_filter_zipIdx (fun t => !Text.isBlank t) texts 1).symm

/-! ## The command -/

section Command

variable {d : Disk} {input root : String} {n total : Nat} {items : List (Except IoError String)}

theorem runExportCommand_of_ok (hcount : countRecords d input = .ok total)
    (hread : inputLines d input = .ok items) {s : ExportSummary}
    (h : (runExport d root n total (sourceOfLines items)).result = .ok s) :
    runExportCommand d input root n =
      (exportText s, none, (runExport d root n total (sourceOfLines items)).disk) := by
  simp only [runExportCommand, hcount, hread, h]

theorem runExportCommand_of_error (hcount : countRecords d input = .ok total)
    (hread : inputLines d input = .ok items) {e : DumpError}
    (h : (runExport d root n total (sourceOfLines items)).result = .error e) :
    runExportCommand d input root n =
      ("", some (Report.wrap ("Failed to export to " ++ root) (Report.ofDumpError e)),
        (runExport d root n total (sourceOfLines items)).disk) := by
  simp only [runExportCommand, hcount, hread, h]

end Command

/-! ## An input read line by line -/

section Lines

variable {d d₁ : Disk} {input root : String} {i n : Nat} {texts : List String}

theorem length_sourceOfLines (texts : List String) :
    (sourceOfLines (texts.map .ok)).length = (lineRecords texts).length := by
  rw [← map_toRecord_sourceOfLines, List.length_map]

/-- An input whose lines are the texts `texts` is read so by the second pass and counted by the
first as the number of lines that are not blank. -/
theorem passes_of_lines (hopen : d.openRead input = .ok (.file i))
    (htexts : (rawLines (d.content i)).map lineText = texts.map .ok) :
    inputLines d input = .ok (texts.map .ok) ∧
      countRecords d input = .ok (lineRecords texts).length := by
  have hread : inputLines d input = .ok (texts.map .ok) := by
    rw [inputLines_of_file hopen, htexts]
  refine ⟨hread, ?_⟩
  simp only [countRecords, hread, countLinesFrom_eq_length_sourceOfLines, length_sourceOfLines]

/-- A root that cannot be made fails the command with that error, and nothing is printed. -/
theorem runExportCommand_of_rootCreated_error (hopen : d.openRead input = .ok (.file i))
    (htexts : (rawLines (d.content i)).map lineText = texts.map .ok)
    (hpresent : d.present root = false) (hn : 0 < n) {e : DumpError}
    (hroot : rootCreated d root = .error e) :
    (runExportCommand d input root n).1 = "" ∧
      (runExportCommand d input root n).2.1 =
        some (Report.wrap ("Failed to export to " ++ root) (Report.ofDumpError e)) := by
  obtain ⟨hread, hcount⟩ := passes_of_lines hopen htexts
  obtain ⟨hres, -⟩ := runExport_of_rootCreated_error hpresent hn hroot
    (sourceOfLines (texts.map .ok))
  rw [runExportCommand_of_error hcount hread hres]
  exact ⟨rfl, rfl⟩

/-- Into a root just made, the command on an input whose lines all give records prints the
summary of the plan's shards and leaves them holding the records in order. -/
theorem runExportCommand_of_records (hclosed : d.Closed)
    (hopen : d.openRead input = .ok (.file i))
    (htexts : (rawLines (d.content i)).map lineText = texts.map .ok)
    (hpresent : d.present root = false) (hn : 0 < n) (hnw : n ≤ Text.wordBound)
    (hroot : rootCreated d root = .ok d₁) {rs : List Record}
    (hrs : lineRecords texts = rs.map .ok) :
    ∃ top, d₁.EmptyDir root top ∧ runExportCommand d input root n =
      (exportText ⟨root, (List.range n).map fun k =>
          ⟨k, shardDir root k, ShardPlan.sizeOf ⟨(lineRecords texts).length, n, hn⟩ k⟩⟩,
        none, d₁.withShards top ((List.range n).map
          (shardSlice (ShardPlan.sizeOf ⟨(lineRecords texts).length, n, hn⟩) rs))) := by
  obtain ⟨hread, hcount⟩ := passes_of_lines hopen htexts
  obtain ⟨top, htop⟩ := emptyDir_of_rootCreated hclosed hroot
  have hstops := stopsAt_of_rootCreated ⟨(lineRecords texts).length, n, hn⟩ hpresent hnw hroot
    htop (sourceOfLines (texts.map .ok))
  -- the plan asks for every item the second pass hands on, and each gives its record
  have hall : ((sourceOfLines (texts.map .ok)).take (lineRecords texts).length).map
      SourceItem.toRecord = rs.map .ok := by
    rw [← length_sourceOfLines, List.take_length, map_toRecord_sourceOfLines, hrs]
  obtain ⟨hres, -, hdisk⟩ :=
    hstops.complete rs hall (Nat.le_of_eq (length_sourceOfLines texts).symm)
  refine ⟨top, htop, ?_⟩
  rw [runExportCommand_of_ok hcount hread hres, hdisk]

/-- Into a root just made, the command on an input whose line that is not blank at position `f`
is the first to give no record fails with its error, keeping the records before it. -/
theorem runExportCommand_of_rejected (hclosed : d.Closed)
    (hopen : d.openRead input = .ok (.file i))
    (htexts : (rawLines (d.content i)).map lineText = texts.map .ok)
    (hpresent : d.present root = false) (hn : 0 < n) (hnw : n ≤ Text.wordBound)
    (hroot : rootCreated d root = .ok d₁) {f : Nat} (hf : f < (lineRecords texts).length)
    {rs : List Record} {e : DumpError} (hrs : (lineRecords texts).take f = rs.map .ok)
    (he : (lineRecords texts)[f] = .error e) :
    ∃ top, d₁.EmptyDir root top ∧ runExportCommand d input root n =
      ("", some (Report.wrap ("Failed to export to " ++ root) (Report.ofDumpError e)),
        d₁.withShards top ((List.range
            (ShardPlan.shardOf ⟨(lineRecords texts).length, n, hn⟩ f + 1)).map
          (shardSlice (ShardPlan.sizeOf ⟨(lineRecords texts).length, n, hn⟩) rs))) := by
  obtain ⟨hread, hcount⟩ := passes_of_lines hopen htexts
  obtain ⟨top, htop⟩ := emptyDir_of_rootCreated hclosed hroot
  have hstops := stopsAt_of_rootCreated ⟨(lineRecords texts).length, n, hn⟩ hpresent hnw hroot
    htop (sourceOfLines (texts.map .ok))
  have hhanded := map_toRecord_sourceOfLines texts
  have hfS : f < (sourceOfLines (texts.map .ok)).length := (length_sourceOfLines texts).symm ▸ hf
  have hbefore :
      ((sourceOfLines (texts.map .ok)).take f).map SourceItem.toRecord = rs.map .ok := by
    rw [List.map_take, hhanded, hrs]
  have hat : (sourceOfLines (texts.map .ok))[f].toRecord = .error e := by
    rw [← he]
    simp [← hhanded]
  have hfailed := hstops.rejected f hf hfS rs e hbefore hat
  refine ⟨top, htop, ?_⟩
  rw [runExportCommand_of_error hcount hread hfailed.result, hfailed.disk]

end Lines

end Cli

open Cli

/-- What the export command does with an input whose lines are the texts `texts`, into a root
`root` that does not exist, by the plan `p`. -/
structure ExportCommandFollows (d : Disk) (input root : String) (texts : List String)
    (p : ShardPlan) : Prop where
  /-- The second pass reads the lines' texts. -/
  read : inputLines d input = .ok (texts.map .ok)
  /-- The first pass counts as many records as the second pass hands to the export. -/
  counted : countRecords d input = .ok (sourceOfLines (texts.map .ok)).length
  /-- The second pass hands on what each line that is not blank gives. -/
  handed : (sourceOfLines (texts.map .ok)).map SourceItem.toRecord = lineRecords texts
  /-- A root that cannot be made fails the command with that error, and nothing is printed. -/
  root_fails : ∀ e, rootCreated d root = .error e →
    (runExportCommand d input root p.count).1 = "" ∧
      (runExportCommand d input root p.count).2.1 =
        some (Report.wrap ("Failed to export to " ++ root) (Report.ofDumpError e))
  /-- Every line that is not blank gives a record: the command prints the summary of the plan's
  shards, which hold the records in order. -/
  succeeds : ∀ d₁, rootCreated d root = .ok d₁ → ∀ rs, lineRecords texts = rs.map .ok →
    ∃ top, d₁.EmptyDir root top ∧ runExportCommand d input root p.count =
      (exportText
          ⟨root, (List.range p.count).map fun i => ⟨i, shardDir root i, p.sizeOf i⟩⟩,
        none, d₁.withShards top ((List.range p.count).map (shardSlice p.sizeOf rs)))
  /-- The line that is not blank at position `f` is the first to give no record: the command
  fails with its error, and the records before it stay in the shards they were written to. -/
  fails : ∀ d₁, rootCreated d root = .ok d₁ →
    ∀ f (hf : f < (lineRecords texts).length) rs e,
    (lineRecords texts).take f = rs.map .ok → (lineRecords texts)[f] = .error e →
    ∃ top, d₁.EmptyDir root top ∧ runExportCommand d input root p.count =
      ("", some (Report.wrap ("Failed to export to " ++ root) (Report.ofDumpError e)),
        d₁.withShards top ((List.range (p.shardOf f + 1)).map (shardSlice p.sizeOf rs)))

/-- The export command on a file into a root that does not exist: a line that is not UTF-8
stops it in the first pass, with the disk untouched; otherwise the two passes agree and the
command runs the export of what the lines give, by the plan of their count. -/
theorem export_command_follows_lines {d : Disk} (hclosed : d.Closed) {input root : String}
    {i : Nat} (hopen : d.openRead input = .ok (.file i)) (hpresent : d.present root = false)
    {n : Nat} (hn : 0 < n) (hnw : n ≤ Text.wordBound) :
    (∀ l ∈ BufferedReader.rawLines (d.content i), String.fromUTF8? ⟨l.toArray⟩ = none →
      runExportCommand d input root n = ("", some (Report.ofIo Disk.invalidTextError), d)) ∧
    ∀ texts, (BufferedReader.rawLines (d.content i)).map lineText = texts.map .ok →
      ExportCommandFollows d input root texts ⟨(lineRecords texts).length, n, hn⟩ := by
  refine ⟨fun l hl hbad => ?_, fun texts htexts => ?_⟩
  · -- every line that fails to read fails as not UTF-8, and this one does
    have hcount : countLinesFrom 0 ((BufferedReader.rawLines (d.content i)).map lineText) =
        .error Disk.invalidTextError := by
      refine countLinesFrom_of_error 0
        (List.mem_map.2 ⟨l, hl, lineText_of_fromUTF8?_none hbad⟩) fun e he => ?_
      obtain ⟨l', -, hl'⟩ := List.mem_map.1 he
      exact lineText_eq_error hl'
    simp only [runExportCommand, countRecords, inputLines_of_file hopen, hcount]
  obtain ⟨hread, hcount⟩ := passes_of_lines hopen htexts
  refine ⟨hread, by rw [hcount, length_sourceOfLines], map_toRecord_sourceOfLines texts,
    fun e hroot => ?_, fun d₁ hroot rs hrs => ?_, fun d₁ hroot f hf rs e hrs he => ?_⟩
  · exact runExportCommand_of_rootCreated_error hopen htexts hpresent hn hroot
  · exact runExportCommand_of_records hclosed hopen htexts hpresent hn hnw hroot hrs
  · exact runExportCommand_of_rejected hclosed hopen htexts hpresent hn hnw hroot hf hrs he

/-- A blank line, a record, a line of spaces and a record ended by a carriage return and a
newline, exported into two shards of a fresh root: the passes read four lines and hand on two. -/
theorem export_command_follows_lines_with_blanks :
    (BufferedReader.rawLines
        "\n[\"a\",[1.0],\"m\"]\n  \n[\"b\",[-0.5,2.0],\"n\"]\r\n".toUTF8.toList).map lineText =
        [.ok "", .ok "[\"a\",[1.0],\"m\"]", .ok "  ", .ok "[\"b\",[-0.5,2.0],\"n\"]"] ∧
      ExportCommandFollows
        ⟨[(["in"], .file 0)],
          ["\n[\"a\",[1.0],\"m\"]\n  \n[\"b\",[-0.5,2.0],\"n\"]\r\n".toUTF8.toList]⟩
        "in" "dump" ["", "[\"a\",[1.0],\"m\"]", "  ", "[\"b\",[-0.5,2.0],\"n\"]"]
        ⟨(lineRecords ["", "[\"a\",[1.0],\"m\"]", "  ", "[\"b\",[-0.5,2.0],\"n\"]"]).length, 2,
          by decide⟩ :=
  have htexts : (BufferedReader.rawLines
      "\n[\"a\",[1.0],\"m\"]\n  \n[\"b\",[-0.5,2.0],\"n\"]\r\n".toUTF8.toList).map lineText =
      [.ok "", .ok "[\"a\",[1.0],\"m\"]", .ok "  ", .ok "[\"b\",[-0.5,2.0],\"n\"]"] := by
    decide +kernel
  ⟨htexts, (@export_command_follows_lines
    ⟨[(["in"], .file 0)],
      ["\n[\"a\",[1.0],\"m\"]\n  \n[\"b\",[-0.5,2.0],\"n\"]\r\n".toUTF8.toList]⟩
    (fun e he => by simp at he; subst he; rfl) "in" "dump" 0 rfl rfl 2 (by decide)
    (by decide)).2 _ htexts⟩

/-- A root under a file cannot be made, so the command fails although nothing is at the root
and the input's one line is a record that passes the checks. -/
theorem export_command_under_file_fails :
    (BufferedReader.rawLines "[\"a\",[1.0],\"m\"]\n".toUTF8.toList).map lineText =
        [.ok "[\"a\",[1.0],\"m\"]"] ∧
      lineRecords ["[\"a\",[1.0],\"m\"]"] = [.ok ⟨"a", [⟨0x3ff0000000000000⟩], [109]⟩] ∧
      (⟨[(["in"], .file 0), (["a"], .file 1)], ["[\"a\",[1.0],\"m\"]\n".toUTF8.toList, []]⟩ :
        Disk).present "a/dump" = false ∧
      runExportCommand
          ⟨[(["in"], .file 0), (["a"], .file 1)], ["[\"a\",[1.0],\"m\"]\n".toUTF8.toList, []]⟩
          "in" "a/dump" 1 =
        ("", some (Report.wrap "Failed to export to a/dump"
            (Report.ofDumpError (.io (.os .fileExists)))),
          ⟨[(["in"], .file 0), (["a"], .file 1)],
            ["[\"a\",[1.0],\"m\"]\n".toUTF8.toList, []]⟩) :=
  ⟨by decide +kernel, by decide +kernel, rfl, by with_unfolding_all rfl⟩

end ShardDump
