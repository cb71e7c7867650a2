import ShardDump.Proofs.ExportCommand
import ShardDump.Proofs.DumpLayout
import ShardDump.Proofs.LockStep
import ShardDump.Proofs.LossyDecoding

/-!
# Exporting record lines and importing them back

The export command reads records from the lines of a file, and `import` prints the records of a
shard as lines again: as whole record lines, as ids with vectors, or as ids with metadata. Run
one after the other, the imports of shards `0` to `n - 1` print the lines of the records in
order, one line each, and each line read back gives its record again.

Two things stand in the way, and the main statement (`export_import_round_trip`) names both.
A number is read by one multiplication or division by a power of ten, which is not always
exact: `1e-23`, the shortest text of one double, is read as the next double
(`export_import_moves_last_bit`). So the statement assumes, record by record, that the line of
the record reads back as that line. And metadata that is not UTF-8 is printed with replacement
characters, so only records whose metadata is UTF-8 come back.

The imports are taken apart as they run. The record reader is lawful, so `collect` drains it;
the ids reader and the vectors or metas reader give one item per record and end together, so
pairing them gives the pairs of fields (`pairUpTo_of_drains`). A record line has no newline of
its own (`RecordLine.newline_not_mem_render`), so the printed text is the lines of the records,
each ended by a newline.
-/

namespace ShardDump

/-! ## Record lines are one line each -/

namespace Json

theorem hexDigit_ne_newline : ∀ n, n < 16 → hexDigit n ≠ '\n' := by
  decide +kernel

theorem newline_not_mem_escapeChar (c : Char) : '\n' ∉ (escapeChar c).toList := by
  unfold escapeChar
  repeat' split
  -- the escapes by letter are fixed texts; left are `\u00xx` and the character itself
  all_goals try simp
  · -- a control character is below `0x20`, so both digits are below 16
    exact ⟨fun h => hexDigit_ne_newline _ (by omega) h.symm,
      fun h => hexDigit_ne_newline _ (by omega) h.symm⟩
  · exact fun h => ‹¬c = '\n'› h.symm

theorem newline_not_mem_quote (s : String) : '\n' ∉ (quote s).toList := by
  simp only [quote, String.toList_append, String.toList_join, List.mem_append, List.mem_flatMap,
    List.mem_map, not_or, not_exists, not_and]
  refine ⟨⟨by decide, ?_⟩, by decide⟩
  rintro _ ⟨c, -, rfl⟩
  exact newline_not_mem_escapeChar c

theorem newline_not_mem_toDigits (n : Nat) : '\n' ∉ Nat.toDigits 10 n := by
  intro h
  have hdigit := Nat.isDigit_of_mem_toDigits (by decide) (by decide) h
  simp at hdigit

theorem newline_not_mem_layoutDecimal (d : Binary64.Decimal) :
    '\n' ∉ (layoutDecimal d).toList := by
  unfold layoutDecimal
  simp only
  repeat' split
  -- every piece is made of the digits, zeros, a point, `e` and a sign
  all_goals simp only [String.toList_append, List.mem_append, String.toList_ofList,
    List.mem_replicate, Nat.toString_eq_ofList_toDigits, not_or]
  all_goals grind [newline_not_mem_toDigits, List.mem_of_mem_take, List.mem_of_mem_drop]

theorem newline_not_mem_numberText (x : Binary64) : '\n' ∉ (numberText x).toList := by
  unfold numberText
  split
  · decide
  · simp only
    split <;> split <;>
      simp [String.toList_append, newline_not_mem_layoutDecimal]

theorem newline_not_mem_render_number (x : Binary64) : '\n' ∉ (render (number x)).toList := by
  unfold number
  split
  · rw [render]
    exact newline_not_mem_numberText x
  · decide

theorem newline_not_mem_renderItems (v : List Binary64) :
    '\n' ∉ (renderItems (v.map number)).toList := by
  induction v with
  | nil => decide
  | cons x rest ih =>
    cases rest with
    | nil => exact newline_not_mem_render_number x
    | cons y rest =>
      simp only [List.map_cons, renderItems, String.toList_append, List.mem_append, not_or]
      exact ⟨⟨newline_not_mem_render_number x, by decide⟩, ih⟩

/-- A record line is written on one line: no newline is left unescaped. -/
theorem RecordLine.newline_not_mem_render (l : RecordLine) : '\n' ∉ l.render.toList := by
  obtain ⟨id, vector, metadata⟩ := l
  cases vector <;> cases metadata <;>
    simp [RecordLine.render, RecordLine.toJson, Json.render, renderFields, String.toList_append,
      newline_not_mem_quote, newline_not_mem_renderItems]

end Json

/-! ## The record reader ends -/

namespace RecordReader

theorem reader_bound_eq (d : Disk) (r : RecordReader) :
    Reader.bound d r = if r.done then 1 else Reader.bound d r.ids + 1 := rfl

/-- A record comes with an id, which the ids reader leaves behind it. -/
instance : Reader.Lawful RecordReader Record where
  bound_pos d r := by
    rw [reader_bound_eq]
    split <;> omega
  bound_lt_of_item {d r r' x} h := by
    have hdone : r.done = false := by
      cases hd : r.done
      · rfl
      · rw [reader_next_eq, next_of_done d r hd] at h
        cases h
    rw [reader_next_eq] at h
    have hitem : lockStep r.shard r.position (r.ids.next d).1 (r.vectors.next d).1
        (r.metas.next d).1 = some (.ok x) := by
      rw [← next_fst_of_not_done d r hdone, h]
    obtain ⟨hid, hv, hm⟩ := lockStep_eq_item_iff.1 hitem
    have hall : allItems (r.ids.next d).1 (r.vectors.next d).1 (r.metas.next d).1 = true := by
      simp [allItems, hid, hv, hm]
    have hr' : (next d r).2 = r' := by rw [h]
    rw [next_snd_of_allItems d r hdone hall] at hr'
    subst hr'
    have hids : Reader.next d r.ids = (some (.ok x.id), (r.ids.next d).2) := by
      rw [IdReader.reader_next_eq, ← hid]
    have hlt := Reader.Lawful.bound_lt_of_item hids
    rw [reader_bound_eq, reader_bound_eq, hdone]
    simp only [Bool.false_eq_true, ↓reduceIte]
    omega

end RecordReader

namespace Reader

variable {ρ α : Type} [Reader ρ α]

/-- A lawful reader's bound is above the number of items of any of its runs. -/
theorem length_lt_bound_of_drains [Lawful ρ α] {d : Disk} {r : ρ} {xs : List α}
    {e : Option DumpError} (h : Drains d r xs e) : xs.length < bound d r := by
  induction xs generalizing r with
  | nil => exact Lawful.bound_pos d r
  | cons x xs ih =>
    obtain ⟨hx, hrest⟩ := drains_cons_iff.1 h
    have hnext : next d r = (some (.ok x), (next d r).2) := Prod.ext hx rfl
    have hlt := Lawful.bound_lt_of_item hnext
    have hshorter := ih hrest
    simp only [List.length_cons]
    omega

end Reader

namespace Cli

open Reader (Drains drains_nil_iff drains_cons_iff)

/-! ## What `import` prints -/

/-- Two readers that give items one for one and end together are paired item by item. -/
theorem pairUpTo_of_drains {ρ σ α β : Type} [Reader ρ α] [Reader σ β] {d : Disk}
    {xs : List α} {ys : List β} (hlen : xs.length = ys.length) {a : ρ} {b : σ}
    (ha : Drains d a xs none) (hb : Drains d b ys none) {fuel : Nat} (hfuel : xs.length < fuel) :
    pairUpTo d fuel a b = (xs.zip ys, none) := by
  -- one step per item of the first reader, in which both readers are pulled once
  induction xs generalizing ys a b fuel with
  | nil =>
    obtain ⟨fuel, rfl⟩ : ∃ f, fuel = f + 1 := ⟨fuel - 1, by simp at hfuel; omega⟩
    have hend : Reader.next d a = (none, (Reader.next d a).2) := Prod.ext (drains_nil_iff.1 ha) rfl
    rw [pairUpTo, hend]
    rfl
  | cons x xs ih =>
    obtain ⟨fuel, rfl⟩ : ∃ f, fuel = f + 1 := ⟨fuel - 1, by simp at hfuel; omega⟩
    cases ys with
    | nil => cases hlen
    | cons y ys =>
      obtain ⟨hx, ha'⟩ := drains_cons_iff.1 ha
      obtain ⟨hy, hb'⟩ := drains_cons_iff.1 hb
      have hrest := ih (by simpa using hlen) ha' hb' (show xs.length < fuel by simpa using hfuel)
      have hna : Reader.next d a = (some (.ok x), (Reader.next d a).2) := Prod.ext hx rfl
      have hnb : Reader.next d b = (some (.ok y), (Reader.next d b).2) := Prod.ext hy rfl
      rw [pairUpTo, hna, hnb]
      simp only [hrest, List.zip_cons_cons]

/-- `import` pairs the ids of records with another of their fields, taking as many pulls as the
ids reader's bound allows: the pairs of every record's id and field. -/
theorem pairUpTo_bound_of_drains {σ β : Type} [Reader σ β] {d : Disk} {ids : IdReader} {b : σ}
    {xs : List Record} {f : Record → β} (hids : Drains d ids (xs.map Record.id) none)
    (hb : Drains d b (xs.map f) none) :
    pairUpTo d (Reader.bound d ids) ids b = (xs.map fun r => (r.id, f r), none) := by
  rw [pairUpTo_of_drains (by simp) hids hb (Reader.length_lt_bound_of_drains hids), List.zip_map']

/-- The line `import` prints for a record, by what it selects: a record line with both fields,
with the vector only, or with the metadata only. -/
def importLine : Selection → Record → String
  | .records, r => jsonLine (Json.RecordLine.ofRecord r)
  | .vectors, r => jsonLine ⟨r.id, some r.vector, none⟩
  | .metas, r => jsonLine ⟨r.id, none, some (Text.decodeLossy r.metadata)⟩

/-- A shard whose three imports give the records `xs` and end: `import` prints their lines, by
what it selects, and reports nothing. -/
theorem runImportCommand_of_drains {d : Disk} {root : String} {k : Nat} {xs : List Record}
    (hrecords : ∃ rr, importRecords d root k = .ok rr ∧ Drains d rr xs none)
    (hvectors : ∃ ids vectors, importVectors d root k = .ok (ids, vectors) ∧
      Drains d ids (xs.map Record.id) none ∧ Drains d vectors (xs.map Record.vector) none)
    (hmetas : ∃ ids metas, importMetas d root k = .ok (ids, metas) ∧
      Drains d ids (xs.map Record.id) none ∧ Drains d metas (xs.map Record.metadata) none)
    (selection : Selection) :
    runImportCommand d root k selection = (String.join (xs.map (importLine selection)), none) := by
  cases selection with
  | records =>
    obtain ⟨rr, hopen, hdrains⟩ := hrecords
    obtain ⟨hxs, he⟩ := Reader.collect_eq_of_drains hdrains
    rcases hc : Reader.collect d rr with ⟨records, e, rr'⟩
    rw [hc] at hxs he
    subst hxs he
    unfold runImportCommand
    rw [hopen]
    dsimp only
    rw [hc]
    rfl
  | vectors =>
    obtain ⟨ids, vectors, hopen, hids, hvs⟩ := hvectors
    unfold runImportCommand
    rw [hopen]
    dsimp only
    rw [pairUpTo_bound_of_drains hids hvs, List.map_map]
    rfl
  | metas =>
    obtain ⟨ids, metas, hopen, hids, hms⟩ := hmetas
    unfold runImportCommand
    rw [hopen]
    dsimp only
    rw [pairUpTo_bound_of_drains hids hms, List.map_map]
    rfl

/-- What `import` prints for shards `0` to `n - 1`, one after another. -/
def importedText (d : Disk) (root : String) (n : Nat) (selection : Selection) : String :=
  String.join ((List.range n).map fun k => (runImportCommand d root k selection).1)

theorem join_map_join {α : Type} (f : α → String) (L : List (List α)) :
    String.join (L.map fun l => String.join (l.map f)) = String.join (L.flatten.map f) := by
  induction L with
  | nil => rfl
  | cons l L ih =>
    rw [List.map_cons, String.join_cons, ih, List.flatten_cons, List.map_append, String.join_append]

section Dump

variable {d₁ : Disk} {root : String} {top : List String} {rs : List Record} (p : ShardPlan)

/-- In a dump that holds the plan's slices of valid records, `import` of a shard prints the
lines of its slice. -/
theorem runImportCommand_withShards (htop : d₁.EmptyDir root top)
    (hnw : p.count ≤ Text.wordBound) (hvalid : ∀ r ∈ rs, r.validate = .ok ()) {k : Nat}
    (hk : k < p.count) (selection : Selection) :
    runImportCommand (d₁.withShards top ((List.range p.count).map (shardSlice p.sizeOf rs))) root
        k selection =
      (String.join ((shardSlice p.sizeOf rs k).map (importLine selection)), none) := by
  have hcount : ((List.range p.count).map (shardSlice p.sizeOf rs)).length ≤ Text.wordBound := by
    simpa using hnw
  have hk' : k < ((List.range p.count).map (shardSlice p.sizeOf rs)).length := by simpa using hk
  have hslice : ((List.range p.count).map (shardSlice p.sizeOf rs))[k] = shardSlice p.sizeOf rs k :=
    by simp
  have hvalid' : ∀ r ∈ ((List.range p.count).map (shardSlice p.sizeOf rs))[k],
      r.validate = .ok () := by
    intro r hr
    rw [hslice] at hr
    exact hvalid r (mem_of_mem_shardSlice hr)
  have h := runImportCommand_of_drains (Disk.importRecords_withShards htop hcount hk' hvalid')
    (Disk.importVectors_withShards htop hcount hk' hvalid')
    (Disk.importMetas_withShards htop hcount hk' hvalid') selection
  rwa [hslice] at h

/-- `import` of every shard of such a dump, one after another, prints the lines of all the
records in order. -/
theorem importedText_withShards (htop : d₁.EmptyDir root top) (hp : p.total = rs.length)
    (hnw : p.count ≤ Text.wordBound) (hvalid : ∀ r ∈ rs, r.validate = .ok ())
    (selection : Selection) :
    importedText (d₁.withShards top ((List.range p.count).map (shardSlice p.sizeOf rs))) root
        p.count selection =
      String.join (rs.map (importLine selection)) := by
  -- each shard prints the lines of its slice, and the slices make up the records
  have hprinted : (List.range p.count).map (fun k =>
        (runImportCommand (d₁.withShards top ((List.range p.count).map (shardSlice p.sizeOf rs)))
          root k selection).1) =
      ((List.range p.count).map (shardSlice p.sizeOf rs)).map
        fun l => String.join (l.map (importLine selection)) := by
    rw [List.map_map]
    exact List.map_congr_left fun k hk => congrArg Prod.fst
      (runImportCommand_withShards p htop hnw hvalid (List.mem_range.1 hk) selection)
  rw [importedText, hprinted, join_map_join, flatten_map_shardSlice, p.offset_sizeOf_count, hp,
    List.take_length]

end Dump

/-! ## Lines that read back -/

/-- The line of a record gives that record, whatever its number, when it reads back as itself,
the metadata is UTF-8 and the record passes the checks. -/
theorem lineRecord_render {r : Record}
    (hback : Json.RecordLine.parse (Json.RecordLine.ofRecord r).render =
      .ok (Json.RecordLine.ofRecord r))
    (hutf8 : ByteArray.IsValidUTF8 ⟨r.metadata.toArray⟩) (hvalid : r.validate = .ok ())
    (n : Nat) : lineRecord n (Json.RecordLine.ofRecord r).render = .ok r := by
  simp only [lineRecord, hback, bind, Except.bind, Json.RecordLine.toRecord_ofRecord hutf8, hvalid,
    Except.map]

theorem map_lineRecord_of_map_fst {P : List (String × Nat)} {rs : List Record}
    (hP : P.map Prod.fst = rs.map fun r => (Json.RecordLine.ofRecord r).render)
    (hrs : ∀ r ∈ rs, ∀ n, lineRecord n (Json.RecordLine.ofRecord r).render = .ok r) :
    P.map (fun p => lineRecord p.2 p.1) = rs.map .ok := by
  induction rs generalizing P with
  | nil =>
    rw [List.map_nil, List.map_eq_nil_iff] at hP
    rw [hP, List.map_nil, List.map_nil]
  | cons r rs ih =>
    cases P with
    | nil => cases hP
    | cons p P =>
      simp only [List.map_cons, List.cons.injEq] at hP
      obtain ⟨hp, hP⟩ := hP
      simp only [List.map_cons, hp, hrs r List.mem_cons_self,
        ih hP fun r' hr' => hrs r' (List.mem_cons_of_mem _ hr')]

/-- An input whose lines that are not blank are the lines of the records `rs`, each giving its
record, hands the export exactly those records. -/
theorem lineRecords_of_filter {texts : List String} {rs : List Record}
    (htexts : texts.filter (fun t => !Text.isBlank t) =
      rs.map fun r => (Json.RecordLine.ofRecord r).render)
    (hrs : ∀ r ∈ rs, ∀ n, lineRecord n (Json.RecordLine.ofRecord r).render = .ok r) :
    lineRecords texts = rs.map .ok :=
  map_lineRecord_of_map_fst ((map_fst_filter_zipIdx _ texts 1).trans htexts) hrs

end Cli

open Cli

/-! ## The round trip -/

/-- What exporting a file of record lines into `root` and importing each of its `n` shards back
leaves: the export and every import succeed, and the imports of shards `0` to `n - 1`, one after
another, print the records `rs` in order. -/
structure CliRoundTrip (run : String × Option Report × Disk) (root : String) (n : Nat)
    (rs : List Record) : Prop where
  /-- The export reports nothing. -/
  exported : run.2.1 = none
  /-- No import reports anything. -/
  imported : ∀ k < n, ∀ selection, (runImportCommand run.2.2 root k selection).2 = none
  /-- The imports of whole records print the record lines, one line each. -/
  records : importedText run.2.2 root n .records =
    String.join (rs.map fun r => jsonLine (Json.RecordLine.ofRecord r))
  /-- Each of those lines, read and made a record, gives its record back. -/
  read_back : rs.map (fun r => Json.RecordLine.parse (Json.RecordLine.ofRecord r).render >>=
    Json.RecordLine.toRecord) = rs.map .ok
  /-- The imports of vectors print the same ids and vectors, and no metadata. -/
  vectors : importedText run.2.2 root n .vectors =
    String.join (rs.map fun r => jsonLine ⟨r.id, some r.vector, none⟩)
  /-- The imports of metadata print the same ids and metadata, and no vector. -/
  metas : importedText run.2.2 root n .metas =
    String.join (rs.map fun r => jsonLine ⟨r.id, none, (Json.RecordLine.ofRecord r).metadata⟩)

/-- Export a file whose lines that are not blank are the lines of the records `rs`, then import
each shard. A record whose metadata is UTF-8 comes back from its line, and a record line is one
line. If the root cannot be made the export fails with that error and prints nothing. Once it is
made, the round trip gives the records back, provided that each record passes the checks, its
metadata is UTF-8 and its line reads back as itself. -/
theorem export_import_round_trip {d : Disk} (hclosed : d.Closed) {input root : String} {i : Nat}
    (hopen : d.openRead input = .ok (.file i)) (hpresent : d.present root = false)
    {n : Nat} (hn : 0 < n) (hnw : n ≤ Text.wordBound) {rs : List Record}
    (hvalid : ∀ r ∈ rs, r.validate = .ok ())
    (hutf8 : ∀ r ∈ rs, ByteArray.IsValidUTF8 ⟨r.metadata.toArray⟩)
    (hback : ∀ r ∈ rs, Json.RecordLine.parse (Json.RecordLine.ofRecord r).render =
      .ok (Json.RecordLine.ofRecord r))
    {texts : List String}
    (hlines : (BufferedReader.rawLines (d.content i)).map lineText = texts.map .ok)
    (htexts : texts.filter (fun t => !Text.isBlank t) =
      rs.map fun r => (Json.RecordLine.ofRecord r).render) :
    (∀ r : Record, ByteArray.IsValidUTF8 ⟨r.metadata.toArray⟩ →
      (Json.RecordLine.ofRecord r).toRecord = .ok r) ∧
    (∀ l : Json.RecordLine, '\n' ∉ l.render.toList) ∧
    (∀ e, rootCreated d root = .error e →
      (runExportCommand d input root n).1 = "" ∧
        (runExportCommand d input root n).2.1 =
          some (Report.wrap ("Failed to export to " ++ root) (Report.ofDumpError e))) ∧
    ∀ d₁, rootCreated d root = .ok d₁ →
      CliRoundTrip (runExportCommand d input root n) root n rs := by
  have hrs : lineRecords texts = rs.map .ok := lineRecords_of_filter htexts
    fun r hr => lineRecord_render (hback r hr) (hutf8 r hr) (hvalid r hr)
  refine ⟨fun r h => Json.RecordLine.toRecord_ofRecord h, Json.RecordLine.newline_not_mem_render,
    fun e hroot => ?_, fun d₁ hroot => ?_⟩
  · exact runExportCommand_of_rootCreated_error hopen hlines hpresent hn hroot
  obtain ⟨top, htop, hrun⟩ :=
    runExportCommand_of_records hclosed hopen hlines hpresent hn hnw hroot hrs
  -- the export's plan is over exactly the records `rs`
  have hp : (⟨(lineRecords texts).length, n, hn⟩ : ShardPlan).total = rs.length := by
    show (lineRecords texts).length = rs.length
    rw [hrs, List.length_map]
  have hprinted := importedText_withShards _ htop hp hnw hvalid
  rw [hrun]
  refine ⟨rfl, fun k hk selection => ?_, hprinted .records, ?_, hprinted .vectors,
    hprinted .metas⟩
  · rw [runImportCommand_withShards _ htop hnw hvalid hk selection]
  · refine List.map_congr_left fun r hr => ?_
    rw [hback r hr]
    exact Json.RecordLine.toRecord_ofRecord (hutf8 r hr)

/-- Two records, after a blank line and a line of spaces, the second ended by a carriage return
and a newline, exported into two shards and imported back. -/
theorem export_import_round_trip_with_blanks :
    CliRoundTrip
      (runExportCommand
        ⟨[(["in"], .file 0)],
          [("\n\x7b\"id\":\"a\",\"vector\":[1.0],\"metadata\":\"m\"\x7d\n  \n" ++
            "\x7b\"id\":\"b\",\"vector\":[-0.5,2.0],\"metadata\":\"n\"\x7d\r\n").toUTF8.toList]⟩
        "in" "dump" 2)
      "dump" 2
      [⟨"a", [⟨0x3ff0000000000000⟩], [109]⟩,
        ⟨"b", [⟨0xbfe0000000000000⟩, ⟨0x4000000000000000⟩], [110]⟩] :=
  (@export_import_round_trip
    ⟨[(["in"], .file 0)],
      [("\n\x7b\"id\":\"a\",\"vector\":[1.0],\"metadata\":\"m\"\x7d\n  \n" ++
        "\x7b\"id\":\"b\",\"vector\":[-0.5,2.0],\"metadata\":\"n\"\x7d\r\n").toUTF8.toList]⟩
    (fun e he => by simp at he; subst he; rfl) "in" "dump" 0 rfl rfl 2 (by decide) (by decide)
    [⟨"a", [⟨0x3ff0000000000000⟩], [109]⟩,
      ⟨"b", [⟨0xbfe0000000000000⟩, ⟨0x4000000000000000⟩], [110]⟩]
    (by decide) (by decide) (by decide +kernel)
    ["", "\x7b\"id\":\"a\",\"vector\":[1.0],\"metadata\":\"m\"\x7d", "  ",
      "\x7b\"id\":\"b\",\"vector\":[-0.5,2.0],\"metadata\":\"n\"\x7d"]
    (by decide +kernel) (by decide +kernel)).2.2.2
    ⟨[(["in"], .file 0), (["dump"], .directory)],
      [("\n\x7b\"id\":\"a\",\"vector\":[1.0],\"metadata\":\"m\"\x7d\n  \n" ++
        "\x7b\"id\":\"b\",\"vector\":[-0.5,2.0],\"metadata\":\"n\"\x7d\r\n").toUTF8.toList]⟩
    rfl

/-- The double whose shortest text is `1e-23` is written so, but the export reads `1e-23` as the
next double, and the import prints that one as `1.0000000000000001e-23`: the record passes
the checks and its metadata is UTF-8, yet it does not come back. -/
theorem export_import_moves_last_bit :
    Record.validate ⟨"a", [⟨0x3b282db34012b251⟩], [109]⟩ = .ok () ∧
      jsonLine (Json.RecordLine.ofRecord ⟨"a", [⟨0x3b282db34012b251⟩], [109]⟩) =
        "\x7b\"id\":\"a\",\"vector\":[1e-23],\"metadata\":\"m\"\x7d\n" ∧
      importedText
          (runExportCommand ⟨[(["in"], .file 0)],
            ["\x7b\"id\":\"a\",\"vector\":[1e-23],\"metadata\":\"m\"\x7d\n".toUTF8.toList]⟩
            "in" "dump" 1).2.2 "dump" 1 .records =
        "\x7b\"id\":\"a\",\"vector\":[1.0000000000000001e-23],\"metadata\":\"m\"\x7d\n" ∧
      ¬ CliRoundTrip
          (runExportCommand ⟨[(["in"], .file 0)],
            ["\x7b\"id\":\"a\",\"vector\":[1e-23],\"metadata\":\"m\"\x7d\n".toUTF8.toList]⟩
            "in" "dump" 1)
          "dump" 1 [⟨"a", [⟨0x3b282db34012b251⟩], [109]⟩] :=
  ⟨by decide, by decide +kernel, by decide +kernel,
    fun h => absurd h.records (by decide +kernel)⟩

end ShardDump
