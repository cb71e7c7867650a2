import ShardDump.DumpError

/-!
# Error reports

A command that fails reports a chain of messages: what it was doing, then each cause in
turn down to the first one. The report is written as `Error:` and the outermost message,
then, if there are causes, a `Caused by:` block: a single cause indented by four spaces,
or several causes numbered from zero.
-/

namespace ShardDump

/-- A chain of error messages, outermost first. -/
structure Report where
  message : String
  causes : List String
  deriving DecidableEq, Repr

namespace Report

/-- The report of a dump error. -/
def ofDumpError (e : DumpError) : Report := ⟨e.message, e.causes⟩

/-- The report of an input or output error. -/
def ofIo (e : IoError) : Report := ⟨e.message, []⟩

/-- The report of `r` under a message that says what was being done. -/
def wrap (context : String) (r : Report) : Report := ⟨context, r.message :: r.causes⟩

/-- A number right-aligned in four columns. -/
def padNumber (n : Nat) : String :=
  let s := toString n
  String.ofList (List.replicate (4 - s.length) ' ') ++ s

/-- A cause with its first line after the lead and later lines indented to its text;
an empty line stays empty, with no indentation. -/
def indentCause (lead : String) (indent : Nat) (cause : String) : String :=
  "\n".intercalate ((cause.splitOn "\n").zipIdx.map fun (line, i) =>
    if line.isEmpty then ""
    else (if i = 0 then lead else String.ofList (List.replicate indent ' ')) ++ line)

/-- The text of the report, without a final newline. -/
def render (r : Report) : String :=
  "Error: " ++ r.message ++
    match r.causes with
    | [] => ""
    | [c] => "\n\nCaused by:\n" ++ indentCause "    " 4 c
    | cs => "\n\nCaused by:" ++ String.join (cs.zipIdx.map fun (c, i) =>
        "\n" ++ indentCause (padNumber i ++ ": ") 6 c)

end Report

end ShardDump
