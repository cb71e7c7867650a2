import ShardDump.Cli.Grammar
import ShardDump.Cli.Similarity

/-!
# Reading a command line

The words of a command line are read left to right, one level at a time. At the
program's level a word that names a subcommand hands the rest of the line to that
subcommand. A word starting with `--` is a long flag, possibly with `=value`; a word
starting with one `-` is a cluster of short flags, where a flag that takes a value takes
the rest of the word (after an optional `=`) or else the next word, even a word that
names a subcommand, unless that word is itself a flag. After `--` every word is
positional.

A value is checked when the next argument starts or the line ends, so a bad value is
reported before anything that follows it. Giving an argument twice, leaving a required
one out, an unknown flag or an unknown word each stop the reading with a message in the
form the command-line library writes: the error, suggestions of similar names, a usage
line, and a pointer to `--help`. Help and the version also stop the reading, with their
text.
-/

namespace ShardDump

namespace Cli

/-- Why reading a command line stopped. -/
inductive StopKind where
  | displayHelp
  | displayVersion
  | displayHelpOnMissingArgumentOrSubcommand
  | invalidSubcommand
  | unknownArgument
  | missingRequiredArgument
  | missingSubcommand
  | valueValidation
  | invalidValue
  | argumentConflict
  | tooManyValues
  deriving DecidableEq, Repr

/-- The name of a kind of stop. -/
def StopKind.name : StopKind → String
  | .displayHelp => "DisplayHelp"
  | .displayVersion => "DisplayVersion"
  | .displayHelpOnMissingArgumentOrSubcommand => "DisplayHelpOnMissingArgumentOrSubcommand"
  | .invalidSubcommand => "InvalidSubcommand"
  | .unknownArgument => "UnknownArgument"
  | .missingRequiredArgument => "MissingRequiredArgument"
  | .missingSubcommand => "MissingSubcommand"
  | .valueValidation => "ValueValidation"
  | .invalidValue => "InvalidValue"
  | .argumentConflict => "ArgumentConflict"
  | .tooManyValues => "TooManyValues"

/-- A command line that runs no command, with the text it shows. -/
structure Stop where
  kind : StopKind
  text : String
  deriving DecidableEq, Repr

/-- Whether the text goes to standard output: help and the version do, errors do not. -/
def Stop.toStdout (s : Stop) : Bool := s.kind == .displayHelp || s.kind == .displayVersion

/-- The exit status: 0 for help and the version, 2 for a mistake. -/
def Stop.status (s : Stop) : Nat := if s.toStdout then 0 else 2

/-- The text of an error without its last line: the message, lines naming similar words,
tips and the usage line. -/
def errorBody (message : String) (similar tips : List String) (usage : Option String) : String :=
  let similarPart := match similar with
    | [] => ""
    | first :: rest => "\n\n" ++ first ++ String.join (rest.map fun l => "\n" ++ l)
  let tipPart :=
    if tips.isEmpty then ""
    else (if similar.isEmpty then "\n" else "") ++ String.join (tips.map fun t => "\n  tip: " ++ t)
  let usagePart := match usage with
    | some u => "\n\nUsage: " ++ u
    | none => ""
  "error: " ++ message ++ similarPart ++ tipPart ++ usagePart

/-- The text of an error of a command that has a help flag: the body, then the pointer to
help. -/
def errorText (message : String) (similar tips : List String) (usage : Option String) : String :=
  errorBody message similar tips usage ++ "\n\nFor more information, try '--help'.\n"

/-- Quotes names for a suggestion: `'a', 'b'`. -/
def quoteNames (names : List String) : String :=
  ", ".intercalate (names.map fun n => "'" ++ n ++ "'")

/-- The line suggesting similar subcommands. -/
def similarSubcommands (names : List String) : String :=
  if names.length = 1 then "  tip: a similar subcommand exists: " ++ quoteNames names
  else "  tip: some similar subcommands exist: " ++ quoteNames names

/-- The stop for an argument given without a value. -/
def emptyValue (a : ArgSpec) : Stop :=
  ⟨.invalidValue, errorText ("a value is required for '" ++ a.display ++ "' but none was supplied")
    [] [] none⟩

/-- The stop for a value that does not read as its kind. -/
def badValue (a : ArgSpec) (value reason : String) : Stop :=
  ⟨.valueValidation, errorText ("invalid value '" ++ value ++ "' for '" ++ a.display ++ "': " ++ reason)
    [] [] none⟩

/-- The stop for an argument given twice. -/
def givenTwice (c : CommandSpec) (a : ArgSpec) : Stop :=
  ⟨.argumentConflict, errorText ("the argument '" ++ a.display ++ "' cannot be used multiple times")
    [] [] (some c.usage)⟩

/-- The stop for an argument that is not known. -/
def unknownArgument (word : String) (similar tips : List String) (usage : String) : Stop :=
  ⟨.unknownArgument, errorText ("unexpected argument '" ++ word ++ "' found") similar tips (some usage)⟩

/-- The stop for a word that is not a subcommand. -/
def unknownSubcommand (word : String) (similar : List String) (usage : String) : Stop :=
  ⟨.invalidSubcommand, errorText ("unrecognized subcommand '" ++ word ++ "'")
    (if similar.isEmpty then [] else [similarSubcommands similar]) [] (some usage)⟩

/-- The tip for a word that could be meant as a positional value. -/
def asValueTip (word : String) : String := "to pass '" ++ word ++ "' as a value, use '-- " ++ word ++ "'"

/-- What has been read of one level. -/
structure LevelState where
  /-- Values given, in the order their arguments first appeared. -/
  matched : List (String × String)
  /-- An argument whose values are not checked yet. -/
  pending : Option (ArgSpec × List String)
  /-- Whether the pending option takes the next word as its value. -/
  awaiting : Bool
  /-- The place of the next positional argument. -/
  position : Nat
  /-- Whether `--` was given. -/
  trailing : Bool
  deriving Repr

/-- The state before any word. -/
def LevelState.initial : LevelState := ⟨[], none, false, 1, false⟩

/-- The arguments taken so far, in order. -/
def LevelState.given (s : LevelState) : List String := s.matched.map (·.1)

/-- Checks the values of an argument and keeps the first. -/
def accept (c : CommandSpec) (s : LevelState) (a : ArgSpec) (values : List String) :
    Except Stop LevelState :=
  match values with
  | [] => .error (emptyValue a)
  | v :: _ =>
    if s.matched.any (·.1 == a.id) then .error (givenTwice c a)
    else
      match a.kind.check v with
      | some .missing => .error (emptyValue a)
      | some (.invalid reason) => .error (badValue a v reason)
      | none => .ok { s with matched := s.matched ++ [(a.id, v)] }

/-- Checks the pending argument, if any. -/
def LevelState.settle (c : CommandSpec) (s : LevelState) : Except Stop LevelState :=
  match s.pending with
  | none => .ok s
  | some (a, values) => accept c { s with pending := none, awaiting := false } a values

/-- The state that an error message describes once the pending argument is taken up
and its fault, if any, is set aside. An argument with a value counts as given even when
the value fails its check; one given again with a value is withdrawn; one without a
value is not given. -/
def LevelState.settled (s : LevelState) : LevelState :=
  let s' := { s with pending := none, awaiting := false }
  match s.pending with
  | some (a, v :: _) =>
    if s.matched.any (·.1 == a.id) then { s' with matched := s.matched.filter (·.1 != a.id) }
    else { s' with matched := s.matched ++ [(a.id, v)] }
  | _ => s'

/-- Takes an argument with its values, after checking the pending one. -/
def give (c : CommandSpec) (s : LevelState) (a : ArgSpec) (values : List String) :
    Except Stop LevelState := do
  let s ← s.settle c
  accept c s a values

/-- The program a level belongs to. -/
structure Program where
  top : CommandSpec
  /-- The subcommand levels, by name. -/
  levels : List (String × CommandSpec)
  /-- The help of the help subcommand. -/
  helpHelp : String
  version : String

/-- Gives a flag without a value: help and the version stop reading. -/
def flag (p : Program) (c : CommandSpec) (s : LevelState) (a : ArgSpec) : Except Stop LevelState := do
  let s ← s.settle c
  match a.action with
  | .help => .error ⟨.displayHelp, c.helpText⟩
  | .version => .error ⟨.displayVersion, p.top.name ++ " " ++ p.version ++ "\n"⟩
  | .store => accept c s a ["true"]

/-- The long flags of a level, in lookup order. -/
def CommandSpec.longs (c : CommandSpec) : List String := c.args.filterMap (·.long)

/-- The stop for an unknown long flag `--name`: a similar flag of this level, or else a
flag of a subcommand named later on the line, is suggested. -/
def unknownLong (p : Program) (c : CommandSpec) (s : LevelState) (name : String)
    (rest : List String) : Stop :=
  let s := s.settled
  let own := (Similarity.similarWords name c.longs).getLast?
  let elsewhere := if own.isSome then none else
    let found := p.levels.filterMap fun (sub, spec) =>
      match (Similarity.similarWords name spec.longs).getLast?, rest.idxOf? sub with
      | some cand, some place => some (place, sub, cand)
      | _, _ => none
    (found.foldl (fun best x => match best with
      | some b => if x.1 < b.1 then some x else some b
      | none => some x) none).map (·.2)
  let used := s.given ++ (own.bind fun l => (c.findLong l).map (·.id)).toList
  let usage := if used.isEmpty then c.usage else c.usageWith used
  let word := "--" ++ name
  match own, elsewhere with
  | some l, _ => unknownArgument word ["  tip: a similar argument exists: '--" ++ l ++ "'"] [] usage
  | none, some (sub, l) => unknownArgument word [] ["'" ++ sub ++ " --" ++ l ++ "' exists"] usage
  | none, none =>
    let tips := if !s.trailing && !c.positionals.isEmpty then [asValueTip word] else []
    unknownArgument word [] tips usage

/-- The stop for a word with no place: a subcommand is suggested where one is expected. -/
def unexpectedWord (c : CommandSpec) (s : LevelState) (word : String) : Stop :=
  let names := c.subcommands.map (·.1)
  if s.trailing && names.contains word then
    unknownArgument word [] ["subcommand '" ++ word ++ "' exists; to use it, remove the '--' before it"]
      c.usage
  else if !names.isEmpty then
    unknownSubcommand word (Similarity.similarWords word names) c.usage
  else unknownArgument word [] [] c.usage

/-- Reads a cluster of short flags. -/
def scanShort (p : Program) (c : CommandSpec) (s : LevelState) : List Char → Except Stop LevelState
  | [] => .ok s
  | ch :: more =>
    match c.findShort ch with
    | none =>
      let word := "-" ++ ch.toString
      let tips := if !s.trailing && !c.positionals.isEmpty then [asValueTip word] else []
      .error (unknownArgument word [] tips c.usage)
    | some a =>
      if !a.takesValue then do
        let s ← flag p c s a
        scanShort p c s more
      else
        let attached := String.ofList more
        if attached.isEmpty then do
          let s ← s.settle c
          .ok { s with pending := some (a, []), awaiting := true }
        else
          give c s a [if attached.startsWith "=" then attached.drop 1 |>.toString else attached]

/-- How reading one level ended. -/
inductive LevelEnd where
  /-- The words ran out. -/
  | done (s : LevelState)
  /-- A subcommand was named; `rest` follows it. -/
  | subcommand (s : LevelState) (name : String) (rest : List String)
  /-- The help subcommand was named; `rest` follows it. -/
  | helpFor (rest : List String)

/-- Splits a long flag at its first `=`. -/
def splitLong (body : String) : String × Option String :=
  match body.toList.idxOf? '=' with
  | some i => (String.ofList (body.toList.take i), some (String.ofList (body.toList.drop (i + 1))))
  | none => (body, none)

/-- Reads the words of one level. -/
def scan (p : Program) (c : CommandSpec) (s : LevelState) : List String → Except Stop LevelEnd
  | [] => .ok (.done s)
  | word :: rest =>
    let flagLike := word.startsWith "-" && word.length > 1
    if !s.trailing && s.awaiting && !flagLike then
      scan p c { s with pending := s.pending.map (fun (a, _) => (a, [word])), awaiting := false } rest
    else if !s.trailing && c.subcommands.any (·.1 == word) then
      if word == "help" then .ok (.helpFor rest) else .ok (.subcommand s word rest)
    else if !s.trailing && word == "--" then scan p c { s with trailing := true } rest
    else if !s.trailing && word.startsWith "--" then
      let (name, attached) := splitLong (word.drop 2).toString
      match c.findLong name, attached with
      | some a, some v =>
        if a.takesValue then do
          let s ← give c s a [v]
          scan p c s rest
        else
          .error ⟨.tooManyValues, errorText
            ("unexpected value '" ++ v ++ "' for '" ++ a.display ++ "' found; no more were expected")
            [] [] (some (c.usageGrouped (s.given ++ [a.id])))⟩
      | some a, none =>
        if a.takesValue then do
          let s ← s.settle c
          scan p c { s with pending := some (a, []), awaiting := true } rest
        else do
          let s ← flag p c s a
          scan p c s rest
      | none, _ => .error (unknownLong p c s name rest)
    else if !s.trailing && flagLike then do
      let s ← scanShort p c s (word.drop 1).toString.toList
      scan p c s rest
    else
      match c.positionalAt s.position with
      | some a => do
        let s ← s.settle c
        scan p c { s with pending := some (a, [word]), position := s.position + 1 } rest
      | none => .error (unexpectedWord c s.settled word)

/-- Checks that every required positional argument was given. -/
def requireArguments (c : CommandSpec) (s : LevelState) : Except Stop Unit :=
  let missing := c.positionals.filter fun a => a.required && !s.matched.any (·.1 == a.id)
  if missing.isEmpty then .ok ()
  else
    let message := "the following required arguments were not provided:"
      ++ String.join (missing.map fun a => "\n  " ++ a.display)
    .error ⟨.missingRequiredArgument,
      errorText message [] [] (some (c.usageWith (s.matched.map (·.1) ++ missing.map (·.id))))⟩

/-- The help asked for with the help subcommand: the words after it name a subcommand. -/
def helpFor (p : Program) : CommandSpec → List String → Stop
  | c, [] => ⟨.displayHelp, c.helpText⟩
  | c, word :: rest =>
    if c.subcommands.any (·.1 == word) then
      if word == "help" then
        match rest with
        | [] => ⟨.displayHelp, p.helpHelp⟩
        | w :: _ =>
          -- the help subcommand has no help flag, so its errors point nowhere
          ⟨.invalidSubcommand, errorBody ("unrecognized subcommand '" ++ w ++ "'") [] []
            (some (c.name ++ " help [COMMAND]...")) ++ "\n"⟩
      else
        match p.levels.lookup word with
        | some sub => helpFor p sub rest
        | none => unknownSubcommand word [] c.usage
    else unknownSubcommand word [] c.usage

/-- A command line read: the values of the program's level, the subcommand, and the
values of its level. -/
structure Reading where
  top : List (String × String)
  subcommand : String
  values : List (String × String)
  deriving DecidableEq, Repr

/-- The value of a global option: given at the subcommand's level, or else at the
program's. -/
def Reading.global (r : Reading) (id : String) : Option String :=
  (r.values.lookup id).orElse fun _ => r.top.lookup id

/-- Reads the words of a command line after the program name. -/
def read (p : Program) (words : List String) : Except Stop Reading := do
  match ← scan p p.top LevelState.initial words with
  | .helpFor rest => .error (helpFor p p.top rest)
  | .done s =>
    let s ← s.settle p.top
    if s.matched.isEmpty then .error ⟨.displayHelpOnMissingArgumentOrSubcommand, p.top.helpText⟩
    else
      .error ⟨.missingSubcommand, errorText
        ("'" ++ p.top.name ++ "' requires a subcommand but one was not provided\n  [subcommands: "
          ++ ", ".intercalate (p.top.subcommands.map (·.1)) ++ "]") [] [] (some p.top.usage)⟩
  | .subcommand s name rest =>
    let spec := (p.levels.lookup name).getD p.top
    let values ← match ← scan p spec LevelState.initial rest with
      | .done t => do
        let t ← t.settle spec
        requireArguments spec t
        pure t.matched
      | _ => pure []
    let s ← s.settle p.top
    pure ⟨s.matched, name, values⟩

end Cli

end ShardDump
