/-!
# Paths

Paths are kept as the text they were built as, since messages show them that way.
`Path.join` appends a name with one separator, or none when the path is empty or
already ends in one; `Path.parent` drops the last component, ignoring repeated
separators and components that are a single dot.
-/

namespace ShardDump

namespace Path

/-- The separator of path components. -/
def separator : Char := '/'

/-- The pieces of a path between its separators, empty ones included. -/
def parts (path : String) : List String :=
  (path.toList.splitOn separator).map String.ofList

/-- Whether the path starts with a separator. -/
def isAbsolute (path : String) : Bool := path.toList.head? == some separator

/-- Whether the path ends with a separator. -/
def hasTrailingSeparator (path : String) : Bool := path.toList.getLast? == some separator

/-- `path` followed by `name`, with a separator between them when one is needed. -/
def join (path name : String) : String :=
  if isAbsolute name then name
  else if path.isEmpty || hasTrailingSeparator path then path ++ name
  else path ++ "/" ++ name

/-- The components of a relative path that name something: no empty ones and no single
dots, except a dot at the very start. -/
def components (path : String) : List String :=
  let parts := parts path
  let lead := if parts.head? = some "." then ["."] else []
  lead ++ (parts.drop lead.length).filter fun c => c ≠ "" ∧ c ≠ "."

/-- The path without its last component; `none` for the empty path and for the root. -/
def parent (path : String) : Option String :=
  match (components path).reverse with
  | [] => none
  | _ :: rest =>
    let front := rest.reverse
    if isAbsolute path then some ("/" ++ "/".intercalate front)
    else some ("/".intercalate front)

end Path

end ShardDump
