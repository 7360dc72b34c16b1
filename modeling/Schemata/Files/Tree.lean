import Schemata.Files.Host

/-!
# File systems as values

A file system is a tree of directories and files, with a directory in which relative paths start.
A path is followed component by component: a dot stays, two dots go up, a name goes down, and every
component but the last has to lead to a directory. A path of 4096 bytes or more leads nowhere.

## Main definitions

* `Tree`: a file or a directory.
* `FileSystem`: a tree and a working directory.
* `FileSystem.locate?`: the place that a path leads to.
* `FileSystem.makeDirectory?`, `FileSystem.write?`.
* `memoryHost`: files in memory.
-/

namespace Schemata.Files

/-- A file or a directory. -/
inductive Tree where
  | file (bytes : ByteArray)
  | directory (entries : List (String × Tree))
  deriving Inhabited

namespace Tree

/-- Whether this is a directory. -/
def isDirectory : Tree → Bool
  | directory _ => true
  | file _ => false

/-- The entries of a directory. -/
def entries : Tree → List (String × Tree)
  | directory es => es
  | file _ => []

/-- What names lead to. -/
def get? : Tree → List String → Option Tree
  | t, [] => some t
  | t, name :: names => (t.entries.lookup name).bind fun inner => inner.get? names

/-- The entries with one replaced or added. -/
def putEntry (es : List (String × Tree)) (name : String) (t : Tree) : List (String × Tree) :=
  if es.any (·.1 == name) then es.map fun e => if e.1 == name then (name, t) else e
  else es ++ [(name, t)]

/-- Put something where names lead. Names that are missing on the way become directories. -/
def put : Tree → List String → Tree → Tree
  | _, [], new => new
  | t, name :: names, new =>
    let inner := (t.entries.lookup name).getD (directory [])
    directory (putEntry t.entries name (inner.put names new))

end Tree

mutual

/-- The files of a tree, by their paths. -/
def Tree.files (path : String) : Tree → List (String × ByteArray)
  | .file bytes => [(path, bytes)]
  | .directory entries => filesOfEntries path entries

/-- The files of entries, by their paths. -/
def filesOfEntries (path : String) : List (String × Tree) → List (String × ByteArray)
  | [] => []
  | (name, t) :: rest => t.files (joinPath path name) ++ filesOfEntries path rest

end

/-- A tree and the names that lead to its working directory. -/
structure FileSystem where
  root : Tree
  working : List String := []

/-- The components of a path. -/
def components (path : String) : List String := (path.toList.splitOn '/').map String.ofList

/-- Whether a path can be followed at all: it is neither empty nor too long, and without NUL. -/
def isPath (path : String) : Bool :=
  !path.isEmpty && path.utf8ByteSize < 4096 && !path.toList.contains (Char.ofNat 0)

/-- Whether a name can be that of a new file or directory: not too long, and none of the components
that lead to a directory in another way. -/
def isName (name : String) : Bool :=
  name.utf8ByteSize ≤ 255 && name != "" && name != "." && name != ".."

/-- Whether components stay where they are, and a dot is one of them. -/
def endInDot (parts : List String) : Bool :=
  parts.contains "." && parts.all fun c => c == "" || c == "."

namespace FileSystem

/-- Whether names lead to a directory. -/
def isDirectory (fs : FileSystem) (place : List String) : Bool :=
  match fs.root.get? place with
  | some t => t.isDirectory
  | none => false

/-- Where a path starts. -/
def origin (fs : FileSystem) (path : String) : List String :=
  if isAbsolute path then [] else fs.working

/-- Follow one component. -/
def follow? (fs : FileSystem) (place : List String) (component : String) : Option (List String) :=
  if !fs.isDirectory place then none
  else if component == "" || component == "." then some place
  else if component == ".." then some place.dropLast
  else
    let next := place ++ [component]
    if (fs.root.get? next).isSome then some next else none

/-- The place that a path leads to. -/
def locate? (fs : FileSystem) (path : String) : Option (List String) :=
  if isPath path then (components path).foldlM fs.follow? (fs.origin path) else none

/-- Follow components, making directories where names are missing. The last name is not made when a
dot follows it, which has to be in a directory that is there. -/
def makeAlong? (fs : FileSystem) (place : List String) : List String → Option FileSystem
  | [] => if fs.isDirectory place then some fs else none
  | c :: rest =>
    match fs.follow? place c with
    | some next => fs.makeAlong? next rest
    | none =>
      if fs.isDirectory place && isName c && !endInDot rest then
        let next := place ++ [c]
        let made := { fs with root := fs.root.put next (.directory []) }
        made.makeAlong? next rest
      else none

/-- Make a directory and those that its path goes through. -/
def makeDirectory? (fs : FileSystem) (path : String) : Option FileSystem :=
  if path.isEmpty then some fs
  else if isPath path then fs.makeAlong? (fs.origin path) (components path)
  else none

/-- The bytes of a file. -/
def read? (fs : FileSystem) (path : String) : Option ByteArray :=
  match (fs.locate? path).bind fs.root.get? with
  | some (.file bytes) => some bytes
  | _ => none

/-- Write a file into a directory that is there. -/
def write? (fs : FileSystem) (path : String) (bytes : ByteArray) : Option FileSystem := do
  let parts := components path
  let name ← parts.getLast?
  let place ← parts.dropLast.foldlM fs.follow? (fs.origin path)
  if isPath path && isName name && fs.isDirectory place && !fs.isDirectory (place ++ [name]) then
    some { fs with root := fs.root.put (place ++ [name]) (.file bytes) }
  else none

/-- The files below the working directory, by their relative paths. -/
def files (fs : FileSystem) : List (String × ByteArray) :=
  match fs.root.get? fs.working with
  | some t => t.files ""
  | none => []

end FileSystem

/-- Replace the file system when there is a new one. -/
def replaceWith (next : Option FileSystem) : StateM FileSystem Bool :=
  match next with
  | some fs => do
    set fs
    return true
  | none => return false

/-- A machine whose files are in memory. -/
def memoryHost (env : Settings.Environment) : Host (StateM FileSystem) where
  getVariable name := pure (env name)
  pathExists path := do return ((← get).locate? path).isSome
  read path := do return (← get).read? path
  makeDirectory path := do replaceWith ((← get).makeDirectory? path)
  write path bytes := do replaceWith ((← get).write? path bytes)

end Schemata.Files
