import Schemata.Command.Arguments
import Schemata.Document.Json.Writer
import Schemata.Emission.Compiler
import Schemata.Emission.Description
import Schemata.Files.Output

/-!
# Running commands

What the program does for each command: it loads settings and a specification, compiles them, and
prints or writes the result. The outcome of a run is what it prints and its exit code; arguments
that are not in order end it with a code of their own.
-/

namespace Schemata.Command

open Emission Files Lowering Spec Settings

/-- What a run leaves behind, apart from files. -/
structure Outcome where
  exit : UInt32 := 0
  out : String := ""
  err : String := ""
  deriving DecidableEq, Repr

/-- A run that succeeded. -/
def Outcome.success (out : String) : Outcome := { out := out }

/-- A run that failed. -/
def Outcome.failure (message : String) : Outcome := { exit := 1, err := message ++ "\n" }

/-- A run with arguments that are not in order. -/
def Outcome.usage : Outcome :=
  { exit := 2, err := "usage: morphe-psql [-v] compile|validate|list FILE [OPTIONS]\n" }

/-- The name and version of the program. -/
def version : String := "morphe-psql 0.1.0\n"

/-- The lines of a section of a listing; a section without names is left out. -/
def listSection (title : String) (names : List String) : String :=
  if names.isEmpty then ""
  else title ++ ":\n" ++ String.join (names.map fun n => "  - " ++ n ++ "\n") ++ "\n"

/-- The listing of a registry. -/
def listing (file : String) (r : Registry) : String :=
  let sections := listSection "Models" r.models.names ++ listSection "Enums" r.enumerations.names
    ++ listSection "Entities" r.entities.names ++ listSection "Structures" r.structures.names
  "File: " ++ file ++ "\n\n" ++ if sections.isEmpty then "No objects defined.\n" else sections

/-- A schema as it is printed. -/
def print (format : Format) (s : Schema) : String :=
  match format with
  | .sql => s.script
  | .json => Document.Json.pretty s.describe ++ "\n"

/-- Compile a registry with SQL writers and without hooks. -/
def compileRegistry (settings : Settings) (r : Registry) : Except String Schema :=
  let compiler : Compiler Unit := .ofSettings settings
  match ((compiler.compileAll r {}).run ()).1 with
  | .ok s => .ok s
  | .error e => .error ("Compilation error: " ++ e.message)

/-- What is said of settings that cannot be used. -/
def settingsMessage (e : SettingsError) : String := "Error loading settings: " ++ e.message

variable {m : Type → Type} [Monad m]

/-- The settings of a run, with variables put in. -/
def settingsOf (host : Host m) (config : Option String) : m (Except String Settings) := do
  let loaded ← match config with
    | some path => loadSettings host path
    | none => searchSettings host
  match loaded with
  | .error e => return .error (settingsMessage e)
  | .ok settings =>
    let env ← host.environment settings.schemaVariables
    return (settings.resolve env).mapError settingsMessage

/-- The specification of a run. -/
def registryOf (host : Host m) (file : String) : m (Except String Registry) := do
  return (← loadRegistry host file).mapError fun e =>
    "Error reading specification '" ++ file ++ "': " ++ e.message

/-- The schema of a specification. -/
def schemaOf (host : Host m) (file : String) (config : Option String) :
    m (Except String Schema) := do
  match ← settingsOf host config with
  | .error message => return .error message
  | .ok settings =>
    match ← registryOf host file with
    | .error message => return .error message
    | .ok r => return compileRegistry settings r

/-- Print a schema, or write it into a directory. -/
def deliver (host : Host m) (out : Option String) (format : Format) (s : Schema) : m Outcome :=
  match out with
  | none => pure (.success (print format s))
  | some directory => do
    match ← (writeSchema host directory s).run with
    | some paths => return .success (String.join (paths.map fun p => "wrote " ++ p ++ "\n"))
    | none =>
      return .failure ("Error writing to '" ++ directory ++ "': " ++ (WriteError.io "").message)

/-- Run a command. -/
def Task.run (host : Host m) : Task → m Outcome
  | .compile file config out format => do
    match ← schemaOf host file config with
    | .error message => return .failure message
    | .ok s => deliver host out format s
  | .validate file config => do
    match ← schemaOf host file config with
    | .error message => return .failure message
    | .ok s =>
      return .success
        ("OK: " ++ file ++ " is valid (" ++ toString s.order.length ++ " artifacts)\n")
  | .list file => do
    match ← registryOf host file with
    | .error message => return .failure message
    | .ok r => return .success (listing file r)

/-- Do what arguments ask for. -/
def run (host : Host m) (arguments : List String) : m Outcome :=
  match Request.parse? arguments with
  | none => pure .usage
  | some .version => pure (.success version)
  | some (.run task) => task.run host

end Schemata.Command
