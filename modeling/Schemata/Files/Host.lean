import Schemata.Settings.Basic
import Schemata.Spec.Decode

/-!
# Files and environment

What a program needs of the machine it runs on, in any monad: the running program acts on real
files, and the same code can act on a file system that is a value. Paths are texts, with slashes
between their components.

## Main definitions

* `joinPath`: a path below another.
* `Host`: the operations on files, and environment variables.
* `loadRegistry`, `loadSettings`, `searchSettings`: documents in files.
-/

namespace Schemata.Files

open Spec Settings

/-- Whether a path starts at the root. -/
def isAbsolute (path : String) : Bool := path.toList.head? == some '/'

/-- A path below another. An absolute path stands for itself. -/
def joinPath (base path : String) : String :=
  if isAbsolute path || base.isEmpty then path
  else if base.toList.getLast? == some '/' then base ++ path
  else base ++ "/" ++ path

/-- What a program needs of the machine it runs on. -/
structure Host (m : Type → Type) where
  /-- The value of an environment variable, if it is set. -/
  getVariable : String → m (Option String)
  /-- Whether there is a file or a directory at a path. -/
  pathExists : String → m Bool
  /-- The bytes of a file, if it can be read. -/
  read : String → m (Option ByteArray)
  /-- Make a directory and those above it; whether it is there then. -/
  makeDirectory : String → m Bool
  /-- Write a file; whether that succeeded. -/
  write : String → ByteArray → m Bool

/-- Why a specification cannot be loaded. -/
inductive LoadError where
  | fileNotFound (path : String)
  | unreadable
  | malformed
  deriving DecidableEq, Repr

/-- The text of an error. -/
def LoadError.message : LoadError → String
  | .fileNotFound path => "Spec file not found: " ++ path
  | .unreadable => "Failed to read spec file: "
  | .malformed => "Failed to parse spec file: "

/-- Where the path of a settings file may be given. -/
def settingsVariable : String := "MORPHE_PSQL_CONFIG"

/-- The settings file of a directory. -/
def localSettings : String := "morphe-psql.toml"

/-- The user's settings file, below the directory of settings. -/
def userSettings (directory : String) : String :=
  joinPath (joinPath directory "morphe-psql") "config.toml"

/-- The directory of a user's settings: the one that is named, when it is an absolute path, or one
below the home directory. -/
def settingsDirectory? (named home : Option String) : Option String :=
  match named.filter isAbsolute with
  | some directory => some directory
  | none => (home.filter (!·.isEmpty)).map fun home => joinPath home ".config"

section

variable {m : Type → Type} [Monad m]

/-- The environment, as far as some variables are concerned. -/
def Host.environment (host : Host m) (names : List String) : m Environment := do
  let found ← names.mapM fun name => do return (name, ← host.getVariable name)
  return fun name => (found.lookup name).join

/-- The text of a file, if it can be read and is UTF-8. -/
def Host.readText (host : Host m) (path : String) : m (Option String) := do
  return (← host.read path).bind String.fromUTF8?

/-- The registry in a file. -/
def loadRegistry (host : Host m) (path : String) : m (Except LoadError Registry) := do
  if !(← host.pathExists path) then return .error (.fileNotFound path)
  match ← host.readText path with
  | none => return .error .unreadable
  | some text =>
    match Registry.ofText? text with
    | none => return .error .malformed
    | some registry => return .ok registry

/-- The settings in a file. -/
def loadSettings (host : Host m) (path : String) : m (Except SettingsError Settings) := do
  if !(← host.pathExists path) then return .error (.fileNotFound path)
  match ← host.readText path with
  | none => return .error .unreadable
  | some text => return Settings.ofText text

/-- The settings of the first place that has some: the file that the environment names, the file of
the directory, the user's file. Without any, settings are the default ones. -/
def searchSettings (host : Host m) : m (Except SettingsError Settings) := do
  if let some path ← host.getVariable settingsVariable then return ← loadSettings host path
  if ← host.pathExists localSettings then return ← loadSettings host localSettings
  let named ← host.getVariable "XDG_CONFIG_HOME"
  let home ← host.getVariable "HOME"
  if let some directory := settingsDirectory? named home then
    if ← host.pathExists (userSettings directory) then
      return ← loadSettings host (userSettings directory)
  return .ok {}

end

end Schemata.Files
