import Schemata.Emission.Schema
import Schemata.Files.Host

/-!
# Schemas in directories

A schema is written as one file for each object, in a directory for each kind, and one file with
everything in order.
-/

namespace Schemata.Files

open Emission Spec

/-- The directory of a kind. -/
def kindDirectory : Kind → String
  | .model => "models"
  | .enumeration => "enums"
  | .entity => "entities"
  | .record => "structures"

/-- The file with everything in order. -/
def scriptFile : String := "schema.sql"

variable {m : Type → Type} [Monad m]

/-- Write a file into a directory, which is made if need be. The path of the file is returned, or
nothing if that failed. -/
def writeInto (host : Host m) (directory name : String) (bytes : ByteArray) :
    OptionT m String := OptionT.mk do
  if !(← host.makeDirectory directory) then return none
  let path := joinPath directory name
  return if ← host.write path bytes then some path else none

/-- Write the objects of a schema. -/
def writeObjects (host : Host m) (directory : String) (s : Schema) :
    List Emitted → OptionT m (List String)
  | [] => pure []
  | e :: rest => do
    match s.bytes? e with
    | none => writeObjects host directory s rest
    | some bytes =>
      let path ← writeInto host (joinPath directory (kindDirectory e.kind))
        (e.artifact ++ ".sql") bytes
      return path :: (← writeObjects host directory s rest)

/-- Write a schema. The paths of the files are returned in the order of writing, or nothing if a
file cannot be written. -/
def writeSchema (host : Host m) (directory : String) (s : Schema) : OptionT m (List String) := do
  let paths ← writeObjects host directory s s.order
  let script ← writeInto host directory scriptFile s.script.toUTF8
  return paths ++ [script]

end Schemata.Files
