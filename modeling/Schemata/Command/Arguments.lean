import Schemata.Text.Class

/-!
# Arguments of the command line

A command has a file and options. An option has a long name and a letter; its value follows in the
next argument, or after an equals sign, or right after the letter. Letters of switches may stand
together. After two hyphens everything is a file.

## Main definitions

* `Task`: what the program is asked to do.
* `Request.parse?`: the request that arguments make, if they are in order.
-/

namespace Schemata.Command

/-- How a schema is printed. -/
inductive Format where
  | sql
  | json
  deriving DecidableEq, Repr

/-- The format of a name. -/
def Format.ofName? : String → Option Format
  | "sql" => some .sql
  | "json" => some .json
  | _ => none

/-- What the program is asked to do. -/
inductive Task where
  | compile (file : String) (config out : Option String) (format : Format)
  | validate (file : String) (config : Option String)
  | list (file : String)
  deriving DecidableEq, Repr

/-- What the arguments ask for. -/
inductive Request where
  | version
  | run (task : Task)
  deriving DecidableEq, Repr

/-- The commands by name. -/
inductive Verb where
  | compile
  | validate
  | list
  deriving DecidableEq, Repr

/-- The verb of a name. -/
def Verb.ofName? : String → Option Verb
  | "compile" => some .compile
  | "validate" => some .validate
  | "list" => some .list
  | _ => none

/-- The options of commands. -/
inductive Flag where
  | verbose
  | config
  | out
  | format
  deriving DecidableEq, Repr

namespace Flag

/-- The options that a command takes. -/
def forVerb : Verb → List Flag
  | .compile => [verbose, config, out, format]
  | .validate => [verbose, config]
  | .list => [verbose]

/-- The long name of an option. -/
def longName : Flag → String
  | verbose => "verbose"
  | config => "config"
  | out => "out"
  | format => "format"

/-- The letter of an option. -/
def letter : Flag → Char
  | verbose => 'v'
  | config => 'c'
  | out => 'o'
  | format => 'f'

/-- Whether an option has a value. -/
def hasValue : Flag → Bool
  | verbose => false
  | _ => true

end Flag

/-- What has been read of a command's arguments. -/
structure Reading where
  /-- Options with their values, in the order in which they were given. -/
  options : List (Flag × String) := []
  files : List String := []
  deriving DecidableEq, Repr

/-- Whether a value suits an option. A path must not be empty. -/
def suits : Flag → String → Bool
  | .format, value => (Format.ofName? value).isSome
  | .verbose, _ => true
  | _, value => !value.isEmpty

/-- A reading with one more option, which may be given once. -/
def Reading.addOption? (r : Reading) (flag : Flag) (value : String) : Option Reading :=
  if r.options.any (·.1 == flag) || !suits flag value then none
  else some { r with options := r.options ++ [(flag, value)] }

/-- A reading with one more file, which must have a name. -/
def Reading.addFile? (r : Reading) (file : String) : Option Reading :=
  if file.isEmpty then none else some { r with files := r.files ++ [file] }

/-- Whether an argument reads as an option. A single hyphen does not. -/
def looksLikeOption (argument : String) : Bool :=
  argument != "-" && argument.toList.head? == some '-'

/-- The two sides of the first equals sign. -/
def cutAtEquals (cs : List Char) : List Char × Option (List Char) :=
  match cs.span (· != '=') with
  | (before, _ :: after) => (before, some after)
  | (before, []) => (before, none)

/-- What an argument made of options asks for. -/
inductive Wanted where
  /-- Nothing more. -/
  | nothing
  /-- A value for an option, in the next argument. -/
  | value (flag : Flag)
  deriving DecidableEq, Repr

/-- Read an option by its long name, after its hyphens. -/
def readLong? (flags : List Flag) (r : Reading) (cs : List Char) : Option (Reading × Wanted) :=
  let (name, value) := cutAtEquals cs
  match flags.find? (·.longName.toList == name) with
  | none => none
  | some flag =>
    match flag.hasValue, value with
    | false, none => (r.addOption? flag "").map fun r => (r, .nothing)
    | false, some _ => none
    | true, none => some (r, .value flag)
    | true, some value => (r.addOption? flag (String.ofList value)).map fun r => (r, .nothing)

/-- The value that stands right after a letter, perhaps behind an equals sign. -/
def attachedValue : List Char → String
  | '=' :: rest => String.ofList rest
  | cs => String.ofList cs

/-- Read options by their letters, after the hyphen. -/
def readLetters? (flags : List Flag) (r : Reading) : List Char → Option (Reading × Wanted)
  | [] => some (r, .nothing)
  | c :: rest =>
    match flags.find? (·.letter == c) with
    | none => none
    | some flag =>
      if flag.hasValue then
        if rest.isEmpty then some (r, .value flag)
        else (r.addOption? flag (attachedValue rest)).map fun r => (r, .nothing)
      else (r.addOption? flag "").bind fun r => readLetters? flags r rest

/-- Read an argument made of options. -/
def readOption? (flags : List Flag) (r : Reading) (argument : String) :
    Option (Reading × Wanted) :=
  match argument.toList with
  | '-' :: '-' :: rest => readLong? flags r rest
  | '-' :: rest => readLetters? flags r rest
  | _ => none

/-- Read the arguments of a command. -/
def readArguments? (flags : List Flag) (r : Reading) : List String → Option Reading
  | [] => some r
  | argument :: rest =>
    if argument == "--" then rest.foldlM Reading.addFile? r
    else if looksLikeOption argument then
      match readOption? flags r argument with
      | none => none
      | some (r, .nothing) => readArguments? flags r rest
      | some (r, .value flag) =>
        match rest with
        | [] => none
        | value :: rest =>
          if looksLikeOption value then none
          else (r.addOption? flag value).bind fun r => readArguments? flags r rest
    else (r.addFile? argument).bind fun r => readArguments? flags r rest

/-- The value of an option. -/
def Reading.get? (r : Reading) (flag : Flag) : Option String := r.options.lookup flag

/-- The task that a reading amounts to. There is exactly one file. -/
def Reading.task? (r : Reading) (verb : Verb) : Option Task :=
  match r.files with
  | [file] =>
    match verb with
    | .compile =>
      some (.compile file (r.get? .config) (r.get? .out)
        (((r.get? .format).bind Format.ofName?).getD .sql))
    | .validate => some (.validate file (r.get? .config))
    | .list => some (.list file)
  | _ => none

/-- The task of a verb and its arguments. -/
def task? (name : String) (arguments : List String) : Option Task := do
  let verb ← Verb.ofName? name
  let r ← readArguments? (Flag.forVerb verb) {} arguments
  r.task? verb

/-- What an argument before the command asks for: the version, or the command to be verbose. -/
inductive Preamble where
  | version
  | verbose
  deriving DecidableEq, Repr

/-- Read letters before the command, after the hyphen. -/
def readPreamble? (verbose : Bool) : List Char → Option Preamble
  | [] => some .verbose
  | 'V' :: _ => some .version
  | 'v' :: rest => if verbose then none else readPreamble? true rest
  | _ => none

/-- Read arguments before the command. -/
def parseFrom? (verbose : Bool) : List String → Option Request
  | [] => none
  | argument :: rest =>
    if argument == "--version" then some .version
    else if argument == "--verbose" then if verbose then none else parseFrom? true rest
    else
      match argument.toList with
      | '-' :: '-' :: _ => none
      | '-' :: c :: letters =>
        match readPreamble? verbose (c :: letters) with
        | some .version => some .version
        | some .verbose => parseFrom? true rest
        | none => none
      | _ => (task? argument rest).map .run

/-- The request that arguments make, if they are in order. -/
def Request.parse? (arguments : List String) : Option Request := parseFrom? false arguments

end Schemata.Command
