import Schemata.Document.Toml.Lexeme
import Schemata.Document.Toml.Moment

/-!
# Bare values of TOML

Values that are written without quotes or brackets: truth values, numbers, dates and times. Such a
value is a run of characters, up to a blank, a line end or a sign of the document's structure; a
date may be followed by a blank and a time.

## Main definitions

* `takeRun`: the run at the beginning of a text.
* `bareValue?`: its value.
-/

namespace Schemata.Document.Toml

open Text

/-- The characters that end a bare value. -/
def runEnds : List Char :=
  ['=', ',', '[', ']', '\x7b', '\x7d', ' ', '\t', '#', '\r', '\n', '"', apostrophe]

/-- A character of a bare value. -/
def isRunChar (c : Char) : Bool := !runEnds.contains c

/-- The run at the beginning of a text: a date takes in the time after a blank. -/
def takeRun (cs : List Char) : List Char × List Char :=
  let (run, rest) := cs.span isRunChar
  match rest with
  | ' ' :: c :: rest' =>
    if (Date.read? run).isSome && isAsciiDigit c then
      let (time, rest'') := (c :: rest').span isRunChar
      (run ++ ' ' :: time, rest'')
    else (run, rest)
  | _ => (run, rest)

/-- The value of a run. -/
def runValue? (run : List Char) : Option Value :=
  if run == ['t', 'r', 'u', 'e'] then some (.bool true)
  else if run == ['f', 'a', 'l', 's', 'e'] then some (.bool false)
  else (Moment.read? run).map Moment.toValue <|> number? run

/-- The bare value at the beginning of a text. -/
def bareValue? (cs : List Char) : Option (Value × List Char) :=
  let (run, rest) := takeRun cs
  (runValue? run).map fun v => (v, rest)

end Schemata.Document.Toml
