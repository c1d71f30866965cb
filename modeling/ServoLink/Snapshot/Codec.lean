import ServoLink.Snapshot.Datum
import ServoLink.Snapshot.Document
import ServoLink.Snapshot.Files

namespace ServoLink

/-! ## Document formats -/

/-- A document format: how data are printed, and how a text is parsed into values that
records can be read from.  The names in data are texts, so all data can be printed. -/
structure Codec where
  Value : Type
  document : Document Value
  print : Datum → String
  /-- The value that a whole text stands for, if it is well formed. -/
  parse? : String → Option Value

attribute [instance] Codec.document

/-! ## Formats of files -/

inductive FileFormat where
  | json
  | yaml
  deriving DecidableEq, Repr

/-- The last part of a path that names something. -/
def fileName? (path : String) : Option String :=
  ((pathParts path).filter fun part => part != "" && part != ".").getLast?.filter (· != "..")

/-- What follows the last dot of a file's name, unless the name begins with it. -/
def extension? (path : String) : Option String := do
  let name ← fileName? path
  let reversed := name.toList.reverse
  let stem := (reversed.dropWhile (· != '.')).drop 1
  if stem.isEmpty then
    none
  else
    some (String.ofList (reversed.takeWhile (· != '.')).reverse)

/-- Files are YAML if their extension says so, and JSON otherwise. -/
def FileFormat.ofPath (path : String) : FileFormat :=
  if extension? path = some "yaml" ∨ extension? path = some "yml" then .yaml else .json

/-- Printers and parsers for the formats of files. -/
class Codecs where
  codec : FileFormat → Codec

/-- The printer and the parser of a format. -/
def FileFormat.codec [Codecs] (format : FileFormat) : Codec :=
  Codecs.codec format

end ServoLink
