namespace ServoLink

/-! ## Paths -/

/-- The parts of a path between its slashes. -/
def pathParts (path : String) : List String :=
  (path.toList.splitOn '/').map String.ofList

/-! ## Files -/

/-- A place with files, whose contents can be read and replaced by path. -/
class Files (m : Type → Type) where
  /-- The bytes of the file at a path, if there is one that can be read. -/
  read? : (path : String) → m (Option ByteArray)
  /-- Replaces or adds a file, and says whether that succeeded. -/
  write : (path : String) → (bytes : ByteArray) → m Bool

namespace Files

variable {m : Type → Type} [Monad m] [Files m]

/-- The text of the file at a path, if it is one. -/
def readText? (path : String) : m (Option String) := do
  return (← read? path).bind String.fromUTF8?

def writeText (path : String) (text : String) : m Bool :=
  write path text.toUTF8

end Files

end ServoLink
