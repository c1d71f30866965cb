import ServoLink.NameMap
import ServoLink.Snapshot.Files

namespace ServoLink

/-! ## Places -/

/-- A place seen from a folder: the names on the way there, after one `..` for each step
out of the folder. -/
abbrev Place := List String

namespace Place

/-- Whether a place is the folder itself or one around it. -/
def isOutward (place : Place) : Bool :=
  place.all (· == "..")

/-- The place where a part of a path leads from another place.  A step back is possible
only where there is a folder. -/
def step? (isFolder : Place → Bool) (place : Place) (part : String) : Option Place :=
  if part = "" ∨ part = "." then some place
  else if part ≠ ".." ∨ place.isOutward then some (place ++ [part])
  else if isFolder place then some place.dropLast
  else none

/-- The place of the file that a path names.  Names take up to 255 bytes and paths fewer
than 4096; a path that begins at the root names no file here. -/
def ofPath? (isFolder : Place → Bool) (path : String) : Option Place :=
  let parts := pathParts path
  let namesFile := parts.getLast?.any fun part => part != "" && part != "." && part != ".."
  let fits := path.utf8ByteSize < 4096 && parts.all (·.utf8ByteSize ≤ 255)
  if path.toList.head? == some '/' || path.toList.contains '\x00' || !namesFile || !fits then
    none
  else
    parts.foldlM (step? isFolder) []

/-- The path of a place without detours. -/
def path (place : Place) : String :=
  "/".intercalate place

end Place

/-! ## Files in a folder -/

/-- A folder with the contents of its files by path.  A folder in it exists as long as a
file lies in it. -/
structure Folder where
  files : NameMap ByteArray := .empty

namespace Folder

/-- Whether there is a folder at a place. -/
def hasFolder (folder : Folder) (place : Place) : Bool :=
  place.isOutward || folder.files.entries.any fun entry =>
    (place.path ++ "/").toList.isPrefixOf entry.1.toList

/-- The path of the device that holds nothing and takes anything. -/
def nullDevice : String := "/dev/null"

/-- The bytes of the file at a path. -/
def read? (folder : Folder) (path : String) : Option ByteArray :=
  if path = nullDevice then
    some .empty
  else
    (Place.ofPath? folder.hasFolder path).bind fun place => folder.files.get? place.path

/-- The folder with a file replaced or added.  The folder that the file goes into has to
exist, and the file must not be a folder itself. -/
def write? (folder : Folder) (path : String) (bytes : ByteArray) : Option Folder :=
  if path = nullDevice then
    some folder
  else do
    let place ← Place.ofPath? folder.hasFolder path
    if folder.hasFolder place.dropLast && !folder.hasFolder place then
      return { files := folder.files.insert place.path bytes }
    else
      none

/-- The folder with the given files, and with the folders that their paths pass. -/
def ofFiles (files : List (String × ByteArray)) : Folder where
  files := .ofList <| files.filterMap fun file =>
    (Place.ofPath? (fun _ => true) file.1).map (·.path, file.2)

end Folder

instance : Files (StateM Folder) where
  read? path := return (← get).read? path
  write path bytes := do
    match (← get).write? path bytes with
    | some folder =>
        set folder
        return true
    | none => return false

end ServoLink
