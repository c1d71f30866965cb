import ServoLink.Snapshot.Datum

namespace ServoLink.Json

/-! ## Strings -/

/-- How a character stands inside quotes: quotes, backslashes and control characters
are escaped. -/
def escapeChar (c : Char) : List Char :=
  if c = '"' then ['\\', '"']
  else if c = '\\' then ['\\', '\\']
  else if c = '\x08' then ['\\', 'b']
  else if c = '\t' then ['\\', 't']
  else if c = '\n' then ['\\', 'n']
  else if c = '\x0c' then ['\\', 'f']
  else if c = '\r' then ['\\', 'r']
  else if c.toNat < 32 then ['\\', 'u'] ++ fixedHex hexDigit 4 c.toNat
  else [c]

def quoted (text : String) : List Char :=
  '"' :: text.toList.flatMap escapeChar ++ ['"']

/-! ## Values -/

/-- A new line with two spaces for each level of nesting. -/
def newline (level : Nat) : List Char :=
  '\n' :: List.replicate (2 * level) ' '

mutual

/-- The text of a value at a level of nesting, one item or entry on a line. -/
def print (level : Nat) : Datum → List Char
  | .null => "null".toList
  | .bool value => (if value then "true" else "false").toList
  | .number value => (toString value).toList
  | .text value => quoted value
  | .list [] => "[]".toList
  | .list (item :: items) =>
      '[' :: newline (level + 1) ++ print (level + 1) item ++
        printItems (level + 1) items ++ newline level ++ [']']
  | .map [] => ['\x7b', '\x7d']
  | .map ((name, value) :: entries) =>
      '\x7b' :: newline (level + 1) ++ quoted name ++ [':', ' '] ++
        print (level + 1) value ++ printEntries (level + 1) entries ++ newline level ++ ['\x7d']
  | .variant name payload =>
      '\x7b' :: newline (level + 1) ++ quoted name ++ [':', ' '] ++
        print (level + 1) payload ++ newline level ++ ['\x7d']

/-- Further items of a list. -/
def printItems (level : Nat) : List Datum → List Char
  | [] => []
  | item :: items => ',' :: newline level ++ print level item ++ printItems level items

/-- Further entries of a map. -/
def printEntries (level : Nat) : List (String × Datum) → List Char
  | [] => []
  | (name, value) :: entries =>
      ',' :: newline level ++ quoted name ++ [':', ' '] ++ print level value ++
        printEntries level entries

end

/-- The text of a value, without a final line break. -/
def render (value : Datum) : String :=
  String.ofList (print 0 value)

end ServoLink.Json
