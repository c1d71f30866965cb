import ServoLink.Snapshot.Codec

namespace ServoLink

/-! ## Loading and saving -/

/-- What failed about a file. -/
inductive FileError where
  | readingSettings (path : String)
  | decodingSettings (path : String)
  | writingSettings (path : String)
  | readingSessionConfig (path : String)
  | parsingSessionConfig (format : FileFormat) (path : String)
  | readingProgram (path : String)
  | decodingProgram (path : String)
  deriving DecidableEq, Repr

def FileError.message : FileError → String
  | readingSettings path => "reading settings: " ++ path
  | decodingSettings path => "decoding settings: " ++ path
  | writingSettings path => "writing settings: " ++ path
  | readingSessionConfig path => "reading session config: " ++ path
  | parsingSessionConfig .json path => "parsing json: " ++ path
  | parsingSessionConfig .yaml path => "parsing yaml: " ++ path
  | readingProgram path => "reading program: " ++ path
  | decodingProgram path => "decoding program: " ++ path

section Texts

variable [Codecs]

def Settings.ofText? (format : FileFormat) (text : String) : Option Settings :=
  (format.codec.parse? text).bind Settings.ofDocument?

def Settings.toText (format : FileFormat) (settings : Settings) : String :=
  format.codec.print settings.datum

def SessionConfig.ofText? (format : FileFormat) (text : String) : Option SessionConfig :=
  (format.codec.parse? text).bind SessionConfig.ofDocument?

/-- Programs are JSON whatever the file is called. -/
def Program.ofText? (text : String) : Option Program :=
  (FileFormat.json.codec.parse? text).bind Program.ofDocument?

end Texts

variable {m : Type → Type} [Monad m] [Files m] [Codecs]

def Settings.load (path : String) : ExceptT FileError m Settings := do
  match ← (Files.readText? path : m (Option String)) with
  | none => throw (.readingSettings path)
  | some text =>
      match Settings.ofText? (.ofPath path) text with
      | none => throw (.decodingSettings path)
      | some settings => return settings

/-- Saves settings in the format of the path. -/
def Settings.save (path : String) (settings : Settings) : ExceptT FileError m Unit := do
  if !(← (Files.writeText path (settings.toText (.ofPath path)) : m Bool)) then
    throw (.writingSettings path)

def SessionConfig.load (path : String) : ExceptT FileError m SessionConfig := do
  match ← (Files.readText? path : m (Option String)) with
  | none => throw (.readingSessionConfig path)
  | some text =>
      match SessionConfig.ofText? (.ofPath path) text with
      | none => throw (.parsingSessionConfig (.ofPath path) path)
      | some config => return config

def Program.load (path : String) : ExceptT FileError m Program := do
  match ← (Files.readText? path : m (Option String)) with
  | none => throw (.readingProgram path)
  | some text =>
      match Program.ofText? text with
      | none => throw (.decodingProgram path)
      | some program => return program

end ServoLink
