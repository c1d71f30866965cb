import ServoLink.Proofs.Json.Values
import ServoLink.Proofs.Snapshot.Folder
import ServoLink.Proofs.Snapshot.Records
import ServoLink.Proofs.Yaml.Values
import ServoLink.Snapshot.File
import ServoLink.Snapshot.Formats

/-!
# Settings that are saved and loaded again

Wherever the printer and the parser of a format agree, saving settings and loading them at the same
path gives the settings that were saved, in the format that the path asks for.
-/

namespace ServoLink

/-! ## Printers and parsers that agree -/

/-- How deep data may lie inside each other for a format to have to hold them. -/
def Datum.nestingLimit : Nat := 64

/-- A format is faithful if the text of every record is parsed as what represents the record. -/
def Codec.Faithful (codec : Codec) : Prop :=
  ∀ (entry : String × Datum) (entries : List (String × Datum)),
    (Datum.map (entry :: entries)).Recorded Datum.nestingLimit →
      ∃ value, codec.parse? (codec.print (.map (entry :: entries))) = some value ∧
        Represents value (.map (entry :: entries))

theorem Json.codec_faithful : Json.codec.Faithful := by
  intro entry entries recorded
  exact ⟨Json.ofDatum (.map (entry :: entries)), Json.parse?_render _,
    Json.represents_ofDatum recorded⟩

theorem Yaml.codec_print : Yaml.codec.print = Yaml.render :=
  rfl

theorem Yaml.codec_parse? : Yaml.codec.parse? = Yaml.Linked.parse? :=
  rfl

theorem Yaml.codec_faithful : Yaml.codec.Faithful := by
  intro entry entries recorded
  obtain ⟨value, parsed, represents⟩ := Yaml.represents_parse?_render recorded
  -- Comparing the codec with its parts before they are named would unfold the whole parser.
  rw [Yaml.codec_print, Yaml.codec_parse?]
  exact ⟨value, parsed, represents⟩

theorem FileFormat.codec_faithful (format : FileFormat) : format.codec.Faithful := by
  cases format with
  | json => exact Json.codec_faithful
  | yaml => exact Yaml.codec_faithful

/-! ## The choice of a format -/

theorem FileFormat.ofPath_eq_yaml_iff (path : String) :
    FileFormat.ofPath path = .yaml ↔
      extension? path = some "yaml" ∨ extension? path = some "yml" := by
  unfold FileFormat.ofPath
  split
  next yaml => exact iff_of_true rfl yaml
  next other => exact iff_of_false nofun other

section Formats

variable {m : Type → Type} [Monad m] [Files m] [Codecs]

/-- Saves settings in a given format. -/
def Settings.saveAs (format : FileFormat) (path : String) (settings : Settings) :
    ExceptT FileError m Unit := do
  if !(← (Files.writeText path (settings.toText format) : m Bool)) then
    throw (.writingSettings path)

/-- Loads settings in a given format. -/
def Settings.loadAs (format : FileFormat) (path : String) : ExceptT FileError m Settings := do
  match ← (Files.readText? path : m (Option String)) with
  | none => throw (.readingSettings path)
  | some text =>
      match Settings.ofText? format text with
      | none => throw (.decodingSettings path)
      | some settings => return settings

end Formats

/-! ## Texts -/

section Texts

variable [Codecs] {format : FileFormat}

/-- The text of settings stands for them in a faithful format. -/
theorem Settings.ofText?_toText (faithful : format.codec.Faithful) (settings : Settings) :
    Settings.ofText? format (settings.toText format) = some settings := by
  obtain ⟨value, parsed, represents⟩ := faithful _ _ (settings.datum_recorded 60)
  unfold Settings.ofText? Settings.toText
  rw [Settings.datum, parsed]
  exact Settings.ofDocument?_eq_some represents

end Texts

/-! ## Files -/

section RoundTrip

variable {m : Type → Type} [Monad m] [LawfulMonad m] [Files m] [Codecs]
variable {format : FileFormat} {path : String}

/-- What loading makes of a file's bytes. -/
def Settings.ofBytes (format : FileFormat) (path : String) (bytes : Option ByteArray) :
    Except FileError Settings :=
  match bytes.bind String.fromUTF8? with
  | none => .error (.readingSettings path)
  | some text =>
      match Settings.ofText? format text with
      | none => .error (.decodingSettings path)
      | some settings => .ok settings

theorem Settings.ofBytes_toUTF8 (faithful : format.codec.Faithful) (path : String)
    (settings : Settings) :
    Settings.ofBytes format path (some (settings.toText format).toUTF8) = .ok settings := by
  unfold Settings.ofBytes
  rw [Option.bind_some, fromUTF8?_toUTF8]
  simp only
  rw [settings.ofText?_toText faithful]

theorem Settings.run_saveAs (format : FileFormat) (path : String) (settings : Settings) :
    (Settings.saveAs format path settings : ExceptT FileError m Unit).run =
      (fun written => if written then .ok () else .error (.writingSettings path)) <$>
        Files.write path (settings.toText format).toUTF8 := by
  unfold Settings.saveAs Files.writeText
  change (ExceptT.lift _ >>= _).run = _
  rw [ExceptT.run_bind_lift, ← bind_pure_comp]
  refine bind_congr fun written => ?_
  cases written <;> rfl

theorem Settings.run_loadAs (format : FileFormat) (path : String) :
    (Settings.loadAs format path : ExceptT FileError m Settings).run =
      Settings.ofBytes format path <$> Files.read? path := by
  unfold Settings.loadAs Files.readText?
  change (ExceptT.lift _ >>= _).run = _
  rw [ExceptT.run_bind_lift]
  change (Files.read? path >>= fun bytes => pure (bytes.bind String.fromUTF8?)) >>= _ = _
  rw [bind_assoc, ← bind_pure_comp]
  refine bind_congr fun bytes => ?_
  rw [pure_bind]
  unfold Settings.ofBytes
  cases bytes.bind String.fromUTF8? with
  | none => rfl
  | some text =>
      simp only
      cases Settings.ofText? format text <;> rfl

/-- What was saved in a format is loaded in that format. -/
theorem Settings.load_save (faithful : format.codec.Faithful) (keeps : Files.Keeps m path)
    (settings : Settings) :
    (do
      Settings.saveAs format path settings
      Settings.loadAs format path : ExceptT FileError m Settings).run =
      (do
        if ← Files.write path (settings.toText format).toUTF8 then
          return .ok settings
        else
          return .error (.writingSettings path)) := by
  let written := (settings.toText format).toUTF8
  calc
    _ = (do
          if ← Files.write path written then
            return Settings.ofBytes format path (← Files.read? path)
          else
            return .error (.writingSettings path)) := by
      rw [ExceptT.run_bind, Settings.run_saveAs, map_eq_pure_bind, bind_assoc]
      refine bind_congr fun success => ?_
      cases success with
      | false => simp
      | true => simpa using Settings.run_loadAs format path
    _ = (do
          if ← Files.write path written then
            return Settings.ofBytes format path (some written)
          else
            return .error (.writingSettings path)) :=
      keeps.bind_read? written (fun bytes => pure (Settings.ofBytes format path bytes)) _
    _ = _ := by
      rw [Settings.ofBytes_toUTF8 faithful]

/-- Settings that are saved can be loaded again at the same path as they were, wherever the
printer and the parser of the path's format agree and the path keeps what is written: saving and
loading give the settings whenever their text could be written, and the extension of the path
chooses the format of both. -/
theorem Settings.load_after_save (faithful : (FileFormat.ofPath path).codec.Faithful)
    (keeps : Files.Keeps m path) (settings : Settings) :
    (do
      Settings.save path settings
      Settings.load path : ExceptT FileError m Settings).run =
        (do
          if ← Files.write path (settings.toText (.ofPath path)).toUTF8 then
            return .ok settings
          else
            return .error (.writingSettings path)) ∧
      ∃ format : FileFormat,
        (format = .yaml ↔ extension? path = some "yaml" ∨ extension? path = some "yml") ∧
        (∀ other, (Settings.save path other : ExceptT FileError m Unit) =
          Settings.saveAs format path other) ∧
        (Settings.load path : ExceptT FileError m Settings) = Settings.loadAs format path := by
  refine ⟨Settings.load_save faithful keeps settings, .ofPath path,
    FileFormat.ofPath_eq_yaml_iff path, ?_, ?_⟩
  · exact fun _ => rfl
  · rfl

end RoundTrip

/-- Settings with names of all kinds and a program, saved in a folder and loaded from there. -/
theorem Settings.load_after_save_in_folder :
    let path := "backup/../settings.yaml"
    let folder : Folder := .ofFiles [("backup/notes.txt", .empty)]
    let settings : Settings :=
      { channels :=
          [{ name := "null", mode := .servo, homeMode := .goto, home := 6000 },
            { name := " # neck: \"tilt\"\n", mode := .output }]
        scriptInconsistent := true
        program := some
          { byteCode := [0x80, 0xFF]
            subroutineAddresses := .ofList [("NOD", 1), ("", 0)]
            subroutineCommands := .ofList [("NOD", .opcode 0x80), ("", .callOnly)] } }
    (FileFormat.ofPath path).codec.Faithful ∧ Files.Keeps (StateM Folder) path ∧
      ((do
        Settings.save path settings
        Settings.load path : ExceptT FileError (StateM Folder) Settings).run folder).1 =
          .ok settings := by
  intro path folder settings
  have faithful : (FileFormat.ofPath path).codec.Faithful := FileFormat.codec_faithful _
  have keeps : Files.Keeps (StateM Folder) path := Folder.keeps (by decide)
  have writable (bytes : ByteArray) : (folder.write? path bytes).isSome = true := by
    unfold path folder
    rfl
  refine ⟨faithful, keeps, ?_⟩
  rw [congrFun (Settings.load_after_save faithful keeps settings).1 folder]
  simp only [bind, StateT.bind, Folder.write_apply, writable]
  rfl

end ServoLink
