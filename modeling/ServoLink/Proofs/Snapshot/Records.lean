import ServoLink.Proofs.Snapshot.Representation

/-!
# Records read back

What represents the datum of a record is read as this record: every field is written under the
name that it is read under, in a form that its reader takes, and none is left to its default.
-/

namespace ServoLink

open Document

variable {δ : Type} [Document δ] {value : δ}

/-! ## Names of variants -/

theorem SerialMode.ofName?_name (mode : SerialMode) : ofName? mode.name = some mode := by
  cases mode <;> decide

theorem ChannelMode.ofName?_name (mode : ChannelMode) : ofName? mode.name = some mode := by
  cases mode <;> decide

theorem HomeMode.ofName?_name (mode : HomeMode) : ofName? mode.name = some mode := by
  cases mode <;> decide

/-! ## Fields and optional values -/

namespace Document

/-- A field that a record mentions is read from what is written, not from its default. -/
theorem Fields.bind_field {α β : Type} {fields : List (String × δ)}
    {entries : List (String × Datum)} (found : Fields fields entries) {name : String}
    {datum : Datum} {fallback result : α} {reading : δ → Reading α} {rest : α → Reading β}
    (written : entries.lookup name = some datum)
    (reads : ∀ value, Represents value datum → reading value = pure result) :
    (field fields name fallback reading >>= rest) = rest result := by
  obtain ⟨value, present, represents⟩ := found.lookup written
  unfold field
  rw [present]
  exact (congrArg (· >>= rest) (reads value represents)).trans (pure_bind result rest)

theorem optional_eq_pure_none {α : Type} {reading : δ → Reading α}
    (represents : Represents value .null) : optional reading value = pure none := by
  cases represents with
  | null direct missing =>
      unfold optional
      rw [take_eq_pure direct missing, pure_bind]

/-- A record is no mark for a missing value. -/
theorem optional_eq_pure_some {α : Type} {reading : δ → Reading α} {result : α}
    {entries : List (String × Datum)} (represents : Represents value (.map entries))
    (reads : reading value = pure result) : optional reading value = pure (some result) := by
  cases represents with
  | map direct present record taken keys each =>
      unfold optional
      rw [take_eq_pure direct present, pure_bind]
      change some <$> reading value = _
      rw [reads, map_pure]

end Document

/-! ## Programs -/

theorem SubroutineCommand.reading_eq_pure {command : SubroutineCommand}
    (represents : Represents value command.datum) :
    SubroutineCommand.reading value = pure command := by
  unfold SubroutineCommand.reading
  cases command with
  | opcode code =>
      cases represents with
      | variant direct taken content =>
          rw [take_eq_pure direct taken, pure_bind]
          change opcode <$> uint8 _ = _
          rw [uint8_eq_pure content, map_pure]
  | callOnly =>
      cases represents with
      | text direct taken named =>
          rw [take_eq_pure direct named, pure_bind]
          rfl

theorem Program.reading_eq_pure {program : Program} (represents : Represents value program.datum) :
    Program.reading value = pure program := by
  obtain ⟨fields, found, equal⟩ := record_eq_pure fieldNames represents rfl (by decide)
  unfold Program.reading
  rw [equal, pure_bind]
  refine (found.bind_field rfl fun _ => list_eq_pure fun _ _ => uint8_eq_pure).trans ?_
  refine (found.bind_field rfl fun _ => nameMap_eq_pure fun _ _ => uint16_eq_pure).trans ?_
  refine (found.bind_field rfl fun _ =>
    nameMap_eq_pure fun _ _ => SubroutineCommand.reading_eq_pure).trans ?_
  exact found.bind_field rfl fun _ => uint16_eq_pure

/-! ## Channels and settings -/

theorem ChannelSetting.reading_eq_pure {setting : ChannelSetting}
    (represents : Represents value setting.datum) :
    ChannelSetting.reading value = pure setting := by
  obtain ⟨fields, found, equal⟩ := record_eq_pure fieldNames represents rfl (by decide)
  unfold ChannelSetting.reading
  rw [equal, pure_bind]
  refine (found.bind_field rfl fun _ => text_eq_pure).trans ?_
  refine (found.bind_field rfl fun _ represents =>
    unitVariant_eq_pure represents (ChannelMode.ofName?_name _)).trans ?_
  refine (found.bind_field rfl fun _ represents =>
    unitVariant_eq_pure represents (HomeMode.ofName?_name _)).trans ?_
  refine (found.bind_field rfl fun _ => uint16_eq_pure).trans ?_
  refine (found.bind_field rfl fun _ => uint16_eq_pure).trans ?_
  refine (found.bind_field rfl fun _ => uint16_eq_pure).trans ?_
  refine (found.bind_field rfl fun _ => uint16_eq_pure).trans ?_
  refine (found.bind_field rfl fun _ => uint16_eq_pure).trans ?_
  refine (found.bind_field rfl fun _ => uint16_eq_pure).trans ?_
  exact found.bind_field rfl fun _ => uint8_eq_pure

/-- A program that is missing is written as null, and any other as a record. -/
theorem optional_program_eq_pure {program : Option Program}
    (represents : Represents value ((program.map Program.datum).getD .null)) :
    optional Program.reading value = pure program := by
  cases program with
  | none => exact optional_eq_pure_none represents
  | some program => exact optional_eq_pure_some represents (Program.reading_eq_pure represents)

theorem Settings.reading_eq_pure {settings : Settings}
    (represents : Represents value settings.datum) : Settings.reading value = pure settings := by
  obtain ⟨fields, found, equal⟩ := record_eq_pure fieldNames represents rfl (by decide)
  unfold Settings.reading
  rw [equal, pure_bind]
  refine (found.bind_field rfl fun _ => uint8_eq_pure).trans ?_
  refine (found.bind_field rfl fun _ => uint8_eq_pure).trans ?_
  refine (found.bind_field rfl fun _ => uint32_eq_pure).trans ?_
  refine (found.bind_field rfl fun _ => uint16_eq_pure).trans ?_
  refine (found.bind_field rfl fun _ represents =>
    unitVariant_eq_pure represents (SerialMode.ofName?_name _)).trans ?_
  refine (found.bind_field rfl fun _ => uint32_eq_pure).trans ?_
  refine (found.bind_field rfl fun _ => boolean_eq_pure).trans ?_
  refine (found.bind_field rfl fun _ => boolean_eq_pure).trans ?_
  refine (found.bind_field rfl fun _ => uint8_eq_pure).trans ?_
  refine (found.bind_field rfl fun _ => uint8_eq_pure).trans ?_
  refine (found.bind_field rfl fun _ => uint16_eq_pure).trans ?_
  refine (found.bind_field rfl fun _ => boolean_eq_pure).trans ?_
  refine (found.bind_field rfl fun _ => boolean_eq_pure).trans ?_
  refine (found.bind_field rfl fun _ =>
    list_eq_pure fun _ _ => ChannelSetting.reading_eq_pure).trans ?_
  refine (found.bind_field rfl fun _ => boolean_eq_pure).trans ?_
  exact found.bind_field rfl fun _ => optional_program_eq_pure

/-! ## What the data of settings consist of -/

namespace Datum.Recorded

variable {nesting : Nat}

theorem uint8 (byte : UInt8) : (Datum.number byte.toNat).Recorded nesting :=
  .number (Nat.lt_trans byte.toNat_lt (by decide))

theorem uint16 (word : UInt16) : (Datum.number word.toNat).Recorded nesting :=
  .number (Nat.lt_trans word.toNat_lt (by decide))

theorem uint32 (word : UInt32) : (Datum.number word.toNat).Recorded nesting :=
  .number (Nat.lt_trans word.toNat_lt (by decide))

/-- Maps from names are recorded if their values are. -/
theorem nameMap {β : Type} {names : NameMap β} {datum : β → Datum}
    (each : ∀ value, (datum value).Recorded nesting) :
    (Datum.map (names.entries.map fun entry => (entry.1, datum entry.2))).Recorded
      (nesting + 1) := by
  apply Datum.Recorded.map
  · rw [List.map_map]
    refine List.pairwise_map.mpr (names.ordered.imp fun {first second} before same => ?_)
    have equal : first.1 = second.1 := same
    exact String.lt_irrefl second.1 (equal ▸ before)
  · intro entry member
    obtain ⟨source, _, rfl⟩ := List.mem_map.mp member
    exact each source.2

end Datum.Recorded

theorem SubroutineCommand.datum_recorded (nesting : Nat) (command : SubroutineCommand) :
    command.datum.Recorded (nesting + 1) := by
  cases command with
  | opcode code =>
      have fits : code.toNat < UInt64.size := Nat.lt_trans code.toNat_lt (by decide)
      exact .variant ⟨by decide, by decide⟩ fits
  | callOnly => exact .text "call_only"

theorem Program.datum_recorded (nesting : Nat) (program : Program) :
    program.datum.Recorded (nesting + 3) := by
  refine .map (by decide : fieldNames.Nodup) ?_
  simp only [List.forall_mem_cons]
  refine ⟨.list ?_, .nameMap .uint16, .nameMap (SubroutineCommand.datum_recorded nesting),
    .uint16 _, List.forall_mem_nil _⟩
  exact List.forall_mem_map.mpr fun byte _ => .uint8 byte

theorem ChannelSetting.datum_recorded (nesting : Nat) (setting : ChannelSetting) :
    setting.datum.Recorded (nesting + 1) := by
  refine .map (by decide : fieldNames.Nodup) ?_
  simp only [List.forall_mem_cons]
  exact ⟨.text _, .text _, .text _, .uint16 _, .uint16 _, .uint16 _, .uint16 _, .uint16 _,
    .uint16 _, .uint8 _, List.forall_mem_nil _⟩

theorem Settings.datum_recorded (nesting : Nat) (settings : Settings) :
    settings.datum.Recorded (nesting + 4) := by
  have channels : (Datum.list (settings.channels.map ChannelSetting.datum)).Recorded
      (nesting + 3) :=
    .list (List.forall_mem_map.mpr fun setting _ => setting.datum_recorded (nesting + 1))
  have program : ((settings.program.map Program.datum).getD .null).Recorded (nesting + 3) := by
    cases settings.program with
    | none => exact .null
    | some program => exact program.datum_recorded nesting
  refine .map (by decide : fieldNames.Nodup) ?_
  simp only [List.forall_mem_cons]
  exact ⟨.uint8 _, .uint8 _, .uint32 _, .uint16 _, .text _, .uint32 _, .bool _, .bool _,
    .uint8 _, .uint8 _, .uint16 _, .bool _, .bool _, channels, .bool _, program,
    List.forall_mem_nil _⟩

/-! ## Whole documents -/

/-- Settings are read back from whatever represents them, in any format. -/
theorem Settings.ofDocument?_eq_some {settings : Settings}
    (represents : Represents value settings.datum) :
    Settings.ofDocument? value = some settings := by
  unfold Settings.ofDocument? decode?
  rw [Settings.reading_eq_pure represents]
  change (if 0 ≤ allowance value then some settings else none) = some settings
  exact if_pos (Nat.zero_le (allowance value))

end ServoLink
