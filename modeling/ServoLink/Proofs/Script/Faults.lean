import Mathlib.Data.List.Sort
import ServoLink.Proofs.Script.Table

/-!
# The first fault of a program

Subroutines are taken in the order of their names, so the fault that is reported is that of
the misplaced subroutine whose name comes first.  Images and checksums report the same fault;
a script that is too long is reported before it, and by an image only.
-/

namespace ServoLink

/-! ## The first failing step -/

section Steps

variable {ε α β : Type} {step : α → Except ε β} {cause : ε}

theorem mapM_cons_eq_error_iff {first : α} {rest : List α} :
    (first :: rest).mapM step = .error cause ↔
      step first = .error cause ∨
        (∃ value, step first = .ok value) ∧ rest.mapM step = .error cause := by
  rw [List.mapM_cons]
  cases step first with
  | error found =>
      simp [bind, Except.bind]
  | ok value =>
      cases rest.mapM step <;> simp [bind, Except.bind, pure, Except.pure]

theorem mapM_eq_error_iff {items : List α} :
    items.mapM step = .error cause ↔
      ∃ before item after, items = before ++ item :: after ∧
        (∀ other ∈ before, ∃ value, step other = .ok value) ∧ step item = .error cause := by
  induction items with
  | nil =>
      simp [pure, Except.pure]
  | cons first rest inductionHypothesis =>
      rw [mapM_cons_eq_error_iff, inductionHypothesis]
      constructor
      · rintro (failed | ⟨passed, before, item, after, rfl, others, failed⟩)
        · exact ⟨[], first, rest, rfl, by simp, failed⟩
        · exact ⟨first :: before, item, after, rfl,
            List.forall_mem_cons.mpr ⟨passed, others⟩, failed⟩
      · rintro ⟨before, item, after, split, passed, failed⟩
        cases before with
        | nil =>
            cases split
            exact Or.inl failed
        | cons other before =>
            cases split
            obtain ⟨head, others⟩ := List.forall_mem_cons.mp passed
            exact Or.inr ⟨head, before, item, after, rfl, others, failed⟩

/-- In a list that is in order, the step that fails is the one before which none fails. -/
theorem mapM_eq_error_iff_of_pairwise {items : List α} {precedes : α → α → Prop}
    (asymmetric : ∀ first second, precedes first second → ¬ precedes second first)
    (ordered : items.Pairwise precedes) :
    items.mapM step = .error cause ↔
      ∃ item ∈ items, step item = .error cause ∧
        ∀ other ∈ items, precedes other item → ∃ value, step other = .ok value := by
  rw [mapM_eq_error_iff]
  constructor
  · rintro ⟨before, item, after, rfl, passed, failed⟩
    refine ⟨item, by simp, failed, fun other member earlier => ?_⟩
    have following := (List.pairwise_cons.mp (List.pairwise_append.mp ordered).2.1).1
    rcases List.mem_append.mp member with front | back
    · exact passed other front
    · rcases List.mem_cons.mp back with rfl | later
      · exact absurd earlier (asymmetric _ _ earlier)
      · exact absurd earlier (asymmetric _ _ (following other later))
  · rintro ⟨item, member, failed, passed⟩
    obtain ⟨before, after, rfl⟩ := List.append_of_mem member
    refine ⟨before, item, after, rfl, fun other front => ?_, failed⟩
    have earlier := (List.pairwise_append.mp ordered).2.2 other front item List.mem_cons_self
    exact passed other (List.mem_append_left _ front) earlier

end Steps

namespace Program

variable {program other : Program} {name : String} {cause : ValidationError}

/-! ## Faults -/

/-- What is wrong with a misplaced subroutine. -/
inductive Fault (commands : NameMap SubroutineCommand) (name : String) :
    ValidationError → Prop where
  | unknown (missing : commands.get? name = none) : Fault commands name (.unknownSubroutine name)
  | opcode (code : UInt8) (command : commands.get? name = some (.opcode code))
      (low : code < firstTableOpcode) : Fault commands name (.subroutineOpcode name code)

/-- The fault of the misplaced subroutine whose name comes first in byte order. -/
def FirstFault (program : Program) (cause : ValidationError) : Prop :=
  ∃ name address, (name, address) ∈ program.subroutineAddresses.entries ∧
    Fault program.subroutineCommands name cause ∧
    ∀ other ∈ program.subroutineAddresses.entries, program.Misplaced other.1 →
      utf8Bytes name ≤ utf8Bytes other.1

theorem tableEntry_eq_error_iff {address : UInt16} :
    program.tableEntry name address = .error cause ↔ Fault program.subroutineCommands name cause := by
  unfold tableEntry
  constructor
  · intro failed
    split at failed
    next missing =>
      cases failed
      exact .unknown missing
    next => cases failed
    next code command =>
      split at failed
      next low =>
        cases failed
        exact .opcode code command low
      next => cases failed
  · intro fault
    cases fault with
    | unknown missing => rw [missing]
    | opcode code command low => simp [command, low]

theorem Fault.misplaced (fault : Fault program.subroutineCommands name cause) : program.Misplaced name := by
  cases fault with
  | unknown missing => exact Or.inl missing
  | opcode code command low => exact Or.inr ⟨code, command, low⟩

theorem not_misplaced {command : SubroutineCommand}
    (known : program.subroutineCommands.get? name = some command)
    (tabled : ∀ code, command = .opcode code → firstTableOpcode ≤ code) :
    ¬ program.Misplaced name := by
  rintro (missing | ⟨code, found, low⟩)
  · rw [missing] at known
    cases known
  · rw [found] at known
    cases known
    exact absurd low (UInt8.not_lt.mpr (tabled code rfl))

theorem Misplaced.exists_fault (misplaced : program.Misplaced name) :
    ∃ cause, Fault program.subroutineCommands name cause := by
  rcases misplaced with missing | ⟨code, command, low⟩
  · exact ⟨_, .unknown missing⟩
  · exact ⟨_, .opcode code command low⟩

theorem tableEntries_eq_error_iff :
    program.tableEntries = .error cause ↔ program.FirstFault cause := by
  have collected : program.tableEntries = .error cause ↔
      (program.subroutineAddresses.entries.mapM fun entry =>
        program.tableEntry entry.1 entry.2) = .error cause := by
    unfold tableEntries
    cases program.subroutineAddresses.entries.mapM fun entry =>
      program.tableEntry entry.1 entry.2 <;> simp [bind, Except.bind, pure, Except.pure]
  rw [collected, mapM_eq_error_iff_of_pairwise (fun _ _ => String.lt_asymm)
    program.subroutineAddresses.ordered]
  constructor
  · rintro ⟨item, listed, failed, passed⟩
    refine ⟨item.1, item.2, listed, tableEntry_eq_error_iff.mp failed,
      fun other member misplaced => ?_⟩
    by_contra above
    have earlier : other.1 < item.1 := String.not_le.mp (mt utf8Bytes_le above)
    obtain ⟨value, passed⟩ := passed other member earlier
    obtain ⟨found, fault⟩ := misplaced.exists_fault
    rw [tableEntry_eq_error_iff.mpr fault] at passed
    cases passed
  · rintro ⟨name, address, listed, fault, least⟩
    refine ⟨(name, address), listed, tableEntry_eq_error_iff.mpr fault,
      fun other member earlier => ?_⟩
    cases reached : program.tableEntry other.1 other.2 with
    | ok value => exact ⟨value, rfl⟩
    | error found =>
        have misplaced := (tableEntry_eq_error_iff.mp reached).misplaced
        exact absurd (utf8Bytes_lt earlier) (List.not_lt.mpr (least other member misplaced))

theorem computeChecksum_eq_error_iff :
    program.computeChecksum = .error cause ↔ program.FirstFault cause := by
  rw [← tableEntries_eq_error_iff]
  unfold computeChecksum checkedMessage
  cases program.tableEntries <;> simp [bind, Except.bind, pure, Except.pure, Except.map]

/-! ## What a table is made of -/

/-- A subroutine that asks for a place in the table: it has an address, and it is not only
called.  Commands without an address ask for nothing. -/
def Demands (program : Program) (name : String) (address : UInt16)
    (command : Option SubroutineCommand) : Prop :=
  (name, address) ∈ program.subroutineAddresses.entries ∧
    program.subroutineCommands.get? name = command ∧ command ≠ some .callOnly

def SameDemands (program other : Program) : Prop :=
  ∀ name address command,
    program.Demands name address command ↔ other.Demands name address command

def demanded (program : Program) : List (String × UInt16 × Option SubroutineCommand) :=
  (program.subroutineAddresses.entries.map fun entry =>
    (entry.1, entry.2, program.subroutineCommands.get? entry.1)).filter fun demand =>
      demand.2.2 ≠ some .callOnly

theorem mem_demanded_iff {address : UInt16} {command : Option SubroutineCommand} :
    (name, address, command) ∈ program.demanded ↔ program.Demands name address command := by
  unfold demanded Demands
  simp only [List.mem_filter, List.mem_map, Prod.exists, Prod.mk.injEq, decide_eq_true_eq]
  constructor
  · rintro ⟨⟨found, place, listed, rfl, rfl, same⟩, wanted⟩
    exact ⟨listed, same, wanted⟩
  · rintro ⟨listed, same, wanted⟩
    exact ⟨⟨name, address, listed, rfl, rfl, same⟩, wanted⟩

theorem ordered_demanded (program : Program) :
    program.demanded.Pairwise fun first second => first.1 < second.1 :=
  List.Pairwise.filter _ (List.pairwise_map.mpr program.subroutineAddresses.ordered)

theorem SameDemands.demanded_eq (same : program.SameDemands other) :
    program.demanded = other.demanded := by
  have irreflexive : Std.Irrefl fun first second :
      String × UInt16 × Option SubroutineCommand => first.1 < second.1 :=
    ⟨fun demand => String.lt_irrefl demand.1⟩
  have antisymmetric : Std.Antisymm fun first second :
      String × UInt16 × Option SubroutineCommand => first.1 < second.1 :=
    ⟨fun _ _ before after => absurd after (String.lt_asymm before)⟩
  refine List.Pairwise.eq_of_mem_iff program.ordered_demanded other.ordered_demanded ?_
  rintro ⟨name, address, command⟩
  rw [mem_demanded_iff, mem_demanded_iff]
  exact same name address command

def demandEntry (demand : String × UInt16 × Option SubroutineCommand) :
    Except ValidationError (Option TableEntry) :=
  match demand.2.2 with
  | none => .error (.unknownSubroutine demand.1)
  | some .callOnly => .ok none
  | some (.opcode code) =>
      if code < firstTableOpcode then
        .error (.subroutineOpcode demand.1 code)
      else
        .ok (some ⟨code, demand.2.1⟩)

/-- Steps that succeed with nothing can be left out. -/
theorem mapM_filter_of_none {α β ε : Type} {step : α → Except ε (Option β)} {keep : α → Bool}
    (spared : ∀ item, keep item = false → step item = .ok none) (items : List α) :
    (items.mapM step).map (·.filterMap id) =
      ((items.filter keep).mapM step).map (·.filterMap id) := by
  induction items with
  | nil =>
      rfl
  | cons first rest inductionHypothesis =>
      by_cases kept : keep first = true
      · rw [List.filter_cons_of_pos kept, List.mapM_cons, List.mapM_cons]
        cases step first with
        | error cause => rfl
        | ok value =>
            cases left : rest.mapM step <;> cases right : (rest.filter keep).mapM step <;>
              simp_all [bind, Except.bind, pure, Except.pure, Except.map, List.filterMap_cons]
      · rw [List.filter_cons_of_neg kept, ← inductionHypothesis, List.mapM_cons,
          spared first (by simpa using kept)]
        cases rest.mapM step <;> rfl

theorem tableEntries_eq_demanded (program : Program) :
    program.tableEntries = (program.demanded.mapM demandEntry).map (·.filterMap id) := by
  have entries : program.tableEntries =
      ((program.subroutineAddresses.entries.map fun entry =>
        (entry.1, entry.2, program.subroutineCommands.get? entry.1)).mapM demandEntry).map
          (·.filterMap id) := by
    rw [List.mapM_map]
    rfl
  rw [entries]
  refine mapM_filter_of_none (fun demand only => ?_) _
  have called : demand.2.2 = some .callOnly := by simpa using only
  unfold demandEntry
  rw [called]

theorem SameDemands.tableEntries_eq (same : program.SameDemands other) :
    program.tableEntries = other.tableEntries := by
  rw [tableEntries_eq_demanded, tableEntries_eq_demanded, same.demanded_eq]

end Program

/-! ## Images -/

namespace ScriptImage

variable {program other : Program} {model : Model} {cause : ValidationError}

theorem build_of_long (long : model.maxScriptLength < program.byteCode.length) :
    build program model =
      .error (.scriptTooLong program.byteCode.length model.maxScriptLength) := by
  unfold build
  simp only [long, if_true]
  rfl

theorem build_eq_error_iff (short : program.byteCode.length ≤ model.maxScriptLength) :
    build program model = .error cause ↔ program.FirstFault cause := by
  rw [← Program.tableEntries_eq_error_iff]
  unfold build
  simp only [Nat.not_lt.mpr short, if_false]
  cases program.tableEntries <;> simp [bind, Except.bind, pure, Except.pure]

theorem build_congr
    (sameCode : program.byteCode = other.byteCode) (same : program.SameDemands other) :
    build program model = build other model := by
  unfold build
  rw [sameCode, same.tableEntries_eq]

theorem exists_build_iff :
    (∃ image, build program model = .ok image) ↔
      program.byteCode.length ≤ model.maxScriptLength ∧ program.AllPlaced := by
  constructor
  · rintro ⟨image, built⟩
    obtain ⟨fits, _⟩ := layout_of_build built
    exact ⟨fits.length, fits.placed⟩
  · rintro ⟨short, placed⟩
    exact ⟨_, (build_settles program model).accept ⟨short, placed⟩⟩

/-- Which programs have an image, what is reported for the others, and what the table of an
image holds.  Subroutines that ask for no place have no part in it. -/
theorem build_exactly (program : Program) (model : Model) :
    (∀ length limit,
        build program model = .error (.scriptTooLong length limit) ↔
          model.maxScriptLength < program.byteCode.length ∧
            length = program.byteCode.length ∧ limit = model.maxScriptLength) ∧
      (program.byteCode.length ≤ model.maxScriptLength →
        ∀ cause, build program model = .error cause ↔ program.FirstFault cause) ∧
      ((∃ image, build program model = .ok image) ↔
        program.byteCode.length ≤ model.maxScriptLength ∧ program.AllPlaced) ∧
      (∀ image, build program model = .ok image →
        image.table.length = subroutineTableLength ∧
          ∀ opcode, firstTableOpcode ≤ opcode →
            program.Slot erased opcode (slotOf image.table opcode)) ∧
      (∀ other, program.byteCode = other.byteCode → program.SameDemands other →
        build program model = build other model) ∧
      ∀ code,
        let recoded : Program := { program with byteCode := code }
        (∀ cause, recoded.computeChecksum = .error cause ↔ program.FirstFault cause) ∧
          ((∃ sum, recoded.computeChecksum = .ok sum) ↔ program.AllPlaced) := by
  refine ⟨?_, fun short _ => build_eq_error_iff short, exists_build_iff, ?_,
    fun _ => build_congr, ?_⟩
  · intro length limit
    by_cases long : model.maxScriptLength < program.byteCode.length
    · simp [build_of_long long, long, eq_comm]
    · rw [build_eq_error_iff (Nat.not_lt.mp long)]
      refine iff_of_false ?_ fun both => long both.1
      rintro ⟨name, address, listed, fault, least⟩
      cases fault
  · intro image built
    obtain ⟨fits, rfl⟩ := layout_of_build built
    exact ⟨subroutineTable_length _ _,
      fun opcode tested => Program.slot_subroutineTable fits.placed erased tested⟩
  · intro code recoded
    refine ⟨fun cause => Program.computeChecksum_eq_error_iff, ?_⟩
    have settles := recoded.computeChecksum_settles
    constructor
    · rintro ⟨sum, computed⟩
      exact (settles.eq_ok_iff.mp computed).1
    · intro placed
      exact ⟨_, settles.accept placed⟩

/-- Of two misplaced subroutines the one whose name comes first is reported. -/
theorem build_exactly_of_faults :
    let program : Program :=
      { subroutineAddresses := .ofList [("wave", 7), ("nod", 10), ("blink", 3)]
        subroutineCommands := .ofList [("nod", .opcode 54), ("blink", .opcode 200)] }
    program.byteCode.length ≤ Model.micro6.maxScriptLength ∧
      build program .micro6 = .error (.subroutineOpcode "nod" 54) := by
  intro program
  have short : program.byteCode.length ≤ Model.micro6.maxScriptLength := by decide
  have entries : program.subroutineAddresses.entries =
      [("blink", 3), ("nod", 10), ("wave", 7)] := by decide +kernel
  have blink : program.subroutineCommands.get? "blink" = some (.opcode 200) := by decide +kernel
  have nod : program.subroutineCommands.get? "nod" = some (.opcode 54) := by decide +kernel
  refine ⟨short, ((build_exactly program .micro6).2.1 short _).mpr
    ⟨"nod", 10, by simp [entries], .opcode 54 nod (by decide), ?_⟩⟩
  simp only [entries, List.forall_mem_cons, List.not_mem_nil, false_implies, implies_true,
    and_true]
  refine ⟨fun misplaced => absurd misplaced (Program.not_misplaced blink ?_),
    fun _ => List.le_refl _, fun _ => utf8Bytes_le (by decide +kernel)⟩
  rintro code ⟨⟩
  decide

end ScriptImage

end ServoLink
