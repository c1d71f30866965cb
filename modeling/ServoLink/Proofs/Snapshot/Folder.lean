import Mathlib.Data.List.Basic
import ServoLink.Snapshot.Folder

/-!
# Files that keep what is written

A place keeps what is written at a path if the bytes are read back there, whatever they are and
whatever the place held before.  A folder does so at every path but that of the null device.
-/

namespace ServoLink

/-! ## Reading after writing -/

/-- After a write that succeeds, the bytes written are read back. -/
def Files.Keeps (m : Type → Type) [Monad m] [Files m] (path : String) : Prop :=
  ∀ bytes : ByteArray,
    (do
      if ← Files.write path bytes then
        return some (← Files.read? path)
      else
        return none) =
      (do
        if ← Files.write path bytes then
          return some (some bytes)
        else
          return none : m (Option (Option ByteArray)))

/-- What follows a write that succeeded reads the bytes written. -/
theorem Files.Keeps.bind_read? {m : Type → Type} [Monad m] [LawfulMonad m] [Files m]
    {path : String} (keeps : Files.Keeps m path) {α : Type} (bytes : ByteArray)
    (next : Option ByteArray → m α) (failed : m α) :
    (do
      if ← Files.write path bytes then
        next (← Files.read? path)
      else
        failed) =
      (do
        if ← Files.write path bytes then
          next (some bytes)
        else
          failed) := by
  have same := congrArg (· >>= fun found => found.elim failed next) (keeps bytes)
  simp only [bind_assoc] at same
  refine (bind_congr fun written => ?_).trans (same.trans (bind_congr fun written => ?_))
  · cases written <;> simp
  · cases written <;> simp

/-! ## Names bound again -/

namespace NameMap

variable {β : Type}

theorem lookup_insertEntry (name : String) (value : β) (entries : List (String × β)) :
    (insertEntry name value entries).lookup name = some value := by
  induction entries with
  | nil => simp [insertEntry]
  | cons entry rest inductionHypothesis =>
      unfold insertEntry
      split_ifs with before same
      · exact List.lookup_cons_self
      · exact List.lookup_cons_self
      · rw [List.lookup_cons, beq_false_of_ne same]
        exact inductionHypothesis

theorem get?_insert (names : NameMap β) (name : String) (value : β) :
    (names.insert name value).get? name = some value :=
  lookup_insertEntry name value names.entries

/-- No name is lost. -/
theorem any_insertEntry (select : String → Bool) {name : String} {value : β}
    {entries : List (String × β)} (found : entries.any (fun entry => select entry.1) = true) :
    (insertEntry name value entries).any (fun entry => select entry.1) = true := by
  induction entries with
  | nil => exact absurd found (by simp)
  | cons entry rest inductionHypothesis =>
      rw [List.any_cons, Bool.or_eq_true] at found
      unfold insertEntry
      split_ifs with before same
      · rw [List.any_cons, List.any_cons, Bool.or_eq_true, Bool.or_eq_true]
        exact .inr found
      · rw [List.any_cons, Bool.or_eq_true, same]
        exact found
      · rw [List.any_cons, Bool.or_eq_true]
        exact found.imp_right inductionHypothesis

end NameMap

/-! ## Folders -/

namespace Place

variable {isFolder isFolder' : Place → Bool}

theorem step?_mono (more : ∀ place, isFolder place = true → isFolder' place = true)
    {place next : Place} {part : String} (found : step? isFolder place part = some next) :
    step? isFolder' place part = some next := by
  unfold step? at found ⊢
  by_cases back : isFolder place = true
  · rw [if_pos back] at found
    rw [if_pos (more place back)]
    exact found
  · rw [if_neg back] at found
    split_ifs at found ⊢
    · exact found
    · exact found

/-- A path leads to the same place where there are more folders. -/
theorem ofPath?_mono (more : ∀ place, isFolder place = true → isFolder' place = true)
    {path : String} {place : Place} (found : ofPath? isFolder path = some place) :
    ofPath? isFolder' path = some place := by
  have follow : ∀ (parts : List String) (start : Place),
      parts.foldlM (step? isFolder) start = some place →
        parts.foldlM (step? isFolder') start = some place := by
    intro parts
    induction parts with
    | nil => exact fun _ found => found
    | cons part parts inductionHypothesis =>
        intro start found
        rw [List.foldlM_cons] at found ⊢
        obtain ⟨next, step, rest⟩ := Option.bind_eq_some_iff.mp found
        exact Option.bind_eq_some_iff.mpr ⟨next, step?_mono more step,
          inductionHypothesis next rest⟩
  unfold ofPath? at found ⊢
  simp only at found ⊢
  split_ifs at found ⊢
  exact follow _ _ found

end Place

namespace Folder

theorem hasFolder_insert {folder : Folder} {path : String} {bytes : ByteArray} {place : Place}
    (present : folder.hasFolder place = true) :
    hasFolder { files := folder.files.insert path bytes } place = true := by
  unfold hasFolder at present ⊢
  rw [Bool.or_eq_true] at present ⊢
  exact present.imp_right
    (NameMap.any_insertEntry fun name => (place.path ++ "/").toList.isPrefixOf name.toList)

theorem read?_of_write? {folder written : Folder} {path : String} {bytes : ByteArray}
    (holds : path ≠ nullDevice) (success : folder.write? path bytes = some written) :
    written.read? path = some bytes := by
  unfold write? at success
  rw [if_neg holds] at success
  obtain ⟨place, found, success⟩ := Option.bind_eq_some_iff.mp success
  split at success
  · cases success
    have again : Place.ofPath? (hasFolder { files := folder.files.insert place.path bytes }) path =
        some place :=
      Place.ofPath?_mono (fun _ => hasFolder_insert) found
    unfold read?
    rw [if_neg holds, again]
    exact NameMap.get?_insert folder.files place.path bytes
  · cases success

theorem write_apply (folder : Folder) (path : String) (bytes : ByteArray) :
    (Files.write path bytes : StateM Folder Bool) folder =
      ((folder.write? path bytes).isSome, (folder.write? path bytes).getD folder) := by
  simp only [Files.write, bind, StateT.bind, get, getThe, MonadStateOf.get, StateT.get,
    pure]
  cases folder.write? path bytes <;> rfl

/-- A folder keeps what is written at a path, unless it is the path of the null device. -/
theorem keeps {path : String} (holds : path ≠ nullDevice) : Files.Keeps (StateM Folder) path := by
  intro bytes
  funext folder
  have wrote := write_apply folder path bytes
  simp only [bind, StateT.bind, wrote]
  cases success : folder.write? path bytes with
  | none => rfl
  | some written =>
      have read := read?_of_write? holds success
      change (some (written.read? path), written) = (some (some bytes), written)
      rw [read]

end Folder

end ServoLink
