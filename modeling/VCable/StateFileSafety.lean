import VCable.DaemonRoutes

/-!
# What a save can do to the state file

`save_routes` as its calls into the file system, stopped at any of them or in
the middle of a write.  The state file keeps its old content until the rename,
unless the temporary file is the state file itself.
-/

namespace VCable

open Utf8Text

/-! ## The temporary file -/

namespace DiskPath

/-- The file name is a stem followed by `.tmp`. -/
def EndsInTmp (path : DiskPath) : Prop :=
  ∃ stem, stem ≠ "" ∧ path.getLast? = some (.normal (stem ++ ".tmp"))

theorem fileStem_append_tmp {stem : String} (nonempty : stem ≠ "") :
    fileStem (stem ++ ".tmp") = stem := by
  have pieces : (stem ++ ".tmp").toList.splitOn '.' =
      stem.toList.splitOn '.' ++ [['t', 'm', 'p']] := by
    rw [String.toList_append, show ".tmp".toList = '.' :: ['t', 'm', 'p'] by decide,
      List.splitOn_append_cons_self]
    rfl
  unfold fileStem
  rw [pieces, List.dropLast_concat, List.intercalate_splitOn]
  dsimp only
  rw [if_neg, String.ofList_toList]
  exact fun empty => nonempty (String.toList_eq_nil_iff.mp empty)

theorem fileStem_append_tmp_eq_self_iff {name : String} :
    fileStem name ++ "." ++ "tmp" = name ↔ ∃ stem, stem ≠ "" ∧ name = stem ++ ".tmp" := by
  have joined : ∀ stem : String, stem ++ "." ++ "tmp" = stem ++ ".tmp" := fun stem => by
    rw [String.append_assoc]
    rfl
  rw [joined]
  constructor
  · intro same
    refine ⟨fileStem name, fun empty => ?_, same.symm⟩
    rw [empty] at same
    rw [← same] at empty
    revert empty
    decide
  · rintro ⟨stem, nonempty, rfl⟩
    rw [fileStem_append_tmp nonempty]

/-- The temporary file is the state file exactly if that ends in `.tmp`. -/
theorem withExtension_tmp_eq_self_iff {path : DiskPath} {name : String}
    (named : path.getLast? = some (.normal name)) :
    path.withExtension "tmp" = path ↔ path.EndsInTmp := by
  have whole : path = path.dropLast ++ [.normal name] := by
    rw [List.getLast?_eq_some_iff] at named
    obtain ⟨before, rfl⟩ := named
    rw [List.dropLast_concat]
  have renamed : path.withExtension "tmp" =
      path.dropLast ++ [.normal (fileStem name ++ "." ++ "tmp")] := by
    rw [withExtension, named]
  rw [renamed, EndsInTmp, named]
  simp only [Option.some.injEq, PathComponent.normal.injEq]
  rw [← fileStem_append_tmp_eq_self_iff]
  conv_lhs => rw [whole, List.dropLast_concat]
  simp

end DiskPath

/-! ## The calls of a save -/

/-- A call of `save_routes` into the file system. -/
inductive SaveCall where
  | createDirAll
  | openTemporary
  | write (text : List UInt8)
  | syncAll
  | rename
  deriving DecidableEq

/-- What a call does to the disk; the temporary file stays open at its end. -/
def SaveCall.run (path : DiskPath) (disk : Disk) : SaveCall → Disk
  | .createDirAll | .syncAll => disk
  | .openTemporary => disk.write (path.withExtension "tmp") []
  | .write text =>
      let temporary := path.withExtension "tmp"
      disk.write temporary ((disk.files temporary).getD [] ++ text)
  | .rename => disk.rename (path.withExtension "tmp") path

/-- The texts that `writeln!` writes: each line, and its newline. -/
def SavedRoutes.texts (routes : SavedRoutes) : List (List UInt8) :=
  routes.values.flatMap fun saved => [bytes saved.request.encode, [10]]

def saveCalls (routes : SavedRoutes) : List SaveCall :=
  .createDirAll :: .openTemporary :: (routes.texts.map .write ++ [.syncAll, .rename])

/-- The disk after a number of calls; a write that comes next has written a
number of bytes. -/
def stopped (path : DiskPath) (written : Nat) : List SaveCall → Nat → Disk → Disk
  | [], _, disk => disk
  | .write text :: _, 0, disk => (SaveCall.write (text.take written)).run path disk
  | _ :: _, 0, disk => disk
  | call :: calls, done + 1, disk => stopped path written calls done (call.run path disk)

theorem SavedRoutes.flatten_texts (routes : SavedRoutes) :
    routes.texts.flatten = routes.content := by
  simp [SavedRoutes.texts, SavedRoutes.content, List.flatten_eq_flatMap, List.flatMap_assoc]

section Stopped

variable {path : DiskPath} {disk : Disk} {written : Nat}

theorem run_write (acc text : List UInt8) :
    (SaveCall.write text).run path (disk.write (path.withExtension "tmp") acc) =
      disk.write (path.withExtension "tmp") (acc ++ text) := by
  simp [SaveCall.run, Disk.write]

/-- Among the writes, the temporary file has the start of what they write. -/
theorem stopped_writes {rest : List SaveCall} (texts : List (List UInt8)) (acc : List UInt8)
    (done : Nat) :
    (∃ count, stopped path written (texts.map .write ++ rest) done
        (disk.write (path.withExtension "tmp") acc) =
          disk.write (path.withExtension "tmp") (acc ++ texts.flatten.take count)) ∨
      ∃ more, stopped path written (texts.map .write ++ rest) done
        (disk.write (path.withExtension "tmp") acc) =
          stopped path written rest more
            (disk.write (path.withExtension "tmp") (acc ++ texts.flatten)) := by
  induction texts generalizing acc done with
  | nil => exact Or.inr ⟨done, by simp⟩
  | cons text texts ih =>
      cases done with
      | zero =>
          refine Or.inl ⟨min written text.length, ?_⟩
          rw [List.map_cons, List.cons_append, stopped, run_write, List.flatten_cons,
            List.take_append_of_le_length (min_le_right _ _), List.take_eq_take_min]
      | succ done =>
          rw [List.map_cons, List.cons_append, stopped, run_write, List.flatten_cons]
          rcases ih (acc ++ text) done with ⟨count, reached⟩ | ⟨more, reached⟩
          · refine Or.inl ⟨text.length + count, ?_⟩
            rw [reached, List.take_length_add_append, List.append_assoc]
          · exact Or.inr ⟨more, by rw [reached, List.append_assoc]⟩

/-- Wherever a save stops, the disk is the one that a failing call, or none,
leaves. -/
theorem stopped_eq_writeState (parent : path.parent ≠ none) (routes : SavedRoutes) (done : Nat) :
    ∃ fault, stopped path written (saveCalls routes) done disk =
      (writeState path routes.content fault disk).2 := by
  obtain ⟨directory, found⟩ := Option.ne_none_iff_exists'.mp parent
  simp only [writeState, found]
  match done with
  | 0 => exact ⟨some (.createDirectory ⟨""⟩), rfl⟩
  | 1 => exact ⟨some (.openTemporary ⟨""⟩), rfl⟩
  | done + 2 =>
      change ∃ fault, stopped path written (routes.texts.map .write ++ [.syncAll, .rename]) done
        (disk.write (path.withExtension "tmp") []) = _
      rcases stopped_writes routes.texts [] done with ⟨count, reached⟩ | ⟨more, reached⟩
      · rw [reached, routes.flatten_texts, List.nil_append]
        exact ⟨some (.writeLines count ⟨""⟩), rfl⟩
      · rw [reached, routes.flatten_texts, List.nil_append]
        match more with
        | 0 => exact ⟨some (.sync ⟨""⟩), rfl⟩
        | 1 => exact ⟨some (.rename ⟨""⟩), rfl⟩
        | _ + 2 => exact ⟨none, rfl⟩

end Stopped

/-! ## The state file -/

section StateFile

variable {F : Type} [SinglePrecision F]

/-- A save leaves the old content or the new one, and the new one if it goes
through. -/
structure KeepsStateFile (fault : Option SaveFault) (world : World F) : Prop where
  old_or_new : (saveRoutes fault world).2.disk.files world.statePath =
      world.disk.files world.statePath ∨
    (saveRoutes fault world).2.disk.files world.statePath = some world.routes.content
  new_of_ok : (saveRoutes fault world).1 = .ok () →
    (saveRoutes fault world).2.disk.files world.statePath = some world.routes.content

/-- The save stops before its lines are complete, with less written than there
was, or something else. -/
def Torn (fault : Option SaveFault) (world : World F) : Prop :=
  ∃ written error, fault = some (.writeLines written error) ∧
    written < world.routes.content.length ∧
      world.disk.files world.statePath ≠ some (world.routes.content.take written)

theorem files_write_temporary (path : DiskPath) (disk : Disk) (content : List UInt8) :
    (disk.write (path.withExtension "tmp") content).files path =
      if path.withExtension "tmp" = path then some content else disk.files path := by
  by_cases same : path.withExtension "tmp" = path
  · rw [same, if_pos rfl]
    exact Function.update_self _ _ _
  · rw [if_neg same]
    exact Function.update_of_ne (Ne.symm same) _ _

/-- A temporary file with all lines is harmless, also in the place of the state file. -/
theorem files_written_temporary (world : World F) :
    (world.disk.write (world.statePath.withExtension "tmp") world.routes.content).files
        world.statePath = world.disk.files world.statePath ∨
      (world.disk.write (world.statePath.withExtension "tmp") world.routes.content).files
        world.statePath = some world.routes.content := by
  rw [files_write_temporary]
  split_ifs
  · exact Or.inr rfl
  · exact Or.inl rfl

theorem saveRoutes_some_ne_ok {world : World F} {directory : DiskPath} {fault : SaveFault}
    (found : world.statePath.parent = some directory) :
    (saveRoutes (some fault) world).1 ≠ .ok () := by
  simp only [saveRoutes, writeState, found]
  cases fault <;> exact nofun

/-- Only a failing write can leave anything else than the two contents. -/
theorem keepsStateFile_iff {world : World F} {directory : DiskPath} {fault : Option SaveFault}
    (found : world.statePath.parent = some directory) :
    KeepsStateFile fault world ↔
      ∀ count error, fault = some (.writeLines count error) →
        world.statePath.withExtension "tmp" = world.statePath →
          some (world.routes.content.take count) = world.disk.files world.statePath ∨
            world.routes.content.take count = world.routes.content := by
  cases fault with
  | none =>
      have renamed : (saveRoutes none world).2.disk.files world.statePath =
          some world.routes.content := by
        simp [saveRoutes, writeState, found, Disk.rename, Disk.write]
      exact iff_of_true ⟨Or.inr renamed, fun _ => renamed⟩ nofun
  | some fault =>
      have failed := @saveRoutes_some_ne_ok F _ world directory fault found
      cases fault with
      | createDirectory error =>
          have unchanged : (saveRoutes (some (.createDirectory error)) world).2.disk =
              world.disk := by simp only [saveRoutes, writeState, found]
          exact iff_of_true ⟨Or.inl (by rw [unchanged]), fun ok => absurd ok failed⟩ nofun
      | openTemporary error =>
          have unchanged : (saveRoutes (some (.openTemporary error)) world).2.disk =
              world.disk := by simp only [saveRoutes, writeState, found]
          exact iff_of_true ⟨Or.inl (by rw [unchanged]), fun ok => absurd ok failed⟩ nofun
      | sync error =>
          have reached : (saveRoutes (some (.sync error)) world).2.disk =
              world.disk.write (world.statePath.withExtension "tmp") world.routes.content := by
            simp only [saveRoutes, writeState, found]
          have kept := files_written_temporary world
          exact iff_of_true ⟨by rwa [reached], fun ok => absurd ok failed⟩ nofun
      | rename error =>
          have reached : (saveRoutes (some (.rename error)) world).2.disk =
              world.disk.write (world.statePath.withExtension "tmp") world.routes.content := by
            simp only [saveRoutes, writeState, found]
          have kept := files_written_temporary world
          exact iff_of_true ⟨by rwa [reached], fun ok => absurd ok failed⟩ nofun
      | writeLines count error =>
          have reached : (saveRoutes (some (.writeLines count error)) world).2.disk.files
              world.statePath = if world.statePath.withExtension "tmp" = world.statePath then
                some (world.routes.content.take count)
              else world.disk.files world.statePath := by
            rw [← files_write_temporary]
            simp only [saveRoutes, writeState, found]
          constructor
          · rintro ⟨oldOrNew, _⟩ _ _ ⟨⟩ same
            rw [reached, if_pos same] at oldOrNew
            exact oldOrNew.imp_right Option.some.inj
          · intro whole
            refine ⟨?_, fun ok => absurd ok failed⟩
            rw [reached]
            split_ifs with same
            · exact (whole count error rfl same).imp_right (congrArg some)
            · exact Or.inl rfl

/-- For every state path with a file name, every saved routes and every disk,
and wherever the save fails or is stopped, the state file has its old content
or the new one, and the new one after a save that goes through, if and only if
the save is not torn in a state file whose name ends in `.tmp`. -/
theorem state_file_kept_iff (world : World F)
    (named : ∃ name, world.statePath.getLast? = some (.normal name)) :
    (∀ fault, KeepsStateFile fault world ↔
      (world.statePath.EndsInTmp → ¬ Torn fault world)) ∧
    ∀ done written, ∃ fault, stopped world.statePath written (saveCalls world.routes) done
      world.disk = (saveRoutes fault world).2.disk := by
  obtain ⟨name, named⟩ := named
  have parent : world.statePath.parent = some world.statePath.dropLast := by
    rw [DiskPath.parent, named]
  refine ⟨fun fault => ?_, fun done written =>
    stopped_eq_writeState (by rw [parent]; exact Option.some_ne_none _) world.routes done⟩
  rw [← DiskPath.withExtension_tmp_eq_self_iff named, keepsStateFile_iff parent]
  constructor
  · rintro safe same ⟨count, error, torn, short, differs⟩
    rcases safe count error torn same with old | new
    · exact differs old.symm
    · have length := congrArg List.length new
      rw [List.length_take] at length
      omega
  · intro safe count error torn same
    by_contra! neither
    refine safe same ⟨count, error, torn, ?_, neither.1.symm⟩
    by_contra! long
    exact neither.2 (List.take_of_length_le long)

end StateFile

/-- A daemon that keeps its state in the given file, with one saved route. -/
def storingWorld (name : String) : World ℚ :=
  { restoredWorld [microphone, speaker] (SavedRoutes.empty.insert voiceRoute) (some [10]) with
    statePath := [.rootDir, .normal name] }

theorem state_file_kept_iff_routes :
    (∀ fault, KeepsStateFile fault (storingWorld "routes") ↔
      ((storingWorld "routes").statePath.EndsInTmp → ¬ Torn fault (storingWorld "routes"))) ∧
    ∀ done written, ∃ fault, stopped (storingWorld "routes").statePath written
      (saveCalls (storingWorld "routes").routes) done (storingWorld "routes").disk =
        (saveRoutes fault (storingWorld "routes")).2.disk :=
  state_file_kept_iff (storingWorld "routes") ⟨"routes", rfl⟩

/-- The first bytes of a line are all that is left of a state file with the
extension of the temporary file. -/
theorem state_file_lost :
    ¬ KeepsStateFile (some (.writeLines 4 ⟨"No space left on device"⟩))
        (storingWorld "routes.tmp") ∧
      (storingWorld "routes.tmp").disk.files (storingWorld "routes.tmp").statePath = some [10] ∧
      (saveRoutes (some (.writeLines 4 ⟨"No space left on device"⟩))
        (storingWorld "routes.tmp")).2.disk.files (storingWorld "routes.tmp").statePath =
          some (bytes "conn") := by
  have torn : (saveRoutes (some (.writeLines 4 ⟨"No space left on device"⟩))
      (storingWorld "routes.tmp")).2.disk.files (storingWorld "routes.tmp").statePath =
        some (bytes "conn") := by decide +kernel
  refine ⟨fun kept => ?_, rfl, torn⟩
  rcases kept.old_or_new with old | new
  · rw [torn] at old
    revert old
    decide +kernel
  · rw [torn] at new
    revert new
    decide +kernel

end VCable
