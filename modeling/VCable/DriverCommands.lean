import VCable.Daemon
import VCable.DriverInventory

/-!
# The commands of the daemon to the driver

The daemon formats a command without any escaping and the driver splits it at
its tabs.  The checks before the command is sent leave no tab in a field, so
the driver finds the fields that the daemon has put in, and its own checks
decide whether there is a new device.
-/

namespace VCable

open Utf8Text

/-! ## Sending -/

def validateField (value name : String) : Except CoreAudioError Unit :=
  if value = "" ∨ value.toList.any fun character =>
      character = '\t' ∨ character = '\r' ∨ character = '\n' ∨ character = '\x00' then
    .error (.invalidProperty name)
  else .ok ()

/-- The command that `create_virtual_device` sends, if it sends one. -/
def createCommand (id name : String) (inputChannels outputChannels sampleRate : UInt32) :
    Except CoreAudioError String := do
  validateField id "device id"
  validateField name "device name"
  if inputChannels = 0 ∨ outputChannels = 0 then
    .error (.driverRejected "channel counts must be greater than zero")
  else
    .ok ("create\t" ++ id ++ "\t" ++ name ++ "\t" ++ toString inputChannels.toNat ++ "\t" ++
      toString outputChannels.toNat ++ "\t" ++ toString sampleRate.toNat)

/-- The command that `delete_virtual_device` sends, if it sends one. -/
def deleteCommand (id : String) : Except CoreAudioError String := do
  validateField id "device id"
  .ok ("delete\t" ++ id)

/-- What `validate_field` asks of a field. -/
structure Sendable (value : String) : Prop where
  nonempty : value ≠ ""
  tab : '\t' ∉ value.toList
  carriageReturn : '\r' ∉ value.toList
  newline : '\n' ∉ value.toList
  nul : '\x00' ∉ value.toList

theorem validateField_eq_ok_iff {value name : String} :
    validateField value name = .ok () ↔ Sendable value := by
  constructor
  · intro accepted
    unfold validateField at accepted
    split at accepted
    · cases accepted
    · rename_i checked
      simp only [not_or, List.any_eq_true, decide_eq_true_eq, not_exists, not_and] at checked
      exact ⟨checked.1, fun member => (checked.2 _ member).1 rfl,
        fun member => (checked.2 _ member).2.1 rfl, fun member => (checked.2 _ member).2.2.1 rfl,
        fun member => (checked.2 _ member).2.2.2 rfl⟩
  · intro sendable
    refine if_neg ?_
    simp only [not_or, List.any_eq_true, decide_eq_true_eq, not_exists, not_and]
    refine ⟨sendable.nonempty, fun character member => ⟨?_, ?_, ?_, ?_⟩⟩
    · exact fun same => sendable.tab (same ▸ member)
    · exact fun same => sendable.carriageReturn (same ▸ member)
    · exact fun same => sendable.newline (same ▸ member)
    · exact fun same => sendable.nul (same ▸ member)

theorem createCommand_eq_ok_iff {id name : String} {input output rate : UInt32} {command : String} :
    createCommand id name input output rate = .ok command ↔
      Sendable id ∧ Sendable name ∧ ¬ (input = 0 ∨ output = 0) ∧
        (DeviceFields.mk id name input output rate).body = command := by
  unfold createCommand
  rw [← @validateField_eq_ok_iff id "device id", ← @validateField_eq_ok_iff name "device name"]
  cases validateField id "device id" with
  | error failure => exact ⟨nofun, fun sent => nomatch sent.1⟩
  | ok _ =>
      cases validateField name "device name" with
      | error failure => exact ⟨nofun, fun sent => nomatch sent.2.1⟩
      | ok _ =>
          change (if input = 0 ∨ output = 0 then _ else _) = _ ↔ _
          split
          · rename_i zero
            exact ⟨nofun, fun sent => absurd zero sent.2.2.1⟩
          · rename_i positive
            exact ⟨fun sent => ⟨rfl, rfl, positive, Except.ok.inj sent⟩,
              fun sent => congrArg Except.ok sent.2.2.2⟩

theorem deleteCommand_eq_ok_iff {id command : String} :
    deleteCommand id = .ok command ↔ Sendable id ∧ "\t".intercalate ["delete", id] = command := by
  unfold deleteCommand
  rw [← @validateField_eq_ok_iff id "device id"]
  cases validateField id "device id" with
  | error failure => exact ⟨nofun, fun sent => nomatch sent.1⟩
  | ok _ => exact ⟨fun sent => ⟨rfl, Except.ok.inj sent⟩, fun sent => congrArg Except.ok sent.2⟩

/-! ## Splitting -/

/-- The driver finds fields without NULs and tabs again. -/
theorem split_toCString_intercalate {words : List String} (nonempty : words ≠ [])
    (free : ∀ word ∈ words, '\x00' ∉ word.toList ∧ '\t' ∉ word.toList) :
    split '\t' (toCString ("\t".intercalate words)) = words := by
  rw [DeviceFields.toCString_eq_self]
  · exact split_intercalate (by decide) nonempty fun word member => (free word member).2
  · intro member
    rcases mem_intercalate member with tab | ⟨word, wordMember, inside⟩
    · exact absurd tab (by decide)
    · exact (free word wordMember).1 inside

theorem free_of_printable {word : String} (printable : Printable word) :
    '\x00' ∉ word.toList ∧ '\t' ∉ word.toList :=
  ⟨fun member => absurd (printable _ member) (by decide),
    fun member => absurd (printable _ member) (by decide)⟩

theorem Sendable.free {value : String} (sendable : Sendable value) :
    '\x00' ∉ value.toList ∧ '\t' ∉ value.toList :=
  ⟨sendable.nul, sendable.tab⟩

theorem split_createCommand {id name : String} {input output rate : UInt32} {command : String}
    (sent : createCommand id name input output rate = .ok command) :
    split '\t' (toCString command) = (DeviceFields.mk id name input output rate).words := by
  obtain ⟨idSendable, nameSendable, -, rfl⟩ := createCommand_eq_ok_iff.mp sent
  refine split_toCString_intercalate (List.cons_ne_nil _ _) fun word member => ?_
  simp only [DeviceFields.words, List.mem_cons, List.not_mem_nil, or_false] at member
  rcases member with rfl | rfl | rfl | rfl | rfl | rfl
  · exact free_of_printable (by decide)
  · exact idSendable.free
  · exact nameSendable.free
  · exact free_of_printable (printable_natToString _)
  · exact free_of_printable (printable_natToString _)
  · exact free_of_printable (printable_natToString _)

theorem split_deleteCommand {id command : String} (sent : deleteCommand id = .ok command) :
    split '\t' (toCString command) = ["delete", id] := by
  obtain ⟨sendable, rfl⟩ := deleteCommand_eq_ok_iff.mp sent
  refine split_toCString_intercalate (List.cons_ne_nil _ _) fun word member => ?_
  simp only [List.mem_cons, List.not_mem_nil, or_false] at member
  rcases member with rfl | rfl
  · exact free_of_printable (by decide)
  · exact sendable.free

/-! ## Acceptance -/

/-- A character of a device id. -/
def IsIDCharacter (character : Char) : Prop :=
  ('a' ≤ character ∧ character ≤ 'z') ∨ ('A' ≤ character ∧ character ≤ 'Z') ∨
    ('0' ≤ character ∧ character ≤ '9') ∨ character = '.' ∨ character = '_' ∨ character = '-'

/-- What the driver asks of a new device. -/
structure DeviceFields.Acceptable (fields : DeviceFields) : Prop where
  id_length : 1 ≤ fields.id.length ∧ fields.id.length ≤ 128
  id_characters : ∀ character ∈ fields.id.toList, IsIDCharacter character
  name_size : 1 ≤ fields.name.utf8ByteSize ∧ fields.name.utf8ByteSize ≤ 255
  name_characters : ∀ character ∈ fields.name.toList,
    character ≠ '\t' ∧ character ≠ '\r' ∧ character ≠ '\n'
  inputChannels : 1 ≤ fields.inputChannels.toNat ∧ fields.inputChannels.toNat ≤ 64
  outputChannels : 1 ≤ fields.outputChannels.toNat ∧ fields.outputChannels.toNat ≤ 64
  sampleRate : 8000 ≤ fields.sampleRate.toNat ∧ fields.sampleRate.toNat ≤ 768000

theorem idByte_iff {byte : UInt8} (small : byte < 128) :
    (isAsciiAlphanumeric byte || driverIDPunctuation.contains byte) = true ↔
      IsIDCharacter (asciiChar byte) := by
  have all : ∀ number < 128,
      ((isAsciiAlphanumeric (UInt8.ofNat number) ||
        driverIDPunctuation.contains (UInt8.ofNat number)) = true) ↔
      IsIDCharacter (asciiChar (UInt8.ofNat number)) := by
    unfold IsIDCharacter
    decide
  have := all byte.toNat (by simpa [UInt8.lt_iff_toNat_lt] using small)
  rwa [UInt8.ofNat_toNat] at this

theorem IsIDCharacter.isAscii {character : Char} (allowed : IsIDCharacter character) :
    IsAscii character := by
  have upper : character.toNat ≤ 127 := by
    rcases allowed with ⟨-, high⟩ | ⟨-, high⟩ | ⟨-, high⟩ | rfl | rfl | rfl
    · exact (show character.toNat ≤ 'z'.toNat from high).trans (by decide)
    · exact (show character.toNat ≤ 'Z'.toNat from high).trans (by decide)
    · exact (show character.toNat ≤ '9'.toNat from high).trans (by decide)
    all_goals decide
  exact UInt32.le_iff_toNat_le.mpr upper

theorem small_of_idByte {byte : UInt8}
    (allowed : (isAsciiAlphanumeric byte || driverIDPunctuation.contains byte) = true) :
    byte < 128 := by
  rcases Bool.or_eq_true_iff.mp allowed with letter | other
  · simp only [isAsciiAlphanumeric, Bool.or_eq_true, Bool.and_eq_true, decide_eq_true_eq,
      UInt8.le_iff_toNat_le, UInt8.reduceToNat] at letter
    exact UInt8.lt_iff_toNat_lt.mpr (show byte.toNat < 128 by omega)
  · have punctuation : driverIDPunctuation.all (· < 128) = true := by decide
    exact of_decide_eq_true (List.all_eq_true.mp punctuation _ (List.contains_iff_mem.mp other))

theorem small_of_idCharacters {id : String}
    (allowed : ∀ character ∈ id.toList, IsIDCharacter character) :
    ∀ byte ∈ bytes id, byte < 128 := by
  intro byte member
  rw [← @String.ofList_toList id,
    bytes_ofList_of_ascii fun character inside => (allowed character inside).isAscii] at member
  obtain ⟨character, inside, rfl⟩ := List.mem_map.mp member
  have ascii : character.val.toNat ≤ 127 :=
    UInt32.le_iff_toNat_le.mp (allowed character inside).isAscii
  rw [UInt8.lt_iff_toNat_lt, UInt32.toNat_toUInt8]
  exact lt_of_le_of_lt (Nat.mod_le _ _) (Nat.lt_succ_of_le ascii)

/-- The driver counts the bytes of an id, which are its characters. -/
theorem validID_iff (id : String) :
    validID id = true ↔
      (1 ≤ id.length ∧ id.length ≤ 128) ∧ ∀ character ∈ id.toList, IsIDCharacter character := by
  have agree : (∀ byte ∈ bytes id, byte < 128) → (validID id = true ↔
      (1 ≤ id.length ∧ id.length ≤ 128) ∧ ∀ character ∈ id.toList, IsIDCharacter character) := by
    intro small
    have characters : (∀ character ∈ id.toList, IsIDCharacter character) ↔
        ∀ byte ∈ bytes id,
          (isAsciiAlphanumeric byte || driverIDPunctuation.contains byte) = true := by
      rw [toList_of_ascii small, List.forall_mem_map]
      exact forall₂_congr fun byte member => (idByte_iff (small byte member)).symm
    rw [characters, ← String.length_toList, toList_of_ascii small, List.length_map, validID,
      Bool.and_eq_true, Bool.and_eq_true, decide_eq_true_eq, decide_eq_true_eq, List.all_eq_true,
      Nat.one_le_iff_ne_zero]
  constructor
  · intro valid
    have allowed := List.all_eq_true.mp (Bool.and_eq_true_iff.mp valid).2
    exact (agree fun byte member => small_of_idByte (allowed byte member)).mp valid
  · intro accepted
    exact (agree (small_of_idCharacters accepted.2)).mpr accepted

theorem validName_iff (name : String) :
    validName name = true ↔
      (1 ≤ name.utf8ByteSize ∧ name.utf8ByteSize ≤ 255) ∧
        ∀ character ∈ name.toList, character ≠ '\t' ∧ character ≠ '\r' ∧ character ≠ '\n' := by
  rw [validName, length_bytes, Bool.and_eq_true, Bool.and_eq_true, decide_eq_true_eq,
    decide_eq_true_eq, List.all_eq_true, Nat.one_le_iff_ne_zero]
  simp only [Bool.and_eq_true, decide_eq_true_eq, and_assoc]

/-- The number fields come back as they were, so the ranges are those of the numbers. -/
theorem DeviceFields.acceptable_iff (fields : DeviceFields) :
    fields.Acceptable ↔
      validID fields.id = true ∧ validName fields.name = true ∧
        ¬ (fields.inputChannels = 0 ∨ fields.outputChannels = 0 ∨
          fields.inputChannels > kMaximumChannels ∨ fields.outputChannels > kMaximumChannels ∨
          fields.sampleRate < 8000 ∨ fields.sampleRate > 768000) := by
  rw [validID_iff, validName_iff]
  simp only [not_or, ← UInt32.toNat_inj, gt_iff_lt, UInt32.lt_iff_toNat_lt, kMaximumChannels,
    UInt32.reduceToNat, not_lt]
  constructor
  · rintro ⟨length, characters, size, others, ⟨_, _⟩, ⟨_, _⟩, ⟨_, _⟩⟩
    exact ⟨⟨length, characters⟩, ⟨size, others⟩, by omega⟩
  · rintro ⟨⟨length, characters⟩, ⟨size, others⟩, ranges⟩
    exact ⟨length, characters, size, others, by omega, by omega, by omega⟩

theorem DeviceFields.parse_words_of_not_acceptable {fields : DeviceFields}
    (refused : ¬ fields.Acceptable) :
    DeviceFields.parse fields.words = none := by
  rw [DeviceFields.acceptable_iff] at refused
  simp only [DeviceFields.words, DeviceFields.parse, parseUInt32_toString]
  split
  · rename_i checked
    have checked := Bool.and_eq_true_iff.mp checked
    rw [if_pos]
    by_contra ranges
    exact refused ⟨checked.1, checked.2, ranges⟩
  · rfl

theorem DeviceFields.Acceptable.valid {fields : DeviceFields} (acceptable : fields.Acceptable)
    (nul : '\x00' ∉ fields.name.toList) : fields.Valid :=
  have ⟨id, name, ranges⟩ := (DeviceFields.acceptable_iff fields).mp acceptable
  ⟨id, name, nul, ranges⟩

/-! ## The new device -/

/-- The driver has one active device more than before, in a slot that was free. -/
structure Added (driver next : Driver) (fields : DeviceFields) : Prop where
  listed : next.listed = driver.listed ++ [fields]
  active : next.active = driver.active ++ [driver.allocated]
  slot : ∃ slot < kMaximumDevices, driver.slots slot = none ∧
    next.slots = Function.update driver.slots slot (some driver.allocated)
  others : ∀ other, other ≠ driver.allocated → next.devices other = driver.devices other

/-- A driver that can take a device with an id: its active devices are objects
that it has made, none of them has the id, and there are a free slot and a host. -/
structure Ready (driver : Driver) (id : String) : Prop where
  made : ∀ pointer ∈ driver.active, pointer < driver.allocated
  new : id ∉ driver.listed.map DeviceFields.id
  free : ∃ slot < kMaximumDevices, driver.slots slot = none
  hosted : driver.hosted = true

/-- In every run of concurrent calls, the active devices are made by the driver. -/
theorem ready_of_reachable {storage : Option String} {copyStatus : OSStatus}
    {allocates : Nat → Bool} {system : DriverSystem} {id : String}
    (reached : LabelledSteps.Reachable DriverSystem.step
      (DriverSystem.idle ((Driver.loaded storage).initializeDriver copyStatus allocates).2) system)
    (new : id ∉ system.driver.listed.map DeviceFields.id)
    (free : ∃ slot < kMaximumDevices, system.driver.slots slot = none)
    (hosted : system.driver.hosted = true) : Ready system.driver id := by
  have sound : system.Sound False :=
    (DriverSystem.sound_invariant storage copyStatus allocates
      fun stepped => ⟨stepped, False.elim⟩).reachable reached
  exact ⟨sound.table.active_lt, new, free, hosted⟩

theorem Ready.findByIDLocked {driver : Driver} {id : String} (ready : Ready driver id) :
    driver.findByIDLocked id = none := by
  refine List.find?_eq_none.mpr fun pointer member same => ready.new ?_
  exact List.mem_map.mpr ⟨_, List.mem_map_of_mem member, of_decide_eq_true same⟩

theorem Ready.freeSlot {driver : Driver} {id : String} (ready : Ready driver id) :
    ∃ slot, driver.freeSlot = some slot ∧ slot < kMaximumDevices ∧ driver.slots slot = none := by
  obtain ⟨slot, small, empty⟩ := ready.free
  have found : driver.freeSlot.isSome = true :=
    List.find?_isSome.mpr ⟨slot, List.mem_range.mpr small, Option.isNone_iff_eq_none.mpr empty⟩
  obtain ⟨first, free⟩ := Option.isSome_iff_exists.mp found
  have taken := List.find?_range_eq_some.mp free
  exact ⟨first, free, List.mem_range.mp taken.2.1, Option.isNone_iff_eq_none.mp taken.1⟩

/-- The driver takes exactly the acceptable devices. -/
theorem Ready.addDeviceLocked {driver : Driver} {fields : DeviceFields}
    (ready : Ready driver fields.id) (nul : '\x00' ∉ fields.name.toList) :
    (fields.Acceptable ∧ ∃ next,
        driver.addDeviceLocked fields.words true true .noErr = (.noErr, next) ∧
          Added driver next fields) ∨
      (¬ fields.Acceptable ∧ ∃ status, status ≠ .noErr ∧
        driver.addDeviceLocked fields.words true true .noErr = (status, driver)) := by
  by_cases acceptable : fields.Acceptable
  · obtain ⟨slot, free, small, empty⟩ := ready.freeSlot
    refine Or.inl ⟨acceptable, ?_⟩
    rw [Driver.addDeviceLocked, Driver.prepareDevice,
      DeviceFields.parse_words (acceptable.valid nul)]
    dsimp only
    rw [ready.findByIDLocked, free]
    have stored : ∀ device, ((driver.appendDevice device).publishDevice
        driver.allocated).persistLocked .noErr = (.noErr,
          { (driver.appendDevice device).publishDevice driver.allocated with
            storage := some ((driver.appendDevice device).publishDevice
              driver.allocated).inventoryLocked }) := fun device => if_pos ready.hosted
    simp only [if_true, stored]
    refine ⟨_, rfl, ?_, rfl, ⟨slot, small, empty, ?_⟩, fun other differ => ?_⟩
    · exact Driver.listed_appendDevice ready.made
    · change Function.update driver.slots _ _ = _
      rw [Driver.devices_appendDevice_self]
    · exact Driver.devices_appendDevice_of_ne driver _ differ
  · refine Or.inr ⟨acceptable, .illegalOperationError, by decide, ?_⟩
    rw [Driver.addDeviceLocked, Driver.prepareDevice,
      DeviceFields.parse_words_of_not_acceptable acceptable]

/-- The commands of the daemon mean in the driver what they mean in the daemon. -/
theorem driver_commands_agree :
    (∀ (id name : String) (inputChannels outputChannels sampleRate : UInt32) (command : String),
      createCommand id name inputChannels outputChannels sampleRate = .ok command →
      split '\t' (toCString command) =
        ["create", id, name, toString inputChannels.toNat, toString outputChannels.toNat,
          toString sampleRate.toNat] ∧
      ∀ driver : Driver, Ready driver id →
        ((∃ next, driver.addDeviceLocked (split '\t' (toCString command)) true true .noErr =
              (.noErr, next) ∧
            Added driver next ⟨id, name, inputChannels, outputChannels, sampleRate⟩) ↔
          DeviceFields.Acceptable ⟨id, name, inputChannels, outputChannels, sampleRate⟩) ∧
        (¬ DeviceFields.Acceptable ⟨id, name, inputChannels, outputChannels, sampleRate⟩ →
          ∃ status, status ≠ .noErr ∧
            driver.addDeviceLocked (split '\t' (toCString command)) true true .noErr =
              (status, driver))) ∧
    ∀ id command, deleteCommand id = .ok command →
      split '\t' (toCString command) = ["delete", id] := by
  refine ⟨fun id name input output rate command sent => ?_, fun _ _ => split_deleteCommand⟩
  have found := split_createCommand sent
  have nul := (createCommand_eq_ok_iff.mp sent).2.1.nul
  refine ⟨found, fun driver ready => ?_⟩
  rw [found]
  rcases @Ready.addDeviceLocked driver ⟨id, name, input, output, rate⟩ ready nul with
    ⟨acceptable, added⟩ | ⟨refused, status, failed, unchanged⟩
  · exact ⟨iff_of_true added acceptable, fun refused => absurd acceptable refused⟩
  · refine ⟨iff_of_false ?_ refused, fun _ => ⟨status, failed, unchanged⟩⟩
    rintro ⟨next, accepted, -⟩
    rw [unchanged] at accepted
    exact failed (congrArg Prod.fst accepted)

/-- A fresh driver gets the command for a device that it accepts. -/
theorem driver_commands_agree_cable :
    let driver := { Driver.loaded none with hosted := true }
    let command := "create\tcable\tCable\t2\t2\t48000"
    split '\t' (toCString command) = ["create", "cable", "Cable", "2", "2", "48000"] ∧
      ((∃ next, driver.addDeviceLocked (split '\t' (toCString command)) true true .noErr =
          (.noErr, next) ∧ Added driver next ⟨"cable", "Cable", 2, 2, 48000⟩) ↔
        DeviceFields.Acceptable ⟨"cable", "Cable", 2, 2, 48000⟩) := by
  have agree := driver_commands_agree.1 "cable" "Cable" 2 2 48000
    "create\tcable\tCable\t2\t2\t48000" (by decide)
  refine ⟨agree.1, (agree.2 { Driver.loaded none with hosted := true } ?_).1⟩
  exact ⟨nofun, nofun, ⟨0, by decide, rfl⟩, rfl⟩

end VCable
