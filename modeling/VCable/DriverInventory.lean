import Mathlib.Data.List.TakeWhile
import VCable.DriverTableRuns
import VCable.ProtocolRoundTrip
import VCable.SeparatedLists

/-!
# The inventory is read back

The stored text has one line for each listed device.  No field of a device that
a create command has made holds a separator, so splitting the text at newlines
and each line at tabs finds the fields again, and a fresh driver accepts every
line.
-/

namespace VCable

open Utf8Text

/-! ## Numbers -/

theorem le_ofDigitChars (characters : List Char) (total : Nat) :
    total ≤ Nat.ofDigitChars 10 characters total := by
  induction characters generalizing total with
  | nil => exact (Nat.ofDigitChars_nil).ge
  | cons character characters ih =>
      rw [Nat.ofDigitChars_cons]
      exact (show total ≤ 10 * total + (character.toNat - '0'.toNat) by omega).trans (ih _)

theorem parseUInt32From_digits {characters : List Char}
    (digits : ∀ character ∈ characters, character.isDigit = true) {total : Nat}
    (small : Nat.ofDigitChars 10 characters total ≤ 4294967295) :
    parseUInt32From total characters = some (Nat.ofDigitChars 10 characters total) := by
  induction characters generalizing total with
  | nil => rfl
  | cons character characters ih =>
      obtain ⟨low, high⟩ : '0' ≤ character ∧ character ≤ '9' := by
        have digit := digits character List.mem_cons_self
        simp only [Char.isDigit, Bool.and_eq_true, decide_eq_true_eq] at digit
        exact digit
      rw [Nat.ofDigitChars_cons, Nat.mul_comm 10] at small
      rw [parseUInt32From, Nat.ofDigitChars_cons, Nat.mul_comm 10,
        if_neg (by simp only [not_or, Char.not_lt]; exact ⟨low, high⟩)]
      dsimp only
      rw [if_neg (Nat.not_lt.mpr ((le_ofDigitChars characters _).trans small))]
      exact ih (fun other member => digits other (List.mem_cons_of_mem _ member)) small

/-- A printed number is parsed back. -/
theorem parseUInt32_toString (number : UInt32) :
    parseUInt32 (toString number.toNat) = some number := by
  have text : (toString number.toNat).toList = Nat.toDigits 10 number.toNat := Nat.toList_repr
  have nonempty : toString number.toNat ≠ "" := by simp
  have below : number.toNat ≤ 4294967295 := Nat.le_of_lt_succ number.toNat_lt
  rw [parseUInt32, if_neg nonempty, text, parseUInt32From_digits (fun _ member =>
    Nat.isDigit_of_mem_toDigits (by decide) (by decide) member)]
  · rw [Nat.ofDigitChars_ten_toDigits, Option.map_some, UInt32.ofNat_toNat]
  · rwa [Nat.ofDigitChars_ten_toDigits]

/-! ## Fields -/

namespace DeviceFields

/-- What the fields of every created device have. -/
structure Valid (fields : DeviceFields) : Prop where
  id : validID fields.id = true
  name : validName fields.name = true
  name_nul : '\x00' ∉ fields.name.toList
  ranges : ¬ (fields.inputChannels = 0 ∨ fields.outputChannels = 0 ∨
    fields.inputChannels > kMaximumChannels ∨ fields.outputChannels > kMaximumChannels ∨
    fields.sampleRate < 8000 ∨ fields.sampleRate > 768000)

/-- The fields as texts. -/
def words (fields : DeviceFields) : List String :=
  ["create", fields.id, fields.name, toString fields.inputChannels.toNat,
    toString fields.outputChannels.toNat, toString fields.sampleRate.toNat]

/-- A line of the inventory without its end. -/
def body (fields : DeviceFields) : String :=
  "\t".intercalate fields.words

theorem line_eq (fields : DeviceFields) : fields.line = fields.body ++ "\n" :=
  rfl

/-- A command is accepted if its fields are valid. -/
theorem parse_eq_some {fields : DeviceFields} {texts : List String}
    (accepted : parse texts = some fields) :
    ∃ input output rate, texts = ["create", fields.id, fields.name, input, output, rate] ∧
      validID fields.id = true ∧ validName fields.name = true ∧
      ¬ (fields.inputChannels = 0 ∨ fields.outputChannels = 0 ∨
        fields.inputChannels > kMaximumChannels ∨ fields.outputChannels > kMaximumChannels ∨
        fields.sampleRate < 8000 ∨ fields.sampleRate > 768000) := by
  unfold parse at accepted
  split at accepted
  · rename_i id name input output rate
    split at accepted
    · rename_i checked
      obtain ⟨idValid, nameValid⟩ := Bool.and_eq_true_iff.mp checked
      split at accepted
      · split at accepted
        · cases accepted
        · rename_i ranges
          cases accepted
          exact ⟨input, output, rate, rfl, idValid, nameValid, ranges⟩
      · cases accepted
    · cases accepted
  · cases accepted

theorem parse_words {fields : DeviceFields} (valid : fields.Valid) :
    parse fields.words = some fields := by
  simp only [words, parse, valid.id, valid.name, Bool.and_self, if_true, parseUInt32_toString]
  exact if_neg valid.ranges

theorem nul_not_mem_toCString (text : String) : '\x00' ∉ (toCString text).toList := by
  intro member
  rw [toCString, String.toList_ofList] at member
  exact absurd (List.mem_takeWhile_imp member) (by decide)

theorem toCString_eq_self {text : String} (free : '\x00' ∉ text.toList) :
    toCString text = text := by
  rw [toCString, List.takeWhile_eq_self_iff.mpr, String.ofList_toList]
  intro character member
  exact decide_eq_true fun nul => free (nul ▸ member)

/-- A create command from a C string makes a device with valid fields. -/
theorem valid_of_parse {fields : DeviceFields} {text : String}
    (accepted : parse (split '\t' (toCString text)) = some fields) : fields.Valid := by
  obtain ⟨input, output, rate, texts, idValid, nameValid, ranges⟩ := parse_eq_some accepted
  refine ⟨idValid, nameValid, fun nul => nul_not_mem_toCString text ?_, ranges⟩
  have member : fields.name ∈ split '\t' (toCString text) := by
    rw [texts]
    simp
  obtain ⟨piece, pieceMember, same⟩ := List.mem_map.mp member
  rw [← same, String.toList_ofList] at nul
  exact SeparatedLists.mem_of_mem_splitOn pieceMember nul

/-- The characters that end a text, a line or a field. -/
def IsSeparator (character : Char) : Prop :=
  character = '\x00' ∨ character = '\t' ∨ character = '\n'

theorem not_isSeparator_of_printable {character : Char} (printable : IsPrintable character) :
    ¬ IsSeparator character := by
  rintro (rfl | rfl | rfl) <;> revert printable <;> decide

theorem validID_free {id : String} (valid : validID id = true) {character : Char}
    (member : character ∈ id.toList) : ¬ IsSeparator character := by
  have allowed := (Bool.and_eq_true_iff.mp valid).2
  rw [List.all_eq_true] at allowed
  rintro (rfl | rfl | rfl)
  · exact absurd (allowed _ (toUInt8_mem_bytes member (by decide))) (by decide)
  · exact absurd (allowed _ (toUInt8_mem_bytes member (by decide))) (by decide)
  · exact absurd (allowed _ (toUInt8_mem_bytes member (by decide))) (by decide)

/-- No field of a valid device holds a separator. -/
theorem words_free {fields : DeviceFields} (valid : fields.Valid) :
    ∀ word ∈ fields.words, ∀ character ∈ word.toList, ¬ IsSeparator character := by
  have numbers : ∀ number : Nat, ∀ character ∈ (toString number).toList,
      ¬ IsSeparator character := fun number character member =>
    not_isSeparator_of_printable (printable_natToString number character member)
  have name : ∀ character ∈ fields.name.toList, ¬ IsSeparator character := by
    have allowed := (Bool.and_eq_true_iff.mp valid.name).2
    rw [List.all_eq_true] at allowed
    rintro character member (rfl | rfl | rfl)
    · exact valid.name_nul member
    · exact absurd (allowed _ member) (by decide)
    · exact absurd (allowed _ member) (by decide)
  have keyword : ∀ character ∈ "create".toList, ¬ IsSeparator character := fun character member =>
    not_isSeparator_of_printable ((by decide : Printable "create") character member)
  intro word member
  simp only [words, List.mem_cons, List.not_mem_nil, or_false] at member
  rcases member with rfl | rfl | rfl | rfl | rfl | rfl
  · exact keyword
  · exact fun character inside => validID_free valid.id inside
  · exact name
  · exact numbers _
  · exact numbers _
  · exact numbers _

theorem split_body {fields : DeviceFields} (valid : fields.Valid) :
    split '\t' fields.body = fields.words := by
  refine split_intercalate (by decide) (List.cons_ne_nil _ _) fun word member tab => ?_
  exact words_free valid word member '\t' tab (Or.inr (Or.inl rfl))

theorem body_free {fields : DeviceFields} (valid : fields.Valid) {character : Char}
    (member : character ∈ fields.body.toList) : character ≠ '\x00' ∧ character ≠ '\n' := by
  rcases mem_intercalate member with tab | ⟨word, wordMember, inside⟩
  · rw [show "\t".toList = ['\t'] by decide, List.mem_singleton] at tab
    rw [tab]
    decide
  · have free := words_free valid word wordMember character inside
    exact ⟨fun nul => free (Or.inl nul), fun newline => free (Or.inr (Or.inr newline))⟩

theorem body_ne_empty (fields : DeviceFields) : fields.body ≠ "" := by
  intro empty
  have long : fields.body.toList.length = 0 := by rw [empty]; rfl
  simp [body, words] at long

end DeviceFields

/-! ## Lines -/

open DeviceFields

/-- A list that a driver can have written: it creates every device of it again. -/
structure Storable (listed : List DeviceFields) : Prop where
  valid : ∀ fields ∈ listed, fields.Valid
  distinct : (listed.map DeviceFields.id).Nodup
  few : listed.length ≤ kMaximumDevices

/-- The text of a list of devices. -/
def inventoryText (listed : List DeviceFields) : String :=
  String.join (listed.map DeviceFields.line)

theorem toList_inventoryText (listed : List DeviceFields) :
    (inventoryText listed).toList =
      ((listed.map fun fields => fields.body.toList).flatMap (· ++ ['\n'])) := by
  rw [inventoryText, String.toList_join, List.flatMap_map, List.flatMap_map]
  refine List.flatMap_congr fun fields _ => ?_
  rw [line_eq, String.toList_append]
  rfl

/-- The lines of a stored inventory. -/
theorem split_inventoryText {listed : List DeviceFields}
    (valid : ∀ fields ∈ listed, fields.Valid) :
    split '\n' (toCString (inventoryText listed)) = listed.map DeviceFields.body ++ [""] := by
  have nulFree : '\x00' ∉ (inventoryText listed).toList := by
    rw [toList_inventoryText]
    intro member
    obtain ⟨line, lineMember, inside⟩ := List.mem_flatMap.mp member
    obtain ⟨fields, listedMember, rfl⟩ := List.mem_map.mp lineMember
    rcases List.mem_append.mp inside with nul | ended
    · exact (body_free (valid fields listedMember) nul).1 rfl
    · exact absurd (List.mem_singleton.mp ended) (by decide)
  have newlineFree : ∀ line ∈ listed.map fun fields => fields.body.toList, '\n' ∉ line := by
    intro line lineMember newline
    obtain ⟨fields, listedMember, rfl⟩ := List.mem_map.mp lineMember
    exact (body_free (valid fields listedMember) newline).2 rfl
  rw [toCString_eq_self nulFree, split, toList_inventoryText,
    SeparatedLists.splitOn_flatMap_ended newlineFree, List.map_append, List.map_map]
  exact congrArg (· ++ [""]) (List.map_congr_left fun fields _ => String.ofList_toList)

/-! ## Loading -/

namespace Driver

/-- A driver that has only been given devices from the storage. -/
structure Filling (driver : Driver) : Prop where
  active_lt : ∀ pointer ∈ driver.active, pointer < driver.allocated
  beyond : ∀ slot, driver.active.length ≤ slot → driver.slots slot = none

section Filling

variable {driver : Driver} {fields : DeviceFields} {device : Device}

theorem listed_appendDevice (active_lt : ∀ pointer ∈ driver.active, pointer < driver.allocated) :
    (driver.appendDevice device).listed = driver.listed ++ [.ofDevice device] := by
  have older : ∀ pointer ∈ driver.active, DeviceFields.ofDevice
      ((driver.appendDevice device).devices pointer) = .ofDevice (driver.devices pointer) :=
    fun pointer member => congrArg DeviceFields.ofDevice
      (devices_appendDevice_of_ne driver device (Nat.ne_of_lt (active_lt pointer member)))
  change (driver.active ++ [driver.allocated]).map (fun pointer =>
    DeviceFields.ofDevice ((driver.appendDevice device).devices pointer)) = _
  rw [List.map_append, List.map_singleton, devices_appendDevice_self,
    List.map_congr_left older]
  rfl

/-- A device that is read from the storage comes into one of the first free slots. -/
theorem Filling.add (filling : driver.Filling) (near : device.slot ≤ driver.active.length) :
    ((driver.appendDevice device).publishDevice driver.allocated).Filling where
  active_lt := by
    intro pointer member
    rcases List.mem_append.mp member with before | new
    · exact Nat.lt_succ_of_lt (filling.active_lt pointer before)
    · rw [List.mem_singleton.mp new]
      exact Nat.lt_succ_self _
  beyond := by
    intro slot above
    change (driver.active ++ [driver.allocated]).length ≤ slot at above
    rw [List.length_append, List.length_singleton] at above
    have own := congrArg Device.slot (devices_appendDevice_self driver device)
    refine (slots_setSlot_of_ne _ _ ?_).trans (filling.beyond slot (by omega))
    rw [own]
    omega

/-- A fresh driver has a free slot for every line of a storable list. -/
theorem Filling.freeSlot (filling : driver.Filling)
    (room : driver.active.length < kMaximumDevices) :
    ∃ slot, driver.freeSlot = some slot ∧ slot ≤ driver.active.length := by
  have empty : (driver.slots driver.active.length).isNone = true := by
    rw [filling.beyond _ le_rfl]
    rfl
  have found : driver.freeSlot.isSome = true :=
    List.find?_isSome.mpr ⟨driver.active.length, List.mem_range.mpr room, empty⟩
  obtain ⟨slot, free⟩ := Option.isSome_iff_exists.mp found
  refine ⟨slot, free, ?_⟩
  by_contra! above
  have taken := (List.find?_range_eq_some.mp free).2.2 _ above
  rw [empty] at taken
  cases taken

/-- A line of a storable list is accepted, unless there is no memory. -/
theorem Filling.addDeviceLocked (filling : driver.Filling) (valid : fields.Valid)
    (new : fields.id ∉ driver.listed.map DeviceFields.id)
    (room : driver.active.length < kMaximumDevices) (allocates : Bool) (write : OSStatus) :
    (∃ device, .ofDevice device = fields ∧ device.slot ≤ driver.active.length ∧
        driver.addDeviceLocked (split '\t' fields.body) false allocates write =
          (.noErr, (driver.appendDevice device).publishDevice driver.allocated)) ∨
      (allocates = false ∧ ∃ status, status ≠ .noErr ∧
        driver.addDeviceLocked (split '\t' fields.body) false allocates write =
          (status, driver)) := by
  have absent : driver.findByIDLocked fields.id = none := by
    refine List.find?_eq_none.mpr fun pointer member same => new ?_
    refine List.mem_map.mpr ⟨_, List.mem_map_of_mem member, of_decide_eq_true same⟩
  obtain ⟨slot, free, near⟩ := filling.freeSlot room
  rw [split_body valid, Driver.addDeviceLocked, prepareDevice, parse_words valid]
  dsimp only
  rw [absent, free]
  cases allocates with
  | true => exact Or.inl ⟨_, rfl, near, rfl⟩
  | false => exact Or.inr ⟨rfl, .unspecifiedError, by decide, rfl⟩

/-- All lines of a storable list are accepted in their order. -/
theorem Filling.loadLines (filling : driver.Filling) {later : List DeviceFields}
    (storable : Storable (driver.listed ++ later)) (allocates : Nat → Bool) :
    ∃ status next, driver.loadLines allocates (later.map DeviceFields.body ++ [""]) =
        (status, next) ∧ next.storage = driver.storage ∧
      (status = .noErr → next.listed = driver.listed ++ later) ∧
      (status ≠ .noErr → ∃ number, allocates number = false) := by
  induction later generalizing driver with
  | nil =>
      exact ⟨.noErr, driver, rfl, rfl, fun _ => (List.append_nil _).symm, fun failed =>
        absurd rfl failed⟩
  | cons fields later ih =>
      have valid := storable.valid fields (List.mem_append_right _ List.mem_cons_self)
      have new : fields.id ∉ driver.listed.map DeviceFields.id := by
        have distinct := storable.distinct
        rw [List.map_append, List.map_cons] at distinct
        exact fun member => (List.nodup_append.mp distinct).2.2 _ member _ List.mem_cons_self rfl
      have room : driver.active.length < kMaximumDevices := by
        have few := storable.few
        rw [List.length_append, List.length_cons, listed, List.length_map] at few
        omega
      rw [List.map_cons, List.cons_append, Driver.loadLines, if_neg (body_ne_empty fields)]
      rcases filling.addDeviceLocked valid new room (allocates driver.allocated) .noErr with
        ⟨device, same, near, added⟩ | ⟨exhausted, status, failed, refused⟩
      · rw [added]
        have more : ((driver.appendDevice device).publishDevice driver.allocated).listed =
            driver.listed ++ [fields] := same ▸ listed_appendDevice filling.active_lt
        obtain ⟨status, next, loaded, stored, complete, exhausted⟩ :=
          ih (filling.add near) (by rwa [more, List.append_assoc])
        rw [more, List.append_assoc] at complete
        exact ⟨status, next, loaded, stored, complete, exhausted⟩
      · rw [refused]
        cases status with
        | noErr => exact absurd rfl failed
        | _ => exact ⟨_, driver, rfl, rfl, fun same => absurd same failed, fun _ => ⟨_, exhausted⟩⟩

end Filling

/-- A fresh driver reads back what a driver has stored. -/
theorem initializeDriver_inventory {storage : Option String} {listed : List DeviceFields}
    (storable : Storable listed) (stored : storage.getD "" = inventoryText listed)
    (allocates : Nat → Bool) :
    ∃ status next, (loaded storage).initializeDriver .noErr allocates = (status, next) ∧
      next.storage = storage ∧ (status = .noErr → next.listed = listed) ∧
      (status ≠ .noErr → ∃ number, allocates number = false) := by
  rw [initializeDriver, if_pos rfl]
  cases storage with
  | none =>
      have empty : listed = [] := by
        cases listed with
        | nil => rfl
        | cons fields listed =>
            have text := congrArg String.toList stored
            rw [toList_inventoryText, List.map_cons, List.flatMap_cons] at text
            simp at text
      exact ⟨.noErr, _, rfl, rfl, fun _ => empty.symm, fun failed => absurd rfl failed⟩
  | some inventory =>
      change inventory = _ at stored
      subst stored
      have filling : Filling { loaded (some (inventoryText listed)) with hosted := true } :=
        ⟨List.forall_mem_nil _, fun _ _ => rfl⟩
      have read := filling.loadLines storable allocates
      rwa [← split_inventoryText storable.valid] at read

end Driver

end VCable
