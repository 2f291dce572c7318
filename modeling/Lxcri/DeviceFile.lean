import Lxcri.Devices

/-!
`createDeviceFile` writes `devices.txt` for the mount hook: one line
`"%s %s %d %d %o %d:%d\n"` per device, with mode 0600 and the process's
uid and gid standing in for the device's own when those are nil. The file is
created at once here; a failure of one `Fprintf` after the file was opened is
not modelled. `parseDeviceFile` is the reader this format calls for: it splits
at newlines and single spaces. It reads back every list whose paths and types
have neither, and nothing in the runtime rules those out.
-/

namespace Lxcri.DeviceFile
open Text Config

structure ResolvedDevice where
  path : String
  type : String
  major : Int
  minor : Int
  mode : Nat
  uid : Nat
  gid : Nat
  deriving DecidableEq, Repr

def deviceLine (user : User) (d : LinuxDevice) : String :=
  d.path ++ " " ++ d.type ++ " " ++ formatInt d.major ++ " " ++ formatInt d.minor ++ " " ++
    formatUint 8 (d.fileMode.getD 0o600) ++ " " ++ formatUint 10 (d.uid.getD user.uid) ++ ":" ++
    formatUint 10 (d.gid.getD user.gid) ++ "\n"

def deviceFile (user : User) (devices : List LinuxDevice) : String :=
  String.join (devices.map (deviceLine user))

def createDeviceFile (host : Host) (dst : String) (c : Container) : ConfigM Unit :=
  match c.linux.devices with
  | none => pure ()
  | some devices => createFile host dst (deviceFile c.process.user devices)

def resolve (user : User) (d : LinuxDevice) : ResolvedDevice :=
  ⟨d.path, d.type, d.major, d.minor, d.fileMode.getD 0o600, d.uid.getD user.uid, d.gid.getD user.gid⟩

def fields (user : User) (d : LinuxDevice) : List String :=
  [d.path, d.type, formatInt d.major, formatInt d.minor, formatUint 8 (d.fileMode.getD 0o600),
    formatUint 10 (d.uid.getD user.uid) ++ ":" ++ formatUint 10 (d.gid.getD user.gid)]

def parseIds (ids : List Char) : Option (Nat × Nat) :=
  match ids.splitOn ':' with
  | [uid, gid] => do
      let uid ← parseUint 10 uid
      let gid ← parseUint 10 gid
      pure (uid, gid)
  | _ => none

def parseDeviceLine (line : List Char) : Option ResolvedDevice :=
  match line.splitOn ' ' with
  | [path, type, major, minor, mode, ids] => do
      let major ← parseInt major
      let minor ← parseInt minor
      let mode ← parseUint 8 mode
      let (uid, gid) ← parseIds ids
      pure ⟨⟨path⟩, ⟨type⟩, major, minor, mode, uid, gid⟩
  | _ => none

def parseDeviceFile (content : String) : Option (List ResolvedDevice) :=
  match (content.data.splitOn '\n').reverse with
  | [] :: lines => lines.reverse.mapM parseDeviceLine
  | _ => none

/-- Neither separator of the format occurs in a device's path or type. -/
def Plain (d : LinuxDevice) : Prop :=
  ' ' ∉ d.path.data ∧ '\n' ∉ d.path.data ∧ ' ' ∉ d.type.data ∧ '\n' ∉ d.type.data

instance (d : LinuxDevice) : Decidable (Plain d) :=
  inferInstanceAs (Decidable (_ ∧ _ ∧ _ ∧ _))

/-! ### The fields of a line -/

theorem formatUint_digits {base : Nat} (small : 2 ≤ base) (wide : base ≤ 10) (n : Nat) :
    ∀ c ∈ (formatUint base n).data, IsDigitIn base c = true := by
  intro c member
  simpa using toDigitsCore_digits small wide _ _ _ c member

theorem formatInt_chars (i : Int) : ∀ c ∈ (formatInt i).data, c = '-' ∨ IsDigitIn 10 c = true := by
  intro c member
  cases i with
  | ofNat m => exact .inr (formatUint_digits (by decide) (by decide) m c member)
  | negSucc m =>
      simp only [formatInt, Int.repr, String.data_append] at member
      rcases List.mem_append.mp member with minus | digits
      · exact .inl (by simpa using minus)
      · exact .inr (formatUint_digits (by decide) (by decide) (m + 1) c digits)

theorem digit_not_separator {base : Nat} {c : Char} (digit : IsDigitIn base c = true) :
    c ≠ ' ' ∧ c ≠ '\n' ∧ c ≠ ':' := by
  refine ⟨?_, ?_, ?_⟩ <;> rintro rfl <;> simp [IsDigitIn, Char.isDigit] at digit

theorem number_not_separator {c : Char} (number : c = '-' ∨ IsDigitIn 10 c = true) :
    c ≠ ' ' ∧ c ≠ '\n' ∧ c ≠ ':' := by
  rcases number with rfl | digit
  · decide
  · exact digit_not_separator digit

theorem ids_not_space (uid gid : Nat) :
    ∀ c ∈ (formatUint 10 uid ++ ":" ++ formatUint 10 gid).data, c ≠ ' ' ∧ c ≠ '\n' := by
  intro c member
  simp only [String.data_append, List.mem_append] at member
  rcases member with (early | colon) | late
  · exact (digit_not_separator (formatUint_digits (by decide) (by decide) uid c early)).imp_right And.left
  · simp at colon; subst colon; decide
  · exact (digit_not_separator (formatUint_digits (by decide) (by decide) gid c late)).imp_right And.left

theorem fields_plain (user : User) (d : LinuxDevice) (plain : Plain d) :
    ∀ f ∈ fields user d, ' ' ∉ f.data ∧ '\n' ∉ f.data := by
  have number : ∀ i : Int, ' ' ∉ (formatInt i).data ∧ '\n' ∉ (formatInt i).data := fun i =>
    ⟨fun inside => (number_not_separator (formatInt_chars i _ inside)).1 rfl,
     fun inside => (number_not_separator (formatInt_chars i _ inside)).2.1 rfl⟩
  have octal : ' ' ∉ (formatUint 8 (d.fileMode.getD 0o600)).data ∧
      '\n' ∉ (formatUint 8 (d.fileMode.getD 0o600)).data := by
    have digits := formatUint_digits (show 2 ≤ 8 by decide) (show 8 ≤ 10 by decide)
      (d.fileMode.getD 0o600)
    exact ⟨fun inside => (digit_not_separator (digits _ inside)).1 rfl,
      fun inside => (digit_not_separator (digits _ inside)).2.1 rfl⟩
  have ids := ids_not_space (d.uid.getD user.uid) (d.gid.getD user.gid)
  simp only [fields, List.mem_cons, List.mem_singleton, List.not_mem_nil, or_false]
  rintro f (rfl | rfl | rfl | rfl | rfl | rfl)
  · exact ⟨plain.1, plain.2.1⟩
  · exact ⟨plain.2.2.1, plain.2.2.2⟩
  · exact number d.major
  · exact number d.minor
  · exact octal
  · exact ⟨fun inside => (ids _ inside).1 rfl, fun inside => (ids _ inside).2 rfl⟩

/-! ### Reading the file back -/

def lineText (user : User) (d : LinuxDevice) : List Char :=
  [' '].intercalate ((fields user d).map String.data)

theorem deviceLine_data (user : User) (d : LinuxDevice) :
    (deviceLine user d).data = lineText user d ++ ['\n'] := by
  simp [deviceLine, lineText, fields, List.intercalate, List.intersperse_cons_cons]

theorem parseUint_formatUint {base : Nat} (small : 2 ≤ base) (wide : base ≤ 10) (n : Nat) :
    parseUint base (formatUint base n).data = some n :=
  parseUint_toDigits small wide n

theorem parseInt_formatInt (i : Int) : parseInt (formatInt i).data = some i := parseInt_repr i

theorem parseIds_ids (uid gid : Nat) :
    parseIds ((formatUint 10 uid).data ++ ':' :: (formatUint 10 gid).data) = some (uid, gid) := by
  have noColon : ∀ n : Nat, ∀ c ∈ (formatUint 10 n).data, ¬(c == ':') = true := by
    intro n c member same
    exact (digit_not_separator (formatUint_digits (by decide) (by decide) n c member)).2.2
      (beq_iff_eq.mp same)
  have split : ((formatUint 10 uid).data ++ ':' :: (formatUint 10 gid).data).splitOn ':' =
      [(formatUint 10 uid).data, (formatUint 10 gid).data] := by
    rw [List.splitOn, List.splitOnP_first _ _ (noColon uid) _ (by decide),
      List.splitOnP_eq_single _ _ (noColon gid)]
  unfold parseIds
  rw [split]
  simp [parseUint_formatUint]

theorem parseDeviceLine_lineText (user : User) (d : LinuxDevice) (plain : Plain d) :
    parseDeviceLine (lineText user d) = some (resolve user d) := by
  have clear := fields_plain user d plain
  have split : (lineText user d).splitOn ' ' = (fields user d).map String.data :=
    List.splitOn_intercalate _ ' ' (by simpa using fun f member => (clear f member).1) (by simp [fields])
  simp only [parseDeviceLine, split]
  simp [fields, parseInt_formatInt, parseUint_formatUint, parseIds_ids, resolve]

theorem mapM_map_eq_some {α β γ : Type} (f : β → Option γ) (h : α → β) (g : α → γ) :
    ∀ xs : List α, (∀ x ∈ xs, f (h x) = some (g x)) → (xs.map h).mapM f = some (xs.map g)
  | [], _ => rfl
  | x :: rest, each => by
      simp only [List.map_cons, List.mapM_cons, each x (List.mem_cons_self _ _),
        mapM_map_eq_some f h g rest fun y member => each y (List.mem_cons_of_mem _ member)]
      rfl

theorem deviceFile_lines (user : User) (devices : List LinuxDevice)
    (plain : ∀ d ∈ devices, Plain d) :
    (deviceFile user devices).data.splitOn '\n' = devices.map (lineText user) ++ [[]] := by
  have content : (deviceFile user devices).data = ((devices.map (lineText user)).map (· ++ ['\n'])).flatten := by
    simp [deviceFile, String.data_join, deviceLine_data, Function.comp_def]
  rw [content, splitOn_terminated]
  intro line member inside
  obtain ⟨d, dMember, rfl⟩ := List.mem_map.mp member
  rcases mem_intercalate inside with space | ⟨f, fMember, found⟩
  · exact absurd space (by decide)
  · obtain ⟨field, fieldMember, rfl⟩ := List.mem_map.mp fMember
    exact (fields_plain user d (plain d dMember) field fieldMember).2 found

theorem parseDeviceFile_deviceFile (user : User) (devices : List LinuxDevice)
    (plain : ∀ d ∈ devices, Plain d) :
    parseDeviceFile (deviceFile user devices) = some (devices.map (resolve user)) := by
  simp only [parseDeviceFile, deviceFile_lines user devices plain, List.reverse_append,
    List.reverse_singleton, List.singleton_append, List.reverse_reverse]
  exact mapM_map_eq_some _ _ _ devices fun d member =>
    parseDeviceLine_lineText user d (plain d member)

/-- With plain paths and types, the file is one line per device, six fields a
line, and reads back to the devices with their defaults filled in. -/
theorem deviceFile_decodes (user : User) (devices : List LinuxDevice)
    (plain : ∀ d ∈ devices, Plain d) :
    (deviceFile user devices).data.splitOn '\n' = devices.map (lineText user) ++ [[]] ∧
      (∀ d ∈ devices, (lineText user d).splitOn ' ' = (fields user d).map String.data) ∧
      parseDeviceFile (deviceFile user devices) = some (devices.map (resolve user)) ∧
      ∀ other, (∀ d ∈ other, Plain d) → deviceFile user other = deviceFile user devices →
        other.map (resolve user) = devices.map (resolve user) := by
  refine ⟨deviceFile_lines user devices plain, ?_, parseDeviceFile_deviceFile user devices plain, ?_⟩
  · intro d member
    exact List.splitOn_intercalate _ ' '
      (by simpa using fun f inside => (fields_plain user d (plain d member) f inside).1)
      (by simp [fields])
  · intro other otherPlain same
    have decoded := parseDeviceFile_deviceFile user other otherPlain
    rw [same, parseDeviceFile_deviceFile user devices plain] at decoded
    exact (Option.some.inj decoded).symm

/-- Three devices, with the defaults and with their own modes and owners, for a
process running as 1000:1000. -/
def sampleDevices : List LinuxDevice :=
  [⟨"/dev/null", "c", 1, 3, none, none, none⟩, ⟨"/dev/fuse", "c", 10, 229, some 0o666, some 0, none⟩,
    ⟨"/dev/loop0", "b", 7, 0, some 0o640, some 6, some 6⟩]

theorem deviceFile_decodes_sample :
    (∀ d ∈ sampleDevices, Plain d) ∧
      deviceFile ⟨1000, 1000⟩ sampleDevices =
        "/dev/null c 1 3 600 1000:1000\n/dev/fuse c 10 229 666 0:1000\n/dev/loop0 b 7 0 640 6:6\n" ∧
      parseDeviceFile (deviceFile ⟨1000, 1000⟩ sampleDevices) =
        some [⟨"/dev/null", "c", 1, 3, 0o600, 1000, 1000⟩, ⟨"/dev/fuse", "c", 10, 229, 0o666, 0, 1000⟩,
          ⟨"/dev/loop0", "b", 7, 0, 0o640, 6, 6⟩] :=
  ⟨by decide, by decide, (deviceFile_decodes ⟨1000, 1000⟩ sampleDevices (by decide)).2.2.1⟩

/-- A space in a path shifts the fields: two different devices print the same line. -/
theorem deviceFile_space_collides :
    deviceFile ⟨0, 0⟩ [⟨"/dev/a b", "c", 1, 3, none, none, none⟩] =
        deviceFile ⟨0, 0⟩ [⟨"/dev/a", "b c", 1, 3, none, none, none⟩] ∧
      [⟨"/dev/a b", "c", 1, 3, none, none, none⟩].map (resolve ⟨0, 0⟩) ≠
        [(⟨"/dev/a", "b c", 1, 3, none, none, none⟩ : LinuxDevice)].map (resolve ⟨0, 0⟩) := by
  decide

end Lxcri.DeviceFile
