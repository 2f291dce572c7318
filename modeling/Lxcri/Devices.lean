import Lxcri.Config

/-!
`ensureDefaultDevices`: the mandatory devices of the runtime spec are added to
the container's device list, each with an allow rule in the device cgroup, and
the ptmx and pts slots are allowed first. The loop tests each default against
the device list it is growing; because the default paths are distinct, a
device it adds never hides a later default, so the result is the declared list
followed by the missing defaults.
-/

namespace Lxcri.Devices

def defaultDevices : List LinuxDevice :=
  [⟨"/dev/null", "c", 1, 3, none, none, none⟩,
   ⟨"/dev/zero", "c", 1, 5, none, none, none⟩,
   ⟨"/dev/full", "c", 1, 7, none, none, none⟩,
   ⟨"/dev/random", "c", 1, 8, none, none, none⟩,
   ⟨"/dev/urandom", "c", 1, 9, none, none, none⟩,
   ⟨"/dev/tty", "c", 5, 0, none, none, none⟩]

def isDeviceEnabled (linux : Linux) (dev : LinuxDevice) : Bool :=
  (linux.devices.getD []).any (·.path == dev.path)

def addDevicePerms (linux : Linux) (devType : String) (major minor : Option Int)
    (access : String) : Linux :=
  { linux with resources := ⟨linux.resources.devices ++ [⟨true, devType, major, minor, access⟩]⟩ }

def addDevice (linux : Linux) (dev : LinuxDevice) (mode uid gid : Nat) (access : String) : Linux :=
  let dev := { dev with fileMode := some mode, uid := some uid, gid := some gid }
  addDevicePerms { linux with devices := some (linux.devices.getD [] ++ [dev]) }
    dev.type (some dev.major) (some dev.minor) access

/-- os.FileMode(0666) -/
def defaultMode : Nat := 0o666

def ensureDevice (user : User) (linux : Linux) (dev : LinuxDevice) : Linux :=
  if isDeviceEnabled linux dev then linux else addDevice linux dev defaultMode user.uid user.gid "rwm"

def ensureDefaultDevices (user : User) (linux : Linux) : Linux :=
  let linux := addDevicePerms linux "c" (some 5) (some 2) "rwm"
  let linux := addDevicePerms linux "c" (some 88) none "rwm"
  defaultDevices.foldl (ensureDevice user) linux

/-! ### What the loop adds -/

def granted (user : User) (dev : LinuxDevice) : LinuxDevice :=
  { dev with fileMode := some defaultMode, uid := some user.uid, gid := some user.gid }

def allowRule (dev : LinuxDevice) : LinuxDeviceCgroup :=
  ⟨true, dev.type, some dev.major, some dev.minor, "rwm"⟩

def ptmxRule : LinuxDeviceCgroup := ⟨true, "c", some 5, some 2, "rwm"⟩

def ptsRule : LinuxDeviceCgroup := ⟨true, "c", some 88, none, "rwm"⟩

def Declares (devices : List LinuxDevice) (dev : LinuxDevice) : Bool :=
  devices.any (·.path == dev.path)

def missing (declared : List LinuxDevice) (defs : List LinuxDevice) : List LinuxDevice :=
  defs.filter fun dev => !Declares declared dev

def Matches (rule : LinuxDeviceCgroup) (dev : LinuxDevice) : Prop :=
  rule.allow = true ∧ rule.type = dev.type ∧ rule.major = some dev.major ∧
    rule.minor = some dev.minor

@[simp] theorem granted_path (user : User) (dev : LinuxDevice) :
    (granted user dev).path = dev.path := rfl

@[simp] theorem addDevicePerms_devices (linux : Linux) (t : String) (major minor : Option Int)
    (access : String) : (addDevicePerms linux t major minor access).devices = linux.devices := rfl

theorem declares_append (xs ys : List LinuxDevice) (dev : LinuxDevice) :
    Declares (xs ++ ys) dev = (Declares xs dev || Declares ys dev) := by
  simp [Declares, List.any_append]

theorem declares_iff (devices : List LinuxDevice) (dev : LinuxDevice) :
    Declares devices dev = true ↔ ∃ d ∈ devices, d.path = dev.path := by
  simp [Declares]

theorem ensureDevice_declared (user : User) (linux : Linux) (dev : LinuxDevice)
    (present : isDeviceEnabled linux dev = true) : ensureDevice user linux dev = linux := by
  simp [ensureDevice, present]

theorem ensureDevice_added (user : User) (linux : Linux) (dev : LinuxDevice)
    (absent : isDeviceEnabled linux dev = false) :
    (ensureDevice user linux dev).devices.getD [] = linux.devices.getD [] ++ [granted user dev] ∧
      (ensureDevice user linux dev).resources.devices =
        linux.resources.devices ++ [allowRule dev] := by
  simp [ensureDevice, absent, addDevice, addDevicePerms, granted, allowRule]

/-- The loop invariant: the list is the declared devices, then devices whose
paths no default still to come has. -/
theorem foldl_ensureDevice (user : User) (declared : List LinuxDevice) :
    ∀ (defs : List LinuxDevice), (defs.map (·.path)).Nodup →
    ∀ (linux : Linux) (added : List LinuxDevice),
      linux.devices.getD [] = declared ++ added →
      (∀ a ∈ added, ∀ dev ∈ defs, a.path ≠ dev.path) →
      (defs.foldl (ensureDevice user) linux).devices.getD [] =
          declared ++ added ++ (missing declared defs).map (granted user) ∧
        (defs.foldl (ensureDevice user) linux).resources.devices =
          linux.resources.devices ++ (missing declared defs).map allowRule
  | [], _, linux, added, shape, _ => by simp [missing, shape]
  | dev :: rest, distinct, linux, added, shape, apart => by
      have restDistinct := (List.nodup_cons.mp distinct).2
      have apartRest : ∀ a ∈ added, ∀ d ∈ rest, a.path ≠ d.path :=
        fun a member d later => apart a member d (List.mem_cons_of_mem _ later)
      have enabled : isDeviceEnabled linux dev = Declares declared dev := by
        have notAdded : Declares added dev = false := by
          simpa [Declares] using fun a member => apart a member dev (List.mem_cons_self _ _)
        simp only [isDeviceEnabled, shape]
        rw [← Declares, declares_append, notAdded, Bool.or_false]
      cases found : Declares declared dev with
      | true =>
          rw [List.foldl_cons, ensureDevice_declared user linux dev (enabled.trans found)]
          simpa [missing, found] using
            foldl_ensureDevice user declared rest restDistinct linux added shape apartRest
      | false =>
          obtain ⟨grown, ruled⟩ := ensureDevice_added user linux dev (enabled.trans found)
          have apartNew : ∀ a ∈ added ++ [granted user dev], ∀ d ∈ rest, a.path ≠ d.path := by
            intro a member d later
            rcases List.mem_append.mp member with old | new
            · exact apartRest a old d later
            · rw [List.mem_singleton.mp new, granted_path]
              intro same
              exact (List.nodup_cons.mp distinct).1 (List.mem_map.mpr ⟨d, later, same.symm⟩)
          have next := foldl_ensureDevice user declared rest restDistinct _ (added ++ [granted user dev])
            (by rw [grown, shape, List.append_assoc]) apartNew
          rw [List.foldl_cons]
          simpa [missing, found, ruled, List.append_assoc] using next

theorem defaultDevices_distinct : (defaultDevices.map (·.path)).Nodup := by decide

/-- Claim-level characterisation: the declared devices followed by the missing
defaults, and the rules followed by ptmx, pts and one rule per added device. -/
theorem ensureDefaultDevices_shape (user : User) (linux : Linux) :
    (ensureDefaultDevices user linux).devices.getD [] =
        linux.devices.getD [] ++ (missing (linux.devices.getD []) defaultDevices).map (granted user) ∧
      (ensureDefaultDevices user linux).resources.devices =
        linux.resources.devices ++ [ptmxRule, ptsRule] ++
          (missing (linux.devices.getD []) defaultDevices).map allowRule := by
  have loop := foldl_ensureDevice user (linux.devices.getD []) defaultDevices defaultDevices_distinct
    (addDevicePerms (addDevicePerms linux "c" (some 5) (some 2) "rwm") "c" (some 88) none "rwm") []
    (by simp) (by simp)
  simpa [ensureDefaultDevices, addDevicePerms, ptmxRule, ptsRule, List.append_assoc] using loop

/-! ### Consequences -/

theorem mem_missing {declared defs : List LinuxDevice} {dev : LinuxDevice} :
    dev ∈ missing declared defs ↔ dev ∈ defs ∧ Declares declared dev = false := by
  simp [missing]

theorem missing_apart {declared defs : List LinuxDevice} {dev : LinuxDevice}
    (added : dev ∈ missing declared defs) : ∀ d ∈ declared, d.path ≠ dev.path := by
  intro d member same
  have := (mem_missing.mp added).2
  rw [← Bool.not_eq_true, declares_iff] at this
  exact this ⟨d, member, same⟩

theorem missing_paths_nodup (declared : List LinuxDevice) {defs : List LinuxDevice}
    (distinct : (defs.map (·.path)).Nodup) :
    (((missing declared defs).map (granted user)).map (·.path)).Nodup := by
  simp only [List.map_map]
  exact (List.filter_sublist defs).map _ |>.nodup (by simpa [Function.comp_def] using distinct)

theorem declared_default_present (user : User) (declared : List LinuxDevice) (dev : LinuxDevice)
    (isDefault : dev ∈ defaultDevices) :
    ∃ d ∈ declared ++ (missing declared defaultDevices).map (granted user), d.path = dev.path := by
  cases found : Declares declared dev with
  | true =>
      obtain ⟨d, member, same⟩ := (declares_iff declared dev).mp found
      exact ⟨d, List.mem_append_left _ member, same⟩
  | false =>
      exact ⟨granted user dev, List.mem_append_right _
        (List.mem_map_of_mem _ (mem_missing.mpr ⟨isDefault, found⟩)), rfl⟩

theorem declares_congr (declared : List LinuxDevice) {d e : LinuxDevice} (same : d.path = e.path) :
    Declares declared d = Declares declared e := by
  simp [Declares, same]

theorem declared_default_not_duplicated (user : User) (declared : List LinuxDevice)
    (dev : LinuxDevice) (present : Declares declared dev = true) :
    (declared ++ (missing declared defaultDevices).map (granted user)).filter (·.path == dev.path) =
      declared.filter (·.path == dev.path) := by
  have none : ((missing declared defaultDevices).map (granted user)).filter
      (·.path == dev.path) = [] := by
    rw [List.filter_eq_nil_iff]
    intro d member same
    obtain ⟨added, addedMember, rfl⟩ := List.mem_map.mp member
    have undeclared := (mem_missing.mp addedMember).2
    rw [declares_congr declared (by simpa using same), present] at undeclared
    exact Bool.noConfusion undeclared
  rw [List.filter_append, none, List.append_nil]

theorem ensured_paths_nodup (user : User) (declared : List LinuxDevice)
    (distinct : (declared.map (·.path)).Nodup) :
    ((declared ++ (missing declared defaultDevices).map (granted user)).map (·.path)).Nodup := by
  rw [List.map_append, List.nodup_append]
  refine ⟨distinct, missing_paths_nodup declared defaultDevices_distinct, ?_⟩
  intro path early late
  obtain ⟨d, member, rfl⟩ := List.mem_map.mp early
  obtain ⟨g, added, same⟩ := List.mem_map.mp late
  obtain ⟨dev, addedMember, rfl⟩ := List.mem_map.mp added
  exact missing_apart addedMember d member (by simpa using same.symm)

theorem ensured_devices_allowed (user : User) (declared : List LinuxDevice)
    (rules : List LinuxDeviceCgroup) (covered : ∀ d ∈ declared, ∃ r ∈ rules, Matches r d) :
    ∀ d ∈ declared ++ (missing declared defaultDevices).map (granted user),
      ∃ r ∈ rules ++ [ptmxRule, ptsRule] ++ (missing declared defaultDevices).map allowRule,
        Matches r d := by
  intro d member
  rcases List.mem_append.mp member with old | new
  · obtain ⟨r, rule, matching⟩ := covered d old
    exact ⟨r, List.mem_append_left _ (List.mem_append_left _ rule), matching⟩
  · obtain ⟨dev, addedMember, rfl⟩ := List.mem_map.mp new
    exact ⟨allowRule dev, List.mem_append_right _ (List.mem_map_of_mem _ addedMember),
      rfl, rfl, rfl, rfl⟩

theorem ensureDefaultDevices_adds_missing_defaults (user : User) (linux : Linux) :
    let declared := linux.devices.getD []
    let result := ensureDefaultDevices user linux
    result.devices.getD [] = declared ++ (missing declared defaultDevices).map (granted user) ∧
    result.resources.devices = linux.resources.devices ++ [ptmxRule, ptsRule] ++
      (missing declared defaultDevices).map allowRule ∧
    (∀ dev ∈ defaultDevices, ∃ d ∈ result.devices.getD [], d.path = dev.path) ∧
    (∀ dev ∈ defaultDevices, Declares declared dev = true →
      (result.devices.getD []).filter (·.path == dev.path) = declared.filter (·.path == dev.path)) ∧
    ((declared.map (·.path)).Nodup → ((result.devices.getD []).map (·.path)).Nodup) ∧
    ((∀ d ∈ declared, ∃ r ∈ linux.resources.devices, Matches r d) →
      ∀ d ∈ result.devices.getD [], ∃ r ∈ result.resources.devices, Matches r d) := by
  intro declared result
  obtain ⟨devices, rules⟩ := ensureDefaultDevices_shape user linux
  refine ⟨devices, rules, ?_, ?_, ?_, ?_⟩
  · intro dev isDefault
    rw [devices]
    exact declared_default_present user declared dev isDefault
  · intro dev _ present
    rw [devices]
    exact declared_default_not_duplicated user declared dev present
  · intro distinct
    rw [devices]
    exact ensured_paths_nodup user declared distinct
  · intro covered
    rw [devices, rules]
    exact ensured_devices_allowed user declared _ covered

/-! ### A second pass -/

/-- Once the defaults are ensured, none is missing. -/
theorem missing_after_ensure (user : User) (declared : List LinuxDevice) :
    missing (declared ++ (missing declared defaultDevices).map (granted user)) defaultDevices = [] := by
  rw [missing, List.filter_eq_nil_iff]
  intro dev isDefault
  obtain ⟨d, member, same⟩ := declared_default_present user declared dev isDefault
  simpa using (declares_iff _ dev).mpr ⟨d, member, same⟩

/-- A second pass adds no device, every default being declared by then, but
allows ptmx and pts once more: the device list is idempotent, the cgroup
rules are not. -/
theorem ensureDefaultDevices_twice (user : User) (linux : Linux) :
    (ensureDefaultDevices user (ensureDefaultDevices user linux)).devices.getD [] =
        (ensureDefaultDevices user linux).devices.getD [] ∧
      (ensureDefaultDevices user (ensureDefaultDevices user linux)).resources.devices =
        (ensureDefaultDevices user linux).resources.devices ++ [ptmxRule, ptsRule] := by
  obtain ⟨devices, -⟩ := ensureDefaultDevices_shape user linux
  obtain ⟨devices₂, rules₂⟩ := ensureDefaultDevices_shape user (ensureDefaultDevices user linux)
  rw [devices, missing_after_ensure] at devices₂ rules₂
  simpa [devices] using And.intro devices₂ rules₂

end Lxcri.Devices
