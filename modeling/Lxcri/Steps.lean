import Lxcri.DeviceFile

/-!
The configuration steps of `create.go` besides devices and resource limits:
rootfs, read-only paths, AppArmor, capabilities, masked paths, sysctls and
the container log. Each sets liblxc items through `setConfigItem`. The log
level and file go through go-lxc's `SetLogLevel` and `SetLogFile`, which set
`lxc.log.level` to the level's name and `lxc.log.file`; `SetVerbosity` changes
no item and is left out.
-/

namespace Lxcri.Steps
open Text Config FilePath

section Steps
variable (host : Host)

def configureRootfs (c : Container) : ConfigM Unit := do
  setConfigItem host "lxc.rootfs.path" c.rootfs.path
  setConfigItem host "lxc.rootfs.managed" "0"
  setConfigItem host "lxc.ephemeral" "0"
  let rootfsOptions :=
    (if c.linux.rootfsPropagation ≠ "" then [c.linux.rootfsPropagation] else []) ++
      (if c.rootfs.readonly then ["ro"] else [])
  setConfigItem host "lxc.rootfs.options" (joinWith rootfsOptions ",")

def mountEntry (rootmnt p : String) : String :=
  join [rootmnt, p] ++ " " ++ trimPrefix p "/" ++ " " ++ "bind" ++ " " ++ "bind,ro,optional"

def configureReadonlyPaths (c : Container) : ConfigM Unit := do
  let rootmnt ← getConfigItem host "lxc.rootfs.mount"
  if rootmnt = "" then
    throw (.text "lxc.rootfs.mount unavailable")
  c.linux.readonlyPaths.forM fun p =>
    wrapError "failed to make path readonly"
      (setConfigItem host "lxc.mount.entry" (mountEntry rootmnt p))

def configureApparmor (c : Container) : ConfigM Unit :=
  let aaprofile := if c.process.apparmorProfile = "" then "unconfined" else c.process.apparmorProfile
  setConfigItem host "lxc.apparmor.profile" aaprofile

def capName (lowerRune : Char → Char) (cap : String) : String := trimPrefix (toLower lowerRune cap) "cap_"

def keepCaps (lowerRune : Char → Char) (capabilities : Option LinuxCapabilities) : String :=
  match capabilities with
  | none => "none"
  | some caps =>
      let names := caps.permitted.map (capName lowerRune)
      if names.length > 0 then joinWith names " " else "none"

def configureCapabilities (c : Container) : ConfigM Unit :=
  setConfigItem host "lxc.cap.keep" (keepCaps host.lowerRune c.process.capabilities)

def writeMasked (dst : String) (c : Container) : ConfigM Unit :=
  match c.linux.maskedPaths with
  | none => pure ()
  | some paths => createFile host dst (String.join (paths.map (· ++ "\n")))

inductive LogLevel where
  | trace | debug | info | notice | warn | error | crit | alert | fatal
  deriving DecidableEq, Repr

def parseContainerLogLevel (lowerRune : Char → Char) (level : String) : LogLevel :=
  match toLower lowerRune level with
  | "trace" => .trace
  | "debug" => .debug
  | "info" => .info
  | "notice" => .notice
  | "warn" => .warn
  | "error" => .error
  | "crit" => .crit
  | "alert" => .alert
  | "fatal" => .fatal
  | _ => .warn

/-- go-lxc's LogLevel.String -/
def LogLevel.name : LogLevel → String
  | .trace => "TRACE"
  | .debug => "DEBUG"
  | .info => "INFO"
  | .notice => "NOTICE"
  | .warn => "WARN"
  | .error => "ERROR"
  | .crit => "CRIT"
  | .alert => "ALERT"
  | .fatal => "FATAL"

def setLog (c : Container) : ConfigM Unit := do
  wrapError "failed to set container loglevel"
    (setConfigItem host "lxc.log.level" (parseContainerLogLevel host.lowerRune c.config.logLevel).name)
  wrapError "failed to set container log file" (setConfigItem host "lxc.log.file" c.config.logFile)

def sysctlDirective (entry : String × String) : Directive := ⟨"lxc.sysctl." ++ entry.1, entry.2⟩

theorem sysctlDirective_injective : Function.Injective sysctlDirective := by
  rintro ⟨key, value⟩ ⟨key', value'⟩ same
  obtain ⟨keys, rfl⟩ := Directive.mk.inj same
  have : key.data = key'.data := by simpa using congrArg String.data keys
  rw [String.ext this]

/-- The loop `for key, val := range c.Linux.Sysctl`, in the order the map iteration picks. -/
def configureSysctl (order : List (String × String)) : ConfigM Unit :=
  order.forM fun entry => setConfigItem host (sysctlDirective entry).key (sysctlDirective entry).value

/-! ### Concrete inputs -/

/-- A container with an empty spec apart from its process and rootfs, and a host
on which liblxc accepts every item and every side file can be created. -/
def sampleLinux : Linux := ⟨[], none, ⟨[]⟩, ⟨[], List.nodup_nil⟩, [], none, "", none⟩

def sampleProcess : Process := ⟨false, ⟨0, 0⟩, ["/bin/sh"], "/", none, [], false, "", none⟩

def sampleRoot : Root := ⟨"/rootfs", false⟩

def sampleContainer (linux : Linux) : Container where
  config := ⟨⟨some sampleProcess, some sampleRoot, "", none, linux⟩, "c1", "", "", "", "lxcri/c1"⟩
  process := sampleProcess
  rootfs := sampleRoot
  runtimeDir := "/run/lxcri/c1"
  hasProcess := rfl
  hasRoot := rfl

def acceptingHost (rootfsMount : String) : Host :=
  ⟨fun _ _ => true, fun key => if key = "lxc.rootfs.mount" then rootfsMount else "", fun _ => true,
    Char.toLower⟩

/-! ### Capabilities -/

/-- Whatever Go's rune lowering does elsewhere, it lowers "CAP_" to "cap_",
which strips to the empty name: the kept list is then the empty string, not
the sentinel "none". -/
theorem keepCaps_cap_prefix_only (lowerRune : Char → Char)
    (ascii : ∀ c ∈ "CAP_".data, lowerRune c = c.toLower) :
    capName lowerRune "CAP_" = "" ∧ keepCaps lowerRune (some ⟨["CAP_"]⟩) = "" := by
  have lowered : toLower lowerRune "CAP_" = "cap_" := by
    rw [toLower, List.map_congr_left ascii]
    decide
  have stripped : capName lowerRune "CAP_" = "" := by
    rw [capName, lowered]
    decide
  refine ⟨stripped, ?_⟩
  simp only [keepCaps, List.map, stripped]
  rfl

theorem keepCaps_cap_prefix_only_ascii :
    (∀ c ∈ "CAP_".data, Char.toLower c = c.toLower) ∧ keepCaps Char.toLower (some ⟨["CAP_"]⟩) = "" :=
  ⟨fun _ _ => rfl, (keepCaps_cap_prefix_only Char.toLower fun _ _ => rfl).2⟩

/-! ### Read-only paths -/

theorem mountEntry_setsOne (rootmnt p : String) :
    SetsOne host
      (wrapError "failed to make path readonly" (setConfigItem host "lxc.mount.entry" (mountEntry rootmnt p)))
      ⟨"lxc.mount.entry", mountEntry rootmnt p⟩
      (.wrap "failed to make path readonly" (.failed "SetConfigItem" ["lxc.mount.entry", mountEntry rootmnt p])) :=
  wrapError_setsOne host _ (setConfigItem_setsOne host ⟨"lxc.mount.entry", mountEntry rootmnt p⟩)

theorem run_configureReadonlyPaths (c : Container) (b : Build) {rootmnt : String}
    (mount : (lookupItem b.config "lxc.rootfs.mount").getD (host.configDefault "lxc.rootfs.mount") = rootmnt)
    (mounted : rootmnt ≠ "")
    (accepted : ∀ p ∈ c.linux.readonlyPaths, host.accepts "lxc.mount.entry" (mountEntry rootmnt p) = true) :
    run (configureReadonlyPaths host c) b =
      (.ok (), { b with config := b.config ++
        c.linux.readonlyPaths.map fun p => ⟨"lxc.mount.entry", mountEntry rootmnt p⟩ }) := by
  simp only [configureReadonlyPaths]
  rw [run_bind, run_getConfigItem]
  simp only [mount, mounted, if_false]
  rw [run_bind, run_pure]
  exact run_forM_setsOne_accepted host _ _ _ (fun p => mountEntry_setsOne host rootmnt p) _ b accepted

theorem mountEntry_fields {rootmnt p : String} (mounted : rootmnt ≠ "") (spaceless : ' ' ∉ rootmnt.data)
    (plain : ' ' ∉ p.data) :
    split (mountEntry rootmnt p) ' ' = [join [rootmnt, p], trimPrefix p "/", "bind", "bind,ro,optional"] := by
  have entry : mountEntry rootmnt p = joinWith [join [rootmnt, p], trimPrefix p "/", "bind", "bind,ro,optional"] " " := by
    simp [mountEntry, joinWith, List.intercalate, List.intersperse_cons_cons, String.ext_iff]
  rw [entry]
  apply split_joinWith _ ' ' (by simp)
  simp only [List.mem_cons, List.mem_singleton, List.not_mem_nil, or_false]
  rintro f (rfl | rfl | rfl | rfl)
  · intro inside
    rcases mem_join_pair mounted inside with early | late | slash | dot
    · exact spaceless early
    · exact plain late
    · exact absurd slash (by decide)
    · exact absurd dot (by decide)
  · exact fun inside => plain (mem_trimPrefix inside)
  · decide
  · decide

theorem trimPrefix_slash_relative (p : String) (single : hasPrefix p "//" = false) :
    isRooted (trimPrefix p "/").data = false := by
  obtain ⟨chars⟩ := p
  have one : "/".length = 1 := rfl
  rcases chars with _ | ⟨c, rest⟩
  · rfl
  by_cases slash : c = '/'
  · -- a single leading slash is trimmed, and no second one follows it
    subst slash
    rcases rest with _ | ⟨d, more⟩
    · rfl
    · simp_all [trimPrefix, hasPrefix, isRooted, List.isPrefixOf]
      exact Ne.symm single
  · have apart : '/' ≠ c := Ne.symm slash
    simp_all [trimPrefix, hasPrefix, isRooted, List.isPrefixOf]

/-- The read-only entries of a successful run, and what holds of each: its
source is the join of rootmnt with its target, inside rootmnt when the path
does not climb out, its target is relative unless the path starts with "//",
and it has four fields when neither rootmnt nor the path has a space. -/
theorem configureReadonlyPaths_entries (c : Container) (b : Build) {rootmnt : String}
    (mount : (lookupItem b.config "lxc.rootfs.mount").getD (host.configDefault "lxc.rootfs.mount") = rootmnt)
    (mounted : rootmnt ≠ "")
    (accepted : ∀ p ∈ c.linux.readonlyPaths, host.accepts "lxc.mount.entry" (mountEntry rootmnt p) = true) :
    run (configureReadonlyPaths host c) b =
        (.ok (), { b with config := b.config ++
          c.linux.readonlyPaths.map fun p => ⟨"lxc.mount.entry", mountEntry rootmnt p⟩ }) ∧
      ∀ p ∈ c.linux.readonlyPaths,
        mountEntry rootmnt p = join [rootmnt, trimPrefix p "/"] ++ " " ++ trimPrefix p "/" ++ " " ++
          "bind" ++ " " ++ "bind,ro,optional" ∧
        (dotDot ∉ relativeParts p → IsWithin rootmnt (join [rootmnt, p])) ∧
        (hasPrefix p "//" = false → isRooted (trimPrefix p "/").data = false) ∧
        (' ' ∉ rootmnt.data → ' ' ∉ p.data →
          split (mountEntry rootmnt p) ' ' = [join [rootmnt, p], trimPrefix p "/", "bind", "bind,ro,optional"]) := by
  refine ⟨run_configureReadonlyPaths host c b mount mounted accepted, fun p _ => ⟨?_, ?_, ?_, ?_⟩⟩
  · rw [mountEntry, join_trimPrefix_slash p mounted]
  · exact join_isWithin mounted
  · exact trimPrefix_slash_relative p
  · exact mountEntry_fields mounted

/-- Nothing checks a read-only path: "/../" followed by a path `q` that does not
climb has its entry set like any other, with the source `q` below the parent
of the rootfs mount and not the target's own place in the rootfs. -/
theorem readonlyPath_climbs_to_parent (c : Container) (b : Build) {rootmnt : String}
    (mount : (lookupItem b.config "lxc.rootfs.mount").getD (host.configDefault "lxc.rootfs.mount") = rootmnt)
    (mounted : rootmnt ≠ "")
    (accepted : ∀ p ∈ c.linux.readonlyPaths, host.accepts "lxc.mount.entry" (mountEntry rootmnt p) = true)
    {q : String} (listed : "/../" ++ q ∈ c.linux.readonlyPaths) {parent : List Elem} {name : Elem}
    (named : parts rootmnt = parent ++ [name]) (real : name ≠ dotDot) (stays : dotDot ∉ relativeParts q) :
    (run (configureReadonlyPaths host c) b).1 = .ok () ∧
      ⟨"lxc.mount.entry", mountEntry rootmnt ("/../" ++ q)⟩ ∈ (run (configureReadonlyPaths host c) b).2.config ∧
      parts (join [rootmnt, "/../" ++ q]) = parent ++ relativeParts q := by
  rw [(configureReadonlyPaths_entries host c b mount mounted accepted).1]
  exact ⟨rfl, List.mem_append_right _ (List.mem_map_of_mem _ listed),
    parts_join_climb mounted named real stays⟩

/-- The path "/../etc" under the rootfs mount /var/lib/lxc/rootfs is bound from
/var/lib/lxc/etc, outside the mount. -/
theorem readonlyPath_escapes_rootfs :
    (run (configureReadonlyPaths (acceptingHost "/var/lib/lxc/rootfs")
        (sampleContainer { sampleLinux with readonlyPaths := ["/../" ++ "etc"] })) emptyBuild).1 = .ok () ∧
      ⟨"lxc.mount.entry", mountEntry "/var/lib/lxc/rootfs" ("/../" ++ "etc")⟩ ∈
        (run (configureReadonlyPaths (acceptingHost "/var/lib/lxc/rootfs")
          (sampleContainer { sampleLinux with readonlyPaths := ["/../" ++ "etc"] })) emptyBuild).2.config ∧
      parts (join ["/var/lib/lxc/rootfs", "/../" ++ "etc"]) = parts "/var/lib/lxc" ++ relativeParts "etc" ∧
      mountEntry "/var/lib/lxc/rootfs" ("/../" ++ "etc") = "/var/lib/lxc/etc ../etc bind bind,ro,optional" ∧
      ¬ IsWithin "/var/lib/lxc/rootfs" "/var/lib/lxc/etc" :=
  have ⟨ran, set, source⟩ := readonlyPath_climbs_to_parent (acceptingHost "/var/lib/lxc/rootfs")
    (sampleContainer { sampleLinux with readonlyPaths := ["/../" ++ "etc"] }) emptyBuild rfl (by decide)
    (by decide) (List.mem_singleton_self _) (by decide : parts "/var/lib/lxc/rootfs" = parts "/var/lib/lxc" ++ ["rootfs".data])
    (by decide) (by decide)
  ⟨ran, set, source, by decide, not_isWithin_of_not_prefix (by decide)⟩

/-! ### Masked paths -/

/-- The reader the masked-paths format calls for, one path per line: the file
splits at its line ends, and nothing follows the last one. -/
def parseMaskedFile (content : String) : Option (List String) :=
  match (content.data.splitOn '\n').reverse with
  | [] :: lines => some (lines.reverse.map String.mk)
  | _ => none

theorem maskedText_data (paths : List String) :
    (String.join (paths.map (· ++ "\n"))).data = ((paths.map String.data).map (· ++ ['\n'])).flatten := by
  simp [String.data_join, Function.comp_def]

theorem parseMaskedFile_clear {paths : List String} (clear : ∀ p ∈ paths, '\n' ∉ p.data) :
    parseMaskedFile (String.join (paths.map (· ++ "\n"))) = some paths := by
  rw [parseMaskedFile, maskedText_data, splitOn_terminated _ _ (by simpa using clear)]
  simp [Function.comp_def]

/-- Whatever the reader accepts is a list of lines without a line end. -/
theorem parseMaskedFile_lines {content : String} {paths : List String}
    (parsed : parseMaskedFile content = some paths) : ∀ p ∈ paths, '\n' ∉ p.data := by
  unfold parseMaskedFile at parsed
  split at parsed
  · rename_i lines split
    cases parsed
    intro p member
    obtain ⟨line, inLines, rfl⟩ := List.mem_map.mp member
    have piece : line ∈ content.data.splitOn '\n' := by
      rw [← List.reverse_reverse (content.data.splitOn '\n'), split]
      simpa using Or.inl inLines
    exact (splitOn_pieces '\n' _ line piece).1
  · cases parsed

/-- The file `writeMasked` adds reads back, one path per line, to the declared
masked paths exactly when none of them contains a line end. -/
theorem writeMasked_file (dst : String) (c : Container) {paths : List String}
    (declared : c.linux.maskedPaths = some paths) {b b' : Build}
    (ran : run (writeMasked host dst c) b = (.ok (), b')) :
    ∃ content, b'.files = b.files ++ [⟨dst, content⟩] ∧
      (parseMaskedFile content = some paths ↔ ∀ p ∈ paths, '\n' ∉ p.data) := by
  unfold writeMasked at ran
  rw [declared, run_createFile] at ran
  split at ran
  · cases ran
    exact ⟨_, rfl, fun parsed => parseMaskedFile_lines parsed, parseMaskedFile_clear⟩
  · cases ran

def maskedContainer : Container := sampleContainer { sampleLinux with maskedPaths := some ["/proc/kcore"] }

theorem writeMasked_file_kcore :
    ∃ b', run (writeMasked (acceptingHost "") "/run/lxcri/c1/masked.txt" maskedContainer) emptyBuild =
        (.ok (), b') ∧
      ∃ content, b'.files = emptyBuild.files ++ [⟨"/run/lxcri/c1/masked.txt", content⟩] ∧
        (parseMaskedFile content = some ["/proc/kcore"] ↔ ∀ p ∈ ["/proc/kcore"], '\n' ∉ p.data) :=
  ⟨_, rfl, writeMasked_file (acceptingHost "") _ maskedContainer rfl rfl⟩

end Steps

end Lxcri.Steps
