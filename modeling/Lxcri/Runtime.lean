import Lxcri.Os

/-!
The operations of `runtime.go` and `create.go` on the world: `Init`, the
checks of a container config, `Create` with `runStartCmd`, `Load`, `Start`,
`Kill`, `Delete` and `List`. The answers of the operating system, of liblxc
and of the container's own processes are the fields of `System`, and the
configuration steps absent from the source are `Collaborators`.

`c.create()`, `c.load()`, `ConfigFilePath` and `deleteCgroup` are not in the
source and are modelled from the spec: `create` allocates the runtime
directory by exclusive creation, `load` reads back the recovery snapshot
`lxcri.json` that `runStartCmd` writes, the configuration file lies in the
runtime directory, and `deleteCgroup` removes the container's cgroup
directory below the cgroup root that `Init` detected, tolerating one already
gone. The runtime directory of a loaded container is the directory it
was loaded from: `runtimeDir` is not part of the snapshot. `Init`'s change of
`rt.env` on a failed `Init` is not kept, since its caller stops there. Info
and debug logs are left out; warnings and errors logged are kept, in order.
-/

namespace Lxcri.Runtime
open FilePath Config Os Configure Text Limits

/-- What the socket and terminal calls of `runStartCmdConsole` answer. -/
structure ConsoleCalls where
  dial : String → Except GoError Unit
  setDeadline : Except GoError Unit
  file : Except GoError Unit
  ptyStart : Command → Except GoError Nat
  sendmsg : Except GoError Unit
  closePty : Except GoError Unit

/-- Each answer is a function of what the call is asked, so liblxc's state
query that `Start` repeats after starting the init has an answer of its own. -/
structure System where
  environ : List (String × String)
  newCapabilities : Except GoError Unit
  loadCapabilities : Except GoError Unit
  canExecute : List String → Except GoError Unit
  isFilesystem : String → String → Except GoError Unit
  detectCgroupRoot : String × Option GoError
  lxcVersion : String
  versionAtLeast : Nat → Nat → Nat → Bool
  isNamespaceSharedWithRuntime : Option LinuxNamespace → Except GoError Bool
  liblxc : Host
  console : ConsoleCalls
  start : Command → Except GoError Nat
  waitCreated : Container → Except GoError Unit
  encodeSnapshot : Container → Nat → String
  decodeSnapshot : String → Except GoError Container
  state : Container → Except GoError String
  stateAfterStart : Container → Except GoError String
  containerState : Container → Except GoError String
  startInit : Container → Except GoError Unit
  kill : Container → Nat → Except GoError Unit
  waitMonitorStopped : Container → Except GoError Unit
  destroy : Container → Except GoError Unit
  pollCgroupEvents : Container → Except GoError Unit
  removeCgroup : String → Except GoError Unit
  removeAll : String → Except GoError Unit
  isNotExist : GoError → Bool

/-! ### Environment -/

/-- Go's `os.Getenv`: the first entry of a name wins, an unset name is "". -/
def getenv (environ : List (String × String)) (key : String) : String :=
  (environ.lookup key).getD ""

/-- Go's `os.Environ` -/
def environStrings (environ : List (String × String)) : List String :=
  environ.map fun entry => entry.1 ++ "=" ++ entry.2

def keepEnv (rt : Runtime) (environ : List (String × String)) (names : List String) : Runtime :=
  { rt with env := names.foldl (fun env n =>
      let val := getenv environ n
      if val ≠ "" then env ++ [n ++ "=" ++ val] else env) rt.env }

/-- Go's `exec.Cmd`: a nil `Env` hands the child the parent's environment. -/
def monitorEnvironment (environ : List (String × String)) (cmd : Command) : List String :=
  if cmd.env = [] then environStrings environ else cmd.env

def allowedEnv : List String := ["HOME", "XDG_RUNTIME_DIR", "PATH"]

section Operations
variable (sys : System) (rt : Runtime)

def init : OsM Runtime := do
  wrapError "failed to create capabilities object" (liftExcept sys.newCapabilities)
  wrapError "failed to load process capabilities" (liftExcept sys.loadCapabilities)
  let rt := keepEnv rt sys.environ allowedEnv
  wrapError "access check failed"
    (liftExcept (sys.canExecute [rt.libexec execStart, rt.libexec execHook, rt.libexec execInit]))
  wrapError "procfs not mounted on /proc" (liftExcept (sys.isFilesystem "/proc" "proc"))
  let (cgroupRoot, detected) := sys.detectCgroupRoot
  (match detected with
    | some err => warn (.wrap "cgroup root detection failed" err)
    | none => pure ())
  (if !sys.versionAtLeast 3 1 0 then
      throw (.text ("liblxc runtime version is " ++ sys.lxcVersion ++ ", but >= 3.1.0 is required"))
    else pure ())
  (if !sys.versionAtLeast 4 0 5 then
      warn (.text ("liblxc runtime version >= 4.0.5 is recommended (was " ++ sys.lxcVersion ++ ")"))
    else pure ())
  return { rt with createContainerHooks := [⟨rt.libexec execHookBuiltin, []⟩], cgroupRoot := cgroupRoot }

/-! ### Checks -/

/-- The root and the process a spec must have, the process with its working
directory defaulted to "/". -/
def checkSpec (spec : Spec) : OsM (Root × Process) := do
  let some root := spec.root | throw (.text "spec.Root is nil")
  (if root.path.length = 0 then throw (.text "empty spec.Root.Path") else pure ())
  let some process := spec.process | throw (.text "spec.Process is nil")
  (if process.args.length = 0 then throw (.text "specs.Process.Args is empty") else pure ())
  let process := if process.cwd = "" then { process with cwd := "/" } else process
  let shared ← wrapError "failed to mount namespace"
    (liftExcept (sys.isNamespaceSharedWithRuntime (getNamespace "mount" spec.linux.namespaces)))
  (if shared then throw (.text "container wants to share the runtimes mount namespace") else pure ())
  let shared ← wrapError "failed to check PID namespace"
    (liftExcept (sys.isNamespaceSharedWithRuntime (getNamespace "pid" spec.linux.namespaces)))
  (if shared then warn (.text "container shares the PID namespace with the runtime") else pure ())
  return (root, process)

def checkConfig (cfg : ContainerConfig) : OsM (Root × Process) := do
  (if cfg.containerID.length = 0 then throw (.text "missing container ID") else pure ())
  checkSpec sys cfg.spec

/-! ### Create -/

/-- Modelled from the spec: `Container.ConfigFilePath`, absent from the source,
is the file `config` in the runtime directory. -/
def configFilePath (c : Container) : String := c.runtimePath ["config"]

/-- Modelled from the spec: `Container.create`, absent from the source,
allocates the runtime directory by exclusive creation. -/
def createRuntimeDir (c : Container) : OsM Unit := mkdir c.runtimeDir

/-- liblxc's answers, and the file system as configuration finds it: a side
file can be made where its directory exists and nothing is yet. -/
def configHost (fs : FileSystem) : Host :=
  { sys.liblxc with
    canCreate := fun path => fs.isDir (parts path).dropLast && !fs.present (parts path) }

def commitFiles (files : List SideFile) : OsM Unit :=
  files.forM fun f => writeFile f.path f.content

/-- The run of `configureContainer` on the container's new liblxc object: its side files
are written and its warnings logged. -/
def configure (co : Collaborators) (order : (m : GoMap String String) → MapOrder m)
    (c : Container) : OsM (Except GoError Container × Build) := do
  let w ← get
  let (result, build) :=
    run (configureContainer (configHost sys w.fs) co rt c (order c.linux.sysctl)) emptyBuild
  commitFiles build.files
  build.warnings.forM fun message => warn (.text message)
  return (result, build)

def startCommand (c : Container) : Command :=
  ⟨rt.libexec execStart, [c.config.containerID, rt.root, configFilePath c], rt.env,
    c.runtimePath [], false⟩

def startProcess (cmd : Command) : OsM Nat :=
  match sys.start cmd with
  | .ok pid => do
      record (.start cmd)
      return pid
  | .error err => throw err

def runStartCmdConsole (cmd : Command) (consoleSocket : String) : OsM Nat := do
  wrapError "connecting to console socket failed" (liftExcept (sys.console.dial consoleSocket))
  wrapError "failed to set connection deadline" (liftExcept sys.console.setDeadline)
  wrapError "failed to get file from unix connection" (liftExcept sys.console.file)
  let pid ← wrapError "failed to start with pty" (liftExcept (sys.console.ptyStart cmd))
  record (.start cmd)
  wrapError "failed to send console fd" (liftExcept sys.console.sendmsg)
  liftExcept sys.console.closePty
  return pid

def runStartCmd (c : Container) (build : Build) : OsM Unit := do
  let (cmd, build) ←
    (if c.config.consoleSocket = "" && !c.process.terminal then
        match run (setConfigItem sys.liblxc "lxc.console.path" "none") build with
        | (.ok (), build) => pure ({ startCommand rt c with inheritStdio := true }, build)
        | (.error err, _) => throw err
      else pure (startCommand rt c, build))
  tryCatch (saveConfigFile (configFilePath c) (renderConfig build.config)) fun err =>
    throw (.quoteWrap "failed to save config file to" (configFilePath c) err)
  let pid ← (if c.config.consoleSocket ≠ "" then runStartCmdConsole sys cmd c.config.consoleSocket
    else startProcess sys cmd)
  createFile (c.runtimePath ["lxcri.json"]) (sys.encodeSnapshot c pid)
  liftExcept (sys.waitCreated c)

/-- The container `Create` makes of a checked config. -/
def newContainer (cfg : ContainerConfig) (rootfs : Root) (process : Process) : Container where
  config := { cfg with spec := { cfg.spec with process := some process, root := some rootfs } }
  process := process
  rootfs := rootfs
  runtimeDir := join [rt.root, cfg.containerID]
  hasProcess := rfl
  hasRoot := rfl

def create (co : Collaborators) (order : (m : GoMap String String) → MapOrder m)
    (cfg : ContainerConfig) : OsM Container := do
  let (rootfs, process) ← checkConfig sys cfg
  let c := newContainer rt cfg rootfs process
  wrapError "failed to create container" (createRuntimeDir c)
  let (result, build) ← configure sys rt co order c
  match result with
  | .error err => throw (.wrap "failed to configure container" err)
  | .ok c => do
      wrapError "failed to run container process" (runStartCmd sys rt c build)
      return c

/-! ### Load, Start, Kill, Delete, List -/

def errNotExist : GoError := .text "container does not exist"

/-- Modelled from the spec: `Container.load`, absent from the source, reads
the recovery snapshot in the runtime directory. -/
def loadSnapshot (fs : FileSystem) (dir : String) : Except GoError Container :=
  let path := join [dir, "lxcri.json"]
  match fs.lookup (parts path) with
  | some ⟨_, some content⟩ => (sys.decodeSnapshot content).map fun c => { c with runtimeDir := dir }
  | _ => .error (.failed "open" [path])

def load (fs : FileSystem) (containerID : String) : Except GoError Container :=
  let dir := join [rt.root, containerID]
  if fs.present (parts dir) then loadSnapshot sys fs dir else .error errNotExist

def start (c : Container) : OsM Unit := do
  let status ← wrapError "failed to get container state" (liftExcept (sys.state c))
  (if status ≠ "created" then
      throw (.quote "invalid container state. expected \"created\", but was" status)
    else pure ())
  liftExcept (sys.startInit c)
  (if c.config.spec.hooks.isSome then
      wrapError "failed to get container state" (liftExcept (sys.stateAfterStart c)) >>= fun _ => pure ()
    else pure ())

def kill (c : Container) (signum : Nat) : OsM Unit := do
  let state ← liftExcept (sys.containerState c)
  (if state = "stopped" then throw (.text "container already stopped") else pure ())
  liftExcept (sys.kill c signum)

/-- Modelled from the spec: `deleteCgroup`, absent from the source, removes
the container's cgroup directory `filepath.Join(cgroupRoot, name)` with the
cgroups below it, and tolerates one already gone. -/
def deleteCgroup (cgroupName : String) : OsM Unit := do
  let path := join [rt.cgroupRoot, cgroupName]
  let w ← get
  if w.cgroups.present (parts path) then removeCgroup (sys.removeCgroup path) path

/-- The steps of `Delete` for a loaded container, up to the removal of its runtime directory. -/
def teardown (c : Container) (force : Bool) : OsM Unit := do
  let state ← liftExcept (sys.containerState c)
  (if state ≠ "stopped" then
      if !force then
        throw (.text ("container is not not stopped (current state " ++ state ++ ")"))
      else wrapError "failed to kill container" (liftExcept (sys.kill c 9))
    else pure ())
  (match sys.waitMonitorStopped c with
    | .error _ => warn (.text "failed to stop monitor process")
    | .ok () => pure ())
  (match sys.destroy c with
    | .error err => throw (.wrap "failed to destroy container" err)
    | .ok () => pure ())
  (match sys.pollCgroupEvents c with
    | .error err =>
        if !sys.isNotExist err then warn (.wrap "failed to wait until cgroup.events populated=0" err)
        else pure ()
    | .ok () => pure ())
  tryCatch (deleteCgroup sys rt c.config.cgroupDir) fun err =>
    if !sys.isNotExist err then throw (.wrap "failed to delete cgroup" err) else pure ()
  (if c.config.spec.hooks.isSome then
      wrapError "failed to get container state" (liftExcept (sys.state c)) >>= fun _ => pure ()
    else pure ())

def delete (containerID : String) (force : Bool) : OsM Unit := do
  let w ← get
  match load sys rt w.fs containerID with
  | .error err =>
      if err = errNotExist then throw err
      else do
        warn (.wrap "deleting runtime dir for unloadable container" err)
        removeAll (sys.removeAll (join [rt.root, containerID])) (join [rt.root, containerID])
  | .ok c => do
      teardown sys rt c force
      removeAll (sys.removeAll (c.runtimePath [])) (c.runtimePath [])

def isVisible (name : String) : Bool := name.data.head? != some '.'

def list (fs : FileSystem) : Except GoError (List String) :=
  if !fs.present (parts rt.root) then .error (.failed "open" [rt.root])
  else if !fs.isDir (parts rt.root) then .error (.failed "readdirent" [rt.root])
  else .ok ((fs.children (parts rt.root)).filter isVisible)

end Operations

/-! ### The monitor's environment -/

/-- The entries `keepEnv` appends: each name set to a non-empty value, in order. -/
def keptEnv (environ : List (String × String)) (names : List String) : List String :=
  (names.filter fun n => getenv environ n ≠ "").map fun n => n ++ "=" ++ getenv environ n

theorem keepEnv_env (environ : List (String × String)) :
    ∀ (names : List String) (rt : Runtime),
      (keepEnv rt environ names).env = rt.env ++ keptEnv environ names
  | [], rt => by simp [keepEnv, keptEnv]
  | n :: rest, rt => by
      have step : keepEnv rt environ (n :: rest) =
          keepEnv { rt with env := if getenv environ n ≠ "" then
            rt.env ++ [n ++ "=" ++ getenv environ n] else rt.env } environ rest := rfl
      rw [step, keepEnv_env environ rest]
      by_cases unset : getenv environ n = "" <;> simp [keptEnv, unset, List.filter_cons]

theorem init_yields (sys : System) (rt : Runtime) :
    Yields (fun rt' => rt'.env = (keepEnv rt sys.environ allowedEnv).env) (init sys rt) := by
  unfold init
  repeat' (first
    | with_reducible exact yields_pure rfl
    | with_reducible refine yields_bind fun _ => ?_)

section Monitor
variable {sys : System} {rt rt' : Runtime} {w w' : World}

theorem monitorEnvironment_after_init (fresh : rt.env = []) (ran : run (init sys rt) w = (.ok rt', w'))
    (c : Container) :
    monitorEnvironment sys.environ (startCommand rt' c) =
      if keptEnv sys.environ allowedEnv = [] then environStrings sys.environ
      else keptEnv sys.environ allowedEnv := by
  have env : rt'.env = keptEnv sys.environ allowedEnv := by
    rw [init_yields sys rt w rt' (by rw [ran]), keepEnv_env, fresh, List.nil_append]
  simp only [monitorEnvironment, startCommand, env]

/-- With none of them set, `rt.env` stays nil and the monitor inherits the
controller's whole environment. -/
theorem init_monitor_inherits_environment (fresh : rt.env = [])
    (unset : ∀ n ∈ allowedEnv, getenv sys.environ n = "") (ran : run (init sys rt) w = (.ok rt', w'))
    (c : Container) :
    monitorEnvironment sys.environ (startCommand rt' c) = environStrings sys.environ := by
  have kept : keptEnv sys.environ allowedEnv = [] := by
    simpa [keptEnv, List.filter_eq_nil_iff] using unset
  rw [monitorEnvironment_after_init fresh ran, if_pos kept]

end Monitor

/-! ### What Delete removes -/

section Delete
variable (sys : System) (rt : Runtime)

theorem run_deleteCgroup (cgroupName : String) (w : World) :
    run (deleteCgroup sys rt cgroupName) w =
      if w.cgroups.present (parts (join [rt.cgroupRoot, cgroupName])) then
        run (removeCgroup (sys.removeCgroup (join [rt.cgroupRoot, cgroupName]))
          (join [rt.cgroupRoot, cgroupName])) w
      else (.ok (), w) := by
  rw [deleteCgroup, run_get_bind]
  by_cases present : w.cgroups.present (parts (join [rt.cgroupRoot, cgroupName])) = true <;>
    simp only [present, if_true, if_false, Bool.false_eq_true, run_pure]

theorem cgroupsOnly_deleteCgroup (cgroupName : String) : Keeps cgroupsOnly (deleteCgroup sys rt cgroupName) :=
  fun w => by
    rw [run_deleteCgroup]
    split
    · exact cgroupsOnly_removeCgroup _ _ w
    · exact cgroupsOnly.refl w

theorem deleteCgroup_ok_gone {cgroupName : String} {w w' : World}
    (ran : run (deleteCgroup sys rt cgroupName) w = (.ok (), w')) :
    w'.cgroups.lookup (parts (join [rt.cgroupRoot, cgroupName])) = none := by
  rw [run_deleteCgroup] at ran
  split at ran
  · rw [run_removeCgroup] at ran
    obtain ⟨answered, rfl⟩ := Prod.mk.inj ran
    simp [answered, Except.isOk, Except.toBool, FileSystem.lookup_removeBelow]
  · cases ran
    exact FileSystem.lookup_eq_none_of_absent (Bool.eq_false_iff.mpr ‹_›)

theorem deleteCgroup_error {cgroupName : String} {w w' : World} {err : GoError}
    (ran : run (deleteCgroup sys rt cgroupName) w = (.error err, w')) :
    sys.removeCgroup (join [rt.cgroupRoot, cgroupName]) = .error err := by
  rw [run_deleteCgroup] at ran
  split at ran
  · rw [run_removeCgroup] at ran
    exact congrArg Prod.fst ran
  · cases ran

theorem teardown_cgroupsOnly (c : Container) (force : Bool) : Keeps cgroupsOnly (teardown sys rt c force) := by
  unfold teardown
  repeat' (first
    | with_reducible exact keeps_pure _
    | with_reducible exact keeps_throw _
    | with_reducible exact keeps_liftExcept _
    | with_reducible exact cgroupsOnly_of_quiet (quiet_warn _)
    | with_reducible exact cgroupsOnly_deleteCgroup sys rt _
    | with_reducible refine keeps_tryCatch ?_ fun _ => ?_
    | with_reducible refine keeps_wrapError _ ?_
    | with_reducible refine keeps_bind ?_ fun _ => ?_
    | split)

/-- A teardown that succeeds, when the kernel answers no removal of the
container's cgroup with a missing-file error, leaves that cgroup gone. -/
theorem teardown_removes_cgroup {c : Container} {force : Bool} {w w' : World}
    (ran : run (teardown sys rt c force) w = (.ok (), w'))
    (answers : ∀ err, sys.removeCgroup (join [rt.cgroupRoot, c.config.cgroupDir]) = .error err →
      sys.isNotExist err = false) :
    w'.cgroups.lookup (parts (join [rt.cgroupRoot, c.config.cgroupDir])) = none := by
  have hooksQuiet : Keeps quiet (if c.config.spec.hooks.isSome then
      wrapError "failed to get container state" (liftExcept (sys.state c)) >>= fun _ => pure ()
    else pure () : OsM Unit) := by
    split
    · exact keeps_bind (keeps_wrapError _ (keeps_liftExcept _)) fun _ => keeps_pure _
    · exact keeps_pure _
  unfold teardown at ran
  iterate 4 obtain ⟨_, _, -, ran⟩ := run_bind_eq_ok ran
  obtain ⟨_, w₅, -, ran⟩ := run_bind_eq_ok ran
  obtain ⟨_, w₆, removed, hooks⟩ := run_bind_eq_ok ran
  rw [(congrArg (fun r => r.2.cgroups) hooks).symm.trans (hooksQuiet w₆).2.2]
  rw [run_tryCatch] at removed
  rcases deleted : run (deleteCgroup sys rt c.config.cgroupDir) w₅ with ⟨err | _, _⟩ <;>
    simp only [deleted] at removed
  · simp only [answers err (deleteCgroup_error sys rt deleted), Bool.not_false, if_true, run_throw] at removed
    cases removed
  · cases removed
    exact deleteCgroup_ok_gone sys rt deleted

theorem load_runtimeDir {fs : FileSystem} {containerID : String} {c : Container}
    (loaded : load sys rt fs containerID = .ok c) : c.runtimeDir = join [rt.root, containerID] := by
  unfold load loadSnapshot at loaded
  dsimp only at loaded
  split at loaded
  · split at loaded
    · rcases decoded : sys.decodeSnapshot _ with _ | c' <;> rw [decoded] at loaded <;> cases loaded
      rfl
    · cases loaded
  · cases loaded

theorem removeAll_effect (answer : Except GoError Unit) (path : String) (w : World) :
    (run (removeAll answer path) w).2.calls = w.calls ++ [.removeAll path] ∧
      (run (removeAll answer path) w).2.cgroups = w.cgroups ∧
      ((run (removeAll answer path) w).2.fs = w.fs ∨
        (run (removeAll answer path) w).2.fs = w.fs.removeBelow (parts path)) := by
  rw [run_removeAll]
  repeat' split
  all_goals first | exact ⟨rfl, rfl, .inl rfl⟩ | exact ⟨rfl, rfl, .inr rfl⟩

/-- A `Delete` either fails having changed nothing but the cgroup tree, or ends
in `os.RemoveAll(filepath.Join(rt.Root, ID))` from such a state. -/
theorem delete_cases (containerID : String) (force : Bool) (w : World) :
    (∃ err w', run (delete sys rt containerID force) w = (.error err, w') ∧ cgroupsOnly.rel w w') ∨
      ∃ w₁, cgroupsOnly.rel w w₁ ∧
        run (delete sys rt containerID force) w =
          run (removeAll (sys.removeAll (join [rt.root, containerID])) (join [rt.root, containerID])) w₁ := by
  unfold delete
  rw [run_get_bind]
  split
  · split
    · exact .inl ⟨_, _, rfl, cgroupsOnly.refl w⟩
    · rw [run_bind, Os.run_warn]
      exact .inr ⟨_, cgroupsOnly_of_quiet (quiet_warn _) w, rfl⟩
  · rename_i c loaded
    have kept := teardown_cgroupsOnly sys rt c force w
    have dir : c.runtimePath [] = join [rt.root, containerID] := by
      rw [Container.runtimePath, load_runtimeDir sys rt loaded, join_join]
    rcases torn : run (teardown sys rt c force) w with ⟨_ | _, w₁⟩ <;> rw [torn] at kept
    · exact .inl ⟨_, _, run_bind_error torn, kept⟩
    · rw [run_bind_ok torn, dir]
      exact .inr ⟨w₁, kept, rfl⟩

/-- What `Delete` changes: the file system only by removing the ID's runtime
directory, the trace only by that removal and cgroup removals, and the
cgroup tree only at or below the cgroups it removed. -/
theorem delete_effect (containerID : String) (force : Bool) (w : World) :
    ((run (delete sys rt containerID force) w).2.fs = w.fs ∨
        (run (delete sys rt containerID force) w).2.fs =
          w.fs.removeBelow (parts (join [rt.root, containerID]))) ∧
      ∃ new, (run (delete sys rt containerID force) w).2.calls = w.calls ++ new ∧
        (∀ c ∈ new, c = .removeAll (join [rt.root, containerID]) ∨ ∃ p, c = .removeCgroup p) ∧
        RemovedBy new w (run (delete sys rt containerID force) w).2 := by
  rcases delete_cases sys rt containerID force w with
    ⟨_, _, ran, sameFs, new, calls, only, removed⟩ | ⟨w₁, ⟨sameFs, new, calls, only, removed⟩, ran⟩
  · rw [ran]
    exact ⟨.inl sameFs, new, calls, fun c member => .inr (only c member), removed⟩
  · obtain ⟨calls', cgroups', fs'⟩ := removeAll_effect (sys.removeAll (join [rt.root, containerID]))
      (join [rt.root, containerID]) w₁
    rw [ran, ← sameFs]
    refine ⟨fs', new ++ [_], by rw [calls', calls, List.append_assoc], fun c member => ?_,
      removed.trans (.of_kept _ cgroups')⟩
    rcases List.mem_append.mp member with early | late
    · exact .inr (only c early)
    · exact .inl (List.mem_singleton.mp late)

/-- With a non-empty path, `Delete` succeeds exactly when it removes the
container's directory. -/
theorem delete_outcome (containerID : String) (force : Bool) (w : World)
    (nonempty : join [rt.root, containerID] ≠ "") :
    ((run (delete sys rt containerID force) w).1.isOk = true ∧
        (run (delete sys rt containerID force) w).2.fs =
          w.fs.removeBelow (parts (join [rt.root, containerID]))) ∨
      ((run (delete sys rt containerID force) w).1.isOk = false ∧
        (run (delete sys rt containerID force) w).2.fs = w.fs) := by
  rcases delete_cases sys rt containerID force w with
    ⟨_, _, ran, sameFs, -⟩ | ⟨w₁, ⟨sameFs, -⟩, ran⟩
  · rw [ran]
    exact .inr ⟨rfl, sameFs⟩
  · rw [ran, run_removeAll, if_neg nonempty, ← sameFs]
    split
    · exact .inr ⟨rfl, rfl⟩
    · rcases sys.removeAll (join [rt.root, containerID]) with _ | _
      · exact .inr ⟨rfl, rfl⟩
      · exact .inl ⟨rfl, rfl⟩

/-- A successful `Delete` of a container that loads, with a kernel that answers
no removal of its cgroup with a missing-file error, leaves that cgroup gone. -/
theorem delete_removes_cgroup {containerID : String} {force : Bool} {w : World} {c : Container}
    (loaded : load sys rt w.fs containerID = .ok c) (ran : (run (delete sys rt containerID force) w).1 = .ok ())
    (answers : ∀ err, sys.removeCgroup (join [rt.cgroupRoot, c.config.cgroupDir]) = .error err →
      sys.isNotExist err = false) :
    (run (delete sys rt containerID force) w).2.cgroups.lookup
      (parts (join [rt.cgroupRoot, c.config.cgroupDir])) = none := by
  have unfolded : run (delete sys rt containerID force) w =
      run (teardown sys rt c force >>= fun _ =>
        removeAll (sys.removeAll (c.runtimePath [])) (c.runtimePath [])) w := by
    rw [delete, run_get_bind]
    simp only [loaded]
  rw [unfolded] at ran ⊢
  rcases torn : run (teardown sys rt c force) w with ⟨_ | _, w₁⟩
  · rw [run_bind_error torn] at ran
    cases ran
  · rw [run_bind_ok torn, (removeAll_effect _ _ w₁).2.1]
    exact teardown_removes_cgroup sys rt torn answers

theorem run_delete_unloadable {containerID : String} (force : Bool) {w : World} {err : GoError}
    (unloadable : load sys rt w.fs containerID = .error err) (other : err ≠ errNotExist) :
    run (delete sys rt containerID force) w =
      run (removeAll (sys.removeAll (join [rt.root, containerID])) (join [rt.root, containerID]))
        { w with log := w.log ++ [.wrap "deleting runtime dir for unloadable container" err] } := by
  rw [delete, run_get_bind]
  simp only [unloadable, if_neg other]
  rw [run_bind_ok (Os.run_warn _ w)]

/-- Nothing checks the ID `Delete` is given. An ID whose join with rt.Root is
rt.Root itself or a directory above it, such as "" or "..", and whose record
does not load for any reason but a missing directory, makes `Delete` hand that
path to `os.RemoveAll`; when the removal is granted, every entry at or below
rt.Root is gone, every other container's included. -/
theorem delete_alias_removes_root {containerID : String} (force : Bool) {w : World} {err : GoError}
    (aliases : parts (join [rt.root, containerID]) <+: parts rt.root)
    (unloadable : load sys rt w.fs containerID = .error err) (other : err ≠ errNotExist)
    (named : join [rt.root, containerID] ≠ "") (dotless : endsWithDot (join [rt.root, containerID]) = false)
    (granted : sys.removeAll (join [rt.root, containerID]) = .ok ()) :
    (run (delete sys rt containerID force) w).1 = .ok () ∧
      .removeAll (join [rt.root, containerID]) ∈ (run (delete sys rt containerID force) w).2.calls ∧
      ¬ IsProperDescendant rt.root (join [rt.root, containerID]) ∧
      ∀ q, parts rt.root <+: q → (run (delete sys rt containerID force) w).2.fs.lookup q = none := by
  rw [run_delete_unloadable sys rt force unloadable other, run_removeAll, if_neg named,
    if_neg (by rw [dotless]; decide), granted]
  refine ⟨rfl, List.mem_append_right _ (List.mem_singleton_self _),
    not_isProperDescendant_of_length_le aliases.length_le, fun q inside => ?_⟩
  simp only [Except.isOk, Except.toBool, if_true]
  rw [FileSystem.lookup_removeBelow, if_pos (aliases.trans inside)]

end Delete

/-! ### Create before the monitor starts -/

/-- The calls that write the configuration file or start the monitor. -/
def SavesOrStarts : Call → Prop
  | .saveConfigFile _ => True
  | .start _ => True
  | _ => False

section Create
variable (sys : System) (rt : Runtime)

theorem quiet_checkConfig (cfg : ContainerConfig) : Keeps quiet (checkConfig sys cfg) := by
  unfold checkConfig checkSpec
  repeat' (first
    | with_reducible exact keeps_pure _
    | with_reducible exact keeps_throw _
    | with_reducible exact keeps_liftExcept _
    | with_reducible exact quiet_warn _
    | with_reducible refine keeps_wrapError _ ?_
    | with_reducible refine keeps_bind ?_ fun _ => ?_
    | split)

theorem run_commitFiles (files : List SideFile) (w : World) :
    ∃ w', run (commitFiles files) w = (.ok (), w') := by
  induction files generalizing w with
  | nil => exact ⟨w, rfl⟩
  | cons f rest ih =>
      rw [commitFiles, List.forM_cons', run_bind_ok (run_writeFile _ _ w)]
      exact ih _

theorem run_warnAll (messages : List String) (w : World) :
    ∃ w', run (messages.forM fun message => warn (.text message)) w = (.ok (), w') := by
  induction messages generalizing w with
  | nil => exact ⟨w, rfl⟩
  | cons m rest ih =>
      rw [List.forM_cons', run_bind_ok (Os.run_warn _ w)]
      exact ih _

theorem configure_result (co : Collaborators) (order : (m : GoMap String String) → MapOrder m)
    (c : Container) (w : World) :
    (run (configure sys rt co order c) w).1 =
      .ok (run (configureContainer (configHost sys w.fs) co rt c (order c.linux.sysctl)) emptyBuild) := by
  unfold configure
  rw [run_get_bind]
  dsimp only
  obtain ⟨w₁, committed⟩ := run_commitFiles
    (run (configureContainer (configHost sys w.fs) co rt c (order c.linux.sysctl)) emptyBuild).2.files w
  obtain ⟨w₂, warned⟩ := run_warnAll
    (run (configureContainer (configHost sys w.fs) co rt c (order c.linux.sysctl)) emptyBuild).2.warnings w₁
  rw [run_bind_ok committed, run_bind_ok warned]
  rfl

theorem configure_calls (co : Collaborators) (order : (m : GoMap String String) → MapOrder m)
    (c : Container) : Keeps (callsWithin fun call => ¬ SavesOrStarts call) (configure sys rt co order c) := by
  unfold configure commitFiles
  refine keeps_bind (fun w => ⟨[], by simp, by simp⟩) fun w => ?_
  exact keeps_bind (keeps_forM _ _ fun f _ => callsWithin_writeFile _ (by simp [SavesOrStarts]))
    fun _ => keeps_bind (keeps_forM _ _ fun _ _ => callsWithin_warn _) fun _ => keeps_pure _

end Create

/-! ### Create as a sequence of stages -/

section Stages
variable (sys : System) (rt : Runtime) (co : Collaborators)
  (order : (m : GoMap String String) → MapOrder m)

theorem checkConfig_named (cfg : ContainerConfig) :
    Yields (fun _ : Root × Process => cfg.containerID ≠ "") (checkConfig sys cfg) := by
  by_cases empty : cfg.containerID.length = 0
  · intro w _ ran
    rw [checkConfig, if_pos empty, run_bind_error (run_throw _ w)] at ran
    cases ran
  · exact fun _ _ _ same => empty (by rw [same]; rfl)

theorem run_wrapError_liftExcept_ok {α : Type} {context : String} {r : Except GoError α}
    {w w' : World} {a : α} (ran : run (wrapError context (liftExcept r : OsM α)) w = (.ok a, w')) :
    r = .ok a := by
  rw [run_wrapError_ok, run_liftExcept] at ran
  exact congrArg Prod.fst ran

/-- A relation that writing a side file strictly below the runtime directory
keeps, and logging a warning keeps, the configuration keeps. -/
theorem keeps_configure {R : StateRel World} (confined : Confined co) (c : Container)
    (nonempty : c.runtimeDir ≠ "")
    (write : ∀ path content, StrictlyBelow (parts c.runtimeDir) (parts path) →
      Keeps R (writeFile path content))
    (warned : ∀ message, Keeps R (warn message)) : Keeps R (configure sys rt co order c) := by
  unfold configure commitFiles
  refine keeps_bind (fun w => R.refl w) fun w => ?_
  obtain ⟨written, files, below⟩ := configureContainer_writes_below (configHost sys w.fs) co rt
    confined c (order c.linux.sysctl) nonempty emptyBuild
  split
  rename_i result build ran
  rw [ran] at files
  have written : build.files = written := by simpa [emptyBuild] using files
  exact keeps_bind (keeps_forM _ _ fun f member =>
      write _ _ (strictlyBelow_of_isProperDescendant (below f (written ▸ member)))) fun _ =>
    keeps_bind (keeps_forM _ _ fun _ _ => warned _) fun _ => keeps_pure _

/-- A relation that saving the configuration file or creating a file strictly
below the runtime directory keeps, and recording the monitor's start keeps,
`runStartCmd` keeps. -/
theorem keeps_runStartCmd {R : StateRel World} (c : Container) (build : Build)
    (nonempty : c.runtimeDir ≠ "")
    (save : ∀ path content, StrictlyBelow (parts c.runtimeDir) (parts path) →
      Keeps R (saveConfigFile path content))
    (created : ∀ path content, StrictlyBelow (parts c.runtimeDir) (parts path) →
      Keeps R (createFile path content))
    (started : ∀ cmd, Keeps R (record (.start cmd))) : Keeps R (runStartCmd sys rt c build) := by
  unfold runStartCmd runStartCmdConsole startProcess
  repeat' (first
    | with_reducible exact keeps_pure _
    | with_reducible exact keeps_throw _
    | with_reducible exact keeps_liftExcept _
    | with_reducible exact started _
    | with_reducible refine save _ _ ?_
    | with_reducible refine created _ _ ?_
    | with_reducible refine keeps_tryCatch ?_ fun _ => ?_
    | with_reducible refine keeps_wrapError _ ?_
    | with_reducible refine keeps_bind ?_ fun _ => ?_
    | split)
  all_goals exact strictlyBelow_of_isProperDescendant <|
    runtimePath_isProperDescendant c nonempty (by unfold IsLocal; decide)

/-- A relation that every stage of `Create` keeps, `Create` keeps: the checks,
the allocation of the runtime directory, the configuration, and
`runStartCmd` of a container in the ID's runtime directory. -/
theorem keeps_create {R : StateRel World} (cfg : ContainerConfig)
    (check : Keeps R (checkConfig sys cfg))
    (alloc : Keeps R (mkdir (join [rt.root, cfg.containerID])))
    (conf : ∀ rootfs process, Keeps R (configure sys rt co order (newContainer rt cfg rootfs process)))
    (start : ∀ c build, c.runtimeDir = join [rt.root, cfg.containerID] →
      Keeps R (runStartCmd sys rt c build)) :
    Keeps R (create sys rt co order cfg) := by
  unfold create
  refine keeps_bind check fun checked => ?_
  obtain ⟨rootfs, process⟩ := checked
  refine keeps_bind (keeps_wrapError _ alloc) fun _ w => ?_
  have kept := conf rootfs process w
  have result := configure_result sys rt co order (newContainer rt cfg rootfs process) w
  rcases ranConf : run (configure sys rt co order (newContainer rt cfg rootfs process)) w with
    ⟨_ | ⟨outcome, build⟩, w₁⟩ <;> rw [ranConf] at kept result
  · cases result
  rw [run_bind_ok ranConf]
  rcases outcome with err | c
  · exact kept
  · have dir : c.runtimeDir = join [rt.root, cfg.containerID] := by
      rw [configureContainer_yields _ co rt _ _ emptyBuild c
        (congrArg Prod.fst (Except.ok.inj result)).symm]
      rfl
    exact R.trans kept (keeps_bind (keeps_wrapError _ (start c build dir)) (fun _ => keeps_pure c) w₁)

/-- A successful `Create`: the checks pass, the runtime directory is allocated,
the configuration returns the new container with the default devices, and
`runStartCmd` succeeds on it. -/
theorem create_ok_stages {cfg : ContainerConfig} {w w' : World} {c : Container}
    (ran : run (create sys rt co order cfg) w = (.ok c, w')) :
    ∃ rootfs process w₁ w₂ build w₃,
      run (checkConfig sys cfg) w = (.ok (rootfs, process), w₁) ∧
      run (mkdir (join [rt.root, cfg.containerID])) w₁ = (.ok (), w₂) ∧
      run (configure sys rt co order (newContainer rt cfg rootfs process)) w₂ =
        (.ok (.ok c, build), w₃) ∧
      c = (newContainer rt cfg rootfs process).setLinux
        (Devices.ensureDefaultDevices process.user (newContainer rt cfg rootfs process).linux) ∧
      run (runStartCmd sys rt c build) w₃ = (.ok (), w') := by
  unfold create at ran
  obtain ⟨⟨rootfs, process⟩, w₁, checked, ran⟩ := run_bind_eq_ok ran
  obtain ⟨_, w₂, made, ran⟩ := run_bind_eq_ok ran
  obtain ⟨⟨outcome, build⟩, w₃, configured, ran⟩ := run_bind_eq_ok ran
  have result := configure_result sys rt co order (newContainer rt cfg rootfs process) w₂
  rw [configured] at result
  rcases outcome with err | c'
  · cases ran
  obtain ⟨_, w₄, started, finished⟩ := run_bind_eq_ok ran
  cases finished
  exact ⟨rootfs, process, w₁, w₂, build, w₃, checked, run_wrapError_ok.mp made, configured,
    configureContainer_yields _ co rt _ _ emptyBuild c (congrArg Prod.fst (Except.ok.inj result)).symm,
    run_wrapError_ok.mp started⟩

theorem startProcess_ok {cmd : Command} {pid : Nat} {w w' : World}
    (ran : run (startProcess sys cmd) w = (.ok pid, w')) : sys.start cmd = .ok pid := by
  unfold startProcess at ran
  split at ran
  · rw [run_bind_ok (run_record _ w)] at ran
    cases ran
    assumption
  · cases ran

theorem runStartCmdConsole_ok {cmd : Command} {socket : String} {pid : Nat} {w w' : World}
    (ran : run (runStartCmdConsole sys cmd socket) w = (.ok pid, w')) : sys.console.ptyStart cmd = .ok pid := by
  unfold runStartCmdConsole at ran
  obtain ⟨_, _, -, ran⟩ := run_bind_eq_ok ran
  obtain ⟨_, _, -, ran⟩ := run_bind_eq_ok ran
  obtain ⟨_, _, -, ran⟩ := run_bind_eq_ok ran
  obtain ⟨started, _, answered, ran⟩ := run_bind_eq_ok ran
  obtain ⟨_, _, -, ran⟩ := run_bind_eq_ok ran
  obtain ⟨_, _, -, ran⟩ := run_bind_eq_ok ran
  obtain ⟨_, _, -, ran⟩ := run_bind_eq_ok ran
  cases ran
  exact run_wrapError_liftExcept_ok answered

/-- After a successful `runStartCmd` the recovery snapshot sits in the runtime
directory, written with the pid that the start of the monitor, on a pty
when there is a console socket, answered for the start command. -/
theorem runStartCmd_snapshot {c : Container} {build : Build} {w w' : World}
    (ran : run (runStartCmd sys rt c build) w = (.ok (), w')) :
    ∃ cmd pid, (cmd = startCommand rt c ∨ cmd = { startCommand rt c with inheritStdio := true }) ∧
      (if c.config.consoleSocket ≠ "" then sys.console.ptyStart cmd else sys.start cmd) = .ok pid ∧
      w'.fs.lookup (parts (c.runtimePath ["lxcri.json"])) =
        some ⟨parts (c.runtimePath ["lxcri.json"]), some (sys.encodeSnapshot c pid)⟩ ∧
      w'.fs.isDir (parts (c.runtimePath ["lxcri.json"])).dropLast = true := by
  unfold runStartCmd at ran
  obtain ⟨⟨cmd, build'⟩, w₁, chosen, ran⟩ := run_bind_eq_ok ran
  have command : cmd = startCommand rt c ∨ cmd = { startCommand rt c with inheritStdio := true } := by
    split at chosen
    · split at chosen
      · cases chosen
        exact .inr rfl
      · cases chosen
    · cases chosen
      exact .inl rfl
  obtain ⟨_, w₂, -, ran⟩ := run_bind_eq_ok ran
  obtain ⟨pid, w₃, started, ran⟩ := run_bind_eq_ok ran
  obtain ⟨_, w₄, created, waited⟩ := run_bind_eq_ok ran
  rw [run_liftExcept, Prod.mk.injEq] at waited
  rw [← waited.2]
  refine ⟨cmd, pid, command, ?_, (createFile_ok created).1, (createFile_ok created).2.1⟩
  split at started
  · rw [if_pos ‹_›]
    exact runStartCmdConsole_ok sys started
  · rw [if_neg ‹_›]
    exact startProcess_ok sys started

end Stages

/-! ### Concrete worlds -/

/-- A system on which every probe passes, liblxc accepts every item, the
monitor starts with pid 1 and every container is stopped; a snapshot cannot
be read back. -/
def answering (environ : List (String × String)) : System where
  environ := environ
  newCapabilities := .ok ()
  loadCapabilities := .ok ()
  canExecute := fun _ => .ok ()
  isFilesystem := fun _ _ => .ok ()
  detectCgroupRoot := ("/sys/fs/cgroup", none)
  lxcVersion := "4.0.6"
  versionAtLeast := fun _ _ _ => true
  isNamespaceSharedWithRuntime := fun _ => .ok false
  liblxc := Steps.acceptingHost "/var/lib/lxc"
  console := ⟨fun _ => .ok (), .ok (), .ok (), fun _ => .ok 1, .ok (), .ok ()⟩
  start := fun _ => .ok 1
  waitCreated := fun _ => .ok ()
  encodeSnapshot := fun c _ => c.config.containerID
  decodeSnapshot := fun _ => .error (.text "unreadable snapshot")
  state := fun _ => .ok "stopped"
  stateAfterStart := fun _ => .ok "running"
  containerState := fun _ => .ok "stopped"
  startInit := fun _ => .ok ()
  kill := fun _ _ => .ok ()
  waitMonitorStopped := fun _ => .ok ()
  destroy := fun _ => .ok ()
  pollCgroupEvents := fun _ => .ok ()
  removeCgroup := fun _ => .ok ()
  removeAll := fun _ => .ok ()
  isNotExist := fun _ => false

/-- The directory `/run/lxcri` with the runtime directory of container `c1`, and the cgroups
of `c1` and `c2`. -/
def runtimeRootWorld : World :=
  ⟨⟨[⟨parts "/run", none⟩, ⟨parts "/run/lxcri", none⟩, ⟨parts "/run/lxcri/c1", none⟩], by decide⟩,
    ⟨[⟨parts "/sys/fs/cgroup/lxcri", none⟩, ⟨parts "/sys/fs/cgroup/lxcri/c1", none⟩,
      ⟨parts "/sys/fs/cgroup/lxcri/c2", none⟩], by decide⟩, [], []⟩

def inOrder : (m : GoMap String String) → MapOrder m := fun m => ⟨m.entries, List.Perm.refl _⟩

/-- A `Delete` of "" finds /run/lxcri, which holds no record, and removes it with
the runtime directory of `c1`. -/
theorem delete_removes_runtime_root :
    join [sampleRuntime.root, ""] = "/run/lxcri" ∧
      (run (delete (answering []) sampleRuntime "" false) runtimeRootWorld).1 = .ok () ∧
      .removeAll (join [sampleRuntime.root, ""]) ∈
        (run (delete (answering []) sampleRuntime "" false) runtimeRootWorld).2.calls ∧
      ¬ IsProperDescendant sampleRuntime.root (join [sampleRuntime.root, ""]) ∧
      ∀ q, parts sampleRuntime.root <+: q →
        (run (delete (answering []) sampleRuntime "" false) runtimeRootWorld).2.fs.lookup q = none :=
  ⟨by decide, delete_alias_removes_root (answering []) sampleRuntime false (by decide) rfl (by decide)
    (by decide) (by decide) rfl⟩

theorem init_monitor_inherits_environment_secret :
    ∃ rt' w', run (init (answering [("SECRET", "x")]) sampleRuntime) runtimeRootWorld = (.ok rt', w') ∧
      monitorEnvironment [("SECRET", "x")] (startCommand rt' sysctlContainer) =
        environStrings [("SECRET", "x")] :=
  ⟨_, _, rfl, @init_monitor_inherits_environment (answering [("SECRET", "x")]) sampleRuntime _
    runtimeRootWorld _ rfl (by decide) rfl sysctlContainer⟩

end Lxcri.Runtime
