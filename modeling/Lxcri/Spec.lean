import Lxcri.FilePath

/-!
The parts of the OCI runtime spec (`specs-go`) and of the runtime's own
records that the modelled code reads or writes. A pointer, or a slice the code
compares with `nil`, is an `Option`; every other slice is a list. A Go map is
a list of entries with distinct keys, in no order the code may rely on.
Go errors are kept as values: `wrap` is `fmt.Errorf("context: %w", cause)`,
`quote` is `fmt.Errorf("context %q", operand)`, `quoteWrap` is
`fmt.Errorf("context %q: %w", operand, cause)`, and `failed` stands for an
error returned by liblxc or the operating system. A `%s` of an error renders
as its `%w` does, so both are `wrap`.
-/

namespace Lxcri

inductive GoError where
  | text (message : String)
  | wrap (context : String) (cause : GoError)
  | quote (context operand : String)
  | quoteWrap (context operand : String) (cause : GoError)
  | failed (call : String) (args : List String)
  deriving DecidableEq, Repr

structure GoMap (K V : Type) where
  entries : List (K × V)
  distinct : (entries.map Prod.fst).Nodup

structure LinuxDevice where
  path : String
  type : String
  major : Int
  minor : Int
  fileMode : Option Nat
  uid : Option Nat
  gid : Option Nat
  deriving DecidableEq, Repr

structure LinuxDeviceCgroup where
  allow : Bool
  type : String
  major : Option Int
  minor : Option Int
  access : String
  deriving DecidableEq, Repr

structure LinuxResources where
  devices : List LinuxDeviceCgroup
  deriving DecidableEq, Repr

structure LinuxNamespace where
  type : String
  path : String
  deriving DecidableEq, Repr

structure LinuxSyscall where
  names : List String
  action : String
  deriving DecidableEq, Repr

structure LinuxSeccomp where
  defaultAction : String
  syscalls : List LinuxSyscall
  deriving DecidableEq, Repr

structure Linux where
  namespaces : List LinuxNamespace
  devices : Option (List LinuxDevice)
  resources : LinuxResources
  sysctl : GoMap String String
  readonlyPaths : List String
  maskedPaths : Option (List String)
  rootfsPropagation : String
  seccomp : Option LinuxSeccomp

structure User where
  uid : Nat
  gid : Nat
  deriving DecidableEq, Repr

structure LinuxCapabilities where
  permitted : List String
  deriving DecidableEq, Repr

structure POSIXRlimit where
  type : String
  hard : Nat
  soft : Nat
  deriving DecidableEq, Repr

structure Process where
  terminal : Bool
  user : User
  args : List String
  cwd : String
  capabilities : Option LinuxCapabilities
  rlimits : List POSIXRlimit
  noNewPrivileges : Bool
  apparmorProfile : String
  oomScoreAdj : Option Int
  deriving DecidableEq, Repr

structure Root where
  path : String
  readonly : Bool
  deriving DecidableEq, Repr

structure Hook where
  path : String
  args : List String
  deriving DecidableEq, Repr

structure Hooks where
  poststart : List Hook
  poststop : List Hook
  deriving DecidableEq, Repr

structure Spec where
  process : Option Process
  root : Option Root
  hostname : String
  hooks : Option Hooks
  linux : Linux

/-- The field `cgroupDir` is `CgroupDir`, the container's cgroup below the cgroup root. -/
structure ContainerConfig where
  spec : Spec
  containerID : String
  consoleSocket : String
  logFile : String
  logLevel : String
  cgroupDir : String

structure RuntimeFeatures where
  seccomp : Bool
  capabilities : Bool
  apparmor : Bool
  cgroupDevices : Bool
  deriving DecidableEq, Repr

/-- The field `env` is nil until `keepEnv` appends to it, so nil is the empty list.
`cgroupRoot` is the package variable `Init` sets; one process holds one
runtime, so it is kept with the runtime. -/
structure Runtime where
  root : String
  monitorCgroup : String
  libexecDir : String
  features : RuntimeFeatures
  env : List String
  createContainerHooks : List Hook
  cgroupRoot : String

def execStart : String := "lxcri-start"
def execHook : String := "lxcri-hook"
def execHookBuiltin : String := "lxcri-hook-builtin"
def execInit : String := "lxcri-init"

def Runtime.libexec (rt : Runtime) (name : String) : String := FilePath.join [rt.libexecDir, name]

/-- A container whose spec passed `checkSpec`: the process and root it checked
are fields, so the configuration steps never meet a nil pointer. -/
structure Container where
  config : ContainerConfig
  process : Process
  rootfs : Root
  runtimeDir : String
  hasProcess : config.spec.process = some process
  hasRoot : config.spec.root = some rootfs

namespace Container

def linux (c : Container) : Linux := c.config.spec.linux

/-- Modelled from the spec: `Container.RuntimePath(subPath ...string)`, absent
from the source, joins its arguments below the container's runtime directory. -/
def runtimePath (c : Container) (subPath : List String) : String :=
  FilePath.join (c.runtimeDir :: subPath)

def setLinux (c : Container) (linux : Linux) : Container :=
  { c with
    config := { c.config with spec := { c.config.spec with linux := linux } }
    hasProcess := c.hasProcess
    hasRoot := c.hasRoot }

@[simp] theorem setLinux_linux (c : Container) (linux : Linux) : (c.setLinux linux).linux = linux :=
  rfl

@[simp] theorem setLinux_process (c : Container) (linux : Linux) :
    (c.setLinux linux).process = c.process := rfl

@[simp] theorem setLinux_runtimeDir (c : Container) (linux : Linux) :
    (c.setLinux linux).runtimeDir = c.runtimeDir := rfl

@[simp] theorem setLinux_config_containerID (c : Container) (linux : Linux) :
    (c.setLinux linux).config.containerID = c.config.containerID := rfl

end Container

end Lxcri
