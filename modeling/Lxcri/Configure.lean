import Lxcri.Limits

/-!
`configureContainer` of `create.go`: every configuration step, in source
order. `setHostname`, `configureInit`, `configureMounts`,
`configureNamespaces`, `writeSeccompProfile` and `configureCgroup` are not in
the source; they are the fields of `Collaborators`, functions of what they are
given. `rt.Executables.Hook` belongs to another revision of the runtime; the
mount hook here is `rt.libexec(ExecHook)`, the file `Init` checks.

Go's `range` over `Linux.Sysctl` visits the map in an order the runtime picks
anew on every run, so a run takes that order as an argument: a permutation of
the map's entries. Everything before the sysctl loop is one function of the
container and the build, and everything after it only appends, so two runs
that succeed differ only inside the sysctl block.
-/

namespace Lxcri.Configure
open Text Config FilePath Steps Limits Devices DeviceFile

structure Collaborators where
  setHostname : String → String → Except GoError Unit
  configureInit : Runtime → Container → ConfigM Unit
  configureMounts : Runtime → Container → ConfigM Unit
  configureNamespaces : Container → ConfigM Unit
  writeSeccompProfile : String → LinuxSeccomp → ConfigM Unit
  configureCgroup : Runtime → Container → ConfigM Unit

/-- One iteration order of a Go map: its entries, permuted. -/
structure MapOrder (m : GoMap String String) where
  order : List (String × String)
  perm : order.Perm m.entries

/-- Modelled from the spec: `getNamespace`, absent from the source, finds the
spec's namespace entry of a type. -/
def getNamespace (nsType : String) (namespaces : List LinuxNamespace) : Option LinuxNamespace :=
  namespaces.find? (·.type == nsType)

section Configure
variable (host : Host) (co : Collaborators) (rt : Runtime)

/-- The part of `configureContainer` up to and including `configureCgroup`; it returns the
container with the default devices added. Each `if` block of the source is
one parenthesised step. -/
def configureThroughCgroup (c : Container) : ConfigM Container := do
  (if c.config.spec.hostname ≠ "" then do
      setConfigItem host "lxc.uts.name" c.config.spec.hostname
      match getNamespace "uts" c.linux.namespaces with
      | some uts =>
          if uts.path ≠ "" then
            match co.setHostname uts.path c.config.spec.hostname with
            | .ok () => pure ()
            | .error err => throw (.wrap "failed  to set hostname" err)
          else pure ()
      | none => pure ()
    else pure ())
  configureRootfs host c
  co.configureInit rt c
  co.configureMounts rt c
  configureReadonlyPaths host c
  wrapError "failed to configure namespaces" (co.configureNamespaces c)
  (match c.process.oomScoreAdj with
    | some adj => setConfigItem host "lxc.proc.oom_score_adj" (formatInt adj)
    | none => pure ())
  (if c.process.noNewPrivileges then setConfigItem host "lxc.no_new_privs" "1" else pure ())
  (if rt.features.apparmor then
      wrapError "failed to configure apparmor" (configureApparmor host c)
    else warn "apparmor feature is disabled - profile is set to unconfined")
  (if rt.features.seccomp then
      match c.linux.seccomp with
      | some seccomp =>
          if seccomp.syscalls.length > 0 then do
            let profilePath := c.runtimePath ["seccomp.conf"]
            co.writeSeccompProfile profilePath seccomp
            setConfigItem host "lxc.seccomp.profile" profilePath
          else pure ()
      | none => pure ()
    else warn "seccomp feature is disabled - all system calls are allowed")
  (if rt.features.capabilities then
      wrapError "failed to configure capabilities" (configureCapabilities host c)
    else warn "capabilities feature is disabled - running with full privileges")
  setConfigItem host "lxc.autodev" "0"
  let c := c.setLinux (ensureDefaultDevices c.process.user c.linux)
  wrapError "failed to create devices.txt" (createDeviceFile host (c.runtimePath ["devices.txt"]) c)
  wrapError "failed to create masked.txt" (writeMasked host (c.runtimePath ["masked.txt"]) c)
  setConfigItem host "lxc.hook.version" "1"
  setConfigItem host "lxc.hook.mount" (rt.libexec execHook)
  wrapError "failed to configure cgroups" (co.configureCgroup rt c)
  return c

def configureContainer (c : Container) (sysctlOrder : MapOrder c.linux.sysctl) :
    ConfigM Container := do
  let c ← configureThroughCgroup host co rt c
  configureSysctl host sysctlOrder.order
  configureRlimits host [] c.process.rlimits
  wrapError "failed to configure container log" (setLog host c)
  return c

/-! ### The steps after the sysctl loop only append -/

theorem framed_configureRlimits : ∀ (seen : List String) (rlimits : List POSIXRlimit),
    Framed (configureRlimits host seen rlimits)
  | _, [] => framed_pure ()
  | seen, limit :: rest => by
      unfold configureRlimits
      dsimp only
      split
      · exact framed_bind (framed_throw _) fun _ =>
          framed_bind (framed_setConfigItem host _ _) fun _ => framed_configureRlimits _ rest
      · exact framed_bind (framed_pure _) fun _ =>
          framed_bind (framed_setConfigItem host _ _) fun _ => framed_configureRlimits _ rest

theorem framed_setLog (c : Container) : Framed (setLog host c) :=
  framed_bind (framed_wrapError _ (framed_setConfigItem host _ _)) fun _ =>
    framed_wrapError _ (framed_setConfigItem host _ _)

theorem framed_afterSysctl (c : Container) :
    Framed (do
      configureRlimits host [] c.process.rlimits
      wrapError "failed to configure container log" (setLog host c)
      return c : ConfigM Container) :=
  framed_bind (framed_configureRlimits host [] _) fun _ =>
    framed_bind (framed_wrapError _ (framed_setLog host c)) fun _ => framed_pure c

theorem run_configureSysctl_ok {order : List (String × String)} {b b' : Build}
    (ran : run (configureSysctl host order) b = (.ok (), b')) :
    b' = { b with config := b.config ++ order.map sysctlDirective } := by
  rw [configureSysctl, run_forM_setsOne host _ sysctlDirective _
    (fun entry => setConfigItem_setsOne host (sysctlDirective entry))] at ran
  cases rejected : order.find? (fun x => !Accepted host (sysctlDirective x)) with
  | some x => simp [rejected] at ran
  | none =>
      have accepted : ∀ x ∈ order, Accepted host (sysctlDirective x) = true := fun x member => by
        simpa using List.find?_eq_none.mp rejected x member
      simp only [rejected, Prod.mk.injEq, true_and, List.takeWhile_eq_self_iff.mpr accepted] at ran
      exact ran.symm

/-- A successful run after `configureThroughCgroup`: the sysctl block, then the
framed rest. -/
theorem run_sysctl_then {α : Type} {next : ConfigM α} {r : Except GoError α}
    {items : List Directive} {files : List SideFile} {warnings : List String}
    (framed : ∀ b : Build, run next b =
      (r, ⟨b.config ++ items, b.files ++ files, b.warnings ++ warnings⟩))
    (order : List (String × String)) (b : Build) {a : α} {b' : Build}
    (ran : run (configureSysctl host order >>= fun _ => next) b = (.ok a, b')) :
    r = .ok a ∧
      b' = ⟨b.config ++ order.map sysctlDirective ++ items, b.files ++ files, b.warnings ++ warnings⟩ := by
  rcases sysctl : run (configureSysctl host order) b with ⟨_ | _, s⟩
  · rw [run_bind_error sysctl] at ran
    cases ran
  · rw [run_bind_ok sysctl, framed, run_configureSysctl_ok host sysctl, Prod.mk.injEq] at ran
    exact ⟨ran.1, ran.2.symm⟩

theorem perm_eq_of_length_le_one {α : Type} {l₁ l₂ : List α} (perm : l₁.Perm l₂)
    (short : l₂.length ≤ 1) : l₁ = l₂ := by
  match l₂, short with
  | [], _ => exact perm.eq_nil
  | [_], _ => exact List.perm_singleton.mp perm

/-! ### Where configuration writes its side files -/

theorem writesWithin_mono {allowed wider : String → Prop} (widen : ∀ p, allowed p → wider p)
    {step : ConfigM α} (keeps : Keeps (writesWithin allowed) step) :
    Keeps (writesWithin wider) step := fun b => by
  obtain ⟨written, grown, ok⟩ := keeps b
  exact ⟨written, grown, fun f member => widen _ (ok f member)⟩

theorem writesWithin_configureRlimits {allowed : String → Prop} :
    ∀ (seen : List String) (rlimits : List POSIXRlimit),
      Keeps (writesWithin allowed) (configureRlimits host seen rlimits)
  | _, [] => keeps_pure ()
  | seen, limit :: rest => by
      unfold configureRlimits
      dsimp only
      split
      · exact keeps_bind (keeps_throw _) fun _ =>
          keeps_bind (writesWithin_setConfigItem host _ _) fun _ => writesWithin_configureRlimits _ rest
      · exact keeps_bind (keeps_pure _) fun _ =>
          keeps_bind (writesWithin_setConfigItem host _ _) fun _ => writesWithin_configureRlimits _ rest

end Configure

/-- The configuration steps absent from the source write side files only below
the runtime directory of the container they are given, and the seccomp
profile only at the path it is given. -/
structure Confined (co : Collaborators) : Prop where
  configureInit : ∀ rt c, Keeps (writesWithin (IsProperDescendant c.runtimeDir)) (co.configureInit rt c)
  configureMounts : ∀ rt c,
    Keeps (writesWithin (IsProperDescendant c.runtimeDir)) (co.configureMounts rt c)
  configureNamespaces : ∀ c,
    Keeps (writesWithin (IsProperDescendant c.runtimeDir)) (co.configureNamespaces c)
  writeSeccompProfile : ∀ path seccomp,
    Keeps (writesWithin (· = path)) (co.writeSeccompProfile path seccomp)
  configureCgroup : ∀ rt c,
    Keeps (writesWithin (IsProperDescendant c.runtimeDir)) (co.configureCgroup rt c)

theorem runtimePath_isProperDescendant (c : Container) {name : String} (nonempty : c.runtimeDir ≠ "")
    (below : IsLocal name) : IsProperDescendant c.runtimeDir (c.runtimePath [name]) :=
  join_isProperDescendant nonempty below

section Writes
variable (host : Host) (co : Collaborators) (rt : Runtime)

/-- Every side file of a configuration run lies strictly below the container's
runtime directory. -/
theorem configureContainer_writes_below (confined : Confined co) (c : Container)
    (order : MapOrder c.linux.sysctl) (nonempty : c.runtimeDir ≠ "") :
    Keeps (writesWithin (IsProperDescendant c.runtimeDir)) (configureContainer host co rt c order) := by
  have seccomp : ∀ s, Keeps (writesWithin (IsProperDescendant c.runtimeDir))
      (co.writeSeccompProfile (c.runtimePath ["seccomp.conf"]) s) := fun s =>
    writesWithin_mono (fun _ same => same ▸ runtimePath_isProperDescendant c nonempty
      (by unfold IsLocal; decide)) (confined.writeSeccompProfile _ s)
  unfold configureContainer configureThroughCgroup configureRootfs configureReadonlyPaths
    configureApparmor configureCapabilities createDeviceFile writeMasked setLog configureSysctl
  repeat' (first
    | with_reducible exact keeps_pure _
    | with_reducible exact keeps_throw _
    | with_reducible exact writesWithin_setConfigItem _ _ _
    | with_reducible exact writesWithin_getConfigItem _ _
    | with_reducible exact writesWithin_warn _
    | with_reducible exact writesWithin_configureRlimits _ _ _
    | with_reducible exact confined.configureInit _ _
    | with_reducible exact confined.configureMounts _ _
    | with_reducible exact confined.configureNamespaces _
    | with_reducible exact confined.configureCgroup _ _
    | with_reducible exact seccomp _
    | with_reducible refine writesWithin_createFile _ _ ?_
    | with_reducible refine keeps_wrapError _ ?_
    | with_reducible refine keeps_forM _ _ fun _ _ => ?_
    | with_reducible refine keeps_bind ?_ fun _ => ?_
    | split)
  all_goals first
    | exact confined.configureCgroup rt _
    | exact runtimePath_isProperDescendant c nonempty (by unfold IsLocal; decide)

end Writes

/-! ### Two runs -/

section Runs
variable (host : Host) (co : Collaborators) (rt : Runtime)

/-- Two successful runs on one container that differ only in the order the map
iteration picks return the same container, write the same files and warnings,
and set the same items except within the sysctl block: the two item lists
are permutations of each other, and equal when there is at most one sysctl. -/
theorem configureContainer_sysctl_order_only (c : Container) (first second : MapOrder c.linux.sysctl)
    (b : Build) {c₁ c₂ : Container} {b₁ b₂ : Build}
    (ran₁ : run (configureContainer host co rt c first) b = (.ok c₁, b₁))
    (ran₂ : run (configureContainer host co rt c second) b = (.ok c₂, b₂)) :
    c₁ = c₂ ∧ b₁.files = b₂.files ∧ b₁.warnings = b₂.warnings ∧
      (∃ pre post, b₁.config = pre ++ first.order.map sysctlDirective ++ post ∧
        b₂.config = pre ++ second.order.map sysctlDirective ++ post) ∧
      b₁.config.Perm b₂.config ∧
      (c.linux.sysctl.entries.length ≤ 1 → b₁ = b₂) := by
  unfold configureContainer at ran₁ ran₂
  rcases base : run (configureThroughCgroup host co rt c) b with ⟨_ | c₀, b₀⟩
  · rw [run_bind_error base] at ran₁
    cases ran₁
  rw [run_bind_ok base] at ran₁ ran₂
  obtain ⟨r, items, files, warnings, framed⟩ := framed_afterSysctl host c₀
  obtain ⟨rfl, rfl⟩ := run_sysctl_then host framed first.order b₀ ran₁
  obtain ⟨same, rfl⟩ := run_sysctl_then host framed second.order b₀ ran₂
  have orders : (first.order.map sysctlDirective).Perm (second.order.map sysctlDirective) :=
    (first.perm.trans second.perm.symm).map _
  refine ⟨Except.ok.inj same, rfl, rfl, ⟨b₀.config, items, rfl, rfl⟩,
    (orders.append_left _).append_right _, fun short => ?_⟩
  rw [perm_eq_of_length_le_one (first.perm.trans second.perm.symm) (second.perm.length_eq ▸ short)]

/-- The saved configuration records the order Go's map iteration picked: two
successful runs from one state whose sysctl orders differ set different item
sequences. -/
theorem configureContainer_sysctl_order_observable (c : Container) (first second : MapOrder c.linux.sysctl)
    (b : Build) {c₁ c₂ : Container} {b₁ b₂ : Build}
    (ran₁ : run (configureContainer host co rt c first) b = (.ok c₁, b₁))
    (ran₂ : run (configureContainer host co rt c second) b = (.ok c₂, b₂))
    (differ : first.order ≠ second.order) : b₁.config ≠ b₂.config := by
  obtain ⟨-, -, -, ⟨pre, post, items₁, items₂⟩, -⟩ :=
    configureContainer_sysctl_order_only host co rt c first second b ran₁ ran₂
  intro same
  rw [items₁, items₂] at same
  exact differ (List.map_injective_iff.mpr sysctlDirective_injective
    (List.append_cancel_left (List.append_cancel_right same)))

end Runs

/-! ### What a run returns -/

section Result
variable (host : Host) (co : Collaborators) (rt : Runtime)

theorem configureThroughCgroup_yields (c : Container) :
    Yields (· = c.setLinux (ensureDefaultDevices c.process.user c.linux))
      (configureThroughCgroup host co rt c) := by
  unfold configureThroughCgroup
  repeat' (first
    | with_reducible exact yields_pure rfl
    | with_reducible refine yields_bind fun _ => ?_)

theorem configureContainer_yields (c : Container) (order : MapOrder c.linux.sysctl) :
    Yields (· = c.setLinux (ensureDefaultDevices c.process.user c.linux))
      (configureContainer host co rt c order) := by
  intro b c' ran
  unfold configureContainer at ran
  rw [run_bind] at ran
  rcases base : run (configureThroughCgroup host co rt c) b with ⟨_ | c₀, b₀⟩ <;> rw [base] at ran
  · cases ran
  · have yields : Yields (· = c₀) (do
        configureSysctl host order.order
        configureRlimits host [] c₀.process.rlimits
        wrapError "failed to configure container log" (setLog host c₀)
        return c₀ : ConfigM Container) :=
      yields_bind fun _ => yields_bind fun _ => yields_bind fun _ => yields_pure rfl
    rw [yields _ _ ran]
    exact configureThroughCgroup_yields host co rt c b c₀ (by rw [base])

end Result

/-! ### A container with two sysctls -/

def noCollaborators : Collaborators :=
  ⟨fun _ _ => .ok (), fun _ _ => pure (), fun _ _ => pure (), fun _ => pure (), fun _ _ => pure (),
    fun _ _ => pure ()⟩

def sampleRuntime : Runtime :=
  ⟨"/run/lxcri", "", "/usr/libexec/lxcri", ⟨true, true, true, true⟩, [], [], "/sys/fs/cgroup"⟩

def twoSysctls : GoMap String String :=
  ⟨[("net.ipv4.ip_forward", "1"), ("kernel.msgmax", "65536")], by decide⟩

def sysctlContainer : Container := sampleContainer { sampleLinux with sysctl := twoSysctls }

def sysctlInOrder : MapOrder sysctlContainer.linux.sysctl := ⟨twoSysctls.entries, List.Perm.refl _⟩

def sysctlReversed : MapOrder sysctlContainer.linux.sysctl :=
  ⟨twoSysctls.entries.reverse, List.reverse_perm _⟩

/-- The two orders of `twoSysctls` leave two different item lists. -/
theorem sysctl_order_changes_config :
    sysctlInOrder.order ≠ sysctlReversed.order ∧
      (run (configureContainer (acceptingHost "/var/lib/lxc") noCollaborators sampleRuntime
          sysctlContainer sysctlInOrder) emptyBuild).2.config ≠
        (run (configureContainer (acceptingHost "/var/lib/lxc") noCollaborators sampleRuntime
          sysctlContainer sysctlReversed) emptyBuild).2.config :=
  ⟨by decide, configureContainer_sysctl_order_observable (acceptingHost "/var/lib/lxc") noCollaborators
    sampleRuntime sysctlContainer sysctlInOrder sysctlReversed emptyBuild rfl rfl (by decide)⟩

end Lxcri.Configure
