import Lxcri.Lifecycle

/-!
What the runtime touches over whole runs of `Create` and `Delete`. The calls
on one ID change the file system only at or below its runtime directory
`filepath.Join(rt.Root, ID)`. With IDs that stay below the root, the runtime
therefore never changes the root itself or anything outside it, and every
path it hands the operating system lies strictly below the root. Outside the
file system, `Delete` removes the cgroup of a container it loaded: the cgroup
tree loses entries only at or below the cgroups whose removal the trace
records, and `Create` leaves it alone. With plain IDs the directories of two
containers are disjoint, so the calls on other IDs leave a container's
directory, and what `Load` reads from it, as they were.
-/

namespace Lxcri.Confinement
open FilePath Config Os Configure Runtime Lifecycle

/-! ### Where the file system may change -/

/-- The file system is unchanged at every path that `keep` holds of. -/
def unchangedWhere (keep : List Elem → Prop) : StateRel World where
  rel w w' := ∀ q, keep q → w'.fs.lookup q = w.fs.lookup q
  refl _ _ _ := rfl
  trans first second q kept := (second q kept).trans (first q kept)

section Frames
variable {α : Type} {keep keep' : List Elem → Prop} {step : OsM α}

theorem keeps_unchangedWhere_mono (narrow : ∀ q, keep' q → keep q)
    (keeps : Keeps (unchangedWhere keep) step) : Keeps (unchangedWhere keep') step :=
  fun w q kept => keeps w q (narrow q kept)

theorem unchangedWhere_of_framedBelow {p : List Elem} (keeps : Keeps (framedBelow p) step) :
    Keeps (unchangedWhere fun q => ¬ p <+: q) step :=
  fun w q apart => keeps w q fun below => apart below.1

theorem unchangedWhere_of_quiet (keeps : Keeps quiet step) : Keeps (unchangedWhere keep) step :=
  fun w _ _ => by rw [(keeps w).1]

theorem unchangedWhere_mkdir (path : String) :
    Keeps (unchangedWhere fun q => ¬ parts path <+: q) (mkdir path) := by
  intro w q apart
  rcases mkdir_outcome path w with ⟨-, same⟩ | ⟨absent, -, inserted⟩
  · rw [same]
  · rw [inserted, FileSystem.lookup_insert,
      if_neg fun (same : parts path = q) => apart (same ▸ List.prefix_refl _)]

end Frames

/-! ### One call -/

section Calls
variable {sys : System} {rt : Runtime} {co : Collaborators}
  {order : (m : GoMap String String) → MapOrder m}

/-- A `Create` changes the file system only at or below the ID's runtime directory. -/
theorem create_unchanged_outside (confined : Confined co) (nonempty : rt.root ≠ "")
    (cfg : ContainerConfig) :
    Keeps (unchangedWhere fun q => ¬ parts (join [rt.root, cfg.containerID]) <+: q)
      (create sys rt co order cfg) := by
  have dir := join_ne_empty_of_root cfg.containerID nonempty
  refine keeps_create sys rt co order cfg (unchangedWhere_of_quiet (quiet_checkConfig sys cfg))
    (unchangedWhere_mkdir _) (fun rootfs process => unchangedWhere_of_framedBelow
      (configure_framedBelow confined (newContainer rt cfg rootfs process) dir))
    fun c build same => ?_
  rw [← same]
  exact unchangedWhere_of_framedBelow (runStartCmd_framedBelow c build (same ▸ dir))

/-- A `Delete` changes the file system only at or below the ID's runtime directory. -/
theorem delete_unchanged_outside (containerID : String) (force : Bool) :
    Keeps (unchangedWhere fun q => ¬ parts (join [rt.root, containerID]) <+: q)
      (delete sys rt containerID force) := by
  intro w q apart
  rcases (delete_effect sys rt containerID force w).1 with same | removed
  · rw [same]
  · rw [removed, FileSystem.lookup_removeBelow, if_neg apart]

/-- A `Create` never changes the cgroup tree. -/
theorem create_keeps_cgroups (confined : Confined co) (nonempty : rt.root ≠ "") (cfg : ContainerConfig) :
    Keeps cgroupsKept (create sys rt co order cfg) := by
  have dir := join_ne_empty_of_root cfg.containerID nonempty
  refine keeps_create sys rt co order cfg (cgroupsKept_of_quiet (quiet_checkConfig sys cfg))
    (cgroupsKept_mkdir _) (fun rootfs process => keeps_configure sys rt co order confined _ dir
      (fun _ _ _ => cgroupsKept_writeFile _ _) fun _ => cgroupsKept_of_quiet (quiet_warn _))
    fun c build same => ?_
  rw [← same] at dir
  exact keeps_runStartCmd sys rt c build dir (fun _ _ _ => cgroupsKept_saveConfigFile _ _)
    (fun _ _ _ => cgroupsKept_createFile _ _) fun _ => cgroupsKept_record _

/-- A `Create` removes no cgroup. -/
theorem create_removes_no_cgroup (confined : Confined co) (nonempty : rt.root ≠ "") (cfg : ContainerConfig) :
    Keeps cgroupsRemoved (create sys rt co order cfg) := fun w => by
  have dir := join_ne_empty_of_root cfg.containerID nonempty
  have grows : Keeps (callsWithin fun _ => True) (create sys rt co order cfg) := by
    refine keeps_create sys rt co order cfg (callsWithin_of_quiet (quiet_checkConfig sys cfg))
      (callsWithin_mkdir trivial) (fun _ _ => keeps_configure sys rt co order confined _ dir
        (fun _ _ _ => callsWithin_writeFile _ trivial) fun _ => callsWithin_warn _) fun c build same => ?_
    rw [← same] at dir
    exact keeps_runStartCmd sys rt c build dir (fun _ _ _ => callsWithin_saveConfigFile _ trivial)
      (fun _ _ _ => callsWithin_createFile _ trivial) fun _ => callsWithin_record trivial
  obtain ⟨new, calls, -⟩ := grows w
  exact ⟨new, calls, .of_kept new (create_keeps_cgroups confined nonempty cfg w)⟩

theorem delete_removes_cgroups (containerID : String) (force : Bool) :
    Keeps cgroupsRemoved (delete sys rt containerID force) := fun w =>
  have ⟨_, new, calls, _, removed⟩ := delete_effect sys rt containerID force w
  ⟨new, calls, removed⟩

theorem join_strictlyBelow (nonempty : rt.root ≠ "") {containerID : String}
    (local_ : IsLocal containerID) :
    StrictlyBelow (parts rt.root) (parts (join [rt.root, containerID])) :=
  strictlyBelow_of_isProperDescendant (join_isProperDescendant nonempty local_)

end Calls

/-! ### Whole runs -/

section Runs
variable {sys : System} {rt : Runtime} {co : Collaborators}
  {order : (m : GoMap String String) → MapOrder m}

/-- A relation that every call of a run keeps, the run keeps. -/
theorem performAll_keeps {R : StateRel World} :
    ∀ (ops : List Op) (w : World), (∀ op ∈ ops, ∀ w, R.rel w (op.perform sys rt co order w).2) →
      R.rel w (performAll sys rt co order ops w).2
  | [], w, _ => R.refl w
  | op :: rest, w, each =>
      R.trans (each op (.head _) w) (performAll_keeps rest _ fun op' member => each op' (.tail _ member))

/-- Two plain IDs own disjoint directories. -/
theorem apart_of_plain (nonempty : rt.root ≠ "") {x y : String} (plainX : PlainName x)
    (plainY : PlainName y) (apart : y ≠ x) (q : List Elem) (inX : parts (join [rt.root, x]) <+: q) :
    ¬ parts (join [rt.root, y]) <+: q := fun inY => by
  rw [parts_join_plain nonempty plainX] at inX
  rw [parts_join_plain nonempty plainY] at inY
  exact apart (String.ext (child_eq_of_prefixes inY inX))

/-- Calls on other plain IDs keep every lookup at or below a plain ID's
runtime directory. -/
theorem performAll_keeps_own_dir (confined : Confined co) (nonempty : rt.root ≠ "")
    {containerID : String} (plain : PlainName containerID) (ops : List Op)
    (others : ∀ op ∈ ops, PlainName op.containerID ∧ op.containerID ≠ containerID) (w : World) :
    (unchangedWhere fun q => parts (join [rt.root, containerID]) <+: q).rel w
      (performAll sys rt co order ops w).2 := by
  refine performAll_keeps ops w fun op member => ?_
  have narrow := apart_of_plain nonempty plain (others op member).1 (others op member).2
  cases op with
  | create cfg => exact keeps_unchangedWhere_mono narrow (create_unchanged_outside confined nonempty cfg)
  | delete other force => exact keeps_unchangedWhere_mono narrow (delete_unchanged_outside other force)

/-- Calls on other plain IDs leave a plain ID's runtime directory, and what
`Load` reads from it, as they were. -/
theorem performAll_isolates (confined : Confined co) (nonempty : rt.root ≠ "") {containerID : String}
    (plain : PlainName containerID) (ops : List Op)
    (others : ∀ op ∈ ops, PlainName op.containerID ∧ op.containerID ≠ containerID) (w : World) :
    (∀ q, parts (join [rt.root, containerID]) <+: q →
      (performAll sys rt co order ops w).2.fs.lookup q = w.fs.lookup q) ∧
    load sys rt (performAll sys rt co order ops w).2.fs containerID = load sys rt w.fs containerID :=
  have kept := performAll_keeps_own_dir confined nonempty plain ops others w
  ⟨kept, load_reads_own_dir nonempty plain kept⟩

/-- The calls: `Create` of "c2" and "c3" beside "c1". -/
def otherOps : List Op := [.create (sampleConfig "c2"), .create (sampleConfig "c3")]

theorem performAll_isolates_c1 :
    (∀ q, parts (join [sampleRuntime.root, "c1"]) <+: q →
      (performAll (answering []) sampleRuntime noCollaborators inOrder otherOps runtimeRootWorld).2.fs.lookup q =
        runtimeRootWorld.fs.lookup q) ∧
    load (answering []) sampleRuntime
        (performAll (answering []) sampleRuntime noCollaborators inOrder otherOps runtimeRootWorld).2.fs "c1" =
      load (answering []) sampleRuntime runtimeRootWorld.fs "c1" :=
  performAll_isolates noCollaborators_confined (by decide) (by decide) otherOps (by decide) runtimeRootWorld

end Runs

end Lxcri.Confinement
