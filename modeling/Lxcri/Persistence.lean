import Lxcri.Confinement

/-!
What the runtime directory holds from one call to the next. A successful
`Create` leaves the recovery snapshot `lxcri.json` in
`filepath.Join(rt.Root, ID)`, encoded with the pid the start of the monitor
answered; `Load` of the ID decodes exactly that snapshot, and keeps doing so
across any later calls on other plain IDs. Because the runtime directory is
made by exclusive creation, a second `Create` of an ID fails and changes no
entry, whatever config it is given, while a `Create` that fails after the
allocation leaves the directory behind; a successful `Delete` removes it,
after which `Load` and a second `Delete` report `ErrNotExist`. A `Create` of a
fresh ID, whatever its outcome, and a successful `Delete` of it leave the
file system as they found it, and take from the cgroup tree only the cgroup
of the container `Delete` loaded.
-/

namespace Lxcri.Persistence
open FilePath Config Os Configure Runtime Lifecycle Confinement

/-! ### The snapshot that `Load` reads -/

section Snapshot
variable {sys : System} {rt : Runtime} {co : Collaborators}
  {order : (m : GoMap String String) → MapOrder m}

theorem snapshot_dropLast {dir : String} (named : dir ≠ "") :
    (parts (join [dir, "lxcri.json"])).dropLast = parts dir := by
  rw [(parts_join_pair named (by decide)).1]
  exact List.dropLast_concat

/-- The pid the start of the monitor answered for the start command. -/
def StartedWith (sys : System) (rt : Runtime) (c : Container) (pid : Nat) : Prop :=
  ∃ cmd, (cmd = startCommand rt c ∨ cmd = { startCommand rt c with inheritStdio := true }) ∧
    (if c.config.consoleSocket ≠ "" then sys.console.ptyStart cmd else sys.start cmd) = .ok pid

/-- After a successful `Create` the runtime directory is a directory, and the
snapshot in it holds the container `Create` returned, encoded with the pid
the monitor's start answered. -/
theorem create_ok_snapshot {cfg : ContainerConfig} {w w' : World} {c : Container}
    (ran : run (create sys rt co order cfg) w = (.ok c, w')) :
    ∃ pid, StartedWith sys rt c pid ∧ w'.fs.isDir (parts (join [rt.root, cfg.containerID])) = true ∧
      w'.fs.lookup (parts (join [join [rt.root, cfg.containerID], "lxcri.json"])) =
        some ⟨parts (join [join [rt.root, cfg.containerID], "lxcri.json"]),
          some (sys.encodeSnapshot c pid)⟩ := by
  obtain ⟨_, _, w₁, _, _, _, checked, -, -, made, started⟩ := create_ok_stages sys rt co order ran
  obtain ⟨cmd, pid, command, answered, file, parent⟩ := runStartCmd_snapshot sys rt started
  have named := join_pair_ne_empty rt.root (checkConfig_named sys cfg w _ (congrArg Prod.fst checked))
  have dir : c.runtimeDir = join [rt.root, cfg.containerID] := by rw [made]; rfl
  rw [Container.runtimePath, dir] at file parent
  rw [snapshot_dropLast named] at parent
  exact ⟨pid, ⟨cmd, command, answered⟩, parent, file⟩

theorem load_after_create {cfg : ContainerConfig} {w w' : World} {c : Container}
    (ran : run (create sys rt co order cfg) w = (.ok c, w')) :
    ∃ pid, StartedWith sys rt c pid ∧
      load sys rt w'.fs cfg.containerID = (sys.decodeSnapshot (sys.encodeSnapshot c pid)).map
        fun c' => { c' with runtimeDir := join [rt.root, cfg.containerID] } := by
  obtain ⟨pid, started, dir, file⟩ := create_ok_snapshot ran
  exact ⟨pid, started, by simp only [load, loadSnapshot, FileSystem.present_of_isDir dir, if_true, file]⟩

/-- The recovery round trip: after a successful `Create` of a plain ID and any
later calls on other plain IDs, `Load` of the ID decodes the snapshot that
`Create` wrote for the container it returned, with the pid the monitor's start
answered, in the ID's runtime directory. -/
theorem create_then_load (confined : Confined co) (nonempty : rt.root ≠ "") {cfg : ContainerConfig}
    (plain : PlainName cfg.containerID) {w w' : World} {c : Container}
    (ran : run (create sys rt co order cfg) w = (.ok c, w')) (ops : List Op)
    (others : ∀ op ∈ ops, PlainName op.containerID ∧ op.containerID ≠ cfg.containerID) :
    ∃ pid, StartedWith sys rt c pid ∧
      load sys rt (performAll sys rt co order ops w').2.fs cfg.containerID =
        (sys.decodeSnapshot (sys.encodeSnapshot c pid)).map
          fun c' => { c' with runtimeDir := join [rt.root, cfg.containerID] } := by
  rw [load_reads_own_dir nonempty plain (performAll_keeps_own_dir confined nonempty plain ops others w')]
  exact load_after_create ran

/-- After a `Create` of "c2", the calls `Create` of "c3" and `Delete` of "c1". -/
def laterOps : List Op := [.create (sampleConfig "c3"), .delete "c1" false]

theorem create_then_load_c2 :
    ∃ c w', run (create (answering []) sampleRuntime noCollaborators inOrder (sampleConfig "c2"))
        runtimeRootWorld = (.ok c, w') ∧
      ∃ pid, StartedWith (answering []) sampleRuntime c pid ∧
        load (answering []) sampleRuntime
          (performAll (answering []) sampleRuntime noCollaborators inOrder laterOps w').2.fs "c2" =
        ((answering []).decodeSnapshot ((answering []).encodeSnapshot c pid)).map
          fun c' => { c' with runtimeDir := join [sampleRuntime.root, "c2"] } :=
  have ⟨_, _, ran⟩ := run_eq_ok_of_isOk (by decide :
    (run (create (answering []) sampleRuntime noCollaborators inOrder (sampleConfig "c2"))
      runtimeRootWorld).1.isOk = true)
  ⟨_, _, ran, create_then_load noCollaborators_confined (by decide) (by decide) ran laterOps (by decide)⟩

end Snapshot

/-! ### Repeated calls -/

section Repeated
variable {sys : System} {rt : Runtime} {co : Collaborators}
  {order : (m : GoMap String String) → MapOrder m}

theorem mkdir_of_present {path : String} {w : World} (taken : w.fs.present (parts path) = true) :
    run (mkdir path) w = (.error (.failed "mkdir" [path]), { w with calls := w.calls ++ [.mkdir path] }) := by
  rw [mkdir, run_bind_ok (run_record _ w), run_makeEntry, dif_neg (by simpa using taken)]

/-- A `Create` of an ID whose runtime directory exists fails, at the latest at
the exclusive creation of that directory: it changes no entry and makes no
call but that `mkdir`. -/
theorem create_of_present {cfg : ContainerConfig} {w : World}
    (taken : w.fs.present (parts (join [rt.root, cfg.containerID])) = true) :
    (run (create sys rt co order cfg) w).1.isOk = false ∧
      (run (create sys rt co order cfg) w).2.fs = w.fs ∧
      (callsWithin (· = .mkdir (join [rt.root, cfg.containerID]))).rel w
        (run (create sys rt co order cfg) w).2 := by
  unfold create
  have checked := quiet_checkConfig sys cfg w
  rcases ranCheck : run (checkConfig sys cfg) w with ⟨_ | ⟨rootfs, process⟩, w₁⟩ <;>
    rw [ranCheck] at checked <;>
    obtain ⟨sameFs, sameCalls, -⟩ : w₁.fs = w.fs ∧ w₁.calls = w.calls ∧ w₁.cgroups = w.cgroups := checked
  · rw [run_bind_error ranCheck]
    exact ⟨rfl, sameFs, [], by rw [sameCalls, List.append_nil], by simp⟩
  · rw [← sameFs] at taken
    rw [run_bind_ok ranCheck, run_bind_error (by rw [run_wrapError, createRuntimeDir,
      newContainer, mkdir_of_present taken])]
    exact ⟨rfl, sameFs, [_], by rw [sameCalls], by simp⟩

/-- A second `Create` of an ID, with any config, fails and changes no entry:
the first container's directory, configuration and snapshot stay as they
were, and no monitor is started. -/
theorem create_twice_fails {cfg cfg' : ContainerConfig} (sameID : cfg'.containerID = cfg.containerID)
    {w w' : World} {c : Container} (ran : run (create sys rt co order cfg) w = (.ok c, w')) :
    (run (create sys rt co order cfg') w').1.isOk = false ∧
      (run (create sys rt co order cfg') w').2.fs = w'.fs ∧
      (callsWithin (· = .mkdir (join [rt.root, cfg.containerID]))).rel w'
        (run (create sys rt co order cfg') w').2 := by
  obtain ⟨_, -, dir, -⟩ := create_ok_snapshot ran
  rw [← sameID] at dir ⊢
  exact create_of_present (FileSystem.present_of_isDir dir)

theorem create_twice_fails_c2 :
    ∃ c w', run (create (answering []) sampleRuntime noCollaborators inOrder (sampleConfig "c2"))
        runtimeRootWorld = (.ok c, w') ∧
      (run (create (answering []) sampleRuntime noCollaborators inOrder (sampleConfig "c2")) w').1.isOk =
          false ∧
        (run (create (answering []) sampleRuntime noCollaborators inOrder (sampleConfig "c2")) w').2.fs =
          w'.fs ∧
        (callsWithin (· = .mkdir (join [sampleRuntime.root, "c2"]))).rel w'
          (run (create (answering []) sampleRuntime noCollaborators inOrder (sampleConfig "c2")) w').2 :=
  have ⟨_, _, ran⟩ := run_eq_ok_of_isOk (by decide :
    (run (create (answering []) sampleRuntime noCollaborators inOrder (sampleConfig "c2"))
      runtimeRootWorld).1.isOk = true)
  ⟨_, _, ran, create_twice_fails rfl ran⟩

theorem delete_of_absent {containerID : String} (force : Bool) {w : World}
    (absent : w.fs.present (parts (join [rt.root, containerID])) = false) :
    run (delete sys rt containerID force) w = (.error errNotExist, w) := by
  have missing : load sys rt w.fs containerID = .error errNotExist := by simp [load, absent]
  rw [delete, run_get_bind]
  simp only [missing, if_true]
  rfl

theorem parts_join_ne_nil (nonempty : rt.root ≠ "") {containerID : String}
    (local_ : IsLocal containerID) : parts (join [rt.root, containerID]) ≠ [] := fun empty => by
  have below := join_strictlyBelow nonempty local_
  rw [empty] at below
  exact below.2 (List.prefix_nil.mp below.1)

/-- After a successful `Delete` of an ID that stays below a non-empty root,
`Load` of the ID reports `ErrNotExist`, and so does a second `Delete`,
which changes nothing. -/
theorem delete_twice_fails (nonempty : rt.root ≠ "") {containerID : String}
    (local_ : IsLocal containerID) (force force' : Bool) {w w' : World}
    (ran : run (delete sys rt containerID force) w = (.ok (), w')) :
    load sys rt w'.fs containerID = .error errNotExist ∧
      run (delete sys rt containerID force') w' = (.error errNotExist, w') := by
  have key := parts_join_ne_nil nonempty local_
  have absent : w'.fs.present (parts (join [rt.root, containerID])) = false := by
    rcases delete_outcome sys rt containerID force w (join_ne_empty_of_root _ nonempty) with
      ⟨-, removed⟩ | ⟨failed, -⟩
    · rw [ran] at removed
      rw [removed, FileSystem.present_eq_lookup _ key, FileSystem.lookup_removeBelow,
        if_pos (List.prefix_refl _)]
      rfl
    · rw [ran] at failed
      cases failed
  exact ⟨by simp [load, absent], delete_of_absent force' absent⟩

theorem delete_twice_fails_c1 :
    ∃ w', run (delete (answering []) sampleRuntime "c1" false) runtimeRootWorld = (.ok (), w') ∧
      load (answering []) sampleRuntime w'.fs "c1" = .error errNotExist ∧
      run (delete (answering []) sampleRuntime "c1" true) w' = (.error errNotExist, w') :=
  have ⟨_, _, ran⟩ := run_eq_ok_of_isOk (by decide :
    (run (delete (answering []) sampleRuntime "c1" false) runtimeRootWorld).1.isOk = true)
  ⟨_, ran, delete_twice_fails (by decide) (by decide) false true ran⟩

end Repeated

/-! ### Delete undoes Create -/

section Undo
variable {sys : System} {rt : Runtime} {co : Collaborators}
  {order : (m : GoMap String String) → MapOrder m}

theorem lookup_eq_none_of_below {fs : FileSystem} {p : List Elem} (vacant : ∀ e ∈ fs.entries, ¬ p <+: e.path)
    {q : List Elem} (below : p <+: q) : fs.lookup q = none := by
  rw [FileSystem.lookup, List.find?_eq_none]
  intro e member same
  exact vacant e member (by rw [beq_iff_eq.mp same]; exact below)

/-- With nothing stored at or below an ID's runtime directory, a `Create` of
the ID, whatever its outcome, followed by a `Delete` of the ID that succeeds,
leaves every path of the file system as it was: `Delete` is the cleanup of a
failed `Create` as well as the inverse of a successful one. The cgroup tree
loses entries only at or below the cgroups `Delete` removed, and when the
record `Create` left loads, the container's cgroup is gone, unless the kernel
answered its removal with a missing-file error. -/
theorem create_delete_restores (confined : Confined co) (nonempty : rt.root ≠ "") (cfg : ContainerConfig)
    (force : Bool) {w : World}
    (vacant : ∀ e ∈ w.fs.entries, ¬ parts (join [rt.root, cfg.containerID]) <+: e.path)
    (deleted : (run (delete sys rt cfg.containerID force) (run (create sys rt co order cfg) w).2).1.isOk = true) :
    (∀ q, (run (delete sys rt cfg.containerID force) (run (create sys rt co order cfg) w).2).2.fs.lookup q =
        w.fs.lookup q) ∧
      cgroupsRemoved.rel w (run (delete sys rt cfg.containerID force) (run (create sys rt co order cfg) w).2).2 ∧
      ∀ c, load sys rt (run (create sys rt co order cfg) w).2.fs cfg.containerID = .ok c →
        (∀ err, sys.removeCgroup (join [rt.cgroupRoot, c.config.cgroupDir]) = .error err →
          sys.isNotExist err = false) →
        (run (delete sys rt cfg.containerID force) (run (create sys rt co order cfg) w).2).2.cgroups.lookup
          (parts (join [rt.cgroupRoot, c.config.cgroupDir])) = none := by
  refine ⟨fun q => ?_, cgroupsRemoved.trans (create_removes_no_cgroup confined nonempty cfg w)
    (delete_removes_cgroups cfg.containerID force _), fun c loaded answers =>
    delete_removes_cgroup sys rt loaded (by obtain ⟨⟨⟩, _, ran⟩ := run_eq_ok_of_isOk deleted; rw [ran])
      answers⟩
  rcases delete_outcome sys rt cfg.containerID force (run (create sys rt co order cfg) w).2
    (join_ne_empty_of_root _ nonempty) with ⟨-, removed⟩ | ⟨failed, -⟩
  · rw [removed, FileSystem.lookup_removeBelow]
    split
    · rename_i below
      exact (lookup_eq_none_of_below vacant below).symm
    · exact create_unchanged_outside confined nonempty cfg w q ‹_›
  · rw [deleted] at failed
    cases failed

/-- A system that reads every snapshot back as the container `c2`. -/
def recovering : System :=
  { answering [] with
    decodeSnapshot := fun _ => .ok (newContainer sampleRuntime (sampleConfig "c2") Steps.sampleRoot
      Steps.sampleProcess) }

theorem create_delete_restores_c2 :
    (∀ e ∈ runtimeRootWorld.fs.entries,
        ¬ parts (join [sampleRuntime.root, (sampleConfig "c2").containerID]) <+: e.path) ∧
      (run (delete recovering sampleRuntime (sampleConfig "c2").containerID false)
        (run (create recovering sampleRuntime noCollaborators inOrder (sampleConfig "c2"))
          runtimeRootWorld).2).1.isOk = true ∧
      (∀ q, (run (delete recovering sampleRuntime (sampleConfig "c2").containerID false)
        (run (create recovering sampleRuntime noCollaborators inOrder (sampleConfig "c2"))
          runtimeRootWorld).2).2.fs.lookup q = runtimeRootWorld.fs.lookup q) ∧
      cgroupsRemoved.rel runtimeRootWorld (run (delete recovering sampleRuntime (sampleConfig "c2").containerID false)
        (run (create recovering sampleRuntime noCollaborators inOrder (sampleConfig "c2"))
          runtimeRootWorld).2).2 ∧
      (run (delete recovering sampleRuntime (sampleConfig "c2").containerID false)
        (run (create recovering sampleRuntime noCollaborators inOrder (sampleConfig "c2"))
          runtimeRootWorld).2).2.cgroups.lookup (parts "/sys/fs/cgroup/lxcri/c2") = none :=
  have vacant : ∀ e ∈ runtimeRootWorld.fs.entries,
      ¬ parts (join [sampleRuntime.root, (sampleConfig "c2").containerID]) <+: e.path := by
    decide
  have deleted : (run (delete recovering sampleRuntime (sampleConfig "c2").containerID false)
      (run (create recovering sampleRuntime noCollaborators inOrder (sampleConfig "c2"))
        runtimeRootWorld).2).1.isOk = true := by
    decide
  have ⟨restored, removed, _⟩ :=
    create_delete_restores noCollaborators_confined (by decide) (sampleConfig "c2") false vacant deleted
  ⟨vacant, deleted, restored, removed, by decide⟩

end Undo

end Lxcri.Persistence
