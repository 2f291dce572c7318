import Lxcri.Runtime

/-!
The runtime root as the registry of containers. A container exists exactly
when its runtime directory `filepath.Join(rt.Root, ID)` does: `Create`
allocates it by exclusive creation, `Delete` removes it, and `List` reads the
visible names one level below the root.

An abstract registry of live IDs is stepped by each call together with its
outcome. A `Create` that fails after the allocation leaves its directory
behind, so the abstract step lets a failed `Create` add its ID. For IDs that
name one visible entry of the root, the file system below the root refines
the registry over every sequence of calls, and `Load` and `Delete` of an ID
touch nothing below another ID's directory.
-/

namespace Lxcri.Lifecycle
open FilePath Config Os Configure Runtime

/-! ### Plain IDs -/

/-- An ID that is one visible entry of the root: non-empty, without a
separator, and not starting with a dot. -/
def PlainName (containerID : String) : Prop :=
  containerID ≠ "" ∧ '/' ∉ containerID.data ∧ containerID.data.head? ≠ some '.'

instance (containerID : String) : Decidable (PlainName containerID) :=
  inferInstanceAs (Decidable (_ ∧ _ ∧ _))

section Plain
variable {root containerID : String}

theorem relativeParts_plain (plain : PlainName containerID) :
    relativeParts containerID = [containerID.data] := by
  obtain ⟨nonempty, noSlash, noDot⟩ := plain
  have single : elements containerID.data = [containerID.data] :=
    List.splitOnP_eq_single _ _ fun _ member same => noSlash (beq_iff_eq.mp same ▸ member)
  have notDot : ∀ rest, containerID.data ≠ '.' :: rest := fun rest same => noDot (by rw [same]; rfl)
  simp [relativeParts, single, cleanStack, cleanStep, data_ne_nil nonempty, notDot, dotDot]

theorem isLocal_plain (plain : PlainName containerID) : IsLocal containerID := by
  refine ⟨by simp [relativeParts_plain plain], ?_⟩
  rw [relativeParts_plain plain, List.mem_singleton]
  exact fun same => plain.2.2 (by rw [← same]; rfl)

theorem parts_join_plain (nonempty : root ≠ "") (plain : PlainName containerID) :
    parts (join [root, containerID]) = parts root ++ [containerID.data] := by
  rw [(parts_join_pair nonempty (isLocal_plain plain).2).1, relativeParts_plain plain]

theorem join_plain_ne_empty (nonempty : root ≠ "") (plain : PlainName containerID) :
    join [root, containerID] ≠ "" := fun empty => by
  have longer := congrArg List.length (parts_join_plain nonempty plain)
  rw [empty, show parts "" = [] from rfl] at longer
  simp at longer

theorem isVisible_plain (plain : PlainName containerID) : isVisible containerID = true := by
  simpa [isVisible] using plain.2.2

end Plain

theorem child_eq_of_prefixes {root q : List Elem} {a b : Elem} (first : root ++ [a] <+: q)
    (second : root ++ [b] <+: q) : a = b := by
  have same : root ++ [a] = root ++ [b] :=
    (List.prefix_of_prefix_length_le first second (by simp)).eq_of_length (by simp)
  simpa using same

/-! ### The abstract registry -/

inductive Op where
  | create (cfg : ContainerConfig)
  | delete (containerID : String) (force : Bool)

def Op.containerID : Op → String
  | .create cfg => cfg.containerID
  | .delete containerID _ => containerID

/-- One call on the registry of live IDs, with whether it succeeded. -/
inductive RegistryStep : List String → Op × Bool → List String → Prop where
  -- `Create` allocates the directory of a fresh ID, then may still fail.
  | create {live : List String} {cfg : ContainerConfig} (succeeded : Bool)
      (fresh : cfg.containerID ∉ live) :
      RegistryStep live (.create cfg, succeeded) (live ++ [cfg.containerID])
  | createFailed {live : List String} (cfg : ContainerConfig) :
      RegistryStep live (.create cfg, false) live
  | delete {live : List String} (containerID : String) (force : Bool) :
      RegistryStep live (.delete containerID force, true) (live.erase containerID)
  | deleteFailed {live : List String} (containerID : String) (force : Bool) :
      RegistryStep live (.delete containerID force, false) live

inductive RegistryRun : List String → List (Op × Bool) → List String → Prop where
  | nil (live : List String) : RegistryRun live [] live
  | cons {live mid live' : List String} {call : Op × Bool} {calls : List (Op × Bool)}
      (first : RegistryStep live call mid) (rest : RegistryRun mid calls live') :
      RegistryRun live (call :: calls) live'

section Abstract
variable {live live' : List String} {call : Op × Bool} {calls : List (Op × Bool)} {x : String}

theorem RegistryStep.nodup (step : RegistryStep live call live') (distinct : live.Nodup) : live'.Nodup := by
  cases step with
  | create _ fresh =>
      exact distinct.append (List.nodup_singleton _) (List.disjoint_singleton.mpr fresh)
  | createFailed => exact distinct
  | delete => exact distinct.erase _
  | deleteFailed => exact distinct

theorem RegistryRun.nodup (steps : RegistryRun live calls live') (distinct : live.Nodup) : live'.Nodup := by
  induction steps with
  | nil => exact distinct
  | cons first _ ih => exact ih (first.nodup distinct)

end Abstract

/-! ### The file system as the registry -/

/-- The root is a directory and its visible entries are exactly the live IDs. -/
structure Represents (rt : Runtime) (fs : FileSystem) (live : List String) : Prop where
  rootDir : fs.isDir (parts rt.root) = true
  distinct : live.Nodup
  visible : ∀ name, name ∈ (fs.children (parts rt.root)).filter isVisible ↔ name ∈ live

theorem mem_visible_iff (fs : FileSystem) (dir : List Elem) (name : String) :
    name ∈ (fs.children dir).filter isVisible ↔
      (fs.lookup (dir ++ [name.data])).isSome ∧ isVisible name = true := by
  rw [List.mem_filter, FileSystem.mem_children, ← FileSystem.lookup_isSome_iff]

section Represents
variable {rt : Runtime} {fs fs' : FileSystem} {live : List String} {containerID : String}

theorem represents_visible (dir : fs.isDir (parts rt.root) = true) :
    Represents rt fs ((fs.children (parts rt.root)).filter isVisible) :=
  ⟨dir, (FileSystem.children_nodup _ _).filter _, fun _ => Iff.rfl⟩

theorem list_of_represents (rep : Represents rt fs live) :
    ∃ names, list rt fs = .ok names ∧ names.Perm live := by
  have present := FileSystem.present_of_isDir rep.rootDir
  refine ⟨(fs.children (parts rt.root)).filter isVisible, by simp [list, present, rep.rootDir], ?_⟩
  exact (List.perm_ext_iff_of_nodup ((FileSystem.children_nodup _ _).filter _) rep.distinct).mpr
    rep.visible

/-- What the registry reads lies at most one level below the root. -/
theorem represents_congr
    (same : ∀ q, q.length ≤ (parts rt.root).length + 1 → fs'.lookup q = fs.lookup q)
    (rep : Represents rt fs live) : Represents rt fs' live where
  rootDir := by
    rw [FileSystem.isDir_eq_lookup, same _ (by omega), ← FileSystem.isDir_eq_lookup]
    exact rep.rootDir
  distinct := rep.distinct
  visible name := by
    rw [mem_visible_iff, same _ (by simp), ← mem_visible_iff]
    exact rep.visible name

/-- Changes strictly below one ID's directory leave the registry as it is. -/
theorem represents_framed (nonempty : rt.root ≠ "") (plain : PlainName containerID) {w w' : World}
    (framed : (framedBelow (parts (join [rt.root, containerID]))).rel w w')
    (rep : Represents rt w.fs live) : Represents rt w'.fs live :=
  represents_congr (fun q short => framed q fun ⟨prefixed, apart⟩ => by
    rw [parts_join_plain nonempty plain] at prefixed apart
    exact apart (prefixed.eq_of_length (le_antisymm prefixed.length_le (by simpa using short)))) rep

/-- Allocating a fresh plain ID's directory adds the ID. -/
theorem represents_insert (nonempty : rt.root ≠ "") (plain : PlainName containerID)
    (rep : Represents rt fs live) (absent : fs.present (parts (join [rt.root, containerID])) = false) :
    containerID ∉ live ∧
      Represents rt (fs.insert ⟨parts (join [rt.root, containerID]), none⟩ absent)
        (live ++ [containerID]) := by
  have key := parts_join_plain nonempty plain
  have fresh : containerID ∉ live := fun member => by
    have found := ((mem_visible_iff _ _ _).mp ((rep.visible _).mpr member)).1
    rw [FileSystem.present_eq_lookup _ (by rw [key]; simp), key, found] at absent
    cases absent
  refine ⟨fresh, ?_, rep.distinct.append (List.nodup_singleton _) (List.disjoint_singleton.mpr fresh), ?_⟩
  · rw [FileSystem.isDir_eq_lookup, FileSystem.lookup_insert, if_neg (by rw [key]; simp),
      ← FileSystem.isDir_eq_lookup]
    exact rep.rootDir
  · intro name
    rw [mem_visible_iff, FileSystem.lookup_insert, List.mem_append, List.mem_singleton, key]
    by_cases same : name = containerID
    · subst same
      simp [isVisible_plain plain]
    · have apart : parts rt.root ++ [containerID.data] ≠ parts rt.root ++ [name.data] :=
        fun eq => same (String.ext (by simpa using eq.symm))
      rw [if_neg apart, ← mem_visible_iff, rep.visible]
      simp [same]

/-- Removing a plain ID's directory removes the ID. -/
theorem represents_removeBelow (nonempty : rt.root ≠ "") (plain : PlainName containerID)
    (rep : Represents rt fs live) :
    Represents rt (fs.removeBelow (parts (join [rt.root, containerID]))) (live.erase containerID) := by
  rw [parts_join_plain nonempty plain]
  refine ⟨?_, rep.distinct.erase _, fun name => ?_⟩
  · rw [FileSystem.isDir_eq_lookup, FileSystem.lookup_removeBelow,
      if_neg fun prefixed => by simpa using prefixed.length_le, ← FileSystem.isDir_eq_lookup]
    exact rep.rootDir
  · rw [mem_visible_iff, FileSystem.lookup_removeBelow, rep.distinct.mem_erase_iff]
    by_cases same : name = containerID
    · subst same
      simp
    · have apart : ¬ parts rt.root ++ [containerID.data] <+: parts rt.root ++ [name.data] :=
        fun prefixed => same (String.ext (child_eq_of_prefixes (List.prefix_refl _) prefixed))
      rw [if_neg apart, ← mem_visible_iff, rep.visible]
      simp [same]

end Represents

/-! ### What Create changes -/

section Create
variable {sys : System} {rt : Runtime} {co : Collaborators}
  {order : (m : GoMap String String) → MapOrder m}

theorem configure_framedBelow (confined : Confined co) (c : Container) (nonempty : c.runtimeDir ≠ "") :
    Keeps (framedBelow (parts c.runtimeDir)) (configure sys rt co order c) :=
  keeps_configure sys rt co order confined c nonempty (fun _ _ below => framedBelow_writeFile _ below)
    fun _ => framedBelow_warn _

theorem runStartCmd_framedBelow (c : Container) (build : Build) (nonempty : c.runtimeDir ≠ "") :
    Keeps (framedBelow (parts c.runtimeDir)) (runStartCmd sys rt c build) :=
  keeps_runStartCmd sys rt c build nonempty (fun _ _ below => framedBelow_saveConfigFile _ below)
    (fun _ _ below => framedBelow_createFile _ below) fun _ => framedBelow_record _

/-- A `Create` either fails before the allocation of the runtime directory, on
its checks or on the exclusive creation, with the file system as it was,
or allocates the directory where nothing was and afterwards changes the
file system only strictly below it, whatever its outcome. -/
theorem create_cases (confined : Confined co) {cfg : ContainerConfig}
    (nonempty : join [rt.root, cfg.containerID] ≠ "") (w : World) :
    ((run (create sys rt co order cfg) w).1.isOk = false ∧
        (run (create sys rt co order cfg) w).2.fs = w.fs ∧
        ((run (checkConfig sys cfg) w).1.isOk = false ∨
          w.fs.present (parts (join [rt.root, cfg.containerID])) = true ∨
          w.fs.isDir (parts (join [rt.root, cfg.containerID])).dropLast = false)) ∨
      ∃ (w₁ w₂ : World) (absent : w₁.fs.present (parts (join [rt.root, cfg.containerID])) = false),
        w₁.fs = w.fs ∧ w₂.fs = w₁.fs.insert ⟨parts (join [rt.root, cfg.containerID]), none⟩ absent ∧
        (framedBelow (parts (join [rt.root, cfg.containerID]))).rel w₂
          (run (create sys rt co order cfg) w).2 := by
  unfold create
  have checked := quiet_checkConfig sys cfg w
  rcases ranCheck : run (checkConfig sys cfg) w with ⟨_ | ⟨rootfs, process⟩, w₁⟩ <;>
    rw [ranCheck] at checked
  · rw [run_bind_error ranCheck]
    exact .inl ⟨rfl, checked.1, .inl rfl⟩
  rw [run_bind_ok ranCheck]
  dsimp only
  set c := newContainer rt cfg rootfs process
  have outcome := mkdir_outcome c.runtimeDir w₁
  rcases ranMake : run (createRuntimeDir c) w₁ with ⟨_ | _, w₂⟩ <;>
    rw [show mkdir c.runtimeDir = createRuntimeDir c from rfl, ranMake] at outcome
  · obtain ⟨-, same⟩ := outcome.resolve_right fun ⟨_, failed, _⟩ => by cases failed
    have refused := @mkdir_refused c.runtimeDir w₁
      (by rw [show mkdir c.runtimeDir = createRuntimeDir c from rfl, ranMake]; rfl)
    rw [checked.1] at refused
    rw [run_bind_error (by rw [run_wrapError, ranMake])]
    exact .inl ⟨rfl, same.trans checked.1, .inr refused⟩
  obtain ⟨absent, -, inserted⟩ := outcome.resolve_left fun ⟨failed, _⟩ => by cases failed
  refine .inr ⟨w₁, w₂, absent, checked.1, inserted, ?_⟩
  rw [run_bind_ok (by rw [run_wrapError, ranMake])]
  have conf := @configure_framedBelow sys rt co order confined c nonempty w₂
  have result := configure_result sys rt co order c w₂
  rcases ranConf : run (configure sys rt co order c) w₂ with ⟨_ | ⟨outcome, build⟩, w₃⟩ <;>
    rw [ranConf] at conf result
  · cases result
  rw [run_bind_ok ranConf]
  rcases outcome with err | c'
  · exact conf
  · -- configuration keeps the runtime directory, so the monitor's files go below it too
    have same : c'.runtimeDir = c.runtimeDir := by
      rw [configureContainer_yields _ co rt c (order c.linux.sysctl) emptyBuild c'
        (congrArg Prod.fst (Except.ok.inj result)).symm]
      rfl
    have started := keeps_bind (keeps_wrapError "failed to run container process"
      (@runStartCmd_framedBelow sys rt c' build (same ▸ nonempty))) (fun _ => keeps_pure c') w₃
    rw [same] at started
    exact (framedBelow _).trans conf started

end Create

/-! ### Create and Delete refine the registry -/

section Refinement
variable {sys : System} {rt : Runtime} {co : Collaborators}
  {order : (m : GoMap String String) → MapOrder m}

/-- One `Create` of a plain ID is one step of the registry. -/
theorem create_refines (confined : Confined co) (nonempty : rt.root ≠ "") {cfg : ContainerConfig}
    (plain : PlainName cfg.containerID) {w : World} {live : List String} (rep : Represents rt w.fs live) :
    ∃ live', RegistryStep live (.create cfg, (run (create sys rt co order cfg) w).1.isOk) live' ∧
      Represents rt (run (create sys rt co order cfg) w).2.fs live' := by
  rcases @create_cases sys rt co order confined cfg (join_plain_ne_empty nonempty plain) w with
    ⟨failed, same, -⟩ | ⟨w₁, w₂, absent, checked, inserted, framed⟩
  · rw [failed, same]
    exact ⟨live, .createFailed cfg, rep⟩
  · obtain ⟨fresh, allocated⟩ := represents_insert nonempty plain (checked ▸ rep) absent
    rw [← inserted] at allocated
    exact ⟨_, .create _ fresh, represents_framed nonempty plain framed allocated⟩

/-- One `Delete` of a plain ID is one step of the registry: it succeeds
exactly when it removes the ID's directory. -/
theorem delete_refines (nonempty : rt.root ≠ "") {containerID : String}
    (plain : PlainName containerID) (force : Bool) {w : World} {live : List String}
    (rep : Represents rt w.fs live) :
    ∃ live', RegistryStep live
        (.delete containerID force, (run (delete sys rt containerID force) w).1.isOk) live' ∧
      Represents rt (run (delete sys rt containerID force) w).2.fs live' := by
  rcases delete_outcome sys rt containerID force w (join_plain_ne_empty nonempty plain) with
    ⟨ok, removed⟩ | ⟨failed, same⟩
  · rw [ok, removed]
    exact ⟨_, .delete containerID force, represents_removeBelow nonempty plain rep⟩
  · rw [failed, same]
    exact ⟨_, .deleteFailed containerID force, rep⟩

end Refinement

/-! ### Runs of calls -/

section Runs
variable (sys : System) (rt : Runtime) (co : Collaborators)
  (order : (m : GoMap String String) → MapOrder m)

/-- One call on the world, with whether it succeeded. -/
def Op.perform : Op → World → Bool × World
  | .create cfg, w =>
      let step := run (Runtime.create sys rt co order cfg) w
      (step.1.isOk, step.2)
  | .delete containerID force, w =>
      let step := run (Runtime.delete sys rt containerID force) w
      (step.1.isOk, step.2)

/-- A sequence of calls, each on the world the one before left. -/
def performAll : List Op → World → List (Op × Bool) × World
  | [], w => ([], w)
  | op :: rest, w =>
      let step := op.perform sys rt co order w
      let after := performAll rest step.2
      ((op, step.1) :: after.1, after.2)

variable {sys rt co order}

theorem perform_refines (confined : Confined co) (nonempty : rt.root ≠ "") {op : Op}
    (plain : PlainName op.containerID) {w : World} {live : List String} (rep : Represents rt w.fs live) :
    ∃ live', RegistryStep live (op, (op.perform sys rt co order w).1) live' ∧
      Represents rt (op.perform sys rt co order w).2.fs live' := by
  cases op with
  | create cfg => exact create_refines confined nonempty plain rep
  | delete containerID force => exact delete_refines nonempty plain force rep

theorem performAll_refines (confined : Confined co) (nonempty : rt.root ≠ "") :
    ∀ (ops : List Op) (w : World) (live : List String), (∀ op ∈ ops, PlainName op.containerID) →
      Represents rt w.fs live →
      ∃ live', RegistryRun live (performAll sys rt co order ops w).1 live' ∧
        Represents rt (performAll sys rt co order ops w).2.fs live'
  | [], _, live, _, rep => ⟨live, .nil live, rep⟩
  | op :: rest, w, live, plain, rep => by
      obtain ⟨mid, step, rep₁⟩ := perform_refines confined nonempty (plain op (.head _)) rep
      obtain ⟨live', steps, rep'⟩ := performAll_refines confined nonempty rest _ mid
        (fun op' member => plain op' (.tail _ member)) rep₁
      exact ⟨live', .cons step steps, rep'⟩

end Runs

/-! ### Load and Delete stay in their own directory -/

section Locality
variable {sys : System} {rt : Runtime} {containerID : String}

/-- A `Load` reads nothing outside the ID's directory. -/
theorem load_reads_own_dir (nonempty : rt.root ≠ "") (plain : PlainName containerID)
    {fs fs' : FileSystem}
    (agree : ∀ q, parts (join [rt.root, containerID]) <+: q → fs'.lookup q = fs.lookup q) :
    load sys rt fs' containerID = load sys rt fs containerID := by
  have dir := join_plain_ne_empty nonempty plain
  have key : parts (join [rt.root, containerID]) ≠ [] := by
    rw [parts_join_plain nonempty plain]
    simp
  have snapshot : parts (join [rt.root, containerID]) <+:
      parts (join [join [rt.root, containerID], "lxcri.json"]) :=
    ⟨_, ((parts_join_pair dir (by decide)).1).symm⟩
  simp only [load, loadSnapshot, FileSystem.present_eq_lookup _ key, agree _ (List.prefix_refl _),
    agree _ snapshot]

/-- A `Delete` changes nothing below another plain ID's directory. -/
theorem delete_keeps_other (nonempty : rt.root ≠ "") (plain : PlainName containerID)
    {other : String} (otherPlain : PlainName other) (apart : other ≠ containerID) (force : Bool)
    (w : World) (q : List Elem) (below : parts (join [rt.root, other]) <+: q) :
    (run (delete sys rt containerID force) w).2.fs.lookup q = w.fs.lookup q := by
  rcases (delete_effect sys rt containerID force w).1 with same | removed
  · rw [same]
  · rw [removed, FileSystem.lookup_removeBelow, if_neg]
    rw [parts_join_plain nonempty plain]
    rw [parts_join_plain nonempty otherPlain] at below
    exact fun prefixed => apart (String.ext (child_eq_of_prefixes below prefixed))

end Locality

/-! ### What List reports -/

section Registry
variable {sys : System} {rt : Runtime} {co : Collaborators}
  {order : (m : GoMap String String) → MapOrder m}

/-- For plain IDs, after any sequence of `Create` and `Delete` calls `List`
returns, in some order, the registry that the calls' outcomes step to; and
`Load` of an ID reads only its own directory, `Delete` of an ID changes
nothing below another plain ID's directory. -/
theorem list_reports_registry (confined : Confined co) (nonempty : rt.root ≠ "") (ops : List Op)
    (plain : ∀ op ∈ ops, PlainName op.containerID) (w : World) (live : List String)
    (rep : Represents rt w.fs live) :
    (∃ live', RegistryRun live (performAll sys rt co order ops w).1 live' ∧
      ∃ names, list rt (performAll sys rt co order ops w).2.fs = .ok names ∧ names.Perm live') ∧
    (∀ containerID, PlainName containerID → ∀ fs fs' : FileSystem,
      (∀ q, parts (join [rt.root, containerID]) <+: q → fs'.lookup q = fs.lookup q) →
      load sys rt fs' containerID = load sys rt fs containerID) ∧
    (∀ containerID other, PlainName containerID → PlainName other → other ≠ containerID →
      ∀ force w' q, parts (join [rt.root, other]) <+: q →
        (run (delete sys rt containerID force) w').2.fs.lookup q = w'.fs.lookup q) := by
  obtain ⟨live', steps, rep'⟩ := performAll_refines confined nonempty ops w live plain rep
  exact ⟨⟨live', steps, list_of_represents rep'⟩,
    fun _ plainID _ _ agree => load_reads_own_dir nonempty plainID agree,
    fun _ _ plainID otherPlain apart force w' q below =>
      delete_keeps_other nonempty plainID otherPlain apart force w' q below⟩

end Registry

theorem noCollaborators_confined : Confined noCollaborators :=
  ⟨fun _ _ => keeps_pure _, fun _ _ => keeps_pure _, fun _ => keeps_pure _, fun _ _ => keeps_pure _,
    fun _ _ => keeps_pure _⟩

theorem runtimeRootWorld_represents : Represents sampleRuntime runtimeRootWorld.fs ["c1"] := by
  have visible :
      (runtimeRootWorld.fs.children (parts sampleRuntime.root)).filter isVisible = ["c1"] := by
    decide
  exact visible ▸ represents_visible (by decide)

/-- A config that every step of `Create` accepts, under the ID `containerID`. -/
def sampleConfig (containerID : String) : ContainerConfig :=
  { (Lxcri.Steps.sampleContainer Lxcri.Steps.sampleLinux).config with
    containerID := containerID
    cgroupDir := "lxcri/" ++ containerID }

def sampleOps : List Op := [.create (sampleConfig "c2"), .delete "c1" false, .create (sampleConfig "c3")]

theorem list_reports_registry_sample :
    ∃ live', RegistryRun ["c1"] (performAll (answering []) sampleRuntime noCollaborators inOrder
        sampleOps runtimeRootWorld).1 live' ∧
      ∃ names, list sampleRuntime (performAll (answering []) sampleRuntime noCollaborators inOrder
        sampleOps runtimeRootWorld).2.fs = .ok names ∧ names.Perm live' :=
  (list_reports_registry noCollaborators_confined (by decide) sampleOps (by decide) runtimeRootWorld
    ["c1"] runtimeRootWorld_represents).1

/-- A system on which `exec` of the monitor fails, after the runtime directory was allocated. -/
def failingStart : System := { answering [] with start := fun _ => .error (.text "exec: not found") }

/-- A hidden ID: `Create` succeeds and `List` leaves it out. A `Create` that
fails after allocating its directory: `List` reports its ID. -/
theorem list_skips_hidden_reports_failed :
    (run (create (answering []) sampleRuntime noCollaborators inOrder (sampleConfig ".hidden"))
        runtimeRootWorld).1.isOk = true ∧
      list sampleRuntime (run (create (answering []) sampleRuntime noCollaborators inOrder
        (sampleConfig ".hidden")) runtimeRootWorld).2.fs = .ok ["c1"] ∧
      (run (create failingStart sampleRuntime noCollaborators inOrder (sampleConfig "c2"))
        runtimeRootWorld).1.isOk = false ∧
      list sampleRuntime (run (create failingStart sampleRuntime noCollaborators inOrder
        (sampleConfig "c2")) runtimeRootWorld).2.fs = .ok ["c1", "c2"] := by
  decide

end Lxcri.Lifecycle
