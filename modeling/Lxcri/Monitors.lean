import Lxcri.Protocol

/-!
One monitor per runtime directory. `Create` starts a monitor only in the
runtime directory that its exclusive `os.Mkdir` has just allocated, and
nothing but `os.RemoveAll` takes an entry of the file system away. So over
any run of `Create` and `Delete` calls, on any IDs and whatever their
outcomes, a second monitor never starts in the directory of a first one
while that directory is still there: between two starts in one directory the
trace removes that directory or one above it.
-/

namespace Lxcri.Monitors
open FilePath Config Os Configure Runtime Lifecycle Confinement Protocol

/-! ### Nothing disappears but by a removal -/

theorem present_of_lookup {fs fs' : FileSystem} {q : List Elem}
    (more : (fs.lookup q).isSome → (fs'.lookup q).isSome) (was : fs.present q = true) :
    fs'.present q = true := by
  by_cases root : q = []
  · simp [FileSystem.present, root]
  · rw [FileSystem.present_eq_lookup _ root] at was ⊢
    exact more was

/-- Every path present before is present after. -/
def presentKept : StateRel World where
  rel w w' := ∀ q, w.fs.present q = true → w'.fs.present q = true
  refl _ _ := id
  trans first second q was := second q (first q was)

section Kept
variable {sys : System} {rt : Runtime} {co : Collaborators}
  {order : (m : GoMap String String) → MapOrder m}

theorem presentKept_of_quiet {α : Type} {step : OsM α} (keeps : Keeps quiet step) :
    Keeps presentKept step :=
  fun w q was => by rw [(keeps w).1]; exact was

theorem presentKept_record (c : Call) : Keeps presentKept (record c) := fun _ _ => id

theorem presentKept_makeEntry (op path : String) (content : Option String) :
    Keeps presentKept (makeEntry op path content) := fun w q was => by
  rw [run_makeEntry]
  split
  · split
    · exact present_of_lookup (fun found => by rw [FileSystem.lookup_insert]; split <;> simp_all) was
    · exact was
  · exact was

theorem presentKept_put (w : World) (e : Entry) : presentKept.rel w { w with fs := w.fs.put e } :=
  fun _ was => present_of_lookup (fun found => by rw [FileSystem.lookup_put]; split <;> simp_all) was

theorem presentKept_saveConfigFile (path content : String) :
    Keeps presentKept (saveConfigFile path content) := fun w => by
  rw [run_saveConfigFile]
  split
  · exact presentKept_put w _
  · exact presentKept.refl w

theorem presentKept_configure (c : Container) : Keeps presentKept (configure sys rt co order c) := by
  unfold configure commitFiles
  refine keeps_bind (fun w => presentKept.refl w) fun w => ?_
  split
  exact keeps_bind (keeps_forM _ _ fun _ _ w => presentKept_put w _) fun _ =>
    keeps_bind (keeps_forM _ _ fun _ _ => presentKept_of_quiet (quiet_warn _)) fun _ => keeps_pure _

theorem presentKept_runStartCmd (c : Container) (build : Build) :
    Keeps presentKept (runStartCmd sys rt c build) := by
  unfold runStartCmd runStartCmdConsole startProcess Os.createFile
  repeat' (first
    | with_reducible exact keeps_pure _
    | with_reducible exact keeps_throw _
    | with_reducible exact keeps_liftExcept _
    | with_reducible exact presentKept_record _
    | with_reducible exact presentKept_makeEntry _ _ _
    | with_reducible exact presentKept_saveConfigFile _ _
    | with_reducible refine keeps_tryCatch ?_ fun _ => ?_
    | with_reducible refine keeps_wrapError _ ?_
    | with_reducible refine keeps_bind ?_ fun _ => ?_
    | split)

theorem presentKept_create (cfg : ContainerConfig) : Keeps presentKept (create sys rt co order cfg) :=
  keeps_create sys rt co order cfg (presentKept_of_quiet (quiet_checkConfig sys cfg))
    (keeps_bind (presentKept_record _) fun _ => presentKept_makeEntry _ _ _)
    (fun _ _ => presentKept_configure _) fun c build _ => presentKept_runStartCmd c build

end Kept

/-! ### Starts and removals in a trace -/

/-- The commands of the monitors a trace starts, in order. -/
def starts (calls : List Call) : List Command :=
  calls.filterMap fun
    | .start cmd => some cmd
    | _ => none

/-- No call of `calls` removes `q` or a directory above it. -/
def Unremoved (calls : List Call) (q : List Elem) : Prop :=
  ∀ p, .removeAll p ∈ calls → ¬ parts p <+: q

/-- Between two starts of monitors in one directory, `calls` removes that
directory or one above it. -/
def MonitorsApart (calls : List Call) : Prop :=
  ∀ pre cmd mid cmd' post, calls = pre ++ .start cmd :: (mid ++ .start cmd' :: post) →
    cmd'.dir = cmd.dir → ∃ p, .removeAll p ∈ mid ∧ parts p <+: parts cmd.dir

theorem starts_append (a b : List Call) : starts (a ++ b) = starts a ++ starts b :=
  List.filterMap_append _ _ _

theorem unremoved_append {a b : List Call} {q : List Elem} :
    Unremoved (a ++ b) q ↔ Unremoved a q ∧ Unremoved b q := by
  simp only [Unremoved, List.mem_append, or_imp, forall_and]

theorem mem_starts {calls pre post : List Call} {cmd : Command}
    (whole : calls = pre ++ .start cmd :: post) : cmd ∈ starts calls := by
  simp [whole, starts_append, starts]

theorem starts_eq_nil {calls : List Call} (free : ∀ c ∈ calls, ¬ SavesOrStarts c) : starts calls = [] :=
  List.filterMap_eq_nil_iff.mpr fun c member => by
    cases c with
    | start cmd => exact (free _ member trivial).elim
    | _ => rfl

theorem two_le_starts {calls pre mid post : List Call} {cmd cmd' : Command}
    (whole : calls = pre ++ .start cmd :: (mid ++ .start cmd' :: post)) : 2 ≤ (starts calls).length := by
  simp only [whole, starts, List.filterMap_append, List.filterMap_cons, List.length_append,
    List.length_cons]
  omega

theorem append_eq_append_cons {α : Type} {a b pre post : List α} {x : α}
    (whole : a ++ b = pre ++ x :: post) :
    (∃ rest, a = pre ++ x :: rest ∧ post = rest ++ b) ∨
      ∃ front, b = front ++ x :: post ∧ pre = a ++ front := by
  rcases List.append_eq_append_iff.mp whole with ⟨front, rfl, inB⟩ | ⟨middle, inA, rest⟩
  · exact .inr ⟨front, inB, rfl⟩
  · rcases middle with _ | ⟨y, middle⟩
    · exact .inr ⟨[], by simpa using rest.symm, by simpa using inA.symm⟩
    · obtain ⟨rfl, rfl⟩ := List.cons.inj rest
      exact .inl ⟨middle, inA, rfl⟩

/-! ### The invariant of a stretch of the trace -/

/-- What a stretch `new` of the trace, taking `w` to `w'`, keeps of the
directories of the monitors it starts. -/
structure MonitorTrace (w w' : World) (new : List Call) : Prop where
  apart : MonitorsApart new
  -- a monitor's directory stays until a removal reaches it
  live : ∀ pre cmd post, new = pre ++ .start cmd :: post → Unremoved post (parts cmd.dir) →
    w'.fs.present (parts cmd.dir) = true
  -- a monitor starts in a directory that was absent, or removed before it
  fresh : ∀ pre cmd post, new = pre ++ .start cmd :: post → Unremoved pre (parts cmd.dir) →
    w.fs.present (parts cmd.dir) = false
  kept : ∀ q, Unremoved new q → w.fs.present q = true → w'.fs.present q = true

theorem MonitorTrace.append {w₁ w₂ w₃ : World} {a b : List Call} (first : MonitorTrace w₁ w₂ a)
    (second : MonitorTrace w₂ w₃ b) : MonitorTrace w₁ w₃ (a ++ b) where
  kept q unremoved was :=
    second.kept q (unremoved_append.mp unremoved).2 (first.kept q (unremoved_append.mp unremoved).1 was)
  live pre cmd post whole unremoved := by
    rcases append_eq_append_cons whole with ⟨rest, inA, rfl⟩ | ⟨front, inB, rfl⟩
    · obtain ⟨early, late⟩ := unremoved_append.mp unremoved
      exact second.kept _ late (first.live pre cmd rest inA early)
    · exact second.live front cmd post inB unremoved
  fresh pre cmd post whole unremoved := by
    rcases append_eq_append_cons whole with ⟨rest, inA, rfl⟩ | ⟨front, inB, rfl⟩
    · exact first.fresh pre cmd rest inA unremoved
    · obtain ⟨early, late⟩ := unremoved_append.mp unremoved
      have absent := second.fresh front cmd post inB late
      exact Bool.eq_false_iff.mpr fun was => by rw [first.kept _ early was] at absent; cases absent
  apart pre cmd mid cmd' post whole same := by
    rcases append_eq_append_cons whole with ⟨rest, inA, after⟩ | ⟨front, inB, rfl⟩
    · rcases append_eq_append_cons after.symm with ⟨rest', inRest, rfl⟩ | ⟨front', inB, rfl⟩
      · exact first.apart pre cmd mid cmd' rest' (by rw [inA, inRest]) same
      · -- the first start in `a`, the second in `b`: the directory was present
        -- between them, so the second could not start unless it was removed
        by_contra none
        obtain ⟨early, late⟩ := unremoved_append.mp fun p member below => none ⟨p, member, below⟩
        have present := first.live pre cmd rest inA early
        have absent := second.fresh front' cmd' post inB (same ▸ late)
        rw [same, present] at absent
        cases absent
    · exact second.apart front cmd mid cmd' post inB same

/-- A stretch that starts no monitor and loses nothing it does not remove. -/
theorem MonitorTrace.of_startFree {w w' : World} {new : List Call} (free : starts new = [])
    (kept : ∀ q, Unremoved new q → w.fs.present q = true → w'.fs.present q = true) :
    MonitorTrace w w' new where
  apart _ _ _ _ _ whole _ := by have := mem_starts whole; simp_all
  live _ _ _ whole _ := by have := mem_starts whole; simp_all
  fresh _ _ _ whole _ := by have := mem_starts whole; simp_all
  kept := kept

/-- A stretch that loses nothing and starts at most one monitor, in a
directory absent before it and present after it. -/
theorem MonitorTrace.of_single {w w' : World} {new : List Call} (kept : presentKept.rel w w')
    (one : (starts new).length ≤ 1)
    (started : ∀ cmd ∈ starts new, w.fs.present (parts cmd.dir) = false ∧
      w'.fs.present (parts cmd.dir) = true) :
    MonitorTrace w w' new where
  apart _ _ _ _ _ whole _ := absurd one (by have := two_le_starts whole; omega)
  live _ _ _ whole _ := (started _ (mem_starts whole)).2
  fresh _ _ _ whole _ := (started _ (mem_starts whole)).1
  kept q _ was := kept q was

/-- The trace grows by a stretch that keeps the monitors apart. -/
def monitorsKept : StateRel World where
  rel w w' := ∃ new, w'.calls = w.calls ++ new ∧ MonitorTrace w w' new
  refl w := ⟨[], (List.append_nil _).symm, .of_startFree rfl fun _ _ => id⟩
  trans := by
    rintro _ _ _ ⟨first, grown₁, trace₁⟩ ⟨second, grown₂, trace₂⟩
    exact ⟨first ++ second, by rw [grown₂, grown₁, List.append_assoc], trace₁.append trace₂⟩

/-! ### One call -/

section Calls
variable {sys : System} {rt : Runtime} {co : Collaborators}
  {order : (m : GoMap String String) → MapOrder m}

theorem run_bind_pure_state {α β : Type} (step : OsM α) (b : β) (w : World) :
    (run (step >>= fun _ => pure b) w).2 = (run step w).2 := by
  rw [run_bind]
  rcases run step w with ⟨_ | _, _⟩ <;> rfl

/-- A `Create` starts at most one monitor, in the runtime directory that it
allocated: absent before it, present after it. -/
theorem create_starts (cfg : ContainerConfig) (w : World) :
    ∃ new, (run (create sys rt co order cfg) w).2.calls = w.calls ++ new ∧ (starts new).length ≤ 1 ∧
      ∀ cmd ∈ starts new, w.fs.present (parts cmd.dir) = false ∧
        (run (create sys rt co order cfg) w).2.fs.present (parts cmd.dir) = true := by
  unfold create
  have checked := quiet_checkConfig sys cfg w
  rcases ranCheck : run (checkConfig sys cfg) w with ⟨_ | ⟨rootfs, process⟩, w₁⟩ <;>
    rw [ranCheck] at checked
  · -- the checks failed: nothing was called
    rw [run_bind_error ranCheck]
    exact ⟨[], by rw [checked.2.1, List.append_nil], by simp [starts], by simp [starts]⟩
  rw [run_bind_ok ranCheck]
  dsimp only
  set c := newContainer rt cfg rootfs process
  have madeCalls := mkdir_calls c.runtimeDir w₁
  rcases mkdir_outcome c.runtimeDir w₁ with ⟨failed, -⟩ | ⟨absent, ranMake, inserted⟩
  · -- the directory was taken: only the `mkdir` was called
    obtain ⟨_, _, ranMake⟩ := run_eq_error_of_isOk failed
    rw [ranMake] at madeCalls
    rw [run_bind_error (by rw [run_wrapError, show createRuntimeDir c = mkdir c.runtimeDir from rfl,
      ranMake])]
    exact ⟨[.mkdir c.runtimeDir], by rw [madeCalls, checked.2.1], by simp [starts], by simp [starts]⟩
  set w₂ := (run (mkdir c.runtimeDir) w₁).2
  have made : run (createRuntimeDir c) w₁ = (.ok (), w₂) := by rw [← ranMake]; rfl
  have dirPresent : w₂.fs.present (parts c.runtimeDir) = true := by
    rw [inserted]
    simp [FileSystem.present, FileSystem.insert]
  rw [run_bind_ok (by rw [run_wrapError, made])]
  have confCalls := configure_calls sys rt co order c w₂
  have confKept : presentKept.rel w₂ (run (configure sys rt co order c) w₂).2 := presentKept_configure c w₂
  have result := configure_result sys rt co order c w₂
  rcases ranConf : run (configure sys rt co order c) w₂ with ⟨_ | ⟨outcome, build⟩, w₃⟩ <;>
    rw [ranConf] at confCalls confKept result
  · cases result
  obtain ⟨newConf, grownConf, freeConf⟩ := confCalls
  have before : w₃.calls = w.calls ++ .mkdir c.runtimeDir :: newConf := by
    rw [grownConf, madeCalls, checked.2.1, List.append_assoc, List.singleton_append]
  have noStarts : starts (.mkdir c.runtimeDir :: newConf) = [] := starts_eq_nil fun call member => by
    rcases List.mem_cons.mp member with rfl | inConf
    · exact id
    · exact freeConf call inConf
  rw [run_bind_ok ranConf]
  rcases outcome with err | c'
  · -- the configuration failed: no monitor
    exact ⟨_, before, by rw [noStarts]; exact Nat.zero_le 1, by simp [noStarts]⟩
  -- `runStartCmd` starts at most its one command, in the allocated directory
  have same : c'.runtimeDir = c.runtimeDir := by
    rw [configureContainer_yields _ co rt c (order c.linux.sysctl) emptyBuild c'
      (congrArg Prod.fst (Except.ok.inj result)).symm]
    rfl
  obtain ⟨newStart, grownStart, within⟩ := (records_runStartCmd c' build).grows w₃
  have startKept : presentKept.rel w₃ (run (runStartCmd sys rt c' build) w₃).2 :=
    presentKept_runStartCmd c' build w₃
  have final : (run (wrapError "failed to run container process" (runStartCmd sys rt c' build) >>=
      fun _ => pure c') w₃).2 = (run (runStartCmd sys rt c' build) w₃).2 := by
    rw [run_bind_pure_state, run_wrapError_state]
  have onlyStart : starts newStart <+: [{ startCommand rt c' with
      inheritStdio := c'.config.consoleSocket = "" && !c'.process.terminal }] :=
    within.filterMap _
  refine ⟨.mkdir c.runtimeDir :: newConf ++ newStart, ?_, ?_, fun cmd member => ?_⟩
  · rw [final, grownStart, before, List.append_assoc]
  · rw [starts_append, noStarts, List.nil_append]
    exact onlyStart.length_le
  · rw [starts_append, noStarts, List.nil_append] at member
    obtain rfl : cmd = _ := List.mem_singleton.mp (onlyStart.subset member)
    have dir : parts (startCommand rt c').dir = parts c.runtimeDir := by
      rw [startCommand, Container.runtimePath, same,
        show c.runtimeDir = join [rt.root, cfg.containerID] from rfl, join_join]
    rw [final, dir, ← checked.1]
    exact ⟨absent, startKept _ (confKept _ dirPresent)⟩

theorem create_monitorsKept (cfg : ContainerConfig) : Keeps monitorsKept (create sys rt co order cfg) :=
  fun w =>
    have ⟨new, grown, one, started⟩ := @create_starts sys rt co order cfg w
    ⟨new, grown, .of_single (presentKept_create cfg w) one started⟩

theorem monitorsKept_of_cgroupsOnly {w w' : World} (only : cgroupsOnly.rel w w') : monitorsKept.rel w w' :=
  have ⟨sameFs, new, calls, removals, _⟩ := only
  ⟨new, calls, .of_startFree (starts_eq_nil fun c member => by obtain ⟨_, rfl⟩ := removals c member; exact id)
    fun _ _ was => by rw [sameFs]; exact was⟩

/-- A `Delete` starts no monitor and removes only what its one `os.RemoveAll`
reaches. -/
theorem delete_monitorsKept (containerID : String) (force : Bool) :
    Keeps monitorsKept (delete sys rt containerID force) := fun w => by
  rcases delete_cases sys rt containerID force w with ⟨_, _, ran, torn⟩ | ⟨w₁, torn, ran⟩
  · rw [ran]
    exact monitorsKept_of_cgroupsOnly torn
  obtain ⟨calls, -, fs⟩ := removeAll_effect (sys.removeAll (join [rt.root, containerID]))
    (join [rt.root, containerID]) w₁
  rw [ran]
  refine monitorsKept.trans (monitorsKept_of_cgroupsOnly torn)
    ⟨[.removeAll (join [rt.root, containerID])], calls, .of_startFree rfl fun q unremoved was => ?_⟩
  rcases fs with same | removed
  · rw [same]
    exact was
  · rw [removed]
    exact present_of_lookup (fun found => by
      rwa [FileSystem.lookup_removeBelow, if_neg (unremoved _ (List.mem_singleton_self _))]) was

end Calls

/-! ### Whole runs -/

/-- Over any run of `Create` and `Delete` calls, on any IDs and whatever their
outcomes, a monitor starts in the runtime directory of an earlier one only
after the trace removed that directory or one above it. -/
theorem performAll_monitors_apart {sys : System} {rt : Runtime} {co : Collaborators}
    {order : (m : GoMap String String) → MapOrder m} (ops : List Op) (w : World) :
    ∃ new, (performAll sys rt co order ops w).2.calls = w.calls ++ new ∧ MonitorsApart new :=
  have ⟨new, grown, trace⟩ := @performAll_keeps sys rt co order monitorsKept ops w fun op _ => by
    cases op with
    | create cfg => exact create_monitorsKept cfg
    | delete containerID force => exact delete_monitorsKept containerID force
  ⟨new, grown, trace.apart⟩

end Lxcri.Monitors
