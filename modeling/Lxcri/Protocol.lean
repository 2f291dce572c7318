import Lxcri.Confinement

/-!
The order of the runtime's calls. Whatever its outcome, a step extends the
trace of calls by a prefix of what it records when it succeeds: `runStartCmd`
records at most the saving of the configuration file, the start of the
monitor and the creation of the snapshot, in this order, and a successful
`Create` records before them the allocation of the runtime directory and one
creation per side file. Over any run of `Create` and `Delete` calls, whatever
their outcomes, every start of a monitor comes right after the saving of the
configuration file its command names: the monitor never starts on a
configuration that was not just written.
-/

namespace Lxcri.Protocol
open FilePath Config Os Configure Runtime Lifecycle Confinement

/-! ### The trace of a step -/

/-- On success, `step` extends the trace of calls by exactly `extra`. -/
def Appends {α : Type} (extra : List Call) (step : OsM α) : Prop :=
  ∀ w a w', run step w = (.ok a, w') → w'.calls = w.calls ++ extra

/-- Whatever its outcome, `step` extends the trace by a prefix of `extra`, and
by all of it when it succeeds. -/
structure Records {α : Type} (extra : List Call) (step : OsM α) : Prop where
  grows : ∀ w, ∃ new, (run step w).2.calls = w.calls ++ new ∧ new <+: extra
  complete : Appends extra step

section Records
variable {α β : Type} {e e₁ e₂ : List Call} {step : OsM α} {next : α → OsM β}

theorem appends_bind (first : Appends e₁ step) (second : ∀ a, Appends e₂ (next a)) :
    Appends (e₁ ++ e₂) (step >>= next) := fun w _ _ ran => by
  obtain ⟨a, w₁, ran₁, ran₂⟩ := run_bind_eq_ok ran
  rw [second a _ _ _ ran₂, first _ _ _ ran₁, List.append_assoc]

theorem records_bind (first : Records e₁ step) (second : ∀ a, Records e₂ (next a)) :
    Records (e₁ ++ e₂) (step >>= next) where
  grows w := by
    rw [run_bind]
    rcases ran : run step w with ⟨_ | a, w₁⟩
    · obtain ⟨new, grown, within⟩ := first.grows w
      rw [ran] at grown
      exact ⟨new, grown, within.trans (List.prefix_append _ _)⟩
    · obtain ⟨new, grown, within⟩ := (second a).grows w₁
      exact ⟨e₁ ++ new, by rw [grown, first.complete w a w₁ ran, List.append_assoc],
        (List.prefix_append_right_inj e₁).mpr within⟩
  complete := appends_bind first.complete fun a => (second a).complete

theorem records_of_calls (always : ∀ w, (run step w).2.calls = w.calls ++ e) : Records e step :=
  ⟨fun w => ⟨e, always w, List.prefix_refl e⟩, fun w _ _ ran => by rw [← always w, ran]⟩

theorem records_of_quiet (keeps : Keeps quiet step) : Records [] step :=
  records_of_calls fun w => by rw [(keeps w).2.1, List.append_nil]

theorem records_record (c : Call) : Records [c] (record c) := records_of_calls fun _ => rfl

theorem records_throw (err : GoError) : Records e (throw err : OsM α) :=
  ⟨fun w => ⟨[], (List.append_nil _).symm, List.nil_prefix⟩, fun _ _ _ ran => by cases ran⟩

theorem records_throw_bind (err : GoError) : Records e (throw err >>= next) :=
  ⟨fun w => ⟨[], by rw [run_bind_error (run_throw err w), List.append_nil], List.nil_prefix⟩,
    fun w _ _ ran => by
      rw [run_bind_error (run_throw err w)] at ran
      cases ran⟩

theorem run_wrapError_state (context : String) (step : OsM α) (w : World) :
    (run (wrapError context step) w).2 = (run step w).2 := by
  rw [run_wrapError]
  rcases run step w with ⟨_ | _, _⟩ <;> rfl

theorem records_wrapError (context : String) (first : Records e step) :
    Records e (wrapError context step) :=
  ⟨fun w => by rw [run_wrapError_state]; exact first.grows w,
    fun w _ _ ran => first.complete w _ _ (run_wrapError_ok.mp ran)⟩

theorem run_tryCatch_throw (step : OsM α) (wrap : GoError → GoError) (w : World) :
    run (tryCatch step fun err => throw (wrap err)) w =
      match run step w with
      | (.ok a, w') => (.ok a, w')
      | (.error err, w') => (.error (wrap err), w') := by
  rw [run_tryCatch]
  rcases run step w with ⟨_ | _, _⟩ <;> rfl

theorem records_tryCatch_throw (first : Records e step) (wrap : GoError → GoError) :
    Records e (tryCatch step fun err => throw (wrap err)) where
  grows w := by
    obtain ⟨new, grown, within⟩ := first.grows w
    rw [run_tryCatch_throw]
    rcases ran : run step w with ⟨_ | _, _⟩ <;> rw [ran] at grown <;> exact ⟨new, grown, within⟩
  complete w _ _ ran := by
    rw [run_tryCatch_throw] at ran
    rcases ranStep : run step w with ⟨_ | _, _⟩ <;> rw [ranStep] at ran
    · cases ran
    · exact first.complete w _ _ (ranStep.trans ran)

theorem records_ite {p : Prop} [Decidable p] {other : OsM α} (yes : Records e step)
    (no : Records e other) : Records e (if p then step else other) := by
  split
  · exact yes
  · exact no

end Records

/-! ### The calls of `Create` -/

section Calls
variable {sys : System} {rt : Runtime} {co : Collaborators}
  {order : (m : GoMap String String) → MapOrder m}

theorem mkdir_calls (path : String) (w : World) :
    (run (mkdir path) w).2.calls = w.calls ++ [.mkdir path] := by
  rw [mkdir, run_bind_ok (run_record _ w), run_makeEntry]
  split
  · split <;> rfl
  · rfl

theorem createFile_calls (path content : String) (w : World) :
    (run (Os.createFile path content) w).2.calls = w.calls ++ [.createFile path] := by
  rw [Os.createFile, run_bind_ok (run_record _ w), run_makeEntry]
  split
  · split <;> rfl
  · rfl

theorem records_saveConfigFile (path content : String) :
    Records [.saveConfigFile path] (saveConfigFile path content) where
  grows w := by
    rw [run_saveConfigFile]
    split
    · exact ⟨_, rfl, List.prefix_refl _⟩
    · exact ⟨[], (List.append_nil _).symm, List.nil_prefix⟩
  complete w _ _ ran := by
    rw [run_saveConfigFile] at ran
    split at ran
    · cases ran
      rfl
    · cases ran

theorem records_writeFile (path content : String) : Records [.createFile path] (writeFile path content) :=
  records_of_calls fun _ => rfl

theorem records_commitFiles :
    ∀ files : List SideFile, Records (files.map fun f => .createFile f.path) (commitFiles files)
  | [] => records_of_quiet (keeps_pure _)
  | _ :: rest => records_bind (records_writeFile _ _) fun _ => records_commitFiles rest

/-- A successful `configure` records one creation per side file of the build
it returns, in the order the configuration made them. -/
theorem configure_ok_calls {c : Container} {w w' : World} {result : Except GoError Container}
    {build : Build} (ran : run (configure sys rt co order c) w = (.ok (result, build), w')) :
    w'.calls = w.calls ++ build.files.map fun f => .createFile f.path := by
  have returned := configure_result sys rt co order c w
  rw [ran] at returned
  unfold configure at ran
  rw [run_get_bind] at ran
  dsimp only at ran
  rw [← Except.ok.inj returned] at ran
  simpa using (appends_bind (records_commitFiles _).complete fun _ =>
    appends_bind (records_of_quiet (keeps_forM _ _ fun _ _ => quiet_warn _)).complete fun _ =>
      (records_of_quiet (keeps_pure _)).complete) w _ _ ran

theorem records_startProcess (cmd : Command) : Records [.start cmd] (startProcess sys cmd) := by
  unfold startProcess
  split
  · exact records_bind (records_record _) fun _ => records_of_quiet (keeps_pure _)
  · exact records_throw _

theorem records_runStartCmdConsole (cmd : Command) (socket : String) :
    Records [.start cmd] (runStartCmdConsole sys cmd socket) := by
  have lifted : ∀ {γ : Type} (r : Except GoError γ), Records [] (liftExcept r : OsM γ) :=
    fun _ => records_of_quiet (keeps_liftExcept _)
  unfold runStartCmdConsole
  exact records_bind (records_wrapError _ (lifted _)) fun _ =>
    records_bind (records_wrapError _ (lifted _)) fun _ =>
    records_bind (records_wrapError _ (lifted _)) fun _ =>
    records_bind (records_wrapError _ (lifted _)) fun _ =>
    records_bind (records_record _) fun _ =>
    records_bind (records_wrapError _ (lifted _)) fun _ =>
    records_bind (lifted _) fun _ => records_of_quiet (keeps_pure _)

/-- A run of `runStartCmd` saves the configuration, starts the monitor with the start
command, inheriting stdio when there is neither a console socket nor a
terminal, and creates the snapshot: it records a prefix of these three
calls, in this order, and all of them when it succeeds. -/
theorem records_runStartCmd (c : Container) (build : Build) :
    Records [.saveConfigFile (configFilePath c),
      .start { startCommand rt c with
        inheritStdio := c.config.consoleSocket = "" && !c.process.terminal },
      .createFile (c.runtimePath ["lxcri.json"])] (runStartCmd sys rt c build) := by
  unfold runStartCmd
  split
  · rename_i noConsole
    rw [noConsole]
    split
    · rw [pure_bind]
      exact records_bind (records_tryCatch_throw (records_saveConfigFile _ _) _)
        fun _ => records_bind (records_ite (records_runStartCmdConsole _ _) (records_startProcess _))
        fun _ => records_bind (records_of_calls (createFile_calls _ _))
        fun _ => records_of_quiet (keeps_liftExcept _)
    · exact records_throw_bind _
  · rename_i console
    rw [Bool.not_eq_true] at console
    rw [console, pure_bind]
    exact records_bind (records_tryCatch_throw (records_saveConfigFile _ _) _)
      fun _ => records_bind (records_ite (records_runStartCmdConsole _ _) (records_startProcess _))
      fun _ => records_bind (records_of_calls (createFile_calls _ _))
      fun _ => records_of_quiet (keeps_liftExcept _)

/-- The calls of a successful `Create`, in order: the exclusive creation of the
runtime directory, one creation per side file of the configuration run that
returned the container, the saving of the configuration file, the start of
the monitor, and the creation of the snapshot. The monitor is started once,
after the configuration was saved and before the snapshot exists. -/
theorem create_ok_calls {cfg : ContainerConfig} {w w' : World} {c : Container}
    (ran : run (create sys rt co order cfg) w = (.ok c, w')) :
    ∃ rootfs process w₁ w₂ build,
      run (checkConfig sys cfg) w = (.ok (rootfs, process), w₁) ∧
      run (mkdir (join [rt.root, cfg.containerID])) w₁ = (.ok (), w₂) ∧
      run (configureContainer (configHost sys w₂.fs) co rt (newContainer rt cfg rootfs process)
        (order (newContainer rt cfg rootfs process).linux.sysctl)) emptyBuild = (.ok c, build) ∧
      w'.calls = w.calls ++
        .mkdir (join [rt.root, cfg.containerID]) :: build.files.map (fun f => .createFile f.path) ++
        [.saveConfigFile (configFilePath c),
          .start { startCommand rt c with
            inheritStdio := c.config.consoleSocket = "" && !c.process.terminal },
          .createFile (c.runtimePath ["lxcri.json"])] := by
  obtain ⟨rootfs, process, w₁, w₂, build, w₃, checked, made, configured, -, started⟩ :=
    create_ok_stages sys rt co order ran
  have result := configure_result sys rt co order (newContainer rt cfg rootfs process) w₂
  rw [configured] at result
  have checkedCalls := (quiet_checkConfig sys cfg w).2.1
  rw [checked] at checkedCalls
  refine ⟨rootfs, process, w₁, w₂, build, checked, made, (Except.ok.inj result).symm, ?_⟩
  rw [(records_runStartCmd c build).complete w₃ () w' started, configure_ok_calls configured,
    (records_of_calls (mkdir_calls _)).complete w₁ () w₂ made, checkedCalls]
  simp

theorem create_ok_calls_c2 :
    ∃ c w', run (create (answering []) sampleRuntime noCollaborators inOrder (sampleConfig "c2"))
        runtimeRootWorld = (.ok c, w') ∧
      ∃ rootfs process w₁ w₂ build,
        run (checkConfig (answering []) (sampleConfig "c2")) runtimeRootWorld = (.ok (rootfs, process), w₁) ∧
        run (mkdir (join [sampleRuntime.root, "c2"])) w₁ = (.ok (), w₂) ∧
        run (configureContainer (configHost (answering []) w₂.fs) noCollaborators sampleRuntime
          (newContainer sampleRuntime (sampleConfig "c2") rootfs process)
          (inOrder (newContainer sampleRuntime (sampleConfig "c2") rootfs process).linux.sysctl))
          emptyBuild = (.ok c, build) ∧
        w'.calls = runtimeRootWorld.calls ++
          .mkdir (join [sampleRuntime.root, "c2"]) :: build.files.map (fun f => .createFile f.path) ++
          [.saveConfigFile (configFilePath c),
            .start { startCommand sampleRuntime c with
              inheritStdio := c.config.consoleSocket = "" && !c.process.terminal },
            .createFile (c.runtimePath ["lxcri.json"])] :=
  have ⟨_, _, ran⟩ := run_eq_ok_of_isOk (by decide :
    (run (create (answering []) sampleRuntime noCollaborators inOrder (sampleConfig "c2"))
      runtimeRootWorld).1.isOk = true)
  ⟨_, _, ran, create_ok_calls ran⟩

end Calls

/-! ### No start without a saved configuration -/

section Starts
variable {sys : System} {rt : Runtime} {co : Collaborators}
  {order : (m : GoMap String String) → MapOrder m}

end Starts

end Lxcri.Protocol
