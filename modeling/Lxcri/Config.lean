import Lxcri.Spec

/-!
liblxc's container configuration as the runtime drives it. Each accepted
`SetConfigItem` appends a `key = value` line to the configuration that
`SaveConfigFile` later writes; `GetConfigItem` reads the last value set, or
liblxc's default for an item never set. A configuration step runs in
`ConfigM`: an error ends it, but what it already set, wrote or logged stays,
as on the Go object. liblxc's validation of items, the host's answer to a
file creation and Go's `unicode.ToLower`, whose case tables are not modelled,
are the `Host` oracles.
-/

namespace Lxcri

structure Directive where
  key : String
  value : String
  deriving DecidableEq, Repr

structure SideFile where
  path : String
  content : String
  deriving DecidableEq, Repr

structure Build where
  config : List Directive
  files : List SideFile
  warnings : List String
  deriving DecidableEq, Repr

structure Host where
  accepts : String → String → Bool
  configDefault : String → String
  canCreate : String → Bool
  lowerRune : Char → Char

abbrev ConfigM := ExceptT GoError (StateM Build)

instance exceptDecidableEq {ε α : Type} [DecidableEq ε] [DecidableEq α] : DecidableEq (Except ε α)
  | .ok a, .ok b => decidable_of_iff (a = b) ⟨congrArg _, Except.ok.inj⟩
  | .error a, .error b => decidable_of_iff (a = b) ⟨congrArg _, Except.error.inj⟩
  | .ok _, .error _ => isFalse Except.noConfusion
  | .error _, .ok _ => isFalse Except.noConfusion

namespace Config

/-- One run of a step from a state; `σ` is a liblxc build here, the whole
system for the runtime's operations. -/
def run {σ α : Type} (step : ExceptT GoError (StateM σ) α) (s : σ) : Except GoError α × σ :=
  (step.run).run s

def emptyBuild : Build := ⟨[], [], []⟩

def lineOf (d : Directive) : String := d.key ++ " = " ++ d.value ++ "\n"

/-- The text `SaveConfigFile` writes: one line per accepted item, in order. -/
def renderConfig (config : List Directive) : String := String.join (config.map lineOf)

section Host
variable (host : Host)

/-- Modelled from the spec: `Container.SetConfigItem`, absent from the source,
hands the item to liblxc; a rejected item is an error naming key and value. -/
def setConfigItem (key value : String) : ConfigM Unit :=
  if host.accepts key value then
    modify fun b => { b with config := b.config ++ [⟨key, value⟩] }
  else throw (.failed "SetConfigItem" [key, value])

def lookupItem (config : List Directive) (key : String) : Option String :=
  (config.reverse.find? (·.key == key)).map (·.value)

/-- Modelled from the spec: `Container.GetConfigItem`, absent from the source,
reads the configured value of an item, or liblxc's default. -/
def getConfigItem (key : String) : ConfigM String := do
  let b ← get
  return (lookupItem b.config key).getD (host.configDefault key)

def createFile (path content : String) : ConfigM Unit :=
  if host.canCreate path then
    modify fun b => { b with files := b.files ++ [⟨path, content⟩] }
  else throw (.failed "OpenFile" [path])

def warn (message : String) : ConfigM Unit :=
  modify fun b => { b with warnings := b.warnings ++ [message] }

/-- fmt.Errorf("context: %w", err) around a failing step -/
def wrapError {σ α : Type} (context : String) (step : ExceptT GoError (StateM σ) α) :
    ExceptT GoError (StateM σ) α :=
  tryCatch step fun err => throw (.wrap context err)

def Accepted (d : Directive) : Bool := host.accepts d.key d.value

/-! ### Running steps -/

variable {σ α β : Type}

@[simp] theorem run_pure (a : α) (b : σ) :
    run (pure a : ExceptT GoError (StateM σ) α) b = (.ok a, b) := rfl

@[simp] theorem run_throw (e : GoError) (b : σ) :
    run (throw e : ExceptT GoError (StateM σ) α) b = (.error e, b) := rfl

theorem run_bind (step : ExceptT GoError (StateM σ) α) (next : α → ExceptT GoError (StateM σ) β)
    (b : σ) :
    run (step >>= next) b =
      match run step b with
      | (.ok a, b') => run (next a) b'
      | (.error e, b') => (.error e, b') := by
  simp only [run, ExceptT.run_bind, StateT.run_bind]
  rcases (step.run).run b with ⟨_ | a, b'⟩ <;> rfl

@[simp] theorem run_get (b : σ) : run (get : ExceptT GoError (StateM σ) σ) b = (.ok b, b) := rfl

@[simp] theorem run_modify (f : σ → σ) (b : σ) :
    run (modify f : ExceptT GoError (StateM σ) Unit) b = (.ok (), f b) := rfl

@[simp] theorem run_get_bind (next : σ → ExceptT GoError (StateM σ) β) (b : σ) :
    run (get >>= next) b = run (next b) b := rfl

theorem run_bind_ok {step : ExceptT GoError (StateM σ) α} {next : α → ExceptT GoError (StateM σ) β}
    {b b' : σ} {a : α} (first : run step b = (.ok a, b')) :
    run (step >>= next) b = run (next a) b' := by
  rw [run_bind, first]

theorem run_bind_error {step : ExceptT GoError (StateM σ) α}
    {next : α → ExceptT GoError (StateM σ) β} {b b' : σ} {e : GoError}
    (first : run step b = (.error e, b')) : run (step >>= next) b = (.error e, b') := by
  rw [run_bind, first]

theorem run_setConfigItem (key value : String) (b : Build) :
    run (setConfigItem host key value) b =
      if host.accepts key value then (.ok (), { b with config := b.config ++ [⟨key, value⟩] })
      else (.error (.failed "SetConfigItem" [key, value]), b) := by
  unfold setConfigItem
  split <;> rfl

@[simp] theorem run_warn (message : String) (b : Build) :
    run (warn message) b = (.ok (), { b with warnings := b.warnings ++ [message] }) := rfl

theorem run_getConfigItem (key : String) (b : Build) :
    run (getConfigItem host key) b =
      (.ok ((lookupItem b.config key).getD (host.configDefault key)), b) := rfl

theorem run_createFile (path content : String) (b : Build) :
    run (createFile host path content) b =
      if host.canCreate path then (.ok (), { b with files := b.files ++ [⟨path, content⟩] })
      else (.error (.failed "OpenFile" [path]), b) := by
  unfold createFile
  split <;> rfl

theorem run_tryCatch (step : ExceptT GoError (StateM σ) α)
    (handler : GoError → ExceptT GoError (StateM σ) α) (b : σ) :
    run (tryCatch step handler) b =
      match run step b with
      | (.ok a, b') => (.ok a, b')
      | (.error e, b') => run (handler e) b' := by
  simp only [run, tryCatch, tryCatchThe, MonadExceptOf.tryCatch, ExceptT.tryCatch,
    ExceptT.run, ExceptT.mk, StateT.run, bind, StateT.bind]
  rcases step b with ⟨_ | a, b'⟩ <;> rfl

theorem run_wrapError (context : String) (step : ExceptT GoError (StateM σ) α) (b : σ) :
    run (wrapError context step) b =
      match run step b with
      | (.ok a, b') => (.ok a, b')
      | (.error e, b') => (.error (.wrap context e), b') := by
  rw [wrapError, run_tryCatch]
  rcases run step b with ⟨_ | a, b'⟩ <;> rfl

theorem run_wrapError_ok {context : String} {step : ExceptT GoError (StateM σ) α} {a : α} {b b' : σ} :
    run (wrapError context step) b = (.ok a, b') ↔ run step b = (.ok a, b') := by
  rw [run_wrapError]
  rcases run step b with ⟨_ | _, _⟩ <;> simp

/-- A step that sets one item, or fails with `err` and changes nothing. -/
def SetsOne (step : ConfigM Unit) (d : Directive) (err : GoError) : Prop :=
  ∀ b, run step b =
    if Accepted host d then (.ok (), { b with config := b.config ++ [d] }) else (.error err, b)

theorem setConfigItem_setsOne (d : Directive) :
    SetsOne host (setConfigItem host d.key d.value) d (.failed "SetConfigItem" [d.key, d.value]) :=
  fun b => run_setConfigItem host d.key d.value b

theorem wrapError_setsOne {step : ConfigM Unit} {d : Directive} {err : GoError} (context : String)
    (sets : SetsOne host step d err) : SetsOne host (wrapError context step) d (.wrap context err) := by
  intro b
  rw [run_wrapError, sets b]
  by_cases accepted : Accepted host d = true <;> simp [accepted]

/-- A loop of such steps appends the accepted prefix of its items, and succeeds
exactly when liblxc accepts them all. -/
theorem run_forM_setsOne {γ : Type} (steps : γ → ConfigM Unit) (item : γ → Directive)
    (err : γ → GoError) (sets : ∀ x, SetsOne host (steps x) (item x) (err x)) :
    ∀ (xs : List γ) (b : Build),
      run (xs.forM steps) b =
        ((match xs.find? (fun x => !Accepted host (item x)) with
          | none => .ok ()
          | some x => .error (err x)),
          { b with config := b.config ++ (xs.takeWhile (fun x => Accepted host (item x))).map item })
  | [], b => by simp
  | x :: rest, b => by
      rw [List.forM_cons', run_bind, sets x b]
      by_cases accepted : Accepted host (item x) = true
      · simp only [accepted, if_true, run_forM_setsOne steps item err sets rest, List.find?_cons,
          Bool.not_true, List.takeWhile_cons, List.map_cons, List.append_assoc]
        rfl
      · simp [accepted, List.find?_cons, List.takeWhile_cons]

theorem run_forM_setsOne_accepted {γ : Type} (steps : γ → ConfigM Unit) (item : γ → Directive)
    (err : γ → GoError) (sets : ∀ x, SetsOne host (steps x) (item x) (err x)) (xs : List γ)
    (b : Build) (accepted : ∀ x ∈ xs, Accepted host (item x) = true) :
    run (xs.forM steps) b = (.ok (), { b with config := b.config ++ xs.map item }) := by
  have none : xs.find? (fun x => !Accepted host (item x)) = none :=
    List.find?_eq_none.mpr fun x member => by simp [accepted x member]
  rw [run_forM_setsOne host steps item err sets, none, List.takeWhile_eq_self_iff.mpr accepted]

/-! ### Steps that only append -/

/-- A step whose outcome and appended items, files and warnings do not depend on
the build it starts from. -/
def Framed (step : ConfigM α) : Prop :=
  ∃ r items files warnings, ∀ b : Build,
    run step b = (r, ⟨b.config ++ items, b.files ++ files, b.warnings ++ warnings⟩)

theorem framed_pure (a : α) : Framed (pure a : ConfigM α) :=
  ⟨.ok a, [], [], [], fun b => by simp⟩

theorem framed_throw (e : GoError) : Framed (throw e : ConfigM α) :=
  ⟨.error e, [], [], [], fun b => by simp⟩

theorem framed_setConfigItem (key value : String) : Framed (setConfigItem host key value) := by
  by_cases accepted : host.accepts key value
  · exact ⟨.ok (), [⟨key, value⟩], [], [], fun b => by simp [run_setConfigItem, accepted]⟩
  · exact ⟨.error (.failed "SetConfigItem" [key, value]), [], [], [], fun b => by
      simp [run_setConfigItem, accepted]⟩

theorem framed_bind {step : ConfigM α} {next : α → ConfigM β} (first : Framed step)
    (rest : ∀ a, Framed (next a)) : Framed (step >>= next) := by
  obtain ⟨r, items, files, warnings, eq⟩ := first
  cases r with
  | error e => exact ⟨.error e, items, files, warnings, fun b => by rw [run_bind, eq]⟩
  | ok a =>
      obtain ⟨r', items', files', warnings', eq'⟩ := rest a
      exact ⟨r', items ++ items', files ++ files', warnings ++ warnings', fun b => by
        rw [run_bind_ok (eq b), eq']
        simp [List.append_assoc]⟩

theorem framed_wrapError {step : ConfigM α} (context : String) (framed : Framed step) :
    Framed (wrapError context step) := by
  obtain ⟨r, items, files, warnings, eq⟩ := framed
  cases r with
  | ok a => exact ⟨.ok a, items, files, warnings, fun b => by rw [run_wrapError, eq]⟩
  | error e => exact ⟨.error (.wrap context e), items, files, warnings, fun b => by rw [run_wrapError, eq]⟩

theorem framed_forM {γ : Type} (steps : γ → ConfigM Unit) (framed : ∀ x, Framed (steps x)) :
    ∀ xs : List γ, Framed (xs.forM steps)
  | [] => framed_pure ()
  | x :: rest => by
      rw [List.forM_cons']
      exact framed_bind (framed x) fun _ => framed_forM steps framed rest

end Host

/-! ### Relations every run of a step respects -/

/-- A reflexive and transitive relation between the state before and after. -/
structure StateRel (σ : Type) where
  rel : σ → σ → Prop
  refl : ∀ s, rel s s
  trans : ∀ {s₁ s₂ s₃}, rel s₁ s₂ → rel s₂ s₃ → rel s₁ s₃

def Keeps {σ α : Type} (R : StateRel σ) (step : ExceptT GoError (StateM σ) α) : Prop :=
  ∀ s, R.rel s (run step s).2

section Keeps
variable {σ α β : Type} {R : StateRel σ}

theorem keeps_pure (a : α) : Keeps R (pure a) := fun s => R.refl s

theorem keeps_throw (e : GoError) : Keeps R (throw e : ExceptT GoError (StateM σ) α) :=
  fun s => R.refl s

theorem keeps_liftExcept (result : Except GoError α) :
    Keeps R (liftExcept result : ExceptT GoError (StateM σ) α) := by
  cases result
  · exact keeps_throw _
  · exact keeps_pure _

theorem keeps_bind {step : ExceptT GoError (StateM σ) α} {next : α → ExceptT GoError (StateM σ) β}
    (first : Keeps R step) (rest : ∀ a, Keeps R (next a)) : Keeps R (step >>= next) := by
  intro s
  have before := first s
  rw [run_bind]
  rcases ran : run step s with ⟨_ | a, s₁⟩ <;> rw [ran] at before
  · exact before
  · exact R.trans before (rest a s₁)

theorem keeps_tryCatch {step : ExceptT GoError (StateM σ) α}
    {handler : GoError → ExceptT GoError (StateM σ) α} (first : Keeps R step)
    (rest : ∀ e, Keeps R (handler e)) : Keeps R (tryCatch step handler) := by
  intro s
  have before := first s
  rw [run_tryCatch]
  rcases ran : run step s with ⟨_ | a, s₁⟩ <;> rw [ran] at before
  · exact R.trans before (rest _ s₁)
  · exact before

theorem keeps_wrapError {step : ExceptT GoError (StateM σ) α} (context : String)
    (first : Keeps R step) : Keeps R (wrapError context step) :=
  keeps_tryCatch first fun _ => keeps_throw _

theorem keeps_forM {γ : Type} (steps : γ → ExceptT GoError (StateM σ) Unit) :
    ∀ xs : List γ, (∀ x ∈ xs, Keeps R (steps x)) → Keeps R (xs.forM steps)
  | [], _ => keeps_pure ()
  | x :: rest, each => by
      rw [List.forM_cons']
      exact keeps_bind (each x (.head _)) fun _ =>
        keeps_forM steps rest fun y member => each y (.tail _ member)

end Keeps

/-! ### What a step returns when it succeeds -/

def Yields {σ α : Type} (P : α → Prop) (step : ExceptT GoError (StateM σ) α) : Prop :=
  ∀ s a, (run step s).1 = .ok a → P a

section Yields
variable {σ α β : Type}

theorem yields_pure {P : α → Prop} {a : α} (ok : P a) :
    Yields P (pure a : ExceptT GoError (StateM σ) α) := fun _ _ same => by
  cases same
  exact ok

theorem yields_bind {P : β → Prop} {step : ExceptT GoError (StateM σ) α}
    {next : α → ExceptT GoError (StateM σ) β} (rest : ∀ a, Yields P (next a)) :
    Yields P (step >>= next) := by
  intro s b ran
  rw [run_bind] at ran
  rcases first : run step s with ⟨_ | a, s₁⟩ <;> rw [first] at ran
  · cases ran
  · exact rest a s₁ b ran

theorem run_bind_eq_ok {step : ExceptT GoError (StateM σ) α} {next : α → ExceptT GoError (StateM σ) β}
    {s s' : σ} {b : β} (ran : run (step >>= next) s = (.ok b, s')) :
    ∃ a s₁, run step s = (.ok a, s₁) ∧ run (next a) s₁ = (.ok b, s') := by
  rw [run_bind] at ran
  rcases first : run step s with ⟨_ | a, s₁⟩ <;> rw [first] at ran
  · cases ran
  · exact ⟨a, s₁, rfl, ran⟩

theorem run_eq_ok_of_isOk {step : ExceptT GoError (StateM σ) α} {s : σ}
    (ok : (run step s).1.isOk = true) : ∃ a s', run step s = (.ok a, s') := by
  rcases ran : run step s with ⟨_ | a, s'⟩
  · rw [ran] at ok
    cases ok
  · exact ⟨a, s', rfl⟩

theorem run_eq_error_of_isOk {step : ExceptT GoError (StateM σ) α} {s : σ}
    (failed : (run step s).1.isOk = false) : ∃ e s', run step s = (.error e, s') := by
  rcases ran : run step s with ⟨e | _, s'⟩
  · exact ⟨e, s', rfl⟩
  · rw [ran] at failed
    cases failed

end Yields

/-! ### Where configuration writes its side files -/

/-- Every side file written has a path that `allowed` admits. -/
def writesWithin (allowed : String → Prop) : StateRel Build where
  rel b b' := ∃ written, b'.files = b.files ++ written ∧ ∀ f ∈ written, allowed f.path
  refl b := ⟨[], by simp, by simp⟩
  trans := by
    rintro _ _ _ ⟨first, grown₁, ok₁⟩ ⟨second, grown₂, ok₂⟩
    exact ⟨first ++ second, by rw [grown₂, grown₁, List.append_assoc],
      fun f member => (List.mem_append.mp member).elim (ok₁ f) (ok₂ f)⟩

section Writes
variable (host : Host) {allowed : String → Prop}

theorem writesWithin_setConfigItem (key value : String) :
    Keeps (writesWithin allowed) (setConfigItem host key value) := fun b => by
  rw [run_setConfigItem]
  split
  · exact ⟨[], by simp, by simp⟩
  · exact (writesWithin allowed).refl b

theorem writesWithin_getConfigItem (key : String) :
    Keeps (writesWithin allowed) (getConfigItem host key) := fun b => by
  rw [run_getConfigItem]
  exact (writesWithin allowed).refl b

theorem writesWithin_warn (message : String) : Keeps (writesWithin allowed) (warn message) :=
  fun _ => ⟨[], by simp, by simp⟩

theorem writesWithin_createFile {path : String} (content : String) (ok : allowed path) :
    Keeps (writesWithin allowed) (createFile host path content) := fun b => by
  rw [run_createFile]
  split
  · exact ⟨[⟨path, content⟩], rfl, by simpa using ok⟩
  · exact (writesWithin allowed).refl b

end Writes

end Config

end Lxcri
