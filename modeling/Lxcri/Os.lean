import Lxcri.Configure

/-!
The operating system as the runtime's operations use it. The file system is a
list of entries with distinct paths; a path is the element list of a cleaned
path (`FilePath.parts`), an entry a file with its content or a directory, and
the empty path, the root, always exists. `os.Mkdir` and an exclusive
`os.OpenFile` fail on an existing path or a missing parent directory;
liblxc's `SaveConfigFile` creates or truncates a file; `os.RemoveAll` does
nothing for "", refuses a path that ends in "/." or is ".", and otherwise
removes the path and everything below it unless the system refuses, in which
case it removes nothing (a removal that stops part way is not modelled).
`Readdirnames` gives the last element of each entry one level below a
directory, in the order the entries were made, where a real directory
promises no order.

The cgroup2 hierarchy is a tree of its own, with paths of the same kind: the
runtime only removes a cgroup directory with the cgroups below it, as the
kernel allows (not while a cgroup is populated). Making cgroups is liblxc's
and the monitor's work and is not modelled.

The world also keeps the runtime's warnings and the trace of the calls it
made, in order: file-system calls and removals when asked, whatever their
outcome, a monitor start when it succeeded, and `SaveConfigFile` once the
file is written.
-/

namespace Lxcri.Os
open FilePath Config

structure Entry where
  path : List Elem
  content : Option String
  deriving DecidableEq, Repr

structure FileSystem where
  entries : List Entry
  distinct : (entries.map (·.path)).Nodup

namespace FileSystem

def empty : FileSystem := ⟨[], List.nodup_nil⟩

def present (fs : FileSystem) (path : List Elem) : Bool :=
  path.isEmpty || fs.entries.any (·.path == path)

def isDir (fs : FileSystem) (path : List Elem) : Bool :=
  path.isEmpty || fs.entries.any (fun e => e.path == path && e.content.isNone)

def lookup (fs : FileSystem) (path : List Elem) : Option Entry :=
  fs.entries.find? (·.path == path)

theorem not_mem_of_absent {fs : FileSystem} {path : List Elem} (absent : fs.present path = false) :
    path ∉ fs.entries.map (·.path) := by
  simp only [present, Bool.or_eq_false_iff, List.any_eq_false, beq_iff_eq] at absent
  simpa using absent.2

theorem lookup_eq_none_of_absent {fs : FileSystem} {path : List Elem} (absent : fs.present path = false) :
    fs.lookup path = none :=
  List.find?_eq_none.mpr fun e member same =>
    not_mem_of_absent absent (List.mem_map.mpr ⟨e, member, by simpa using same⟩)

def insert (fs : FileSystem) (e : Entry) (absent : fs.present e.path = false) : FileSystem :=
  ⟨fs.entries ++ [e], by
    simpa [List.nodup_append] using ⟨fs.distinct, fun x member same => not_mem_of_absent absent
      (List.mem_map.mpr ⟨x, member, same⟩)⟩⟩

/-- Everything at or below `path` goes. -/
def removeBelow (fs : FileSystem) (path : List Elem) : FileSystem :=
  ⟨fs.entries.filter (fun e => !path.isPrefixOf e.path),
    fs.distinct.sublist ((List.filter_sublist _).map _)⟩

/-- The entry at `e.path`, if any, is replaced by `e`. -/
def put (fs : FileSystem) (e : Entry) : FileSystem :=
  ⟨fs.entries.filter (fun x : Entry => x.path != e.path) ++ [e], by
    have sub : (fs.entries.filter (fun x : Entry => x.path != e.path)).Sublist fs.entries :=
      List.filter_sublist _
    rw [List.map_append, List.nodup_append]
    refine ⟨fs.distinct.sublist (sub.map _), List.nodup_singleton _, ?_⟩
    simp [List.disjoint_singleton]⟩

/-- Go's `Readdirnames`: the names one level below `dir`. -/
def children (fs : FileSystem) (dir : List Elem) : List String :=
  (fs.entries.map (·.path)).filterMap fun path =>
    if path.dropLast = dir then path.getLast?.map String.mk else none

/-! ### Lookups after each change -/

theorem find?_filter_of_imp {α : Type} {keep hit : α → Bool} (imp : ∀ x, hit x → keep x) :
    ∀ l : List α, (l.filter keep).find? hit = l.find? hit
  | [] => rfl
  | x :: rest => by
      by_cases found : hit x = true
      · simp [List.filter_cons, imp x found, found]
      · by_cases kept : keep x = true
        · simp [List.filter_cons, kept, found, find?_filter_of_imp imp rest]
        · simp [List.filter_cons, kept, found, find?_filter_of_imp imp rest]

theorem lookup_insert (fs : FileSystem) (e : Entry) (absent : fs.present e.path = false)
    (q : List Elem) : (fs.insert e absent).lookup q = if e.path = q then some e else fs.lookup q := by
  unfold lookup insert
  rw [List.find?_append]
  by_cases same : e.path = q
  · subst same
    have none : fs.entries.find? (·.path == e.path) = none :=
      List.find?_eq_none.mpr fun x member same => not_mem_of_absent absent
        (List.mem_map.mpr ⟨x, member, by simpa using same⟩)
    simp [none]
  · simp [same]

theorem lookup_put (fs : FileSystem) (e : Entry) (q : List Elem) :
    (fs.put e).lookup q = if e.path = q then some e else fs.lookup q := by
  unfold lookup put
  rw [List.find?_append]
  by_cases same : e.path = q
  · subst same
    have none : (fs.entries.filter fun x : Entry => x.path != e.path).find? (·.path == e.path) = none :=
      List.find?_eq_none.mpr fun x member => by simpa using (List.mem_filter.mp member).2
    simp [none]
  · rw [find?_filter_of_imp (fun x hit => by simp at hit ⊢; rw [hit]; exact Ne.symm same)]
    simp [same]

theorem lookup_removeBelow (fs : FileSystem) (p q : List Elem) :
    (fs.removeBelow p).lookup q = if p <+: q then none else fs.lookup q := by
  unfold lookup removeBelow
  split
  · rename_i below
    exact List.find?_eq_none.mpr fun x member same => by
      have kept := (List.mem_filter.mp member).2
      simp only [beq_iff_eq] at same
      rw [same, List.isPrefixOf_iff_prefix.mpr below] at kept
      cases kept
  · rename_i apart
    exact find?_filter_of_imp (fun x hit => by
      simp only [beq_iff_eq] at hit
      rw [hit, Bool.not_eq_true']
      exact Bool.eq_false_iff.mpr fun prefixed => apart (List.isPrefixOf_iff_prefix.mp prefixed)) _

theorem lookup_isSome_iff (fs : FileSystem) (q : List Elem) :
    (fs.lookup q).isSome ↔ q ∈ fs.entries.map (·.path) := by
  simp [lookup, List.find?_isSome]

theorem present_eq_lookup (fs : FileSystem) {q : List Elem} (nonempty : q ≠ []) :
    fs.present q = (fs.lookup q).isSome := by
  have : (fs.entries.any (·.path == q)) = (fs.lookup q).isSome := by
    rw [Bool.eq_iff_iff, lookup_isSome_iff]
    simp
  simp [present, List.isEmpty_iff, nonempty, this]

theorem present_of_isDir {fs : FileSystem} {q : List Elem} (dir : fs.isDir q = true) :
    fs.present q = true := by
  simp only [isDir, present, Bool.or_eq_true, List.any_eq_true, Bool.and_eq_true] at dir ⊢
  exact dir.imp_right fun ⟨e, member, same, _⟩ => ⟨e, member, same⟩

theorem lookup_eq_some_iff (fs : FileSystem) (q : List Elem) (e : Entry) :
    fs.lookup q = some e ↔ e ∈ fs.entries ∧ e.path = q := by
  constructor
  · intro found
    exact ⟨List.mem_of_find?_eq_some found, by simpa using List.find?_some found⟩
  · rintro ⟨member, rfl⟩
    obtain ⟨e', found⟩ := Option.isSome_iff_exists.mp
      ((lookup_isSome_iff fs e.path).mpr (List.mem_map_of_mem _ member))
    have same : e'.path = e.path := by simpa using List.find?_some found
    rw [found, List.inj_on_of_nodup_map fs.distinct (List.mem_of_find?_eq_some found) member same]

theorem isDir_eq_lookup (fs : FileSystem) (q : List Elem) :
    fs.isDir q = (q.isEmpty || (fs.lookup q).any fun e => e.content.isNone) := by
  have entry : fs.entries.any (fun e => e.path == q && e.content.isNone) =
      (fs.lookup q).any fun e => e.content.isNone := by
    rw [Bool.eq_iff_iff, List.any_eq_true]
    simp only [Bool.and_eq_true, beq_iff_eq]
    cases found : fs.lookup q with
    | none =>
        refine iff_of_false (fun ⟨e, member, same, _⟩ => ?_) (by simp)
        rw [(lookup_eq_some_iff fs q e).mpr ⟨member, same⟩] at found
        cases found
    | some e =>
        obtain ⟨member, same⟩ := (lookup_eq_some_iff fs q e).mp found
        refine ⟨fun ⟨x, xMember, xSame, dir⟩ => ?_, fun dir => ⟨e, member, same, dir⟩⟩
        rwa [Option.some.inj (((lookup_eq_some_iff fs q x).mpr ⟨xMember, xSame⟩).symm.trans found)]
          at dir
  rw [isDir, entry]

theorem isDir_insert {fs : FileSystem} {e : Entry} (absent : fs.present e.path = false) {q : List Elem}
    (dir : fs.isDir q = true) : (fs.insert e absent).isDir q = true := by
  simp only [isDir, insert, List.any_append, Bool.or_eq_true] at dir ⊢
  exact dir.imp_right Or.inl

theorem mem_children (fs : FileSystem) (dir : List Elem) (name : String) :
    name ∈ fs.children dir ↔ dir ++ [name.data] ∈ fs.entries.map (·.path) := by
  simp only [children, List.mem_filterMap]
  constructor
  · rintro ⟨path, member, hit⟩
    split at hit
    · rename_i parent
      obtain ⟨last, lastIs, rfl⟩ := Option.map_eq_some'.mp hit
      rwa [← parent, List.dropLast_append_getLast? _ lastIs]
    · cases hit
  · intro member
    exact ⟨_, member, by simp⟩

theorem children_nodup (fs : FileSystem) (dir : List Elem) : (fs.children dir).Nodup := by
  refine fs.distinct.filterMap fun a a' name hit hit' => ?_
  have path_of {path : List Elem} (found : name ∈ (if path.dropLast = dir then
      path.getLast?.map String.mk else none)) : path = dir ++ [name.data] := by
    split at found
    · rename_i parent
      obtain ⟨last, lastIs, rfl⟩ := Option.map_eq_some'.mp found
      rw [← parent, List.dropLast_append_getLast? _ lastIs]
    · cases found
  rw [path_of hit, path_of hit']

end FileSystem

structure Command where
  path : String
  args : List String
  env : List String
  dir : String
  inheritStdio : Bool
  deriving DecidableEq, Repr

inductive Call where
  | mkdir (path : String)
  | createFile (path : String)
  | saveConfigFile (path : String)
  | start (cmd : Command)
  | removeAll (path : String)
  | removeCgroup (path : String)
  deriving DecidableEq, Repr

structure World where
  fs : FileSystem
  cgroups : FileSystem
  log : List GoError
  calls : List Call

abbrev OsM := ExceptT GoError (StateM World)

def warn (message : GoError) : OsM Unit := modify fun w => { w with log := w.log ++ [message] }

def record (c : Call) : OsM Unit := modify fun w => { w with calls := w.calls ++ [c] }

/-- An exclusive creation of a new entry, as `os.Mkdir` and `os.OpenFile` with
`O_CREATE|O_EXCL` make it. -/
def makeEntry (op path : String) (content : Option String) : OsM Unit := do
  let w ← get
  let key := parts path
  if absent : w.fs.present key = false then
    if w.fs.isDir key.dropLast then
      set { w with fs := w.fs.insert ⟨key, content⟩ absent }
    else throw (.failed op [path])
  else throw (.failed op [path])

def mkdir (path : String) : OsM Unit := do
  record (.mkdir path)
  makeEntry "mkdir" path none

def createFile (path content : String) : OsM Unit := do
  record (.createFile path)
  makeEntry "open" path (some content)

/-- The saving of liblxc's configuration file: written over any file at `path`
in an existing directory, and recorded only once it is written. -/
def saveConfigFile (path content : String) : OsM Unit := do
  let w ← get
  let key := parts path
  if w.fs.isDir key.dropLast && !w.fs.isDir key then
    set { w with fs := w.fs.put ⟨key, some content⟩, calls := w.calls ++ [Call.saveConfigFile path] }
  else throw (.failed "SaveConfigFile" [path])

/-- A side file that configuration created, written out. -/
def writeFile (path content : String) : OsM Unit := do
  record (.createFile path)
  modify fun w => { w with fs := w.fs.put ⟨parts path, some content⟩ }

def endsWithDot (path : String) : Bool := path == "." || ['/', '.'].isSuffixOf path.data

/-- Go's `os.RemoveAll`; `answer` is the system's answer to the removal. -/
def removeAll (answer : Except GoError Unit) (path : String) : OsM Unit := do
  record (.removeAll path)
  if path = "" then return
  if endsWithDot path then throw (.failed "RemoveAll" [path])
  liftExcept answer
  modify fun w => { w with fs := w.fs.removeBelow (parts path) }

/-- The removal of a cgroup directory with the cgroups below it; `answer` is
the kernel's. -/
def removeCgroup (answer : Except GoError Unit) (path : String) : OsM Unit := do
  record (.removeCgroup path)
  liftExcept answer
  modify fun w => { w with cgroups := w.cgroups.removeBelow (parts path) }

/-! ### Running the calls -/

variable {α : Type}

@[simp] theorem run_liftExcept (result : Except GoError α) (w : World) :
    run (liftExcept result : OsM α) w = (result, w) := by
  cases result <;> rfl

@[simp] theorem run_warn (message : GoError) (w : World) :
    run (warn message) w = (.ok (), { w with log := w.log ++ [message] }) := rfl

@[simp] theorem run_record (c : Call) (w : World) :
    run (record c) w = (.ok (), { w with calls := w.calls ++ [c] }) := rfl

theorem run_writeFile (path content : String) (w : World) :
    run (writeFile path content) w =
      (.ok (), { w with calls := w.calls ++ [.createFile path], fs := w.fs.put ⟨parts path, some content⟩ }) :=
  rfl

theorem run_saveConfigFile (path content : String) (w : World) :
    run (saveConfigFile path content) w =
      if w.fs.isDir (parts path).dropLast && !w.fs.isDir (parts path) then
        (.ok (), { w with fs := w.fs.put ⟨parts path, some content⟩, calls := w.calls ++ [.saveConfigFile path] })
      else (.error (.failed "SaveConfigFile" [path]), w) := by
  rw [saveConfigFile, run_get_bind]
  by_cases ready : (w.fs.isDir (parts path).dropLast && !w.fs.isDir (parts path)) = true <;>
    simp only [ready, if_true, if_false, Bool.false_eq_true] <;> rfl

theorem run_makeEntry (op path : String) (content : Option String) (w : World) :
    run (makeEntry op path content) w =
      if absent : w.fs.present (parts path) = false then
        if w.fs.isDir (parts path).dropLast then
          (.ok (), { w with fs := w.fs.insert ⟨parts path, content⟩ absent })
        else (.error (.failed op [path]), w)
      else (.error (.failed op [path]), w) := by
  rw [makeEntry, run_get_bind]
  by_cases absent : w.fs.present (parts path) = false
  · by_cases parent : w.fs.isDir (parts path).dropLast = true
    · simp only [dif_pos absent, if_pos parent]
      rfl
    · simp only [dif_pos absent, if_neg parent]
      rfl
  · simp only [dif_neg absent]
    rfl

theorem run_removeAll (answer : Except GoError Unit) (path : String) (w : World) :
    run (removeAll answer path) w =
      if path = "" then (.ok (), { w with calls := w.calls ++ [.removeAll path] })
      else if endsWithDot path then
        (.error (.failed "RemoveAll" [path]), { w with calls := w.calls ++ [.removeAll path] })
      else (answer, { w with
        calls := w.calls ++ [.removeAll path],
        fs := if answer.isOk then w.fs.removeBelow (parts path) else w.fs }) := by
  unfold removeAll
  rw [run_bind, run_record]
  by_cases empty : path = ""
  · simp only [empty, if_true]
    rfl
  · by_cases dot : endsWithDot path = true
    · simp only [empty, dot, if_true, if_false]
      rfl
    · simp only [empty, dot, if_false, Bool.false_eq_true]
      cases answer <;> rfl

theorem run_removeCgroup (answer : Except GoError Unit) (path : String) (w : World) :
    run (removeCgroup answer path) w =
      (answer, { w with
        calls := w.calls ++ [.removeCgroup path],
        cgroups := if answer.isOk then w.cgroups.removeBelow (parts path) else w.cgroups }) := by
  cases answer <;> rfl

/-- A `mkdir` either fails and changes no entry, or adds a directory where
nothing was. -/
theorem mkdir_outcome (path : String) (w : World) :
    ((run (mkdir path) w).1.isOk = false ∧ (run (mkdir path) w).2.fs = w.fs) ∨
      ∃ absent : w.fs.present (parts path) = false, (run (mkdir path) w).1 = .ok () ∧
        (run (mkdir path) w).2.fs = w.fs.insert ⟨parts path, none⟩ absent := by
  rw [mkdir, run_bind_ok (run_record _ w), run_makeEntry]
  split
  · split
    · exact .inr ⟨‹_›, rfl, rfl⟩
    · exact .inl ⟨rfl, rfl⟩
  · exact .inl ⟨rfl, rfl⟩

theorem mkdir_refused {path : String} {w : World} (failed : (run (mkdir path) w).1.isOk = false) :
    w.fs.present (parts path) = true ∨ w.fs.isDir (parts path).dropLast = false := by
  rw [mkdir, run_bind_ok (run_record _ w), run_makeEntry] at failed
  split at failed
  · split at failed
    · cases failed
    · exact .inr (Bool.eq_false_iff.mpr ‹_›)
  · exact .inl (Bool.not_eq_false _ |>.mp ‹_›)

theorem createFile_ok {path content : String} {w w' : World}
    (ran : run (createFile path content) w = (.ok (), w')) :
    w'.fs.lookup (parts path) = some ⟨parts path, some content⟩ ∧
      w'.fs.isDir (parts path).dropLast = true ∧ w'.calls = w.calls ++ [.createFile path] := by
  rw [createFile, run_bind_ok (run_record _ w), run_makeEntry] at ran
  split at ran
  · split at ran
    · rename_i absent parent
      cases ran
      exact ⟨by simp [FileSystem.lookup_insert], FileSystem.isDir_insert absent parent, rfl⟩
    · cases ran
  · cases ran

/-! ### What a step may change -/

def StrictlyBelow (p q : List Elem) : Prop := p <+: q ∧ p ≠ q

theorem StrictlyBelow.trans {p q r : List Elem} (first : StrictlyBelow p q)
    (second : StrictlyBelow q r) : StrictlyBelow p r := by
  refine ⟨first.1.trans second.1, fun same => first.2 (first.1.eq_of_length ?_)⟩
  subst same
  exact le_antisymm first.1.length_le second.1.length_le

theorem strictlyBelow_of_isProperDescendant {base path : String}
    (below : IsProperDescendant base path) : StrictlyBelow (parts base) (parts path) := by
  obtain ⟨-, rel, nonempty, -, same⟩ := below
  exact ⟨⟨rel, same.symm⟩, fun eq => nonempty (by simpa [← eq] using same)⟩

/-- The file system changes only strictly below `p`. -/
def framedBelow (p : List Elem) : StateRel World where
  rel w w' := ∀ q, ¬ StrictlyBelow p q → w'.fs.lookup q = w.fs.lookup q
  refl _ _ _ := rfl
  trans first second q apart := (second q apart).trans (first q apart)

/-- Neither the file system, the cgroup tree nor the trace changes. -/
def quiet : StateRel World where
  rel w w' := w'.fs = w.fs ∧ w'.calls = w.calls ∧ w'.cgroups = w.cgroups
  refl _ := ⟨rfl, rfl, rfl⟩
  trans first second := ⟨second.1.trans first.1, second.2.1.trans first.2.1, second.2.2.trans first.2.2⟩

/-- The trace grows only by calls that `allowed` admits. -/
def callsWithin (allowed : Call → Prop) : StateRel World where
  rel w w' := ∃ new, w'.calls = w.calls ++ new ∧ ∀ c ∈ new, allowed c
  refl _ := ⟨[], by simp, by simp⟩
  trans := by
    rintro _ _ _ ⟨first, grown₁, ok₁⟩ ⟨second, grown₂, ok₂⟩
    exact ⟨first ++ second, by rw [grown₂, grown₁, List.append_assoc],
      fun c member => (List.mem_append.mp member).elim (ok₁ c) (ok₂ c)⟩

theorem quiet_warn (message : GoError) : Keeps quiet (warn message) := fun _ => ⟨rfl, rfl, rfl⟩

theorem callsWithin_of_quiet {allowed : Call → Prop} {step : OsM α} (keeps : Keeps quiet step) :
    Keeps (callsWithin allowed) step :=
  fun w => ⟨[], by simp [(keeps w).2], by simp⟩

section Frame
variable {p : List Elem}

theorem framedBelow_record (c : Call) : Keeps (framedBelow p) (record c) := fun _ _ _ => rfl

theorem framedBelow_warn (message : GoError) : Keeps (framedBelow p) (warn message) :=
  fun _ _ _ => rfl

theorem not_strictlyBelow_ne {q r : List Elem} (below : StrictlyBelow p r) (apart : ¬ StrictlyBelow p q) :
    r ≠ q := fun same => apart (same ▸ below)

theorem framedBelow_makeEntry (op : String) {path : String} (content : Option String)
    (below : StrictlyBelow p (parts path)) : Keeps (framedBelow p) (makeEntry op path content) := by
  intro w q apart
  rw [run_makeEntry]
  split
  · rename_i absent
    split
    · exact (FileSystem.lookup_insert _ _ absent q).trans (if_neg (not_strictlyBelow_ne below apart))
    · rfl
  · rfl

theorem framedBelow_createFile {path : String} (content : String)
    (below : StrictlyBelow p (parts path)) : Keeps (framedBelow p) (createFile path content) :=
  keeps_bind (framedBelow_record _) fun _ => framedBelow_makeEntry _ _ below

theorem framedBelow_writeFile {path : String} (content : String)
    (below : StrictlyBelow p (parts path)) : Keeps (framedBelow p) (writeFile path content) :=
  keeps_bind (framedBelow_record _) fun _ _ q apart =>
    (FileSystem.lookup_put _ _ q).trans (if_neg (not_strictlyBelow_ne below apart))

theorem framedBelow_saveConfigFile {path : String} (content : String)
    (below : StrictlyBelow p (parts path)) : Keeps (framedBelow p) (saveConfigFile path content) := by
  intro w q apart
  rw [run_saveConfigFile]
  split
  · exact (FileSystem.lookup_put _ _ q).trans (if_neg (not_strictlyBelow_ne below apart))
  · rfl

end Frame

section Calls
variable {allowed : Call → Prop}

theorem callsWithin_record {c : Call} (ok : allowed c) : Keeps (callsWithin allowed) (record c) :=
  fun _ => ⟨[c], rfl, by simpa using ok⟩

theorem callsWithin_warn (message : GoError) : Keeps (callsWithin allowed) (warn message) :=
  callsWithin_of_quiet (quiet_warn message)

theorem callsWithin_makeEntry (op path : String) (content : Option String) :
    Keeps (callsWithin allowed) (makeEntry op path content) := fun w => by
  rw [run_makeEntry]
  split
  · split
    · exact ⟨[], by simp, by simp⟩
    · exact (callsWithin allowed).refl w
  · exact (callsWithin allowed).refl w

theorem callsWithin_mkdir {path : String} (ok : allowed (.mkdir path)) :
    Keeps (callsWithin allowed) (mkdir path) :=
  keeps_bind (callsWithin_record ok) fun _ => callsWithin_makeEntry _ _ _

theorem callsWithin_writeFile {path : String} (content : String) (ok : allowed (.createFile path)) :
    Keeps (callsWithin allowed) (writeFile path content) :=
  keeps_bind (callsWithin_record ok) fun _ _ => ⟨[], by simp, by simp⟩

theorem callsWithin_createFile {path : String} (content : String) (ok : allowed (.createFile path)) :
    Keeps (callsWithin allowed) (createFile path content) :=
  keeps_bind (callsWithin_record ok) fun _ => callsWithin_makeEntry _ _ _

theorem callsWithin_saveConfigFile {path : String} (content : String)
    (ok : allowed (.saveConfigFile path)) : Keeps (callsWithin allowed) (saveConfigFile path content) := by
  intro w
  rw [run_saveConfigFile]
  split
  · exact ⟨[_], rfl, by simpa using ok⟩
  · exact (callsWithin allowed).refl w

end Calls

/-! ### The cgroup tree -/

/-- The cgroup tree does not change. -/
def cgroupsKept : StateRel World where
  rel w w' := w'.cgroups = w.cgroups
  refl _ := rfl
  trans first second := second.trans first

/-- The cgroup tree changes at a path only by losing its entry there, at or
below the path of a cgroup removal in `new`. -/
def RemovedBy (new : List Call) (w w' : World) : Prop :=
  ∀ q, w'.cgroups.lookup q = w.cgroups.lookup q ∨
    (w'.cgroups.lookup q = none ∧ ∃ p, .removeCgroup p ∈ new ∧ parts p <+: q)

theorem RemovedBy.trans {new₁ new₂ : List Call} {w₁ w₂ w₃ : World} (first : RemovedBy new₁ w₁ w₂)
    (second : RemovedBy new₂ w₂ w₃) : RemovedBy (new₁ ++ new₂) w₁ w₃ := fun q => by
  rcases second q with same₂ | ⟨gone, p, member, below⟩
  · rcases first q with same₁ | ⟨gone, p, member, below⟩
    · exact .inl (same₂.trans same₁)
    · exact .inr ⟨same₂.trans gone, p, List.mem_append_left _ member, below⟩
  · exact .inr ⟨gone, p, List.mem_append_right _ member, below⟩

theorem RemovedBy.of_kept {w w' : World} (new : List Call) (kept : w'.cgroups = w.cgroups) :
    RemovedBy new w w' := fun q => .inl (by rw [kept])

/-- The trace only grows, and the cgroup tree loses entries only at or below
the paths of the cgroup removals it gained. -/
def cgroupsRemoved : StateRel World where
  rel w w' := ∃ new, w'.calls = w.calls ++ new ∧ RemovedBy new w w'
  refl w := ⟨[], by simp, .of_kept [] rfl⟩
  trans := by
    rintro _ _ _ ⟨new₁, calls₁, removed₁⟩ ⟨new₂, calls₂, removed₂⟩
    exact ⟨new₁ ++ new₂, by rw [calls₂, calls₁, List.append_assoc], removed₁.trans removed₂⟩

/-- The file system stays, and the trace gains only cgroup removals, whose
paths are the only places the cgroup tree may lose entries. -/
def cgroupsOnly : StateRel World where
  rel w w' := w'.fs = w.fs ∧ ∃ new, w'.calls = w.calls ++ new ∧
    (∀ c ∈ new, ∃ p, c = .removeCgroup p) ∧ RemovedBy new w w'
  refl w := ⟨rfl, [], by simp, by simp, .of_kept [] rfl⟩
  trans := by
    rintro _ _ _ ⟨fs₁, new₁, calls₁, only₁, removed₁⟩ ⟨fs₂, new₂, calls₂, only₂, removed₂⟩
    exact ⟨fs₂.trans fs₁, new₁ ++ new₂, by rw [calls₂, calls₁, List.append_assoc],
      fun c member => (List.mem_append.mp member).elim (only₁ c) (only₂ c), removed₁.trans removed₂⟩

theorem cgroupsKept_of_quiet {step : OsM α} (keeps : Keeps quiet step) : Keeps cgroupsKept step :=
  fun w => (keeps w).2.2

theorem cgroupsOnly_of_quiet {step : OsM α} (keeps : Keeps quiet step) : Keeps cgroupsOnly step :=
  fun w => ⟨(keeps w).1, [], by simp [(keeps w).2.1], by simp, .of_kept [] (keeps w).2.2⟩

theorem cgroupsKept_record (c : Call) : Keeps cgroupsKept (record c) := fun _ => rfl

theorem cgroupsKept_makeEntry (op path : String) (content : Option String) :
    Keeps cgroupsKept (makeEntry op path content) := fun w => by
  rw [run_makeEntry]
  split
  · split <;> rfl
  · rfl

theorem cgroupsKept_mkdir (path : String) : Keeps cgroupsKept (mkdir path) :=
  keeps_bind (cgroupsKept_record _) fun _ => cgroupsKept_makeEntry _ _ _

theorem cgroupsKept_createFile (path content : String) : Keeps cgroupsKept (createFile path content) :=
  keeps_bind (cgroupsKept_record _) fun _ => cgroupsKept_makeEntry _ _ _

theorem cgroupsKept_writeFile (path content : String) : Keeps cgroupsKept (writeFile path content) :=
  fun _ => rfl

theorem cgroupsKept_saveConfigFile (path content : String) : Keeps cgroupsKept (saveConfigFile path content) :=
  fun w => by
    rw [run_saveConfigFile]
    split <;> rfl

theorem cgroupsOnly_removeCgroup (answer : Except GoError Unit) (path : String) :
    Keeps cgroupsOnly (removeCgroup answer path) := fun w => by
  rw [run_removeCgroup]
  refine ⟨rfl, [_], rfl, by simp, fun q => ?_⟩
  split
  · rw [FileSystem.lookup_removeBelow]
    split
    · exact .inr ⟨rfl, path, List.mem_singleton_self _, ‹_›⟩
    · exact .inl rfl
  · exact .inl rfl

end Lxcri.Os
