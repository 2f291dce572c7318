import Lxcri.Steps

/-!
The resource-limit loop of `configureContainer`. A limit's kind is its type
lower-cased with one leading `rlimit_` stripped. `seenLimits` holds the kinds
already set, so the loop sets one `lxc.prlimit.<kind>` item per limit until a
kind repeats, and then fails with `duplicate resource limit %q` naming the
repeating limit's type. It does not take back the items it set before.
-/

namespace Lxcri.Limits
open Text Config Steps

def limitName (lowerRune : Char → Char) (limit : POSIXRlimit) : String :=
  trimPrefix (toLower lowerRune limit.type) "rlimit_"

def limitValue (limit : POSIXRlimit) : String :=
  formatUint 10 limit.soft ++ ":" ++ formatUint 10 limit.hard

def limitDirective (lowerRune : Char → Char) (limit : POSIXRlimit) : Directive :=
  ⟨"lxc.prlimit." ++ limitName lowerRune limit, limitValue limit⟩

section Loop
variable (host : Host)

def configureRlimits (seenLimits : List String) : List POSIXRlimit → ConfigM Unit
  | [] => pure ()
  | limit :: rest => do
      let name := limitName host.lowerRune limit
      if seenLimits.any (· == name) then
        throw (.quote "duplicate resource limit" limit.type)
      let seenLimits := seenLimits ++ [name]
      setConfigItem host ("lxc.prlimit." ++ name) (limitValue limit)
      configureRlimits seenLimits rest

/-- A limit of a kind not seen yet: the loop sets its item, or fails on it. -/
theorem run_configureRlimits_unseen (seen : List String) (limit : POSIXRlimit)
    (rest : List POSIXRlimit) (b : Build) (fresh : limitName host.lowerRune limit ∉ seen) :
    run (configureRlimits host seen (limit :: rest)) b =
      if Accepted host (limitDirective host.lowerRune limit) then
        run (configureRlimits host (seen ++ [limitName host.lowerRune limit]) rest)
          { b with config := b.config ++ [limitDirective host.lowerRune limit] }
      else (.error (.failed "SetConfigItem"
        [(limitDirective host.lowerRune limit).key, (limitDirective host.lowerRune limit).value]), b) := by
  have unseen : seen.any (· == limitName host.lowerRune limit) = false := by
    rw [List.any_eq_false]
    intro x member same
    exact fresh (beq_iff_eq.mp same ▸ member)
  simp only [configureRlimits, unseen, Bool.false_eq_true, if_false]
  rw [run_bind, run_pure]
  simp only
  rw [run_bind, run_setConfigItem]
  by_cases accepted : Accepted host (limitDirective host.lowerRune limit) = true <;>
    simp only [Accepted, limitDirective] at accepted <;> simp [Accepted, accepted, limitDirective]

theorem run_configureRlimits_fresh (seen : List String) (limit : POSIXRlimit)
    (rest : List POSIXRlimit) (b : Build) (fresh : limitName host.lowerRune limit ∉ seen)
    (accepted : Accepted host (limitDirective host.lowerRune limit) = true) :
    run (configureRlimits host seen (limit :: rest)) b =
      run (configureRlimits host (seen ++ [limitName host.lowerRune limit]) rest)
        { b with config := b.config ++ [limitDirective host.lowerRune limit] } := by
  rw [run_configureRlimits_unseen host seen limit rest b fresh, if_pos accepted]

theorem run_configureRlimits_seen (seen : List String) (limit : POSIXRlimit)
    (rest : List POSIXRlimit) (b : Build) (repeated : limitName host.lowerRune limit ∈ seen) :
    run (configureRlimits host seen (limit :: rest)) b =
      (.error (.quote "duplicate resource limit" limit.type), b) := by
  have hit : seen.any (· == limitName host.lowerRune limit) = true :=
    List.any_eq_true.mpr ⟨_, repeated, beq_self_eq_true _⟩
  simp only [configureRlimits, hit, if_true]
  rw [run_bind, run_throw]

/-- The loop invariant: `seenLimits` is the kinds of the limits already set. -/
theorem run_configureRlimits_distinct (seen : List String) (b : Build) :
    ∀ rlimits : List POSIXRlimit, (∀ x ∈ rlimits, Accepted host (limitDirective host.lowerRune x) = true) →
      (seen ++ rlimits.map (limitName host.lowerRune)).Nodup →
      run (configureRlimits host seen rlimits) b =
        (.ok (), { b with config := b.config ++ rlimits.map (limitDirective host.lowerRune) })
  | [], _, _ => by simp [configureRlimits]
  | limit :: rest, accepted, distinct => by
      have fresh : limitName host.lowerRune limit ∉ seen := by
        intro inside
        simp only [List.map_cons, List.nodup_append, List.nodup_cons] at distinct
        exact distinct.2.2 inside (List.mem_cons_self _ _)
      rw [run_configureRlimits_fresh host seen limit rest b fresh
          (accepted limit (List.mem_cons_self _ _)),
        run_configureRlimits_distinct (seen ++ [limitName host.lowerRune limit]) _ rest
          (fun x member => accepted x (List.mem_cons_of_mem _ member))
          (by simpa [List.append_assoc] using distinct)]
      simp [List.append_assoc]

theorem run_configureRlimits_repeat (seen : List String) (b : Build) :
    ∀ (pre : List POSIXRlimit) (dup : POSIXRlimit) (post : List POSIXRlimit),
      (∀ x ∈ pre, Accepted host (limitDirective host.lowerRune x) = true) →
      (seen ++ pre.map (limitName host.lowerRune)).Nodup →
      limitName host.lowerRune dup ∈ seen ++ pre.map (limitName host.lowerRune) →
      run (configureRlimits host seen (pre ++ dup :: post)) b =
        (.error (.quote "duplicate resource limit" dup.type),
          { b with config := b.config ++ pre.map (limitDirective host.lowerRune) })
  | [], dup, post, _, _, repeated => by
      simpa using run_configureRlimits_seen host seen dup post b (by simpa using repeated)
  | limit :: rest, dup, post, accepted, distinct, repeated => by
      have fresh : limitName host.lowerRune limit ∉ seen := by
        intro inside
        simp only [List.map_cons, List.nodup_append, List.nodup_cons] at distinct
        exact distinct.2.2 inside (List.mem_cons_self _ _)
      rw [List.cons_append, run_configureRlimits_fresh host seen limit _ b fresh
          (accepted limit (List.mem_cons_self _ _)),
        run_configureRlimits_repeat (seen ++ [limitName host.lowerRune limit]) _ rest dup post
          (fun x member => accepted x (List.mem_cons_of_mem _ member))
          (by simpa [List.append_assoc] using distinct)
          (by simpa [List.append_assoc] using repeated)]
      simp [List.append_assoc]

end Loop

/-- A list that repeats a key splits at the first entry whose key repeats one
seen before it. -/
theorem exists_first_repeat {α β : Type} [DecidableEq β] (f : α → β) :
    ∀ (seen : List β) (xs : List α), seen.Nodup → ¬ (seen ++ xs.map f).Nodup →
      ∃ pre dup post, xs = pre ++ dup :: post ∧ (seen ++ pre.map f).Nodup ∧
        f dup ∈ seen ++ pre.map f
  | _, [], fresh, repeats => absurd (by simpa using fresh) repeats
  | seen, x :: rest, fresh, repeats => by
      by_cases old : f x ∈ seen
      · exact ⟨[], x, rest, rfl, by simpa using fresh, by simpa using old⟩
      · have grown : (seen ++ [f x]).Nodup := by
          simpa [List.nodup_append] using ⟨fresh, old⟩
        obtain ⟨pre, dup, post, split, distinct, repeated⟩ :=
          exists_first_repeat f (seen ++ [f x]) rest grown (by simpa [List.append_assoc] using repeats)
        exact ⟨x :: pre, dup, post, by simp [split], by simpa [List.append_assoc] using distinct,
          by simpa [List.append_assoc] using repeated⟩

/-! ### The whole loop -/

section Claims
variable (host : Host)

/-- With every item accepted, the loop fails with the duplicate error exactly
when two limits share a kind, and otherwise sets one item per limit. -/
theorem configureRlimits_duplicate_iff (rlimits : List POSIXRlimit) (b : Build)
    (accepted : ∀ x ∈ rlimits, Accepted host (limitDirective host.lowerRune x) = true) :
    ((∃ t, (run (configureRlimits host [] rlimits) b).1 = .error (.quote "duplicate resource limit" t)) ↔
        ¬ (rlimits.map (limitName host.lowerRune)).Nodup) ∧
      ((rlimits.map (limitName host.lowerRune)).Nodup →
        run (configureRlimits host [] rlimits) b =
          (.ok (), { b with config := b.config ++ rlimits.map (limitDirective host.lowerRune) })) := by
  have distinct : (rlimits.map (limitName host.lowerRune)).Nodup →
      run (configureRlimits host [] rlimits) b =
        (.ok (), { b with config := b.config ++ rlimits.map (limitDirective host.lowerRune) }) :=
    fun unique => run_configureRlimits_distinct host [] b rlimits accepted (by simpa using unique)
  refine ⟨⟨fun ⟨t, failed⟩ unique => ?_, fun repeats => ?_⟩, distinct⟩
  · rw [distinct unique] at failed
    exact Except.noConfusion failed
  · obtain ⟨pre, dup, post, rfl, unique, repeated⟩ :=
      exists_first_repeat (limitName host.lowerRune) [] rlimits List.nodup_nil (by simpa using repeats)
    refine ⟨dup.type, ?_⟩
    rw [run_configureRlimits_repeat host [] b pre dup post
      (fun x member => accepted x (List.mem_append_left _ member)) unique repeated]

theorem configureRlimits_duplicate_iff_nofile :
    (∀ x ∈ [⟨"RLIMIT_NOFILE", 1024, 1024⟩, ⟨"core", 0, 0⟩],
        Accepted (acceptingHost "") (limitDirective Char.toLower x) = true) ∧
      run (configureRlimits (acceptingHost "") [] [⟨"RLIMIT_NOFILE", 1024, 1024⟩, ⟨"core", 0, 0⟩])
          emptyBuild =
        (.ok (), { emptyBuild with config :=
          [⟨"lxc.prlimit.nofile", "1024:1024"⟩, ⟨"lxc.prlimit.core", "0:0"⟩] }) :=
  ⟨by decide, (configureRlimits_duplicate_iff (acceptingHost "") _ emptyBuild (by decide)).2
    (by decide)⟩

end Claims

end Lxcri.Limits
