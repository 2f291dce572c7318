import Mathlib

/-!
The `strings` and `fmt` operations the runtime applies to names, paths and
numbers, on the characters of a string. `strings.ToLower` is
`strings.Map(unicode.ToLower, s)`; the Unicode case tables are not modelled,
so the rune mapping is a parameter, which the runtime's host supplies.
`%d` and `%o` print what `Int.repr` and `Nat.toDigits` print. The decoders at
the end are ours: they read back what the runtime writes.
-/

namespace Lxcri.Text

def toLower (lowerRune : Char → Char) (s : String) : String := ⟨s.data.map lowerRune⟩

def hasPrefix (s pre : String) : Bool := pre.data.isPrefixOf s.data

def trimPrefix (s pre : String) : String :=
  if hasPrefix s pre then ⟨s.data.drop pre.length⟩ else s

/-- strings.Join -/
def joinWith (elems : List String) (sep : String) : String :=
  ⟨sep.data.intercalate (elems.map String.data)⟩

/-- strings.Split with a one-character separator -/
def split (s : String) (sep : Char) : List String :=
  (s.data.splitOn sep).map String.mk

def formatUint (base n : Nat) : String := ⟨Nat.toDigits base n⟩

def formatInt (i : Int) : String := i.repr

theorem trimPrefix_of_hasPrefix {s pre : String} (hit : hasPrefix s pre = true) :
    trimPrefix s pre = ⟨s.data.drop pre.length⟩ := by
  simp [trimPrefix, hit]

theorem trimPrefix_of_not_hasPrefix {s pre : String} (miss : hasPrefix s pre = false) :
    trimPrefix s pre = s := by
  simp [trimPrefix, miss]

theorem hasPrefix_iff (s pre : String) : hasPrefix s pre = true ↔ pre.data <+: s.data := by
  simp [hasPrefix, List.isPrefixOf_iff_prefix]

theorem trimPrefix_data_append (s pre : String) (hit : hasPrefix s pre = true) :
    pre.data ++ (trimPrefix s pre).data = s.data := by
  obtain ⟨rest, whole⟩ := (hasPrefix_iff s pre).mp hit
  rw [trimPrefix_of_hasPrefix hit, ← whole]
  show pre.data ++ (pre.data ++ rest).drop pre.data.length = pre.data ++ rest
  rw [List.drop_left]

theorem mem_trimPrefix {s pre : String} {c : Char} (member : c ∈ (trimPrefix s pre).data) :
    c ∈ s.data := by
  unfold trimPrefix at member
  split at member
  · exact List.mem_of_mem_drop member
  · exact member

@[simp] theorem joinWith_pair (a b sep : String) :
    joinWith [a, b] sep = a ++ sep ++ b := by
  simp [joinWith, List.intercalate, String.ext_iff]

/-! ### Splitting at a separator -/

theorem splitOn_append_cons {α : Type} [DecidableEq α] (sep : α) (a b : List α) :
    (a ++ sep :: b).splitOn sep = a.splitOn sep ++ b.splitOn sep := by
  induction a with
  | nil => simp [List.splitOn, List.splitOnP_cons]
  | cons x rest ih =>
      simp only [List.splitOn, List.cons_append, List.splitOnP_cons] at ih ⊢
      rw [ih]
      split
      · rfl
      · cases split : rest.splitOnP (· == sep) with
        | nil => exact absurd split (List.splitOnP_ne_nil _ _)
        | cons first more => rfl

theorem splitOn_terminated {α : Type} [DecidableEq α] (sep : α) (ls : List (List α))
    (clear : ∀ l ∈ ls, sep ∉ l) :
    (ls.map (· ++ [sep])).flatten.splitOn sep = ls ++ [[]] := by
  induction ls with
  | nil => rfl
  | cons l rest ih =>
      have tail := ih fun m member => clear m (List.mem_cons_of_mem l member)
      have single : l.splitOn sep = [l] :=
        List.splitOnP_eq_single _ _ fun x member same =>
          clear l (List.mem_cons_self l rest) (beq_iff_eq.mp same ▸ member)
      calc ((l :: rest).map (· ++ [sep])).flatten.splitOn sep
          = (l ++ sep :: (rest.map (· ++ [sep])).flatten).splitOn sep := by simp
        _ = l :: (rest ++ [[]]) := by rw [splitOn_append_cons, single, tail]; rfl

/-- Each piece of a split is separator-free and made of the split list's elements. -/
theorem splitOn_pieces {α : Type} [DecidableEq α] (sep : α) (l : List α) :
    ∀ e ∈ l.splitOn sep, sep ∉ e ∧ ∀ x ∈ e, x ∈ l := by
  induction l with
  | nil => simp
  | cons c rest ih =>
      intro e member
      simp only [List.splitOn, List.splitOnP_cons] at member ih
      split at member
      · rcases List.mem_cons.mp member with rfl | later
        · simp
        · exact ⟨(ih e later).1, fun x inside => List.mem_cons_of_mem c ((ih e later).2 x inside)⟩
      · rename_i notSep
        cases shape : rest.splitOnP (· == sep) with
        | nil => exact absurd shape (List.splitOnP_ne_nil _ _)
        | cons first more =>
            rw [shape] at member ih
            rcases List.mem_cons.mp member with rfl | later
            · have head := ih first (List.mem_cons_self _ _)
              refine ⟨?_, ?_⟩
              · simp only [List.mem_cons, not_or]
                exact ⟨fun same => notSep (by subst same; simp), head.1⟩
              · intro x inside
                rcases List.mem_cons.mp inside with rfl | deeper
                · exact List.mem_cons_self _ _
                · exact List.mem_cons_of_mem _ (head.2 x deeper)
            · have tail := ih e (List.mem_cons_of_mem _ later)
              exact ⟨tail.1, fun x inside => List.mem_cons_of_mem c (tail.2 x inside)⟩

theorem mem_intercalate {α : Type} {sep x : α} {ls : List (List α)}
    (member : x ∈ [sep].intercalate ls) : x = sep ∨ ∃ l ∈ ls, x ∈ l := by
  induction ls with
  | nil => simp [List.intercalate] at member
  | cons a rest ih =>
      cases rest with
      | nil => exact .inr ⟨a, List.mem_singleton_self a, by simpa [List.intercalate] using member⟩
      | cons b more =>
          have unfolded : [sep].intercalate (a :: b :: more) =
              a ++ sep :: [sep].intercalate (b :: more) := by
            simp [List.intercalate, List.intersperse_cons_cons]
          rw [unfolded] at member
          rcases List.mem_append.mp member with early | late
          · exact .inr ⟨a, List.mem_cons_self _ _, early⟩
          · rcases List.mem_cons.mp late with same | later
            · exact .inl same
            · rcases ih later with same | ⟨l, inside, found⟩
              · exact .inl same
              · exact .inr ⟨l, List.mem_cons_of_mem a inside, found⟩

theorem split_joinWith (fields : List String) (sep : Char) (nonempty : fields ≠ [])
    (clear : ∀ f ∈ fields, sep ∉ f.data) :
    split (joinWith fields ⟨[sep]⟩) sep = fields := by
  have pieces : ∀ l ∈ fields.map String.data, sep ∉ l := by
    simpa using clear
  simp only [split, joinWith]
  rw [List.splitOn_intercalate _ sep pieces (by simpa using nonempty), List.map_map]
  exact List.map_id' _

/-! ### Numbers -/

def digitValue (c : Char) : Nat := c.toNat - '0'.toNat

def IsDigitIn (base : Nat) (c : Char) : Bool := c.isDigit && decide (digitValue c < base)

def parseUint (base : Nat) (s : List Char) : Option Nat :=
  if s ≠ [] ∧ s.all (IsDigitIn base) then
    some (s.foldl (fun n c => n * base + digitValue c) 0)
  else none

def parseInt : List Char → Option Int
  | '-' :: digits => (parseUint 10 digits).map fun n => -(n : Int)
  | digits => (parseUint 10 digits).map Int.ofNat

section Digits
variable {base : Nat}

theorem digitChar_digit : ∀ d, d < 10 → (Nat.digitChar d).isDigit ∧ digitValue (Nat.digitChar d) = d := by
  decide

theorem toDigitsCore_digits (small : 2 ≤ base) (wide : base ≤ 10) :
    ∀ fuel n ds c, c ∈ Nat.toDigitsCore base fuel n ds → c ∈ ds ∨ IsDigitIn base c = true := by
  intro fuel
  induction fuel with
  | zero => intro n ds c member; exact .inl member
  | succ fuel ih =>
      intro n ds c member
      have digit := digitChar_digit (n % base) (by have := Nat.mod_lt n (by omega : base > 0); omega)
      have fresh : IsDigitIn base (Nat.digitChar (n % base)) = true := by
        simp [IsDigitIn, digit.1, digit.2, Nat.mod_lt n (by omega : base > 0)]
      simp only [Nat.toDigitsCore] at member
      split at member
      · rcases List.mem_cons.mp member with same | old
        · exact .inr (same ▸ fresh)
        · exact .inl old
      · rcases ih _ _ c member with inner | found
        · rcases List.mem_cons.mp inner with same | old
          · exact .inr (same ▸ fresh)
          · exact .inl old
        · exact .inr found

theorem toDigitsCore_value (small : 2 ≤ base) (wide : base ≤ 10) :
    ∀ fuel n ds, n < fuel →
      (Nat.toDigitsCore base fuel n ds).foldl (fun n c => n * base + digitValue c) 0 =
        ds.foldl (fun n c => n * base + digitValue c) n := by
  intro fuel
  induction fuel with
  | zero => intro n ds bound; omega
  | succ fuel ih =>
      intro n ds bound
      have digit := (digitChar_digit (n % base)
        (by have := Nat.mod_lt n (by omega : base > 0); omega)).2
      simp only [Nat.toDigitsCore]
      split
      · rename_i last
        have below : n < base := by
          rcases Nat.lt_or_ge n base with h | h
          · exact h
          · exact absurd last (Nat.div_ne_zero_iff (by omega) |>.mpr h)
        rw [Nat.mod_eq_of_lt below] at digit
        simp [Nat.mod_eq_of_lt below, digit]
      · rename_i more
        have positive : 0 < n := Nat.pos_of_ne_zero fun zero => more (by simp [zero])
        have shrink : n / base < fuel := by
          have := Nat.div_lt_self positive (by omega : 1 < base); omega
        rw [ih _ _ shrink]
        simp [digit, Nat.div_add_mod' n base]

theorem toDigitsCore_ne_nil :
    ∀ fuel n ds, ds ≠ [] → Nat.toDigitsCore base fuel n ds ≠ [] := by
  intro fuel
  induction fuel with
  | zero => intro _ _ full; exact full
  | succ fuel ih =>
      intro n ds _
      simp only [Nat.toDigitsCore]
      split
      · exact List.cons_ne_nil _ _
      · exact ih _ _ (List.cons_ne_nil _ _)

theorem toDigits_ne_nil (n : Nat) : Nat.toDigits base n ≠ [] := by
  simp only [Nat.toDigits, Nat.toDigitsCore]
  split
  · exact List.cons_ne_nil _ _
  · exact toDigitsCore_ne_nil _ _ _ (List.cons_ne_nil _ _)

theorem parseUint_toDigits (small : 2 ≤ base) (wide : base ≤ 10) (n : Nat) :
    parseUint base (Nat.toDigits base n) = some n := by
  have digits : (Nat.toDigits base n).all (IsDigitIn base) = true := by
    simp only [List.all_eq_true]
    intro c member
    simpa using toDigitsCore_digits small wide _ _ _ c member
  simp only [parseUint, ne_eq, toDigits_ne_nil n, not_false_eq_true, digits, and_self, if_true]
  rw [Nat.toDigits, toDigitsCore_value small wide _ _ _ (Nat.lt_succ_self n)]
  rfl

theorem parseInt_repr (i : Int) : parseInt i.repr.data = some i := by
  cases i with
  | ofNat m =>
      have decimal := parseUint_toDigits (show 2 ≤ 10 by decide) (show 10 ≤ 10 by decide) m
      obtain ⟨c, cs, shape⟩ := List.exists_cons_of_ne_nil (toDigits_ne_nil m : Nat.toDigits 10 m ≠ [])
      have first : IsDigitIn 10 c = true := by
        rcases toDigitsCore_digits (by decide) (by decide) _ _ _ c (shape ▸ List.mem_cons_self c cs)
          with none | found
        · simp at none
        · exact found
      have notMinus : c ≠ '-' := by
        rintro rfl
        simp [IsDigitIn, Char.isDigit] at first
      simp only [Int.repr, Nat.repr, List.asString]
      rw [shape] at decimal ⊢
      simp [parseInt, notMinus, decimal]
  | negSucc m =>
      simp [Int.repr, Nat.repr, List.asString, parseInt,
        parseUint_toDigits (show 2 ≤ 10 by decide) (show 10 ≤ 10 by decide), Int.negSucc_eq]

end Digits

end Lxcri.Text
