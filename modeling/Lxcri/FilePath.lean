import Lxcri.Text

/-!
Go's `path/filepath` on Unix, as far as the runtime uses it: `Clean` and
`Join`. `Clean` is the lexical processing Go documents: repeated separators
and `.` elements go, a `..` removes the real element before it, and a `..`
at the start of a rooted path is dropped. The elements are folded left to
right onto a stack whose head is the last element kept. `parts` is the
element list of the cleaned path; containment below a directory is stated on
parts, since that is how the kernel resolves a cleaned path.
-/

namespace Lxcri.FilePath
open Text

abbrev Elem := List Char

def dotDot : Elem := ['.', '.']

def elements (path : List Char) : List Elem := path.splitOn '/'

def isRooted (path : List Char) : Bool := path.head? == some '/'

def cleanStep (rooted : Bool) (stack : List Elem) (elem : Elem) : List Elem :=
  if elem = [] ∨ elem = ['.'] then stack
  else if elem = dotDot then
    match stack with
    | [] => if rooted then [] else [dotDot]
    | top :: rest => if top = dotDot then dotDot :: stack else rest
  else elem :: stack

def cleanStack (rooted : Bool) (stack : List Elem) (elems : List Elem) : List Elem :=
  elems.foldl (cleanStep rooted) stack

def parts (path : String) : List Elem :=
  (cleanStack (isRooted path.data) [] (elements path.data)).reverse

def render (rooted : Bool) (elems : List Elem) : List Char :=
  if rooted then '/' :: ['/'].intercalate elems
  else if elems = [] then ['.'] else ['/'].intercalate elems

def clean (path : String) : String := ⟨render (isRooted path.data) (parts path)⟩

def join : List String → String
  | [] => ""
  | e :: rest => if e = "" then join rest else clean (joinWith (e :: rest) "/")

/-- The elements an `elem` keeps when it is joined onto a directory. -/
def relativeParts (elem : String) : List Elem :=
  (cleanStack false [] (elements elem.data)).reverse

def IsWithin (base path : String) : Prop :=
  isRooted path.data = isRooted base.data ∧ ∃ rel, dotDot ∉ rel ∧ parts path = parts base ++ rel

def IsProperDescendant (base path : String) : Prop :=
  isRooted path.data = isRooted base.data ∧
    ∃ rel, rel ≠ [] ∧ dotDot ∉ rel ∧ parts path = parts base ++ rel

def IsLocal (elem : String) : Prop := relativeParts elem ≠ [] ∧ dotDot ∉ relativeParts elem

instance (elem : String) : Decidable (IsLocal elem) := inferInstanceAs (Decidable (_ ∧ _))

/-! ### Elements -/

theorem elements_append_sep (a b : List Char) :
    elements (a ++ '/' :: b) = elements a ++ elements b :=
  splitOn_append_cons '/' a b

theorem slash_not_mem_elements (path : List Char) : ∀ e ∈ elements path, '/' ∉ e :=
  fun e member => (splitOn_pieces '/' path e member).1

theorem isRooted_append {a : List Char} (b : List Char) (nonempty : a ≠ []) :
    isRooted (a ++ b) = isRooted a := by
  cases a with
  | nil => exact absurd rfl nonempty
  | cons c rest => rfl

/-! ### The cleaning stack -/

theorem cleanStack_append (rooted : Bool) (stack : List Elem) (xs ys : List Elem) :
    cleanStack rooted stack (xs ++ ys) = cleanStack rooted (cleanStack rooted stack xs) ys :=
  List.foldl_append _ _ _ _

theorem cleanStep_skip (rooted : Bool) (stack : List Elem) {elem : Elem}
    (empty : elem = [] ∨ elem = ['.']) : cleanStep rooted stack elem = stack := by
  simp [cleanStep, empty]

/-- What one element does to the stack: nothing (a skipped element, or `..` at
a rooted bottom), pop a real top, stay as `..`, or go on top. -/
theorem cleanStep_cases (rooted : Bool) (stack : List Elem) (elem : Elem) :
    cleanStep rooted stack elem = stack ∨
      (elem = dotDot ∧ ∃ top rest, stack = top :: rest ∧ top ≠ dotDot ∧
        cleanStep rooted stack elem = rest) ∨
      (elem = dotDot ∧ ((stack = [] ∧ rooted = false) ∨ stack.head? = some dotDot) ∧
        cleanStep rooted stack elem = dotDot :: stack) ∨
      (elem ≠ [] ∧ elem ≠ ['.'] ∧ elem ≠ dotDot ∧ cleanStep rooted stack elem = elem :: stack) := by
  unfold cleanStep
  split
  · exact .inl rfl
  rename_i real
  push_neg at real
  split
  · rename_i up
    rcases stack with _ | ⟨top, rest⟩
    · cases rooted
      · exact .inr (.inr (.inl ⟨up, .inl ⟨rfl, rfl⟩, rfl⟩))
      · exact .inl rfl
    · by_cases below : top = dotDot
      · exact .inr (.inr (.inl ⟨up, .inr (by rw [below]; rfl), by simp [below]⟩))
      · exact .inr (.inl ⟨up, top, rest, rfl, below, by simp [below]⟩)
  · exact .inr (.inr (.inr ⟨real.1, real.2, ‹_›, rfl⟩))

theorem dotDot_mem_cleanStack (es : List Elem) :
    ∀ stack, dotDot ∈ stack → dotDot ∈ cleanStack false stack es := by
  induction es with
  | nil => exact fun _ kept => kept
  | cons e rest ih =>
      intro stack kept
      apply ih
      rcases cleanStep_cases false stack e with same | ⟨-, top, below, rfl, real, popped⟩ |
        ⟨-, -, stayed⟩ | ⟨-, -, -, pushed⟩
      · rwa [same]
      · rw [popped]
        exact (List.mem_cons.mp kept).resolve_left fun same => real same.symm
      · rw [stayed]
        exact List.mem_cons_self _ _
      · rw [pushed]
        exact List.mem_cons_of_mem _ kept

/-- Joined below a stack `S`, an element list that never climbs out of its own
relative stack `T` leaves `S` untouched. -/
theorem cleanStack_above (rooted : Bool) (es : List Elem) :
    ∀ above below, dotDot ∉ above → dotDot ∉ cleanStack false above es →
      cleanStack rooted (above ++ below) es = cleanStack false above es ++ below := by
  induction es with
  | nil => intros; rfl
  | cons e rest ih =>
      intro above below noClimb stays
      simp only [cleanStack, List.foldl_cons] at stays ⊢
      by_cases skip : e = [] ∨ e = ['.']
      · rw [cleanStep_skip _ _ skip, cleanStep_skip _ _ skip] at *
        exact ih above below noClimb stays
      by_cases up : e = dotDot
      · subst up
        cases above with
        | nil =>
            have climbed := dotDot_mem_cleanStack rest [dotDot] (List.mem_singleton_self _)
            simp [cleanStep, skip, cleanStack] at stays climbed
            exact absurd climbed stays
        | cons top others =>
            have real : top ≠ dotDot := fun same => noClimb (same ▸ List.mem_cons_self _ _)
            have popBelow : cleanStep rooted (top :: others ++ below) dotDot = others ++ below := by
              simp [cleanStep, skip, real]
            have popAlone : cleanStep false (top :: others) dotDot = others := by
              simp [cleanStep, skip, real]
            rw [popBelow]
            rw [popAlone] at stays ⊢
            exact ih others below (fun inside => noClimb (List.mem_cons_of_mem _ inside)) stays
      · have push : ∀ r s, cleanStep r s e = e :: s := by intro r s; simp [cleanStep, skip, up]
        rw [push, push] at *
        exact ih (e :: above) below (by simp [Ne.symm up, noClimb]) stays

/-! ### Cleaned stacks -/

/-- What `cleanStep` can build: real elements over a bottom run of `..`, which a
rooted path never keeps. -/
def Cleaned (rooted : Bool) : List Elem → Prop
  | [] => True
  | e :: rest => e ≠ [] ∧ e ≠ ['.'] ∧ '/' ∉ e ∧
      (e = dotDot → rooted = false ∧ ∀ x ∈ rest, x = dotDot) ∧ Cleaned rooted rest

theorem dotDot_ne : dotDot ≠ [] ∧ dotDot ≠ ['.'] ∧ '/' ∉ dotDot := by decide

theorem cleanStep_cleaned (rooted : Bool) (stack : List Elem) (elem : Elem)
    (noSlash : '/' ∉ elem) (ok : Cleaned rooted stack) :
    Cleaned rooted (cleanStep rooted stack elem) := by
  rcases cleanStep_cases rooted stack elem with same | ⟨-, top, rest, rfl, -, popped⟩ |
    ⟨-, bottom, stayed⟩ | ⟨empty, dot, real, pushed⟩
  · rwa [same]
  · rw [popped]
    exact ok.2.2.2.2
  · -- a kept `..` sits on a relative stack of `..` only
    rw [stayed]
    refine ⟨dotDot_ne.1, dotDot_ne.2.1, dotDot_ne.2.2, fun _ => ?_, ok⟩
    rcases bottom with ⟨rfl, relative⟩ | onTop
    · exact ⟨relative, by simp⟩
    · rcases stack with _ | ⟨top, rest⟩
      · cases onTop
      · cases onTop
        have below := ok.2.2.2.1 rfl
        exact ⟨below.1, fun x member => (List.mem_cons.mp member).elim id (below.2 x)⟩
  · rw [pushed]
    exact ⟨empty, dot, noSlash, fun up => absurd up real, ok⟩

theorem cleanStack_cleaned (rooted : Bool) (es : List Elem) (noSlash : ∀ e ∈ es, '/' ∉ e) :
    ∀ stack, Cleaned rooted stack → Cleaned rooted (cleanStack rooted stack es) := by
  induction es with
  | nil => exact fun _ ok => ok
  | cons e rest ih =>
      intro stack ok
      exact ih (fun x member => noSlash x (List.mem_cons_of_mem e member)) _
        (cleanStep_cleaned rooted stack e (noSlash e (List.mem_cons_self e rest)) ok)

theorem elements_cleaned (rooted : Bool) (path : List Char) :
    Cleaned rooted (cleanStack rooted [] (elements path)) :=
  cleanStack_cleaned rooted _ (slash_not_mem_elements path) [] trivial

theorem cleaned_real {rooted : Bool} :
    ∀ {stack : List Elem}, Cleaned rooted stack → ∀ e ∈ stack, e ≠ [] ∧ '/' ∉ e
  | [], _ => by simp
  | top :: rest, ok => by
      intro e member
      rcases List.mem_cons.mp member with rfl | deeper
      · exact ⟨ok.1, ok.2.2.1⟩
      · exact cleaned_real ok.2.2.2.2 e deeper

/-- Cleaning the elements of a cleaned stack, oldest first, rebuilds it. -/
theorem cleanStack_reverse {rooted : Bool} :
    ∀ {stack : List Elem}, Cleaned rooted stack → cleanStack rooted [] stack.reverse = stack
  | [], _ => rfl
  | e :: rest, ok => by
      rw [List.reverse_cons, cleanStack_append, cleanStack_reverse ok.2.2.2.2]
      simp only [cleanStack, List.foldl_cons, List.foldl_nil, cleanStep, ok.1, ok.2.1, or_self,
        if_false]
      split
      · rename_i up
        obtain ⟨flat, bottom⟩ := ok.2.2.2.1 up
        subst up flat
        cases rest with
        | nil => rfl
        | cons top below => simp [bottom top (List.mem_cons_self _ _)]
      · rfl

/-! ### Clean -/

theorem cleanStack_elements_intercalate (rooted : Bool) (stack : List Elem) (es : List Elem)
    (noSlash : ∀ e ∈ es, '/' ∉ e) :
    cleanStack rooted stack (elements (['/'].intercalate es)) = cleanStack rooted stack es := by
  by_cases empty : es = []
  · subst empty; rfl
  · rw [elements, List.splitOn_intercalate _ '/' noSlash empty]

theorem cleanStack_elements_render (rooted : Bool) (es : List Elem)
    (noSlash : ∀ e ∈ es, '/' ∉ e) :
    cleanStack rooted [] (elements (render rooted es)) = cleanStack rooted [] es := by
  unfold render
  split
  · rw [show '/' :: ['/'].intercalate es = [] ++ '/' :: ['/'].intercalate es from rfl,
      elements_append_sep, cleanStack_append]
    exact cleanStack_elements_intercalate rooted _ es noSlash
  split
  · rename_i empty; subst empty; rfl
  · exact cleanStack_elements_intercalate rooted _ es noSlash

theorem isRooted_render (rooted : Bool) (es : List Elem) (real : ∀ e ∈ es, e ≠ [] ∧ '/' ∉ e) :
    isRooted (render rooted es) = rooted := by
  unfold render
  split
  · rename_i yes; simp [isRooted, yes]
  split
  · rename_i no _; simp [isRooted, no]
  · rename_i no nonempty
    obtain ⟨first, rest, rfl⟩ := List.exists_cons_of_ne_nil nonempty
    obtain ⟨c, cs, shape⟩ := List.exists_cons_of_ne_nil (real first (List.mem_cons_self _ _)).1
    have notSlash : c ≠ '/' := fun same =>
      (real first (List.mem_cons_self _ _)).2 (by simp [shape, same])
    cases rest with
    | nil => simp [isRooted, List.intercalate, shape, notSlash, no]
    | cons second more =>
        simp [isRooted, List.intercalate, List.intersperse_cons_cons, shape, notSlash, no]

theorem parts_clean (path : String) :
    parts (clean path) = parts path ∧ isRooted (clean path).data = isRooted path.data := by
  have ok := elements_cleaned (isRooted path.data) path.data
  have real : ∀ e ∈ parts path, e ≠ [] ∧ '/' ∉ e := by
    intro e member
    exact cleaned_real ok e (List.mem_reverse.mp member)
  have rooted : isRooted (clean path).data = isRooted path.data :=
    isRooted_render _ _ real
  refine ⟨?_, rooted⟩
  rw [parts, rooted]
  simp only [clean]
  rw [cleanStack_elements_render _ _ fun e member => (real e member).2, parts,
    cleanStack_reverse ok]

theorem clean_eq_of_parts {a b : String} (same : parts a = parts b)
    (rooted : isRooted a.data = isRooted b.data) : clean a = clean b := by
  simp [clean, same, rooted]

/-! ### Join -/

theorem join_pair {root : String} (elem : String) (nonempty : root ≠ "") :
    join [root, elem] = clean (root ++ "/" ++ elem) := by
  simp [join, nonempty]

theorem data_ne_nil {s : String} (nonempty : s ≠ "") : s.data ≠ [] :=
  fun empty => nonempty (String.ext empty)

theorem parts_join_pair {root elem : String} (nonempty : root ≠ "")
    (stays : dotDot ∉ relativeParts elem) :
    parts (join [root, elem]) = parts root ++ relativeParts elem ∧
      isRooted (join [root, elem]).data = isRooted root.data := by
  have whole : (root ++ "/" ++ elem).data = root.data ++ '/' :: elem.data := by simp
  have rooted : isRooted (root ++ "/" ++ elem).data = isRooted root.data := by
    rw [whole, isRooted_append _ (data_ne_nil nonempty)]
  obtain ⟨same, sameRoot⟩ := parts_clean (root ++ "/" ++ elem)
  rw [join_pair elem nonempty, same, sameRoot, rooted]
  refine ⟨?_, rfl⟩
  have stays' : dotDot ∉ cleanStack false [] (elements elem.data) := by
    simpa [relativeParts] using stays
  rw [parts, rooted, whole, elements_append_sep, cleanStack_append,
    ← List.nil_append (cleanStack _ [] (elements root.data)),
    cleanStack_above _ _ [] _ (List.not_mem_nil _) stays']
  simp [parts, relativeParts]

/-- Joined onto `root`, a path "/../" followed by one that does not climb leaves
root's last element first. -/
theorem parts_join_climb {root q : String} (nonempty : root ≠ "") {parent : List Elem} {name : Elem}
    (named : parts root = parent ++ [name]) (real : name ≠ dotDot) (stays : dotDot ∉ relativeParts q) :
    parts (join [root, "/../" ++ q]) = parent ++ relativeParts q := by
  have whole : (root ++ "/" ++ ("/../" ++ q)).data =
      root.data ++ '/' :: ([] ++ '/' :: (['.', '.'] ++ '/' :: q.data)) := by simp
  have rooted : isRooted (root ++ "/" ++ ("/../" ++ q)).data = isRooted root.data := by
    rw [whole, isRooted_append _ (data_ne_nil nonempty)]
  have stack : cleanStack (isRooted root.data) [] (elements root.data) = name :: parent.reverse := by
    simpa [parts] using congrArg List.reverse named
  have popped : cleanStack (isRooted root.data) (name :: parent.reverse) (elements [] ++
      elements ['.', '.']) = [] ++ parent.reverse := by
    have split : elements [] ++ elements ['.', '.'] = [[], dotDot] := by decide
    simp [split, cleanStack, cleanStep, real, dotDot_ne.1, dotDot_ne.2.1]
  have stays' : dotDot ∉ cleanStack false [] (elements q.data) := by
    simpa [relativeParts] using stays
  rw [join_pair _ nonempty, (parts_clean _).1, parts, rooted, whole, elements_append_sep,
    elements_append_sep, elements_append_sep, cleanStack_append, stack, ← List.append_assoc,
    cleanStack_append, popped, cleanStack_above _ _ [] _ (List.not_mem_nil _) stays']
  simp [relativeParts]

theorem join_isWithin {root elem : String} (nonempty : root ≠ "")
    (stays : dotDot ∉ relativeParts elem) : IsWithin root (join [root, elem]) := by
  obtain ⟨same, rooted⟩ := parts_join_pair nonempty stays
  exact ⟨rooted, relativeParts elem, stays, same⟩

theorem join_isProperDescendant {root elem : String} (nonempty : root ≠ "")
    (below : IsLocal elem) : IsProperDescendant root (join [root, elem]) := by
  obtain ⟨same, rooted⟩ := parts_join_pair nonempty below.2
  exact ⟨rooted, relativeParts elem, below.1, below.2, same⟩

theorem join_trimPrefix_slash {root : String} (path : String) (nonempty : root ≠ "") :
    join [root, trimPrefix path "/"] = join [root, path] := by
  cases hit : hasPrefix path "/" with
  | false => rw [trimPrefix_of_not_hasPrefix hit]
  | true =>
      have whole := trimPrefix_data_append path "/" hit
      have rooted : ∀ tail, isRooted (root.data ++ tail) = isRooted root.data :=
        fun tail => isRooted_append tail (data_ne_nil nonempty)
      have short : (root ++ "/" ++ trimPrefix path "/").data =
          root.data ++ '/' :: (trimPrefix path "/").data := by simp
      have long : (root ++ "/" ++ path).data =
          root.data ++ '/' :: ([] ++ '/' :: (trimPrefix path "/").data) := by
        simp [← whole]
      have skipEmpty : ∀ stack, cleanStack (isRooted root.data) stack (elements []) = stack :=
        fun stack => cleanStep_skip (isRooted root.data) stack (.inl rfl)
      rw [join_pair _ nonempty, join_pair _ nonempty]
      apply clean_eq_of_parts _ (by rw [short, long, rooted, rooted])
      simp only [parts, short, long, rooted, elements_append_sep, cleanStack_append, skipEmpty]

theorem mem_cleanStep {rooted : Bool} {stack : List Elem} {elem x : Elem}
    (member : x ∈ cleanStep rooted stack elem) : x ∈ stack ∨ x = elem ∨ x = dotDot := by
  rcases cleanStep_cases rooted stack elem with same | ⟨-, top, rest, rfl, -, popped⟩ |
    ⟨-, -, stayed⟩ | ⟨-, -, -, pushed⟩
  · exact .inl (same ▸ member)
  · exact .inl (List.mem_cons_of_mem _ (popped ▸ member))
  · rcases List.mem_cons.mp (stayed ▸ member) with up | old
    · exact .inr (.inr up)
    · exact .inl old
  · rcases List.mem_cons.mp (pushed ▸ member) with fresh | old
    · exact .inr (.inl fresh)
    · exact .inl old

theorem mem_cleanStack (rooted : Bool) (es : List Elem) :
    ∀ stack, ∀ x ∈ cleanStack rooted stack es, x ∈ stack ∨ x ∈ es ∨ x = dotDot := by
  induction es with
  | nil => exact fun _ x member => .inl member
  | cons e rest ih =>
      intro stack x member
      rcases ih _ x member with kept | later | up
      · rcases mem_cleanStep kept with old | fresh | up
        · exact .inl old
        · exact .inr (.inl (fresh ▸ List.mem_cons_self _ _))
        · exact .inr (.inr up)
      · exact .inr (.inl (List.mem_cons_of_mem _ later))
      · exact .inr (.inr up)

/-- Cleaning only adds separators and dots to a path's characters. -/
theorem mem_clean {path : String} {c : Char} (member : c ∈ (clean path).data) :
    c ∈ path.data ∨ c = '/' ∨ c = '.' := by
  have fromParts : ∀ e ∈ parts path, c ∈ e → c ∈ path.data ∨ c = '.' := by
    intro e kept inside
    rcases mem_cleanStack _ _ [] e (List.mem_reverse.mp kept) with none | split | up
    · exact absurd none (List.not_mem_nil _)
    · exact .inl ((splitOn_pieces '/' path.data e split).2 c inside)
    · subst up; simp [dotDot] at inside; exact .inr inside
  have fromIntercalate : c ∈ ['/'].intercalate (parts path) → c ∈ path.data ∨ c = '/' ∨ c = '.' := by
    intro inside
    rcases mem_intercalate inside with slash | ⟨e, kept, found⟩
    · exact .inr (.inl slash)
    · rcases fromParts e kept found with old | dot
      · exact .inl old
      · exact .inr (.inr dot)
  simp only [clean, render] at member
  split at member
  · rcases List.mem_cons.mp member with slash | inside
    · exact .inr (.inl slash)
    · exact fromIntercalate inside
  split at member
  · exact .inr (.inr (List.mem_singleton.mp member))
  · exact fromIntercalate member

theorem mem_join_pair {root path : String} {c : Char} (nonempty : root ≠ "")
    (member : c ∈ (join [root, path]).data) :
    c ∈ root.data ∨ c ∈ path.data ∨ c = '/' ∨ c = '.' := by
  rw [join_pair _ nonempty] at member
  rcases mem_clean member with inside | slash | dot
  · simp only [String.data_append, List.mem_append] at inside
    rcases inside with (early | slash) | late
    · exact .inl early
    · exact .inr (.inr (.inl (by simpa using slash)))
    · exact .inr (.inl late)
  · exact .inr (.inr (.inl slash))
  · exact .inr (.inr (.inr dot))

theorem not_isWithin_of_not_prefix {base path : String} (escape : ¬ parts base <+: parts path) :
    ¬ IsWithin base path := by
  rintro ⟨-, rel, -, same⟩
  exact escape ⟨rel, same.symm⟩

theorem not_isProperDescendant_of_length_le {base path : String}
    (short : (parts path).length ≤ (parts base).length) : ¬ IsProperDescendant base path := by
  rintro ⟨-, rel, nonempty, -, same⟩
  have longer := congrArg List.length same
  simp only [List.length_append] at longer
  have : 0 < rel.length := List.length_pos.mpr nonempty
  omega

theorem render_ne_nil (rooted : Bool) {es : List Elem} (real : ∀ e ∈ es, e ≠ []) :
    render rooted es ≠ [] := by
  unfold render
  split
  · exact List.cons_ne_nil _ _
  split
  · exact List.cons_ne_nil _ _
  · rename_i nonempty
    obtain ⟨e, rest, rfl⟩ := List.exists_cons_of_ne_nil nonempty
    intro empty
    simp only [List.intercalate, List.flatten_eq_nil_iff] at empty
    exact real e (.head _) (empty e (by cases rest <;> simp [List.intersperse]))

/-- Go's `filepath.Clean` never returns the empty path: at the least it returns ".". -/
theorem clean_ne_empty (path : String) : clean path ≠ "" := fun empty => by
  have real : ∀ e ∈ parts path, e ≠ [] := fun e member =>
    (cleaned_real (elements_cleaned _ path.data) e (List.mem_reverse.mp member)).1
  exact render_ne_nil _ real (congrArg String.data empty)

theorem join_pair_ne_empty (root : String) {elem : String} (named : elem ≠ "") :
    join [root, elem] ≠ "" := by
  unfold join
  split
  · simp only [join, named, if_false]
    exact clean_ne_empty _
  · exact clean_ne_empty _

theorem join_ne_empty_of_root {root : String} (elem : String) (nonempty : root ≠ "") :
    join [root, elem] ≠ "" := by
  rw [join_pair elem nonempty]
  exact clean_ne_empty _

theorem clean_clean (path : String) : clean (clean path) = clean path :=
  clean_eq_of_parts (parts_clean path).1 (parts_clean path).2

/-- Joining a single joined path cleans it again, which changes nothing. -/
theorem join_join : ∀ paths : List String, join [join paths] = join paths
  | [] => rfl
  | e :: rest => by
      by_cases empty : e = ""
      · simp only [join, empty, if_true]
        exact join_join rest
      · simp only [join, empty, if_false]
        split
        · rename_i cleaned
          exact cleaned.symm
        · have single : joinWith [clean (joinWith (e :: rest) "/")] "/" =
              clean (joinWith (e :: rest) "/") := by
            simp [joinWith, List.intercalate]
          rw [single, clean_clean]

end Lxcri.FilePath
