import VerdaCapi.Shell.Syntax

/-!
# Paths in a tree of directories

A path is walked part by part, from the root or from the working directory. The directories that exist
are a list of locations; there are no links, so the way back from a directory is the way that led to it.

Walking needs every directory on the way, also one that is left again with `..` (`leads`). `mkdir -p`
makes the directories on the way that are missing (`passed`). `leads_names`: for an absolute path of names
these are the same, so that making its directory is enough to get to a file.
-/

namespace Shell

/-- A place in the tree: the names on the way from the root. -/
abbrev Location := List Text

/-- The part of a path names something; the others are empty, or stand for a directory or its parent. -/
def isName (part : Text) : Bool := !decide (part = [] ∨ part = [0x2e] ∨ part = [0x2e, 0x2e])

/-- Where a part of a path leads. -/
def enter (l : Location) (part : Text) : Location :=
  if isName part then l ++ [part]
  else if part = [0x2e, 0x2e] then l.dropLast
  else l

/-- The parts of a path between its slashes. -/
def parts (path : Text) : List Text := path.splitOn 0x2f

/-- Where a path starts. -/
def origin (cwd : Location) (path : Text) : Location := if path.head? = some 0x2f then [] else cwd

/-- Where a path leads. -/
def locate (cwd : Location) (path : Text) : Location := (parts path).foldl enter (origin cwd path)

/-- The locations that the names among these parts lead to. -/
def passedFrom : Location → List Text → List Location
  | _, [] => []
  | l, part :: rest =>
    if isName part then enter l part :: passedFrom (enter l part) rest
    else passedFrom (enter l part) rest

/-- The locations on the way to a directory, with its own. -/
def passed (cwd : Location) (dir : Text) : List Location := passedFrom (origin cwd dir) (parts dir)

/-- The path can be walked up to its last part, which names something that is not a directory. -/
def leads (cwd : Location) (dirs : List Location) (path : Text) : Bool :=
  (passedFrom (origin cwd path) (parts path).dropLast).all dirs.contains &&
    isName ((parts path).getLastD []) && !dirs.contains (locate cwd path)

/-! ## Absolute paths of names -/

/-- The absolute path with these parts. -/
def absolute (names : List Text) : Text := List.intercalate [0x2f] ([] :: names)

/-- The part can stand between two slashes, and names something. -/
def IsPart (part : Text) : Prop := isName part = true ∧ 0x2f ∉ part

theorem absolute_cons (name : Text) (names : List Text) :
    absolute (name :: names) = 0x2f :: List.intercalate [0x2f] (name :: names) := by
  simp [absolute, List.intercalate]

theorem parts_absolute {names : List Text} (h : ∀ part ∈ names, IsPart part) :
    parts (absolute names) = [] :: names := by
  refine List.splitOn_intercalate 0x2f ?_ (List.cons_ne_nil _ _)
  intro part hpart
  rcases List.mem_cons.1 hpart with rfl | hpart
  · exact List.not_mem_nil
  · exact (h part hpart).2

theorem origin_absolute {cwd : Location} {names : List Text} (h : names ≠ []) :
    origin cwd (absolute names) = [] := by
  cases names with
  | nil => exact absurd rfl h
  | cons name names =>
    rw [absolute_cons]
    rfl

theorem foldl_enter {names : List Text} (h : ∀ part ∈ names, isName part = true) (l : Location) :
    names.foldl enter l = l ++ names := by
  induction names generalizing l with
  | nil => simp
  | cons part names ih =>
    have hstep : enter l part = l ++ [part] := if_pos (h part List.mem_cons_self)
    rw [List.foldl_cons, hstep, ih fun p hp => h p (List.mem_cons_of_mem _ hp), List.append_assoc]
    rfl

theorem locate_absolute {cwd : Location} {names : List Text} (h : ∀ part ∈ names, IsPart part)
    (hne : names ≠ []) : locate cwd (absolute names) = names := by
  rw [locate, parts_absolute h, origin_absolute hne]
  exact foldl_enter (fun part hpart => (h part hpart).1) []

/-- Each part leads one step further at most. -/
theorem length_passedFrom {l l' : Location} {ps : List Text} (h : l' ∈ passedFrom l ps) :
    l'.length ≤ l.length + ps.length := by
  induction ps generalizing l with
  | nil => cases h
  | cons part ps ih =>
    have hstep : (enter l part).length ≤ l.length + 1 := by
      unfold enter
      split
      · simp
      · split
        · simp only [List.length_dropLast]
          omega
        · omega
    have hrest : l' ∈ passedFrom (enter l part) ps → l'.length ≤ l.length + (part :: ps).length := by
      intro hmem
      have hlength := ih hmem
      simp only [List.length_cons]
      omega
    simp only [passedFrom] at h
    split at h
    · rcases List.mem_cons.1 h with rfl | h
      · simp only [List.length_cons]
        omega
      · exact hrest h
    · exact hrest h

/-- Once the directory of the path was made, the path leads to its last name, unless that is a
directory. -/
theorem leads_names {cwd : Location} {dirs : List Location} {names : List Text} {last : Text}
    (h : ∀ part ∈ names ++ [last], IsPart part) :
    leads cwd (passedFrom [] names ++ dirs) (absolute (names ++ [last])) = true ↔
      names ++ [last] ∉ dirs := by
  have hne : names ++ [last] ≠ [] := by simp
  have hlast : isName last = true := (h last (by simp)).1
  have hparts : parts (absolute (names ++ [last])) = [] :: names ++ [last] := parts_absolute h
  have hwalk : passedFrom [] ([] :: names) = passedFrom [] names := rfl
  have hbeyond : names ++ [last] ∉ passedFrom [] names := by
    intro hmem
    have hlength := length_passedFrom hmem
    simp only [List.length_append, List.length_singleton, List.length_nil] at hlength
    omega
  simp only [leads, origin_absolute hne, locate_absolute h hne, hparts, List.dropLast_concat, hwalk,
    List.getLastD_concat, hlast, Bool.and_true, Bool.and_eq_true, List.all_eq_true, Bool.not_eq_true',
    List.contains_eq_mem, decide_eq_true_eq, decide_eq_false_iff_not, List.mem_append, hbeyond, false_or,
    and_iff_right_iff_imp]
  exact fun _ x hx => .inl hx

theorem passed_absolute {cwd : Location} {names : List Text} (h : ∀ part ∈ names, IsPart part)
    (hne : names ≠ []) : passed cwd (absolute names) = passedFrom [] names := by
  rw [passed, origin_absolute hne, parts_absolute h]
  rfl

end Shell
