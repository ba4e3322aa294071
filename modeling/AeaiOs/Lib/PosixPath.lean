import AeaiOs.Lib.PyText

/-! Python's `pathlib.PurePosixPath`: a root and the parts below it. -/
namespace PosixPath
open PyText

/-- What stands between two slashes of a parsed path. -/
def IsPart (part : Text) : Prop := part ≠ [] ∧ part ≠ ['.'] ∧ '/' ∉ part

instance (part : Text) : Decidable (IsPart part) := inferInstanceAs (Decidable (_ ∧ _ ∧ _))

def IsRoot (root : Text) : Prop := root = [] ∨ root = ['/'] ∨ root = ['/', '/']

@[ext]
structure Path where
  root : Text
  parts : List Text
  isRoot : IsRoot root
  isPart : ∀ part ∈ parts, IsPart part
deriving DecidableEq

/-- `posixpath.splitroot`: exactly two leading slashes are a root of their own. -/
def splitRoot : Text → Text × Text
  | '/' :: '/' :: '/' :: rest => (['/'], '/' :: '/' :: rest)
  | '/' :: '/' :: rest => (['/', '/'], rest)
  | '/' :: rest => (['/'], rest)
  | rest => ([], rest)

def partsOf (s : Text) : List Text := (splitOn '/' s).filter fun part => part ≠ [] ∧ part ≠ ['.']

theorem splitRoot_isRoot (s : Text) : IsRoot (splitRoot s).1 := by
  unfold splitRoot IsRoot
  split <;> simp

theorem partsOf_isPart (s : Text) : ∀ part ∈ partsOf s, IsPart part := by
  intro part member
  simp only [partsOf, List.mem_filter, decide_eq_true_eq] at member
  exact ⟨member.2.1, member.2.2, free_of_mem_splitOn member.1⟩

/-- `Path(s)` -/
def parse (s : Text) : Path where
  root := (splitRoot s).1
  parts := partsOf (splitRoot s).2
  isRoot := splitRoot_isRoot s
  isPart := partsOf_isPart _

namespace Path

/-- `path / other`: a rooted path replaces what stands before it. -/
def join (path other : Path) : Path :=
  if other.root ≠ [] then other
  else
    { path with
      parts := path.parts ++ other.parts
      isPart := by
        intro part member
        obtain mine | others := List.mem_append.mp member
        · exact path.isPart part mine
        · exact other.isPart part others }

/-- `path.name` -/
def name (path : Path) : Text := path.parts.getLastD []

/-- `str(path)`, which is also `path.as_posix()` -/
def toText (path : Path) : Text :=
  if path.root = [] ∧ path.parts = [] then ['.'] else path.root ++ joinWith ['/'] path.parts

end Path

theorem splitRoot_free {s : Text} (relative : s.head? ≠ some '/') : splitRoot s = ([], s) := by
  unfold splitRoot
  split <;> simp_all

theorem partsOf_joinWith {parts : List Text} (proper : ∀ part ∈ parts, IsPart part) :
    partsOf (joinWith ['/'] parts) = parts := by
  cases parts with
  | nil => simp [partsOf, joinWith, splitOn]
  | cons first rest =>
    unfold partsOf
    rw [splitOn_joinWith (by simp) fun part member => (proper part member).2.2]
    rw [List.filter_eq_self]
    intro part member
    simp [(proper part member).1, (proper part member).2.1]

theorem head_joinWith {parts : List Text} (proper : ∀ part ∈ parts, IsPart part) :
    (joinWith ['/'] parts).head? ≠ some '/' := by
  cases parts with
  | nil => simp [joinWith]
  | cons first rest =>
    obtain ⟨nonempty, _, free⟩ := proper first (by simp)
    cases first with
    | nil => exact absurd rfl nonempty
    | cons c more =>
      have noSlash : c ≠ '/' := fun same => free (by simp [same])
      cases rest <;> simp [joinWith, noSlash]

theorem splitRoot_rooted {root s : Text} (isRoot : IsRoot root) (relative : s.head? ≠ some '/') :
    splitRoot (root ++ s) = (root, s) := by
  obtain rfl | rfl | rfl := isRoot
  · exact splitRoot_free relative
  all_goals
    cases s with
    | nil => rfl
    | cons c rest =>
      have noSlash : c ≠ '/' := fun same => relative (by simp [same])
      simp [splitRoot, noSlash]

/-- A path's text reads back as the path. -/
theorem parse_toText (path : Path) : parse path.toText = path := by
  unfold Path.toText
  split_ifs with empty
  · ext1
    · simpa [parse, splitRoot] using empty.1.symm
    · simpa [parse, splitRoot, partsOf, splitOn] using empty.2.symm
  · have split := splitRoot_rooted path.isRoot (head_joinWith path.isPart)
    ext1
    · simp [parse, split]
    · simp [parse, split, partsOf_joinWith path.isPart]

theorem toText_inj {path other : Path} (same : path.toText = other.toText) : path = other := by
  rw [← parse_toText path, same, parse_toText]

theorem parse_part {part : Text} (proper : IsPart part) :
    (parse part).root = [] ∧ (parse part).parts = [part] := by
  obtain ⟨nonempty, noDot, free⟩ := proper
  have relative : part.head? ≠ some '/' := by
    intro slash
    exact free (List.mem_of_mem_head? slash)
  simp [parse, splitRoot_free relative, partsOf, splitOn_free free, nonempty, noDot]

theorem name_part {part : Text} (proper : IsPart part) : (parse part).name = part := by
  simp [Path.name, (parse_part proper).2]

theorem Path.join_relative {path other : Path} (relative : other.root = []) :
    (path.join other).root = path.root ∧ (path.join other).parts = path.parts ++ other.parts := by
  simp [join, relative]

theorem Path.join_part {path : Path} {part : Text} (proper : IsPart part) :
    (path.join (parse part)).root = path.root ∧
      (path.join (parse part)).parts = path.parts ++ [part] := by
  obtain ⟨relative, single⟩ := parse_part proper
  have joined := path.join_relative relative
  rwa [single] at joined

/-- Below one path, relative paths differ exactly as they do alone. -/
theorem Path.join_inj {path first second : Path} (firstRelative : first.root = [])
    (secondRelative : second.root = []) : path.join first = path.join second ↔ first = second := by
  constructor
  · intro same
    have parts : (path.join first).parts = (path.join second).parts := by rw [same]
    rw [(join_relative firstRelative).2, (join_relative secondRelative).2] at parts
    ext1
    · rw [firstRelative, secondRelative]
    · exact List.append_cancel_left parts
  · intro same
    rw [same]

/-! Of the texts of one path, `str` has the fewest slashes. -/

theorem splitRoot_whole (s : Text) : (splitRoot s).1 ++ (splitRoot s).2 = s := by
  unfold splitRoot
  split <;> rfl

theorem length_splitOn (sep : Char) (s : Text) : (splitOn sep s).length = s.count sep + 1 := by
  induction s with
  | nil => rfl
  | cons c s ih =>
    simp only [splitOn]
    by_cases same : c = sep
    · rw [if_pos same, List.length_cons, ih, same, List.count_cons_self]
    · rw [if_neg same, List.count_cons_of_ne same]
      cases pieces : splitOn sep s with
      | nil => simp [pieces] at ih
      | cons piece pieces' =>
        rw [pieces] at ih
        exact ih

theorem joinWith_splitOn (sep : Char) (s : Text) : joinWith [sep] (splitOn sep s) = s := by
  induction s with
  | nil => rfl
  | cons c s ih =>
    have some : splitOn sep s ≠ [] := by
      intro none
      have lengths := length_splitOn sep s
      simp [none] at lengths
    obtain ⟨piece, pieces, split⟩ := List.exists_cons_of_ne_nil some
    rw [split] at ih
    simp only [splitOn, split]
    by_cases same : c = sep
    · rw [if_pos same, same]
      simpa [joinWith] using ih
    · rw [if_neg same]
      cases pieces with
      | nil => simpa [joinWith] using ih
      | cons second others => simpa [joinWith] using ih

theorem eq_of_parse {s : Text} {path : Path} (some : path.parts ≠ [])
    (few : s.count '/' ≤ path.toText.count '/') (same : parse s = path) : s = path.toText := by
  have root : (splitRoot s).1 = path.root := congrArg Path.root same
  have parts : partsOf (splitRoot s).2 = path.parts := congrArg Path.parts same
  have text : path.toText = path.root ++ joinWith ['/'] path.parts := by
    unfold Path.toText
    rw [if_neg fun empty => some empty.2]
  have whole := splitRoot_whole s
  rw [text, ← whole, root, List.count_append, List.count_append] at few
  have pieces : splitOn '/' (joinWith ['/'] path.parts) = path.parts :=
    splitOn_joinWith some fun part member => (path.isPart part member).2.2
  have bound : (splitOn '/' (splitRoot s).2).length ≤ (partsOf (splitRoot s).2).length := by
    rw [parts, length_splitOn]
    have lengths := length_splitOn '/' (joinWith ['/'] path.parts)
    rw [pieces] at lengths
    omega
  have all : splitOn '/' (splitRoot s).2 = path.parts := by
    rw [← parts]
    exact ((List.filter_sublist).eq_of_length_le bound).symm
  rw [text, ← whole, root, ← joinWith_splitOn '/' (splitRoot s).2, all]

end PosixPath
