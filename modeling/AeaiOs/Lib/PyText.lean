import Mathlib.Data.List.TakeWhile
import Mathlib.Tactic.Basic

/-!
Python's `str` as a list of code points. What depends on the Unicode character
database is a parameter that agrees with ASCII; everything else is computed.
-/
namespace PyText

abbrev Text := List Char

scoped instance lawfulText : LawfulBEq (List Char) := inferInstance

def isAscii (c : Char) : Bool := c.toNat < 128

/-- The part of the Unicode character database that `str` methods and `re`
    consult: `str.isalnum`, `str.lower` and the decimal digit values. -/
class UnicodeDatabase where
  isAlnum : Char → Bool
  lower : Text → Text
  digitValue : Char → Option Nat
  isAlnum_ascii : ∀ c, isAscii c = true → isAlnum c = c.isAlphanum
  lower_ascii : ∀ s : Text, (∀ c ∈ s, isAscii c = true) → lower s = s.map Char.toLower
  digitValue_ascii : ∀ c, isAscii c = true →
    digitValue c = if c.isDigit then some (c.toNat - '0'.toNat) else none

/-- A database that knows no letter outside ASCII. -/
abbrev asciiDatabase : UnicodeDatabase where
  isAlnum c := c.isAlphanum
  lower s := s.map Char.toLower
  digitValue c := if c.isDigit then some (c.toNat - '0'.toNat) else none
  isAlnum_ascii _ _ := rfl
  lower_ascii _ _ := rfl
  digitValue_ascii _ _ := rfl

/-- `str.isspace` of one character, which is also `\s` in a `str` pattern. -/
def isSpace (c : Char) : Bool :=
  let n := c.toNat
  (9 ≤ n && n ≤ 13) || (28 ≤ n && n ≤ 32) || n == 0x85 || n == 0xA0 || n == 0x1680 ||
    (0x2000 ≤ n && n ≤ 0x200A) || n == 0x2028 || n == 0x2029 || n == 0x202F ||
    n == 0x205F || n == 0x3000

def stripText (s : Text) : Text :=
  ((s.dropWhile isSpace).reverse.dropWhile isSpace).reverse

/-- `str.strip` -/
def strip (s : String) : String := String.ofList (stripText s.toList)

theorem dropWhile_length_le (p : Char → Bool) (s : Text) : (s.dropWhile p).length ≤ s.length :=
  (List.dropWhile_suffix p).length_le

theorem stripText_length_le (s : Text) : (stripText s).length ≤ s.length := by
  have first := dropWhile_length_le isSpace s
  have second := dropWhile_length_le isSpace (s.dropWhile isSpace).reverse
  simp only [stripText, List.length_reverse] at *
  omega

/-- A text without the characters of a kind at its ends. -/
def trim (p : Char → Bool) (s : Text) : Text := ((s.dropWhile p).reverse.dropWhile p).reverse

theorem trim_split (p : Char → Bool) (s : Text) :
    ∃ front back, s = front ++ trim p s ++ back ∧ (∀ c ∈ front, p c = true) ∧
      ∀ c ∈ back, p c = true := by
  have first := List.takeWhile_append_dropWhile (p := p) (l := s)
  have second := List.takeWhile_append_dropWhile (p := p) (l := (s.dropWhile p).reverse)
  refine ⟨s.takeWhile p, ((s.dropWhile p).reverse.takeWhile p).reverse, ?_,
    fun c member => List.mem_takeWhile_imp member, ?_⟩
  · have last := congrArg List.reverse second
    rw [List.reverse_append, List.reverse_reverse] at last
    unfold trim
    rw [List.append_assoc, last, first]
  · intro c member
    exact List.mem_takeWhile_imp (List.mem_reverse.mp member)

theorem dropWhile_padded {p : Char → Bool} {front : Text} (all : ∀ c ∈ front, p c = true)
    (s : Text) : (front ++ s).dropWhile p = s.dropWhile p := by
  induction front with
  | nil => rfl
  | cons c front ih =>
    rw [List.cons_append, List.dropWhile_cons_of_pos (all c List.mem_cons_self)]
    exact ih fun d member => all d (List.mem_cons_of_mem c member)

theorem trim_padded {p : Char → Bool} {front back : Text} (fronts : ∀ c ∈ front, p c = true)
    (backs : ∀ c ∈ back, p c = true) (s : Text) : trim p (front ++ s ++ back) = trim p s := by
  unfold trim
  rw [List.append_assoc, dropWhile_padded fronts, List.dropWhile_append]
  split
  · rename_i empty
    rw [List.isEmpty_iff] at empty
    rw [empty, List.dropWhile_eq_nil_iff.mpr backs]
  · rw [List.reverse_append,
      dropWhile_padded fun c member => backs c (List.mem_reverse.mp member)]

theorem trim_idem (p : Char → Bool) (s : Text) : trim p (trim p s) = trim p s := by
  obtain ⟨front, back, split, fronts, backs⟩ := trim_split p s
  have same := trim_padded fronts backs (trim p s)
  rw [← split] at same
  exact same.symm

/-- What a wider trim leaves does not depend on a narrower one before it. -/
theorem trim_trim {p q : Char → Bool} (wider : ∀ c, q c = true → p c = true) (s : Text) :
    trim p (trim q s) = trim p s := by
  obtain ⟨front, back, split, fronts, backs⟩ := trim_split q s
  have same := trim_padded (fun c member => wider c (fronts c member))
    (fun c member => wider c (backs c member)) (trim q s)
  rw [← split] at same
  exact same.symm

theorem trim_filter (p keep : Char → Bool) (s : Text) :
    trim p ((trim p s).filter keep) = trim p (s.filter keep) := by
  obtain ⟨front, back, split, fronts, backs⟩ := trim_split p s
  have fronts' : ∀ c ∈ front.filter keep, p c = true := fun c member =>
    fronts c (List.mem_filter.mp member).1
  have backs' : ∀ c ∈ back.filter keep, p c = true := fun c member =>
    backs c (List.mem_filter.mp member).1
  have same := trim_padded fronts' backs' ((trim p s).filter keep)
  rw [← List.filter_append, ← List.filter_append, ← split] at same
  exact same.symm

theorem mem_of_mem_trim {p : Char → Bool} {s : Text} {c : Char} (member : c ∈ trim p s) :
    c ∈ s := by
  obtain ⟨front, back, split, -, -⟩ := trim_split p s
  rw [split]
  simp [member]

theorem dropWhile_congr {p q : Char → Bool} {s : Text} (agree : ∀ c ∈ s, p c = q c) :
    s.dropWhile p = s.dropWhile q := by
  induction s with
  | nil => rfl
  | cons c s ih =>
    rw [List.dropWhile_cons, List.dropWhile_cons, agree c List.mem_cons_self,
      ih fun d member => agree d (List.mem_cons_of_mem c member)]

theorem trim_congr {p q : Char → Bool} {s : Text} (agree : ∀ c ∈ s, p c = q c) :
    trim p s = trim q s := by
  have rest : ∀ c ∈ (s.dropWhile q).reverse, p c = q c := fun c member =>
    agree c ((List.dropWhile_suffix q).subset (List.mem_reverse.mp member))
  unfold trim
  rw [dropWhile_congr agree, dropWhile_congr rest]

theorem stripText_idem (s : Text) : stripText (stripText s) = stripText s := trim_idem isSpace s

theorem strip_idem (s : String) : strip (strip s) = strip s := by
  simp [strip, stripText_idem]

theorem stripText_front {c : Char} (front : isSpace c = false) (rest : Text) :
    stripText (c :: rest) ≠ [] := by
  intro empty
  simp only [stripText, List.dropWhile_cons, front, Bool.false_eq_true, if_false,
    List.reverse_eq_nil_iff, List.dropWhile_eq_nil_iff] at empty
  have space := empty c (by simp)
  simp [front] at space

/-- The text begins with `needle`; what follows it. -/
def dropPrefix? : Text → Text → Option Text
  | s, [] => some s
  | [], _ :: _ => none
  | c :: s, d :: needle => if c = d then dropPrefix? s needle else none

/-- `needle in s` -/
def contains : Text → Text → Bool
  | [], needle => needle.isEmpty
  | c :: s, needle => (dropPrefix? (c :: s) needle).isSome || contains s needle

/-- `s.replace(old, new)` for a non-empty `old`, left to right. -/
def replaceText (old new : Text) : Nat → Text → Text
  | 0, s => s
  | _ + 1, [] => []
  | fuel + 1, c :: s =>
      match dropPrefix? (c :: s) old with
      | some rest => new ++ replaceText old new fuel rest
      | none => c :: replaceText old new fuel s

def replace (s old new : Text) : Text := replaceText old new s.length s

/-- `s.partition(sep)` for a one-character separator: the text before the first
    occurrence, whether there was one, and the text after it. -/
def partition (sep : Char) : Text → Text × Bool × Text
  | [] => ([], false, [])
  | c :: s =>
      if c = sep then ([], true, s)
      else
        let (before, found, after) := partition sep s
        (c :: before, found, after)

/-- `s.rpartition(sep)`: split at the last occurrence; with none, everything is
    in the last part. -/
def rpartition (sep : Char) (s : Text) : Text × Bool × Text :=
  let (after, found, before) := partition sep s.reverse
  if found then (before.reverse, true, after.reverse) else ([], false, s)

/-- `s.split(sep)` for a one-character separator. -/
def splitOn (sep : Char) : Text → List Text
  | [] => [[]]
  | c :: s =>
      if c = sep then [] :: splitOn sep s
      else
        match splitOn sep s with
        | [] => [[c]]
        | piece :: pieces => (c :: piece) :: pieces

def joinWith (sep : Text) : List Text → Text
  | [] => []
  | [piece] => piece
  | piece :: pieces => piece ++ sep ++ joinWith sep pieces

theorem splitOn_append {sep : Char} {piece : Text} (free : sep ∉ piece) (rest : Text) :
    splitOn sep (piece ++ sep :: rest) = piece :: splitOn sep rest := by
  induction piece with
  | nil => simp [splitOn]
  | cons c piece ih =>
    simp only [List.mem_cons, not_or] at free
    simp [splitOn, Ne.symm free.1, ih free.2]

theorem splitOn_free {sep : Char} {piece : Text} (free : sep ∉ piece) :
    splitOn sep piece = [piece] := by
  induction piece with
  | nil => rfl
  | cons c piece ih =>
    simp only [List.mem_cons, not_or] at free
    simp [splitOn, Ne.symm free.1, ih free.2]

theorem splitOn_joinWith {sep : Char} {pieces : List Text} (some : pieces ≠ [])
    (free : ∀ piece ∈ pieces, sep ∉ piece) : splitOn sep (joinWith [sep] pieces) = pieces := by
  induction pieces with
  | nil => exact absurd rfl some
  | cons first rest ih =>
    have firstFree : sep ∉ first := free first (by simp)
    cases rest with
    | nil => exact splitOn_free firstFree
    | cons second others =>
      have later := ih (by simp) fun piece member => free piece (List.mem_cons_of_mem _ member)
      have joined : joinWith [sep] (first :: second :: others) =
          first ++ sep :: joinWith [sep] (second :: others) := by
        simp [joinWith]
      rw [joined, splitOn_append firstFree, later]

theorem free_of_mem_splitOn {sep : Char} {s piece : Text} (member : piece ∈ splitOn sep s) :
    sep ∉ piece := by
  induction s generalizing piece with
  | nil =>
    simp only [splitOn, List.mem_singleton] at member
    simp [member]
  | cons c s ih =>
    simp only [splitOn] at member
    by_cases separates : c = sep
    · rw [if_pos separates] at member
      obtain same | later := List.mem_cons.mp member
      · simp [same]
      · exact ih later
    · rw [if_neg separates] at member
      cases found : splitOn sep s with
      | nil =>
        rw [found] at member
        simp only [List.mem_singleton] at member
        simp [member, Ne.symm separates]
      | cons first rest =>
        rw [found] at member ih
        obtain same | later := List.mem_cons.mp member
        · rw [same]
          simp [Ne.symm separates, ih (List.mem_cons_self ..)]
        · exact ih (List.mem_cons_of_mem _ later)

end PyText
