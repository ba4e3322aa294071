import AeaiOs.Lib.PyText

/-!
Backtracking regular expressions. A pattern maps a cursor to the list of
cursors it can leave, best first, so the first entry is the match that a
leftmost-first engine reports and the rest is what it would backtrack into.
-/
namespace BacktrackRegex
open PyText

/-- A position in the subject: the character before it and the text after it,
    with the groups captured so far. -/
structure Cursor where
  before : Option Char
  rest : Text
  groups : List (Nat × Text)

inductive Regex where
  | empty
  | one (accepts : Char → Bool)
  | seq (first second : Regex)
  | alt (left right : Regex)
  | star (body : Regex)
  | boundary
  | group (index : Nat) (body : Regex)

variable [UnicodeDatabase]

/-- `\w` -/
def isWord (c : Char) : Bool := UnicodeDatabase.isAlnum c || c == '_'

def atBoundary (c : Cursor) : Bool := c.before.any isWord != c.rest.head?.any isWord

/-- Greedy repetition. Every round that counts consumes a character, so the
    length of the remaining text bounds the rounds. -/
def starPaths (body : Cursor → List Cursor) : Nat → Cursor → List Cursor
  | 0, c => [c]
  | rounds + 1, c =>
      (body c).flatMap (fun next =>
        if next.rest.length < c.rest.length then starPaths body rounds next else []) ++ [c]

def paths : Regex → Cursor → List Cursor
  | .empty, c => [c]
  | .one accepts, c =>
      match c.rest with
      | [] => []
      | d :: rest => if accepts d then [{ c with before := some d, rest := rest }] else []
  | .seq first second, c => (paths first c).flatMap (paths second)
  | .alt left right, c => paths left c ++ paths right c
  | .star body, c => starPaths (paths body) c.rest.length c
  | .boundary, c => if atBoundary c then [c] else []
  | .group index body, c =>
      (paths body c).map fun next =>
        { next with
          groups := (index, c.rest.take (c.rest.length - next.rest.length)) :: next.groups }

/-- What a replacement function sees of a match. -/
structure Match where
  text : Text
  groups : List (Nat × Text)

def Match.groupAt (m : Match) (index : Nat) : Text :=
  ((m.groups.find? fun entry => entry.1 == index).map Prod.snd).getD []

def matchAt (r : Regex) (before : Option Char) (s : Text) : Option (Match × Text) :=
  ((paths r ⟨before, s, []⟩).head?).map fun c =>
    (⟨s.take (s.length - c.rest.length), c.groups⟩, c.rest)

/-- `pattern.fullmatch(s) is not None` -/
def fullmatch (r : Regex) (s : Text) : Bool :=
  (paths r ⟨none, s, []⟩).any fun c => c.rest.isEmpty

/-- `pattern.sub(replacement, s)` for a pattern that matches no empty text.
    The replacement may raise. -/
def subFrom (r : Regex) (replacement : Match → Except ε Text) :
    Nat → Option Char → Text → Except ε Text
  | 0, _, s => .ok s
  | _ + 1, _, [] => .ok []
  | fuel + 1, before, c :: s =>
      match matchAt r before (c :: s) with
      | some (m, rest) => do
          let new ← replacement m
          let tail ← subFrom r replacement fuel m.text.getLast? rest
          return new ++ tail
      | none => do
          let tail ← subFrom r replacement fuel (some c) s
          return c :: tail

def sub (r : Regex) (replacement : Match → Except ε Text) (s : Text) : Except ε Text :=
  subFrom r replacement s.length none s

/-- `pattern.finditer(s)`, with the positions that `sub` replaces. -/
def findFrom (r : Regex) : Nat → Option Char → Text → List Match
  | 0, _, _ => []
  | _ + 1, _, [] => []
  | fuel + 1, before, c :: s =>
      match matchAt r before (c :: s) with
      | some (m, rest) => m :: findFrom r fuel m.text.getLast? rest
      | none => findFrom r fuel (some c) s

def finditer (r : Regex) (s : Text) : List Match := findFrom r s.length none s

theorem subFrom_isOk {ε : Type} {r : Regex} {replacement : Match → Except ε Text} (fuel : Nat)
    (before : Option Char) (s : Text) :
    (subFrom r replacement fuel before s).isOk = true ↔
      ∀ m ∈ findFrom r fuel before s, (replacement m).isOk = true := by
  induction fuel generalizing before s with
  | zero => simp [subFrom, findFrom, Except.isOk, Except.toBool]
  | succ fuel ih =>
    cases s with
    | nil => simp [subFrom, findFrom, Except.isOk, Except.toBool]
    | cons c s =>
      simp only [subFrom, findFrom]
      cases found : matchAt r before (c :: s) with
      | none =>
        simp only
        rw [← ih (some c) s]
        cases subFrom r replacement fuel (some c) s <;> rfl
      | some pair =>
        obtain ⟨m, rest⟩ := pair
        simp only [List.mem_cons, forall_eq_or_imp]
        rw [← ih m.text.getLast? rest]
        cases replacement m with
        | error e => simp [bind, Except.bind, Except.isOk, Except.toBool]
        | ok new =>
          cases subFrom r replacement fuel m.text.getLast? rest <;>
            simp [bind, Except.bind, pure, Except.pure, Except.isOk, Except.toBool]

/-- A substitution raises only if one of its replacements does. -/
theorem sub_isOk {ε : Type} {r : Regex} {replacement : Match → Except ε Text} {s : Text} :
    (sub r replacement s).isOk = true ↔ ∀ m ∈ finditer r s, (replacement m).isOk = true :=
  subFrom_isOk s.length none s

/-! What a match eats. A pattern that cannot match without a character of some
    kind leaves every text without such characters as it is. -/

omit [UnicodeDatabase] in
theorem starPaths_eat {body : Cursor → List Cursor}
    (eats : ∀ c n, n ∈ body c → ∃ eaten, c.rest = eaten ++ n.rest) (rounds : Nat)
    (c n : Cursor) (h : n ∈ starPaths body rounds c) : ∃ eaten, c.rest = eaten ++ n.rest := by
  induction rounds generalizing c with
  | zero =>
    simp only [starPaths, List.mem_singleton] at h
    exact ⟨[], by simp [h]⟩
  | succ rounds ih =>
    simp only [starPaths, List.mem_append, List.mem_flatMap, List.mem_singleton] at h
    rcases h with ⟨middle, first, later⟩ | stay
    · split at later
      · obtain ⟨front, hfront⟩ := eats c middle first
        obtain ⟨back, hback⟩ := ih middle later
        exact ⟨front ++ back, by rw [hfront, hback, List.append_assoc]⟩
      · simp at later
    · exact ⟨[], by simp [stay]⟩

theorem paths_eat (r : Regex) (c n : Cursor) (h : n ∈ paths r c) :
    ∃ eaten, c.rest = eaten ++ n.rest := by
  induction r generalizing c n with
  | empty =>
    simp only [paths, List.mem_singleton] at h
    exact ⟨[], by simp [h]⟩
  | one accepts =>
    simp only [paths] at h
    split at h
    · simp at h
    · rename_i d rest hrest
      split at h
      · simp only [List.mem_singleton] at h
        exact ⟨[d], by simp [h, hrest]⟩
      · simp at h
  | seq first second ihFirst ihSecond =>
    simp only [paths, List.mem_flatMap] at h
    obtain ⟨middle, hfirst, hsecond⟩ := h
    obtain ⟨front, hfront⟩ := ihFirst c middle hfirst
    obtain ⟨back, hback⟩ := ihSecond middle n hsecond
    exact ⟨front ++ back, by rw [hfront, hback, List.append_assoc]⟩
  | alt left right ihLeft ihRight =>
    simp only [paths, List.mem_append] at h
    rcases h with h | h
    · exact ihLeft c n h
    · exact ihRight c n h
  | star body ih => exact starPaths_eat ih _ c n h
  | boundary =>
    simp only [paths] at h
    split at h
    · simp only [List.mem_singleton] at h
      exact ⟨[], by simp [h]⟩
    · simp at h
  | group index body ih =>
    simp only [paths, List.mem_map] at h
    obtain ⟨inner, hinner, same⟩ := h
    obtain ⟨eaten, heaten⟩ := ih c inner hinner
    exact ⟨eaten, by rw [← same]; exact heaten⟩

/-- Every match eats a character of the given kind. -/
def Demands (kind : Char → Bool) (r : Regex) : Prop :=
  ∀ c n, n ∈ paths r c → ∃ eaten, c.rest = eaten ++ n.rest ∧ ∃ d ∈ eaten, kind d = true

theorem demands_one (kind : Char → Bool) : Demands kind (.one kind) := by
  intro c n h
  simp only [paths] at h
  split at h
  · simp at h
  · rename_i d rest hrest
    split at h
    · rename_i accepted
      simp only [List.mem_singleton] at h
      exact ⟨[d], by simp [h, hrest], d, by simp, accepted⟩
    · simp at h

theorem demands_first {kind : Char → Bool} {first second : Regex} (h : Demands kind first) :
    Demands kind (.seq first second) := by
  intro c n hn
  simp only [paths, List.mem_flatMap] at hn
  obtain ⟨middle, hfirst, hsecond⟩ := hn
  obtain ⟨front, hfront, d, member, hd⟩ := h c middle hfirst
  obtain ⟨back, hback⟩ := paths_eat second middle n hsecond
  exact ⟨front ++ back, by rw [hfront, hback, List.append_assoc], d, by simp [member], hd⟩

theorem demands_second {kind : Char → Bool} {first second : Regex} (h : Demands kind second) :
    Demands kind (.seq first second) := by
  intro c n hn
  simp only [paths, List.mem_flatMap] at hn
  obtain ⟨middle, hfirst, hsecond⟩ := hn
  obtain ⟨front, hfront⟩ := paths_eat first c middle hfirst
  obtain ⟨back, hback, d, member, hd⟩ := h middle n hsecond
  exact ⟨front ++ back, by rw [hfront, hback, List.append_assoc], d, by simp [member], hd⟩

theorem demands_group {kind : Char → Bool} {index : Nat} {body : Regex} (h : Demands kind body) :
    Demands kind (.group index body) := by
  intro c n hn
  simp only [paths, List.mem_map] at hn
  obtain ⟨inner, hinner, same⟩ := hn
  obtain ⟨eaten, heaten, found⟩ := h c inner hinner
  exact ⟨eaten, by rw [← same]; exact heaten, found⟩

theorem demands_alt {kind : Char → Bool} {left right : Regex} (h : Demands kind left)
    (h' : Demands kind right) : Demands kind (.alt left right) := by
  intro c n hn
  simp only [paths, List.mem_append] at hn
  rcases hn with first | second
  · exact h c n first
  · exact h' c n second

theorem demands_of_imp {kind kind' : Char → Bool} {r : Regex} (h : Demands kind r)
    (imp : ∀ c, kind c = true → kind' c = true) : Demands kind' r := by
  intro c n hn
  obtain ⟨eaten, heaten, d, member, hd⟩ := h c n hn
  exact ⟨eaten, heaten, d, member, imp d hd⟩

theorem matchAt_none {kind : Char → Bool} {r : Regex} (h : Demands kind r) {s : Text}
    (absent : ∀ c ∈ s, kind c = false) (before : Option Char) : matchAt r before s = none := by
  simp only [matchAt, Option.map_eq_none_iff, List.head?_eq_none_iff]
  rw [List.eq_nil_iff_forall_not_mem]
  intro n hn
  obtain ⟨eaten, heaten, d, member, hd⟩ := h _ n hn
  have present : d ∈ s := by
    rw [show s = eaten ++ n.rest from heaten]
    simp [member]
  simp [absent d present] at hd

theorem fullmatch_false {kind : Char → Bool} {r : Regex} (h : Demands kind r) {s : Text}
    (absent : ∀ c ∈ s, kind c = false) : fullmatch r s = false := by
  have nothing := matchAt_none h absent none
  simp only [matchAt, Option.map_eq_none_iff, List.head?_eq_none_iff] at nothing
  simp [fullmatch, nothing]

/-- A text is left as it is if the pattern matches at none of its positions. -/
theorem sub_of_no_match {r : Regex} {s : Text} {ε : Type} (replacement : Match → Except ε Text)
    (nothing : ∀ before t, t <:+ s → t ≠ [] → matchAt r before t = none) :
    sub r replacement s = .ok s := by
  have walk : ∀ fuel before (t : Text), t <:+ s →
      subFrom r replacement fuel before t = .ok t := by
    intro fuel
    induction fuel with
    | zero => intro before t _; rfl
    | succ fuel ih =>
      intro before t inside
      cases t with
      | nil => rfl
      | cons c t =>
        have later : t <:+ s := (List.suffix_cons c t).trans inside
        simp only [subFrom, nothing before (c :: t) inside (List.cons_ne_nil c t), ih _ t later]
        rfl
  exact walk _ _ s (List.suffix_refl s)

theorem sub_unchanged {kind : Char → Bool} {r : Regex} (h : Demands kind r) {s : Text}
    (absent : ∀ c ∈ s, kind c = false) {ε : Type} (replacement : Match → Except ε Text) :
    sub r replacement s = .ok s := by
  refine sub_of_no_match replacement ?_
  intro before t inside _
  exact matchAt_none h (fun c member => absent c (inside.subset member)) before

/-! A text shorter than every match is left as it is. -/

/-- No match eats fewer characters than that. -/
def minLength : Regex → Nat
  | .empty => 0
  | .one _ => 1
  | .seq first second => minLength first + minLength second
  | .alt left right => min (minLength left) (minLength right)
  | .star _ => 0
  | .boundary => 0
  | .group _ body => minLength body

theorem paths_minLength (r : Regex) (c n : Cursor) (h : n ∈ paths r c) :
    n.rest.length + minLength r ≤ c.rest.length := by
  induction r generalizing c n with
  | empty =>
    simp only [paths, List.mem_singleton] at h
    simp [h, minLength]
  | one accepts =>
    simp only [paths] at h
    split at h
    · simp at h
    · rename_i d rest hrest
      split at h
      · simp only [List.mem_singleton] at h
        simp [h, hrest, minLength]
      · simp at h
  | seq first second ih ih' =>
    simp only [paths, List.mem_flatMap] at h
    obtain ⟨middle, hfirst, hsecond⟩ := h
    have front := ih c middle hfirst
    have back := ih' middle n hsecond
    simp only [minLength]
    omega
  | alt left right ih ih' =>
    simp only [paths, List.mem_append] at h
    simp only [minLength]
    rcases h with one | other
    · have := ih c n one
      omega
    · have := ih' c n other
      omega
  | star body _ =>
    obtain ⟨eaten, heaten⟩ := paths_eat (.star body) c n h
    simp [heaten, minLength]
  | boundary =>
    simp only [paths] at h
    split at h
    · simp only [List.mem_singleton] at h
      simp [h, minLength]
    · simp at h
  | group index body ih =>
    simp only [paths, List.mem_map] at h
    obtain ⟨inner, hinner, same⟩ := h
    rw [← same]
    exact ih c inner hinner

theorem matchAt_short {r : Regex} {s : Text} (short : s.length < minLength r)
    (before : Option Char) : matchAt r before s = none := by
  simp only [matchAt, Option.map_eq_none_iff, List.head?_eq_none_iff]
  rw [List.eq_nil_iff_forall_not_mem]
  intro n hn
  have long := paths_minLength r _ n hn
  simp only at long
  omega

theorem fullmatch_short {r : Regex} {s : Text} (short : s.length < minLength r) :
    fullmatch r s = false := by
  have nothing := matchAt_short short none
  simp only [matchAt, Option.map_eq_none_iff, List.head?_eq_none_iff] at nothing
  simp [fullmatch, nothing]

theorem sub_short {r : Regex} {s : Text} (short : s.length < minLength r) {ε : Type}
    (replacement : Match → Except ε Text) : sub r replacement s = .ok s := by
  apply sub_of_no_match
  intro before t inside _
  have shorter := inside.length_le
  exact matchAt_short (by omega) before

/-! Building blocks of patterns under `re.IGNORECASE` for `str`. -/

/-- A literal letter under `IGNORECASE`. Three ASCII letters also match
    characters outside ASCII that share their lower case. -/
def foldChar (letter c : Char) : Bool :=
  c.toLower == letter ||
    (letter == 'i' && (c.toNat == 0x130 || c.toNat == 0x131)) ||
    (letter == 'k' && c.toNat == 0x212A) ||
    (letter == 's' && c.toNat == 0x17F)

/-- `[a-z]` under `IGNORECASE`. -/
def foldLetter (c : Char) : Bool :=
  c.isAlpha || c.toNat == 0x130 || c.toNat == 0x131 || c.toNat == 0x212A || c.toNat == 0x17F

def literal (s : String) : Regex :=
  s.toList.foldr (fun c r => .seq (.one (foldChar c)) r) .empty

def oneOf (s : String) (c : Char) : Bool := s.toList.contains c

/-- `r?`, greedy. -/
def orEmpty (r : Regex) : Regex := .alt r .empty

/-- `r+`, greedy. -/
def plus (r : Regex) : Regex := .seq r (.star r)

def choice : List Regex → Regex
  | [] => .one fun _ => false
  | [r] => r
  | r :: rs => .alt r (choice rs)

def inSequence (rs : List Regex) : Regex := rs.foldr .seq .empty

/-! A pattern that begins with a literal matches only where the literal does. -/

/-- The text differs from the literal in a character that both have. -/
def clashes : Text → Text → Bool
  | letter :: letters, c :: s => !foldChar letter c || clashes letters s
  | _, _ => false

/-- The literal occurs at no position of the text. -/
def nowhere (letters : Text) : Text → Bool
  | [] => true
  | c :: s => clashes letters (c :: s) && nowhere letters s

omit [UnicodeDatabase] in
theorem clashes_append {letters s : Text} (more : Text) (h : clashes letters s = true) :
    clashes letters (s ++ more) = true := by
  induction letters generalizing s with
  | nil => simp [clashes] at h
  | cons letter letters ih =>
    cases s with
    | nil => simp [clashes] at h
    | cons c s =>
      simp only [clashes, Bool.or_eq_true, List.cons_append] at h ⊢
      rcases h with here | later
      · exact .inl here
      · exact .inr (ih later)

omit [UnicodeDatabase] in
theorem nowhere_append {letters s more : Text} (front : nowhere letters s = true)
    (back : nowhere letters more = true) : nowhere letters (s ++ more) = true := by
  induction s with
  | nil => exact back
  | cons c s ih =>
    simp only [nowhere, Bool.and_eq_true, List.cons_append] at front ⊢
    exact ⟨clashes_append more front.1, ih front.2⟩

omit [UnicodeDatabase] in
theorem nowhere_of_first {letter : Char} (letters : Text) {s : Text}
    (absent : ∀ c ∈ s, foldChar letter c = false) : nowhere (letter :: letters) s = true := by
  induction s with
  | nil => rfl
  | cons c s ih =>
    simp only [nowhere, clashes, absent c (by simp), Bool.not_false, Bool.true_or, Bool.true_and]
    exact ih fun d member => absent d (List.mem_cons_of_mem c member)

omit [UnicodeDatabase] in
theorem clashes_of_nowhere {letters s t : Text} (h : nowhere letters s = true) (inside : t <:+ s)
    (nonempty : t ≠ []) : clashes letters t = true := by
  induction s with
  | nil => exact absurd (List.suffix_nil.mp inside) nonempty
  | cons c s ih =>
    simp only [nowhere, Bool.and_eq_true] at h
    rcases List.suffix_cons_iff.mp inside with whole | later
    · exact whole ▸ h.1
    · exact ih h.2 later

theorem literal_starts {word : Text} {c n : Cursor}
    (h : n ∈ paths (word.foldr (fun c r => .seq (.one (foldChar c)) r) .empty) c) :
    clashes word c.rest = false := by
  induction word generalizing c with
  | nil => rfl
  | cons letter word ih =>
    simp only [List.foldr_cons, paths, List.mem_flatMap] at h
    obtain ⟨middle, first, later⟩ := h
    split at first
    · cases first
    · rename_i d rest hrest
      split at first
      · rename_i accepted
        rw [List.mem_singleton] at first
        have tail := ih later
        rw [first] at tail
        rw [hrest]
        simp only [clashes, accepted, Bool.not_true, Bool.false_or]
        exact tail
      · cases first

end BacktrackRegex
