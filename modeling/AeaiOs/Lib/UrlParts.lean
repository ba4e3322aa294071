import AeaiOs.Lib.UrlQuoting
import Mathlib.Data.List.TakeDrop

/-!
The parts of a url, whether or not its authority is accepted, and what is split off a url
that was put together from parts.
-/
namespace UrlSplit
open PyText

/-- What `urlsplit` returns, unless it refuses the authority. -/
def splitParts (url : Text) : SplitResult :=
  let (scheme, rest) := splitScheme (cleanUrl url)
  let (netloc, rest) := (splitNetloc rest).getD ([], rest)
  let (rest, _, fragment) := partition '#' rest
  let (path, _, query) := partition '?' rest
  ⟨scheme, netloc, path, query, fragment⟩

def checkBrackets (netloc : Text) : Except String Unit :=
  if netloc.contains '[' != netloc.contains ']' then .error "Invalid IPv6 URL"
  else if netloc.contains '[' && netloc.contains ']' then
    checkBracketedHost (partition ']' (partition '[' netloc).2.2).1
  else .ok ()

def checkAuthority (netloc : Text) : Except String Unit := do
  checkBrackets netloc
  checkNetloc netloc

theorem urlsplit_eq (url : Text) :
    urlsplit url = (checkAuthority (splitParts url).netloc).map fun _ => splitParts url := by
  unfold urlsplit splitParts
  rcases splitScheme (cleanUrl url) with ⟨scheme, rest⟩
  dsimp only
  cases found : splitNetloc rest with
  | none => simp only [Option.getD_none]; rfl
  | some split =>
    obtain ⟨netloc, rest⟩ := split
    simp only [Option.getD_some]
    unfold checkAuthority checkBrackets
    by_cases unbalanced : (netloc.contains '[' != netloc.contains ']') = true
    · simp only [if_pos unbalanced]
      rfl
    · by_cases bracketed : (netloc.contains '[' && netloc.contains ']') = true
      · simp only [if_neg unbalanced, if_pos bracketed]
        cases checkBracketedHost (partition ']' (partition '[' netloc).2.2).1 with
        | error e => rfl
        | ok u =>
          cases valid : checkNetloc netloc <;>
            simp [valid, bind, Except.bind, pure, Except.pure, Except.map]
      · simp only [if_neg unbalanced, if_neg bracketed]
        cases valid : checkNetloc netloc <;>
          simp [valid, bind, Except.bind, pure, Except.pure, Except.map]

/-! What `partition` leaves. -/

theorem partition_spec (sep : Char) (s : Text) :
    sep ∉ (partition sep s).1 ∧
      ((partition sep s).2.1 = true → s = (partition sep s).1 ++ sep :: (partition sep s).2.2) ∧
      ((partition sep s).2.1 = false → s = (partition sep s).1 ∧ (partition sep s).2.2 = []) := by
  by_cases member : sep ∈ s
  · obtain ⟨before, after, rfl, free⟩ := List.eq_append_cons_of_mem member
    rw [partition_at free]
    simp [free]
  · rw [partition_free member]
    simp [member]

theorem partition_subset (sep : Char) (s : Text) :
    (∀ c ∈ (partition sep s).1, c ∈ s) ∧ ∀ c ∈ (partition sep s).2.2, c ∈ s := by
  by_cases member : sep ∈ s
  · obtain ⟨before, after, rfl, free⟩ := List.eq_append_cons_of_mem member
    rw [partition_at free]
    constructor
    · intro c inside
      simp [inside]
    · intro c inside
      simp [inside]
  · rw [partition_free member]
    simp

theorem count_partition {c sep : Char} (other : c ≠ sep) (s : Text) :
    (partition sep s).1.count c + (partition sep s).2.2.count c = s.count c := by
  by_cases member : sep ∈ s
  · obtain ⟨before, after, rfl, free⟩ := List.eq_append_cons_of_mem member
    rw [partition_at free, List.count_append, List.count_cons_of_ne other.symm]
  · rw [partition_free member]
    simp

/-! Schemes. -/

/-- What stands before the colon is a scheme. -/
def schemeHead : Text → Bool
  | [] => false
  | c :: rest => isAscii c && c.isAlpha && (c :: rest).all isSchemeChar

/-- The text names no scheme. -/
def NoScheme (s : Text) : Prop := (partition ':' s).2.1 = true → schemeHead (partition ':' s).1 = false

theorem splitScheme_eq (url : Text) :
    splitScheme url =
      if (partition ':' url).2.1 && schemeHead (partition ':' url).1 then
        ((partition ':' url).1.map Char.toLower, (partition ':' url).2.2)
      else ([], url) := by
  unfold splitScheme
  rcases partition ':' url with ⟨head, found, tail⟩
  cases head with
  | nil => cases found <;> rfl
  | cons c head =>
    cases found
    · rfl
    · simp [schemeHead]

theorem splitScheme_none {s : Text} (none : NoScheme s) : splitScheme s = ([], s) := by
  rw [splitScheme_eq]
  cases found : (partition ':' s).2.1 with
  | false => rfl
  | true => rw [none found]; rfl

theorem schemeHead_free {head : Text} (is : schemeHead head = true) : ':' ∉ head := by
  intro member
  cases head with
  | nil => cases is
  | cons c rest =>
    simp only [schemeHead, Bool.and_eq_true, List.all_eq_true] at is
    exact absurd (is.2 ':' member) (by decide)

theorem splitScheme_some {head : Text} (is : schemeHead head = true) (tail : Text) :
    splitScheme (head ++ ':' :: tail) = (head.map Char.toLower, tail) := by
  rw [splitScheme_eq, partition_at (schemeHead_free is), is]
  rfl

/-- A text either names no scheme or is a scheme, a colon and what follows. -/
theorem splitScheme_cases (s : Text) :
    NoScheme s ∨ ∃ head tail, s = head ++ ':' :: tail ∧ schemeHead head = true := by
  obtain ⟨_, split, _⟩ := partition_spec ':' s
  by_cases named : (partition ':' s).2.1 = true ∧ schemeHead (partition ':' s).1 = true
  · exact .inr ⟨_, _, split named.1, named.2⟩
  · left
    intro found
    cases is : schemeHead (partition ':' s).1 with
    | false => rfl
    | true => exact absurd ⟨found, is⟩ named

theorem partition_append {sep : Char} {front : Text} (free : sep ∉ front) (s : Text) :
    partition sep (front ++ s) = (front ++ (partition sep s).1, (partition sep s).2) := by
  induction front with
  | nil => rfl
  | cons c front ih =>
    simp only [List.mem_cons, not_or] at free
    simp [partition, Ne.symm free.1, ih free.2]

theorem schemeHead_false {head : Text} {c : Char} (member : c ∈ head)
    (stop : isSchemeChar c = false) : schemeHead head = false := by
  cases head with
  | nil => rfl
  | cons d rest =>
    rw [schemeHead, Bool.and_eq_false_iff]
    right
    rw [List.all_eq_false]
    exact ⟨c, member, by simp [stop]⟩

/-- Nothing behind a path makes its front a scheme. -/
theorem noScheme_append {path tail : Text} (none : NoScheme path)
    (ends : ∀ c ∈ tail.head?, c ≠ ':' ∧ isSchemeChar c = false) : NoScheme (path ++ tail) := by
  intro found
  by_cases member : ':' ∈ path
  · obtain ⟨before, after, rfl, free⟩ := List.eq_append_cons_of_mem member
    have first := none (by rw [partition_at free])
    rw [partition_at free] at first
    have regroup : before ++ ':' :: after ++ tail = before ++ ':' :: (after ++ tail) := by simp
    rw [regroup, partition_at free]
    exact first
  · rw [partition_append member] at found ⊢
    cases tail with
    | nil => cases found
    | cons c tail =>
      obtain ⟨other, stop⟩ := ends c rfl
      rw [partition, if_neg other]
      exact schemeHead_false (by simp) stop

/-! The parts of a text fit together. -/

/-- What ends an authority. -/
def endsAuthority (c : Char) : Bool := c == '/' || c == '?' || c == '#'

def isLineChar (c : Char) : Bool := c == '\t' || c == '\r' || c == '\n'

/-- The parts can be told apart again. -/
structure IsSplit (p : SplitResult) : Prop where
  scheme : p.scheme = [] ∨ schemeHead p.scheme = true ∧ p.scheme.map Char.toLower = p.scheme
  netloc : ∀ c ∈ p.netloc, endsAuthority c = false
  path : '?' ∉ p.path ∧ '#' ∉ p.path
  rooted : p.netloc ≠ [] → ∀ c ∈ p.path.head?, c = '/'
  query : '#' ∉ p.query
  clean : ∀ c ∈ p.netloc ++ p.path ++ p.query ++ p.fragment, isLineChar c = false
  front : p.scheme = [] → ∀ c ∈ p.path.head?, 32 < c.toNat
  bare : p.scheme = [] → p.netloc = [] → NoScheme p.path

theorem cleanUrl_clean (url : Text) : ∀ c ∈ cleanUrl url, isLineChar c = false := by
  intro c member
  have kept := (List.mem_filter.mp member).2
  simp only [ne_eq, decide_eq_true_eq] at kept
  simp [isLineChar, kept]

theorem cleanUrl_front (url : Text) : ∀ c ∈ (cleanUrl url).head?, 32 < c.toNat := by
  intro c first
  unfold cleanUrl at first
  cases rest : url.dropWhile fun c => decide (c.toNat ≤ 32) with
  | nil =>
    rw [rest] at first
    cases first
  | cons d tail =>
    have high : ¬ d.toNat ≤ 32 := by
      have stopped := List.head?_dropWhile_not (fun c : Char => decide (c.toNat ≤ 32)) url
      rw [rest] at stopped
      simpa using stopped
    have notLine : d ≠ '\t' ∧ d ≠ '\r' ∧ d ≠ '\n' := by
      refine ⟨?_, ?_, ?_⟩ <;>
      · rintro rfl
        exact high (by decide)
    rw [rest, List.filter_cons_of_pos (by simpa using notLine)] at first
    cases first
    omega

theorem cleanUrl_eq {url : Text} (clean : ∀ c ∈ url, isLineChar c = false)
    (front : ∀ c ∈ url.head?, 32 < c.toNat) : cleanUrl url = url := by
  have kept : url.dropWhile (fun c => decide (c.toNat ≤ 32)) = url := by
    cases url with
    | nil => rfl
    | cons c rest =>
      have high := front c rfl
      rw [List.dropWhile_cons_of_neg (by simpa using high)]
  unfold cleanUrl
  rw [kept, List.filter_eq_self]
  intro c member
  have plain := clean c member
  simpa [isLineChar, and_assoc] using plain

theorem partition_head {sep : Char} {s : Text} :
    ∀ c ∈ (partition sep s).1.head?, s.head? = some c := by
  intro c first
  cases s with
  | nil => cases first
  | cons d s =>
    simp only [partition] at first
    split at first
    · cases first
    · exact first

theorem splitNetloc_some {netloc rest : Text} (inside : ∀ c ∈ netloc, endsAuthority c = false)
    (ends : ∀ c ∈ rest.head?, endsAuthority c = true) :
    splitNetloc ('/' :: '/' :: (netloc ++ rest)) = some (netloc, rest) := by
  have kept : ∀ c ∈ netloc, (!endsAuthority c) = true := by
    intro c member
    rw [inside c member]
    rfl
  have stop : rest.takeWhile (fun c => !endsAuthority c) = [] ∧
      rest.dropWhile (fun c => !endsAuthority c) = rest := by
    cases rest with
    | nil => simp
    | cons c rest => simp [ends c rfl]
  have split : (netloc ++ rest).span (fun c => !endsAuthority c) = (netloc, rest) := by
    rw [List.span_eq_takeWhile_dropWhile, List.takeWhile_append_of_pos kept,
      List.dropWhile_append_of_pos kept, stop.1, stop.2, List.append_nil]
  exact congrArg some split

/-- A text has no authority, or two slashes, its authority and what follows. -/
theorem splitNetloc_cases (s : Text) :
    (splitNetloc s = none ∧ s.take 2 ≠ ['/', '/']) ∨
      ∃ netloc rest, s = '/' :: '/' :: (netloc ++ rest) ∧
        (∀ c ∈ netloc, endsAuthority c = false) ∧ ∀ c ∈ rest.head?, endsAuthority c = true := by
  by_cases slashes : ∃ tail, s = '/' :: '/' :: tail
  · obtain ⟨tail, rfl⟩ := slashes
    right
    refine ⟨tail.takeWhile (fun c => !endsAuthority c), tail.dropWhile (fun c => !endsAuthority c),
      by rw [List.takeWhile_append_dropWhile], ?_, ?_⟩
    · intro c member
      simpa using List.mem_takeWhile_imp member
    · intro c first
      have stopped := List.head?_dropWhile_not (fun c => !endsAuthority c) tail
      rw [Option.mem_def.mp first] at stopped
      simpa using stopped
  · left
    constructor
    · unfold splitNetloc
      split
      · rename_i tail
        exact absurd ⟨tail, rfl⟩ slashes
      · rfl
    · intro two
      match s with
      | [] => cases two
      | [c] => cases two
      | c :: d :: tail =>
        simp only [List.take_succ_cons, List.take_zero, List.cons.injEq, and_true] at two
        exact slashes ⟨tail, by rw [two.1, two.2]⟩

/-- The authority and what stands before and behind it. -/
def authorityOf (rest : Text) : Text × Text := (splitNetloc rest).getD ([], rest)

theorem splitParts_eq (url : Text) :
    splitParts url =
      { scheme := (splitScheme (cleanUrl url)).1
        netloc := (authorityOf (splitScheme (cleanUrl url)).2).1
        path := (partition '?' (partition '#' (authorityOf (splitScheme (cleanUrl url)).2).2).1).1
        query := (partition '?' (partition '#' (authorityOf (splitScheme (cleanUrl url)).2).2).1).2.2
        fragment := (partition '#' (authorityOf (splitScheme (cleanUrl url)).2).2).2.2 } := rfl

theorem schemeChar_ascii {c : Char} (is : isSchemeChar c = true) : isAscii c = true := by
  unfold isSchemeChar at is
  exact (Bool.and_eq_true_iff.mp is).1

theorem toLower_schemeChar {c : Char} (is : isSchemeChar c = true) :
    isSchemeChar c.toLower = true ∧ c.toLower.toLower = c.toLower ∧
      (c.isAlpha = true → c.toLower.isAlpha = true) := by
  have each : ∀ n < 128, isSchemeChar (Char.ofNat n) = true →
      isSchemeChar (Char.ofNat n).toLower = true ∧
        (Char.ofNat n).toLower.toLower = (Char.ofNat n).toLower ∧
        ((Char.ofNat n).isAlpha = true → (Char.ofNat n).toLower.isAlpha = true) := by
    decide
  have here := each c.toNat (of_decide_eq_true (schemeChar_ascii is))
  rw [Char.ofNat_toNat] at here
  exact here is

theorem toLower_schemeHead {head : Text} (is : schemeHead head = true) :
    schemeHead (head.map Char.toLower) = true ∧
      (head.map Char.toLower).map Char.toLower = head.map Char.toLower := by
  cases head with
  | nil => cases is
  | cons c rest =>
    simp only [schemeHead, Bool.and_eq_true, List.all_eq_true] at is
    obtain ⟨⟨_, alpha⟩, each⟩ := is
    have first := toLower_schemeChar (each c List.mem_cons_self)
    constructor
    · simp only [List.map_cons, schemeHead, Bool.and_eq_true, List.all_eq_true]
      refine ⟨⟨schemeChar_ascii first.1, first.2.2 alpha⟩, ?_⟩
      intro d member
      obtain ⟨e, inside, rfl⟩ := List.mem_map.mp (List.map_cons ▸ member : d ∈ (c :: rest).map Char.toLower)
      exact (toLower_schemeChar (each e inside)).1
    · rw [List.map_map]
      apply List.map_congr_left
      intro d member
      exact (toLower_schemeChar (each d member)).2.1

/-- What `authorityOf` leaves. -/
theorem authorityOf_spec (s : Text) :
    (∀ c ∈ (authorityOf s).1, endsAuthority c = false) ∧
      ((authorityOf s).1 = [] ∧ (authorityOf s).2 = s ∧ s.take 2 ≠ ['/', '/'] ∨
        s = '/' :: '/' :: ((authorityOf s).1 ++ (authorityOf s).2) ∧
          ∀ c ∈ (authorityOf s).2.head?, endsAuthority c = true) := by
  unfold authorityOf
  rcases splitNetloc_cases s with ⟨none, noSlashes⟩ | ⟨netloc, rest, rfl, inside, ends⟩
  · rw [none]
    simp [noSlashes]
  · rw [splitNetloc_some inside ends]
    exact ⟨inside, .inr ⟨rfl, ends⟩⟩

theorem authorityOf_subset (s : Text) :
    ∀ c ∈ (authorityOf s).1 ++ (authorityOf s).2, c ∈ s := by
  intro c member
  rcases (authorityOf_spec s).2 with ⟨none, all, _⟩ | ⟨whole, _⟩
  · rwa [none, all, List.nil_append] at member
  · rw [whole]
    exact List.mem_cons_of_mem _ (List.mem_cons_of_mem _ member)

/-- The path begins where the authority ends. -/
theorem pathOf_head (rest : Text) :
    ∀ c ∈ (partition '?' (partition '#' rest).1).1.head?, rest.head? = some c := by
  intro c first
  exact partition_head c (partition_head c first)

theorem partition_prefix (sep : Char) (s : Text) : ∃ rest, s = (partition sep s).1 ++ rest := by
  obtain ⟨_, found, absent⟩ := partition_spec sep s
  cases is : (partition sep s).2.1 with
  | true => exact ⟨_, found is⟩
  | false => exact ⟨[], by rw [List.append_nil]; exact (absent is).1⟩

theorem noScheme_prefix {path rest : Text} (none : NoScheme (path ++ rest)) : NoScheme path := by
  intro found
  by_cases member : ':' ∈ path
  · obtain ⟨before, after, rfl, free⟩ := List.eq_append_cons_of_mem member
    have regroup : before ++ ':' :: after ++ rest = before ++ ':' :: (after ++ rest) := by simp
    rw [regroup] at none
    have first := none (by rw [partition_at free])
    rw [partition_at free] at first ⊢
    exact first
  · rw [partition_free member] at found
    cases found

theorem noScheme_slash {path : Text} (slash : ∀ c ∈ path.head?, c = '/') : NoScheme path := by
  intro found
  cases path with
  | nil => cases found
  | cons c path =>
    cases slash c rfl
    rw [partition, if_neg (by decide)]
    exact schemeHead_false List.mem_cons_self (by decide)

theorem splitParts_isSplit (url : Text) : IsSplit (splitParts url) := by
  have clean := cleanUrl_clean url
  have front := cleanUrl_front url
  rw [splitParts_eq]
  generalize cleanUrl url = cleaned at clean front ⊢
  have scheme : (splitScheme cleaned).1 = [] ∧ (splitScheme cleaned).2 = cleaned ∧ NoScheme cleaned ∨
      schemeHead (splitScheme cleaned).1 = true ∧
        (splitScheme cleaned).1.map Char.toLower = (splitScheme cleaned).1 ∧
        ∀ c ∈ (splitScheme cleaned).2, c ∈ cleaned := by
    rcases splitScheme_cases cleaned with none | ⟨head, tail, rfl, is⟩
    · rw [splitScheme_none none]
      exact .inl ⟨rfl, rfl, none⟩
    · rw [splitScheme_some is]
      obtain ⟨lower, same⟩ := toLower_schemeHead is
      exact .inr ⟨lower, same, by simp_all⟩
  generalize splitScheme cleaned = split at scheme ⊢
  obtain ⟨name, rest⟩ := split
  dsimp only at scheme ⊢
  have inside : ∀ c ∈ rest, c ∈ cleaned := by
    rcases scheme with ⟨_, rfl, _⟩ | ⟨_, _, inside⟩
    · simp
    · exact inside
  have subset := authorityOf_subset rest
  obtain ⟨noEnds, whole⟩ := authorityOf_spec rest
  generalize authorityOf rest = authority at subset noEnds whole ⊢
  obtain ⟨netloc, tail⟩ := authority
  dsimp only at subset noEnds whole ⊢
  have fragment := partition_spec '#' tail
  have fragmentIn := partition_subset '#' tail
  have query := partition_spec '?' (partition '#' tail).1
  have queryIn := partition_subset '?' (partition '#' tail).1
  have inTail : ∀ c ∈ tail, isLineChar c = false := fun c member =>
    clean c (inside c (subset c (List.mem_append_right _ member)))
  have pathStart := pathOf_head tail
  have noMark : '?' ∉ (partition '?' (partition '#' tail).1).1 ∧
      '#' ∉ (partition '?' (partition '#' tail).1).1 :=
    ⟨query.1, fun member => fragment.1 (queryIn.1 _ member)⟩
  have slash : (∀ c ∈ tail.head?, endsAuthority c = true) →
      ∀ c ∈ (partition '?' (partition '#' tail).1).1.head?, c = '/' := by
    intro ends c first
    have ended := ends c (pathStart c first)
    have member := List.mem_of_mem_head? first
    simp only [endsAuthority, Bool.or_eq_true, beq_iff_eq] at ended
    rcases ended with (slash | question) | hash
    · exact slash
    · exact absurd (question ▸ member) noMark.1
    · exact absurd (hash ▸ member) noMark.2
  have schemeless : name = [] → rest = cleaned ∧ NoScheme cleaned := by
    rintro rfl
    rcases scheme with ⟨_, same, none⟩ | ⟨is, _⟩
    · exact ⟨same, none⟩
    · cases is
  constructor
  · rcases scheme with ⟨none, _⟩ | ⟨is, same, _⟩
    · exact .inl none
    · exact .inr ⟨is, same⟩
  · exact noEnds
  · exact noMark
  · intro some
    rcases whole with ⟨none, _⟩ | ⟨_, ends⟩
    · exact absurd none some
    · exact slash ends
  · exact fun member => fragment.1 (queryIn.2 _ member)
  · intro c member
    simp only [List.mem_append] at member
    rcases member with ((member | member) | member) | member
    · exact clean c (inside c (subset c (List.mem_append_left _ member)))
    · exact inTail c (fragmentIn.1 c (queryIn.1 c member))
    · exact inTail c (fragmentIn.1 c (queryIn.2 c member))
    · exact inTail c (fragmentIn.2 c member)
  · intro none c first
    rcases whole with ⟨_, same, _⟩ | ⟨_, ends⟩
    · apply front c
      rw [← (schemeless none).1, ← same]
      exact pathStart c first
    · rw [slash ends c first]
      decide
  · intro none empty
    rcases whole with ⟨_, same, _⟩ | ⟨_, ends⟩
    · obtain ⟨more, before⟩ := partition_prefix '#' tail
      obtain ⟨others, path⟩ := partition_prefix '?' (partition '#' tail).1
      have noScheme := (schemeless none).2
      rw [← (schemeless none).1, ← same, before] at noScheme
      have front := noScheme_prefix noScheme
      rw [path] at front
      exact noScheme_prefix front
    · exact noScheme_slash (slash ends)

/-! Putting the parts together. -/

/-- `urlunsplit` writes the two slashes of an authority. -/
def SplitResult.slashed (p : SplitResult) : Bool :=
  !p.netloc.isEmpty || (!p.scheme.isEmpty && usesNetloc.contains (String.ofList p.scheme)) ||
    p.path.take 2 == ['/', '/']

/-- The path that stands behind the slashes of an authority. -/
def rootedPath (path : Text) : Text :=
  if !path.isEmpty && path.head? != some '/' then '/' :: path else path

/-- A query or a fragment, which are left out when they are empty. -/
def tailOf (mark : Char) (text : Text) : Text := if text.isEmpty then [] else mark :: text

/-- What stands behind the scheme. -/
def SplitResult.body (p : SplitResult) : Text :=
  (if p.slashed then '/' :: '/' :: (p.netloc ++ rootedPath p.path) else p.path) ++
    (tailOf '?' p.query ++ tailOf '#' p.fragment)

theorem urlunsplit_eq (p : SplitResult) :
    urlunsplit p = if p.scheme.isEmpty then p.body else p.scheme ++ ':' :: p.body := by
  unfold urlunsplit SplitResult.body SplitResult.slashed rootedPath tailOf
  dsimp only
  cases p.scheme.isEmpty <;> cases p.query.isEmpty <;> cases p.fragment.isEmpty <;> simp

theorem tailOf_head {mark c : Char} {text : Text} (first : (tailOf mark text).head? = some c) :
    c = mark := by
  unfold tailOf at first
  split at first
  · cases first
  · exact (Option.some.inj first).symm

/-- The query and the fragment are read back behind a path. -/
theorem tails_read {path query : Text} (fragment : Text) (noMark : '?' ∉ path ∧ '#' ∉ path)
    (noHash : '#' ∉ query) :
    partition '#' (path ++ (tailOf '?' query ++ tailOf '#' fragment)) =
        (path ++ tailOf '?' query, !fragment.isEmpty, fragment) ∧
      partition '?' (path ++ tailOf '?' query) = (path, !query.isEmpty, query) := by
  have free : '#' ∉ path ++ tailOf '?' query := by
    unfold tailOf
    split <;> simp [noMark.2, noHash]
  constructor
  · rw [← List.append_assoc]
    generalize path ++ tailOf '?' query = front at free ⊢
    cases fragment with
    | nil => simp [tailOf, partition_free free]
    | cons c fragment => simp [tailOf, partition_at free]
  · cases query with
    | nil => simp [tailOf, partition_free noMark.1]
    | cons c query => simp [tailOf, partition_at noMark.1]

theorem rootedPath_head {path : Text} : ∀ c ∈ (rootedPath path).head?, c = '/' := by
  intro c first
  unfold rootedPath at first
  split at first
  · exact (Option.some.inj first).symm
  · rename_i rooted
    cases path with
    | nil => cases first
    | cons d path =>
      simp at rooted first
      rw [← first, rooted]

theorem rootedPath_marks {path : Text} (noMark : '?' ∉ path ∧ '#' ∉ path) :
    '?' ∉ rootedPath path ∧ '#' ∉ rootedPath path := by
  unfold rootedPath
  split <;> simp [noMark]

theorem tails_head {query fragment : Text} :
    ∀ c ∈ (tailOf '?' query ++ tailOf '#' fragment).head?, c = '?' ∨ c = '#' := by
  intro c first
  rw [List.head?_append, Option.mem_def, Option.or_eq_some_iff] at first
  rcases first with first | ⟨_, first⟩
  · exact .inl (tailOf_head first)
  · exact .inr (tailOf_head first)

/-- The authority of assembled parts and what stands behind it. -/
theorem authorityOf_body {p : SplitResult} (split : IsSplit p) :
    authorityOf p.body =
      (p.netloc, (if p.slashed then rootedPath p.path else p.path) ++
        (tailOf '?' p.query ++ tailOf '#' p.fragment)) := by
  have marks : ∀ c ∈ (tailOf '?' p.query ++ tailOf '#' p.fragment).head?, c = '?' ∨ c = '#' :=
    tails_head
  unfold SplitResult.body authorityOf
  cases slashed : p.slashed with
  | true =>
    have ends : ∀ c ∈ (rootedPath p.path ++ (tailOf '?' p.query ++ tailOf '#' p.fragment)).head?,
        endsAuthority c = true := by
      intro c first
      rw [List.head?_append, Option.mem_def, Option.or_eq_some_iff] at first
      rcases first with first | ⟨_, first⟩
      · rw [rootedPath_head c first]
        rfl
      · rcases marks c first with rfl | rfl <;> rfl
    simp only [if_true, List.cons_append, List.append_assoc]
    rw [splitNetloc_some split.netloc ends]
    rfl
  | false =>
    simp only [SplitResult.slashed, Bool.or_eq_false_iff, Bool.not_eq_false', List.isEmpty_iff,
      beq_eq_false_iff_ne] at slashed
    obtain ⟨⟨noNetloc, _⟩, noSlashes⟩ := slashed
    have unslashed : splitNetloc (p.path ++ (tailOf '?' p.query ++ tailOf '#' p.fragment)) = none := by
      rcases splitNetloc_cases (p.path ++ (tailOf '?' p.query ++ tailOf '#' p.fragment)) with
        ⟨none, _⟩ | ⟨netloc, rest, whole, _⟩
      · exact none
      exfalso
      match path : p.path with
      | [] =>
        rw [path] at whole
        rcases marks '/' (by rw [List.nil_append] at whole; rw [whole]; rfl) with same | same
        · cases same
        · cases same
      | [c] =>
        rw [path] at whole
        have second : tailOf '?' p.query ++ tailOf '#' p.fragment = '/' :: (netloc ++ rest) :=
          (List.cons.inj whole).2
        rcases marks '/' (by rw [second]; rfl) with same | same
        · cases same
        · cases same
      | c :: d :: more =>
        rw [path] at whole noSlashes
        simp only [List.cons_append, List.cons.injEq] at whole
        exact noSlashes (by rw [whole.1, whole.2.1]; rfl)
    simp only [Bool.false_eq_true, if_false]
    rw [unslashed, noNetloc]
    rfl

theorem tailOf_clean {mark : Char} {text : Text} (plain : isLineChar mark = false)
    (clean : ∀ c ∈ text, isLineChar c = false) : ∀ c ∈ tailOf mark text, isLineChar c = false := by
  unfold tailOf
  split
  · simp
  · simpa [plain] using clean

theorem schemeHead_clean {head : Text} (is : schemeHead head = true) :
    ∀ c ∈ head, isLineChar c = false := by
  intro c member
  cases line : isLineChar c with
  | false => rfl
  | true =>
    have stop : isSchemeChar c = false := by
      simp only [isLineChar, Bool.or_eq_true, beq_iff_eq] at line
      rcases line with (rfl | rfl) | rfl <;> decide
    rw [schemeHead_false member stop] at is
    cases is

theorem body_clean {p : SplitResult} (split : IsSplit p) : ∀ c ∈ p.body, isLineChar c = false := by
  have clean := split.clean
  simp only [List.mem_append, or_imp, forall_and] at clean
  obtain ⟨⟨⟨netloc, path⟩, query⟩, fragment⟩ := clean
  have rooted : ∀ c ∈ rootedPath p.path, isLineChar c = false := by
    unfold rootedPath
    split
    · simpa [isLineChar] using path
    · exact path
  intro c member
  unfold SplitResult.body at member
  rcases List.mem_append.mp member with front | tails
  · split at front
    · simp only [List.mem_cons, List.mem_append] at front
      rcases front with rfl | rfl | inside | inside
      · rfl
      · rfl
      · exact netloc c inside
      · exact rooted c inside
    · exact path c front
  · rcases List.mem_append.mp tails with inside | inside
    · exact tailOf_clean (by decide) query c inside
    · exact tailOf_clean (by decide) fragment c inside

theorem urlunsplit_clean {p : SplitResult} (split : IsSplit p) :
    ∀ c ∈ urlunsplit p, isLineChar c = false := by
  rw [urlunsplit_eq]
  rcases split.scheme with none | ⟨is, _⟩
  · rw [none]
    exact body_clean split
  · intro c member
    split at member
    · exact body_clean split c member
    · rcases List.mem_append.mp member with inside | inside
      · exact schemeHead_clean is c inside
      · rcases List.mem_cons.mp inside with rfl | inside
        · rfl
        · exact body_clean split c inside

/-- What assembled parts without a scheme begin with. -/
theorem body_head {p : SplitResult} :
    ∀ c ∈ p.body.head?, c = '/' ∨ c = '?' ∨ c = '#' ∨ p.path.head? = some c := by
  intro c first
  unfold SplitResult.body at first
  rw [List.head?_append, Option.mem_def, Option.or_eq_some_iff] at first
  rcases first with first | ⟨_, first⟩
  · split at first
    · exact .inl (Option.some.inj first).symm
    · exact .inr (.inr (.inr first))
  · rw [List.head?_append, Option.or_eq_some_iff] at first
    rcases first with first | ⟨_, first⟩
    · exact .inr (.inl (tailOf_head first))
    · exact .inr (.inr (.inl (tailOf_head first)))

theorem schemeHead_some {head : Text} (is : schemeHead head = true) : head ≠ [] := by
  rintro rfl
  cases is

theorem schemeHead_high {head : Text} (is : schemeHead head = true) :
    ∀ c ∈ head.head?, 32 < c.toNat := by
  intro c first
  cases head with
  | nil => cases first
  | cons d rest =>
    cases first
    simp only [schemeHead, Bool.and_eq_true] at is
    have each : ∀ n < 128, (Char.ofNat n).isAlpha = true → 32 < n := by decide
    have here := each c.toNat (of_decide_eq_true is.1.1)
    rw [Char.ofNat_toNat] at here
    exact here is.1.2

theorem urlunsplit_front {p : SplitResult} (split : IsSplit p) :
    ∀ c ∈ (urlunsplit p).head?, 32 < c.toNat := by
  rw [urlunsplit_eq]
  rcases split.scheme with none | ⟨is, _⟩
  · rw [none]
    intro c first
    rcases body_head c first with rfl | rfl | rfl | path
    · decide
    · decide
    · decide
    · exact split.front none c path
  · intro c first
    obtain ⟨d, rest, scheme⟩ := List.exists_cons_of_ne_nil (schemeHead_some is)
    rw [scheme] at first
    exact schemeHead_high is c (by rw [scheme]; exact first)

theorem body_noScheme {p : SplitResult} (split : IsSplit p) (none : p.scheme = []) :
    NoScheme p.body := by
  unfold SplitResult.body
  cases slashed : p.slashed with
  | true =>
    apply noScheme_slash
    intro c first
    exact (Option.some.inj first).symm
  | false =>
    simp only [SplitResult.slashed, Bool.or_eq_false_iff, Bool.not_eq_false', List.isEmpty_iff]
      at slashed
    apply noScheme_append (split.bare none slashed.1.1)
    intro c first
    rcases tails_head c first with rfl | rfl <;> decide

theorem splitScheme_urlunsplit {p : SplitResult} (split : IsSplit p) :
    splitScheme (urlunsplit p) = (p.scheme, p.body) := by
  rw [urlunsplit_eq]
  rcases split.scheme with none | ⟨is, same⟩
  · rw [none]
    exact splitScheme_none (body_noScheme split none)
  · have some : p.scheme.isEmpty = false := by simpa using schemeHead_some is
    rw [some]
    rw [if_neg Bool.false_ne_true, splitScheme_some is, same]

/-- Parts that were put together are split again, with the path behind the slashes of an
    authority. -/
theorem splitParts_urlunsplit {p : SplitResult} (split : IsSplit p) :
    splitParts (urlunsplit p) =
      { p with path := if p.slashed then rootedPath p.path else p.path } := by
  have marks : '?' ∉ (if p.slashed then rootedPath p.path else p.path) ∧
      '#' ∉ (if p.slashed then rootedPath p.path else p.path) := by
    split
    · exact rootedPath_marks split.path
    · exact split.path
  have clean : cleanUrl (urlunsplit p) = urlunsplit p :=
    cleanUrl_eq (urlunsplit_clean split) (urlunsplit_front split)
  have scheme := splitScheme_urlunsplit split
  rw [splitParts_eq, clean, scheme]
  dsimp only
  rw [authorityOf_body split]
  dsimp only
  rw [(tails_read p.fragment marks split.query).1]
  dsimp only
  rw [(tails_read p.fragment marks split.query).2]

/-! A fragment is split off before anything else. -/

theorem authorityOf_slashes (tail : Text) :
    authorityOf ('/' :: '/' :: tail) =
      (tail.takeWhile fun c => !endsAuthority c, tail.dropWhile fun c => !endsAuthority c) := by
  rw [← List.span_eq_takeWhile_dropWhile]
  rfl

theorem authorityOf_none {s : Text} (none : ¬ ∃ tail, s = '/' :: '/' :: tail) :
    authorityOf s = ([], s) := by
  rcases splitNetloc_cases s with ⟨unsplit, _⟩ | ⟨netloc, rest, whole, _⟩
  · rw [authorityOf, unsplit]
    rfl
  · exact absurd ⟨_, whole⟩ none

theorem cleanUrl_fragment (front back : Text) :
    cleanUrl (front ++ '#' :: back) =
      cleanUrl front ++ '#' :: back.filter fun c => c ≠ '\t' ∧ c ≠ '\r' ∧ c ≠ '\n' := by
  have stop : ('#' :: back).dropWhile (fun c => decide (c.toNat ≤ 32)) = '#' :: back := rfl
  have kept : ('#' :: back).filter (fun c => c ≠ '\t' ∧ c ≠ '\r' ∧ c ≠ '\n') =
      '#' :: back.filter fun c => c ≠ '\t' ∧ c ≠ '\r' ∧ c ≠ '\n' := rfl
  unfold cleanUrl
  rw [List.dropWhile_append, stop]
  split
  · rename_i empty
    rw [List.isEmpty_iff.mp empty, kept]
    rfl
  · rw [List.filter_append, kept]

section fragments
variable {front : Text} (free : '#' ∉ front) (back : Text)
include free

theorem cleanUrl_free : '#' ∉ cleanUrl front := by
  intro member
  exact free ((List.dropWhile_suffix _).subset (List.mem_filter.mp member).1)

theorem splitScheme_fragment :
    splitScheme (front ++ '#' :: back) =
      ((splitScheme front).1, (splitScheme front).2 ++ '#' :: back) := by
  rw [splitScheme_eq, splitScheme_eq]
  by_cases colon : ':' ∈ front
  · obtain ⟨before, after, rfl, noColon⟩ := List.eq_append_cons_of_mem colon
    have regroup : before ++ ':' :: after ++ '#' :: back = before ++ ':' :: (after ++ '#' :: back) := by
      simp
    rw [regroup, partition_at noColon, partition_at noColon]
    cases schemeHead before <;> simp
  · rw [partition_append colon, partition_free colon]
    have odd : schemeHead (front ++ (partition ':' ('#' :: back)).1) = false := by
      apply schemeHead_false (c := '#')
      · simp [partition]
      · decide
    rw [odd, Bool.and_false]
    rfl

theorem splitScheme_free : '#' ∉ (splitScheme front).2 := by
  intro member
  rcases splitScheme_cases front with none | ⟨head, tail, rfl, is⟩
  · rw [splitScheme_none none] at member
    exact free member
  · rw [splitScheme_some is] at member
    exact free (by simp [member])

theorem authorityOf_fragment :
    authorityOf (front ++ '#' :: back) =
      ((authorityOf front).1, (authorityOf front).2 ++ '#' :: back) := by
  by_cases slashes : ∃ tail, front = '/' :: '/' :: tail
  · obtain ⟨tail, rfl⟩ := slashes
    have stop : ('#' :: back).takeWhile (fun c => !endsAuthority c) = [] ∧
        ('#' :: back).dropWhile (fun c => !endsAuthority c) = '#' :: back := ⟨rfl, rfl⟩
    simp only [List.cons_append]
    rw [authorityOf_slashes, authorityOf_slashes, List.takeWhile_append, List.dropWhile_append,
      stop.1, stop.2]
    split
    · rename_i whole
      have none : tail.dropWhile (fun c => !endsAuthority c) = [] := by
        have together := List.takeWhile_append_dropWhile (p := fun c => !endsAuthority c) (l := tail)
        have lengths := congrArg List.length together
        rw [List.length_append] at lengths
        exact List.eq_nil_of_length_eq_zero (by omega)
      have all : tail.takeWhile (fun c => !endsAuthority c) = tail := by
        have together := List.takeWhile_append_dropWhile (p := fun c => !endsAuthority c) (l := tail)
        rwa [none, List.append_nil] at together
      simp [none, all]
    · rename_i part
      have some : (tail.dropWhile fun c => !endsAuthority c).isEmpty = false := by
        cases rest : tail.dropWhile fun c => !endsAuthority c with
        | nil =>
          have together := List.takeWhile_append_dropWhile (p := fun c => !endsAuthority c) (l := tail)
          rw [rest, List.append_nil] at together
          exact absurd (congrArg List.length together) part
        | cons c rest => rfl
      simp [some]
  · have others : ¬ ∃ tail, front ++ '#' :: back = '/' :: '/' :: tail := by
      rintro ⟨tail, whole⟩
      match front with
      | [] => cases whole
      | [c] => cases whole
      | c :: d :: more =>
        cases whole
        exact slashes ⟨more, rfl⟩
    rw [authorityOf_none slashes, authorityOf_none others]

theorem authorityOf_free : '#' ∉ (authorityOf front).2 := fun member =>
  free (authorityOf_subset front _ (List.mem_append_right _ member))

theorem splitParts_free : (splitParts front).fragment = [] := by
  rw [splitParts_eq]
  dsimp only
  rw [partition_free (authorityOf_free (splitScheme_free (cleanUrl_free free)))]

theorem splitParts_fragment :
    { splitParts (front ++ '#' :: back) with fragment := [] } = splitParts front := by
  have inner := authorityOf_free (splitScheme_free (cleanUrl_free free))
  rw [splitParts_eq, splitParts_eq, cleanUrl_fragment, splitScheme_fragment (cleanUrl_free free),
    authorityOf_fragment (splitScheme_free (cleanUrl_free free))]
  dsimp only
  rw [partition_at inner, partition_free inner]

end fragments

/-! What is put together to itself. -/

/-- A text from which nothing is lost when it is split and put together again. -/
structure Rejoins (text : Text) : Prop where
  clean : ∀ c ∈ text, isLineChar c = false
  front : ∀ c ∈ text.head?, 32 < c.toNat
  slashes : text.take 2 = ['/', '/'] →
    (splitParts text).netloc ≠ [] ∨ (splitParts text).path.take 2 = ['/', '/']
  query : '?' ∈ (partition '#' text).1 → (splitParts text).query ≠ []
  fragment : '#' ∈ text → (splitParts text).fragment ≠ []

/-- What `partition` takes off, with the separator. -/
def cutOff (sep : Char) (s : Text) : Text := if sep ∈ s then sep :: (partition sep s).2.2 else []

theorem partition_cutOff (sep : Char) (s : Text) : (partition sep s).1 ++ cutOff sep s = s := by
  unfold cutOff
  by_cases member : sep ∈ s
  · rw [if_pos member]
    obtain ⟨before, after, rfl, free⟩ := List.eq_append_cons_of_mem member
    rw [partition_at free]
  · rw [if_neg member, partition_free member, List.append_nil]

/-- A tail that is put back is what was taken off, unless that was the separator alone. -/
theorem tailOf_cutOff (sep : Char) (s : Text) :
    (tailOf sep (partition sep s).2.2).length ≤ (cutOff sep s).length ∧
      ((tailOf sep (partition sep s).2.2).length = (cutOff sep s).length →
        sep ∈ s → (partition sep s).2.2 ≠ []) ∧
      ((sep ∈ s → (partition sep s).2.2 ≠ []) →
        tailOf sep (partition sep s).2.2 = cutOff sep s) := by
  unfold tailOf cutOff
  by_cases member : sep ∈ s
  · simp only [if_pos member]
    cases (partition sep s).2.2 <;> simp [member]
  · rw [if_neg member, partition_free member]
    simp [member]

theorem tails_iff (rest : Text) :
    tailOf '?' (partition '?' (partition '#' rest).1).2.2 ++ tailOf '#' (partition '#' rest).2.2 =
        cutOff '?' (partition '#' rest).1 ++ cutOff '#' rest ↔
      ('?' ∈ (partition '#' rest).1 → (partition '?' (partition '#' rest).1).2.2 ≠ []) ∧
        ('#' ∈ rest → (partition '#' rest).2.2 ≠ []) := by
  obtain ⟨shortQuery, lossQuery, keptQuery⟩ := tailOf_cutOff '?' (partition '#' rest).1
  obtain ⟨shortFragment, lossFragment, keptFragment⟩ := tailOf_cutOff '#' rest
  constructor
  · intro same
    have lengths := congrArg List.length same
    rw [List.length_append, List.length_append] at lengths
    exact ⟨lossQuery (by omega), lossFragment (by omega)⟩
  · rintro ⟨query, fragment⟩
    rw [keptQuery query, keptFragment fragment]

theorem two_of_partition {sep : Char} {s : Text}
    (starts : (partition sep s).1.take 2 = ['/', '/']) : s.take 2 = ['/', '/'] := by
  obtain ⟨rest, whole⟩ := partition_prefix sep s
  have long := congrArg List.length starts
  simp only [List.length_take, List.length_cons, List.length_nil] at long
  rw [whole, List.take_append_of_le_length (by omega)]
  exact starts

section bare
variable {text : Text} (bare : splitScheme text = ([], text)) (clean : cleanUrl text = text)
include bare clean

theorem splitParts_bare :
    splitParts text =
      { scheme := []
        netloc := (authorityOf text).1
        path := (partition '?' (partition '#' (authorityOf text).2).1).1
        query := (partition '?' (partition '#' (authorityOf text).2).1).2.2
        fragment := (partition '#' (authorityOf text).2).2.2 } := by
  rw [splitParts_eq, clean, bare]

/-- A clean text without a scheme is put together to itself if its marks stand before
    something. -/
theorem urlunsplit_bare_iff :
    urlunsplit (splitParts text) = text ↔
      (text.take 2 = ['/', '/'] →
          (splitParts text).netloc ≠ [] ∨ (splitParts text).path.take 2 = ['/', '/']) ∧
        ('?' ∈ (partition '#' text).1 → (splitParts text).query ≠ []) ∧
        ('#' ∈ text → (splitParts text).fragment ≠ []) := by
  have parts := splitParts_bare bare clean
  obtain ⟨shortQuery, _, _⟩ := tailOf_cutOff '?' (partition '#' (authorityOf text).2).1
  obtain ⟨shortFragment, _, _⟩ := tailOf_cutOff '#' (authorityOf text).2
  have tails := tails_iff (authorityOf text).2
  have whole : (partition '?' (partition '#' (authorityOf text).2).1).1 ++
      (cutOff '?' (partition '#' (authorityOf text).2).1 ++ cutOff '#' (authorityOf text).2) =
      (authorityOf text).2 := by
    rw [← List.append_assoc, partition_cutOff, partition_cutOff]
  have pathStart := pathOf_head (authorityOf text).2
  obtain ⟨inside, shape⟩ := authorityOf_spec text
  rw [urlunsplit_eq, parts]
  simp only [List.isEmpty_nil, if_true]
  unfold SplitResult.body SplitResult.slashed
  rcases shape with ⟨none, same, noSlashes⟩ | ⟨split, ends⟩
  · rw [same] at tails whole ⊢
    rw [none]
    have unslashed : (partition '?' (partition '#' text).1).1.take 2 ≠ ['/', '/'] :=
      fun slashes => noSlashes (two_of_partition (two_of_partition slashes))
    simp only [List.isEmpty_nil, Bool.not_true, Bool.false_and, Bool.or_false, Bool.false_or,
      beq_iff_eq, if_neg unslashed]
    rw [← tails]
    conv_lhs => rhs; rw [← whole]
    rw [List.append_cancel_left_eq]
    simp [noSlashes]
  · generalize authorityOf text = authority at *
    obtain ⟨netloc, rest⟩ := authority
    dsimp only at *
    have outside {c : Char} (ends : endsAuthority c = true) (other : c ≠ '/') :
        c ∉ '/' :: '/' :: netloc := by
      have free : c ∉ netloc := fun member => by simp [inside c member] at ends
      simp [other, free]
    have hash := outside (c := '#') rfl (by decide)
    have question := outside (c := '?') rfl (by decide)
    have regroup : text = ('/' :: '/' :: netloc) ++ rest := by simpa using split
    have inText : '#' ∈ text ↔ '#' ∈ rest := by
      rw [regroup, List.mem_append]
      simp [hash]
    have inFront : '?' ∈ (partition '#' text).1 ↔ '?' ∈ (partition '#' rest).1 := by
      rw [regroup, partition_append hash, List.mem_append]
      simp [question]
    have starts : text.take 2 = ['/', '/'] := by rw [split]; rfl
    have rooted : rootedPath (partition '?' (partition '#' rest).1).1 =
        (partition '?' (partition '#' rest).1).1 := by
      have noMark := (partition_spec '?' (partition '#' rest).1).1
      have noHash : '#' ∉ (partition '?' (partition '#' rest).1).1 := fun member =>
        (partition_spec '#' rest).1 ((partition_subset '?' _).1 '#' member)
      unfold rootedPath
      rw [if_neg]
      cases path : (partition '?' (partition '#' rest).1).1 with
      | nil => simp
      | cons c more =>
        rw [path] at pathStart noMark noHash
        have ended := ends c (pathStart c rfl)
        simp only [endsAuthority, Bool.or_eq_true, beq_iff_eq] at ended
        simp only [List.mem_cons, not_or] at noMark noHash
        rcases ended with (slash | mark) | mark
        · simp [slash]
        · exact absurd mark.symm noMark.1
        · exact absurd mark.symm noHash.1
    rw [inText, inFront, ← tails, rooted]
    generalize (partition '?' (partition '#' rest).1).1 = path at *
    by_cases slashed : netloc ≠ [] ∨ path.take 2 = ['/', '/']
    · rw [if_pos (by simpa using slashed), and_iff_right fun _ => slashed]
      conv_lhs => rhs; rw [split, ← whole]
      simp
    · have shorter : (path ++ (tailOf '?' (partition '?' (partition '#' rest).1).2.2 ++
          tailOf '#' (partition '#' rest).2.2)).length < text.length := by
        have long := congrArg List.length whole
        rw [split]
        simp only [List.length_append, List.length_cons] at long ⊢
        omega
      rw [if_neg (by simpa using slashed)]
      constructor
      · intro same
        rw [same] at shorter
        omega
      · intro both
        exact absurd (both.1 starts) slashed

end bare

theorem splitScheme_bare {s : Text} (none : (splitScheme s).1 = []) : splitScheme s = ([], s) := by
  rcases splitScheme_cases s with noScheme | ⟨head, tail, rfl, is⟩
  · exact splitScheme_none noScheme
  · rw [splitScheme_some is] at none
    exact absurd (List.map_eq_nil_iff.mp none) (schemeHead_some is)

theorem urlunsplit_eq_iff {text : Text} (scheme : (splitParts text).scheme = []) :
    urlunsplit (splitParts text) = text ↔ Rejoins text := by
  have bare : splitScheme (cleanUrl text) = ([], cleanUrl text) := splitScheme_bare scheme
  constructor
  · intro same
    have split := splitParts_isSplit text
    have clean := urlunsplit_clean split
    have front := urlunsplit_front split
    rw [same] at clean front
    have kept := cleanUrl_eq clean front
    rw [kept] at bare
    obtain ⟨slashes, query, fragment⟩ := (urlunsplit_bare_iff bare kept).mp same
    exact ⟨clean, front, slashes, query, fragment⟩
  · intro rejoins
    have kept := cleanUrl_eq rejoins.clean rejoins.front
    rw [kept] at bare
    exact (urlunsplit_bare_iff bare kept).mpr ⟨rejoins.slashes, rejoins.query, rejoins.fragment⟩

/-! A url of a scheme, an authority, a path and a fragment. -/

/-- The url that is written with the slashes of its authority, even of an empty one. -/
def slashedUrl (scheme netloc path fragment : Text) : Text :=
  scheme ++ ':' :: '/' :: '/' :: (netloc ++ (path ++ tailOf '#' fragment))

theorem splitParts_slashedUrl {scheme netloc path fragment : Text}
    (named : schemeHead scheme = true)
    (split : IsSplit ⟨scheme, netloc, '/' :: path, [], fragment⟩) :
    splitParts (slashedUrl scheme netloc ('/' :: path) fragment) =
      ⟨scheme, netloc, '/' :: path, [], fragment⟩ := by
  have same : scheme.map Char.toLower = scheme := by
    rcases split.scheme with none | ⟨_, same⟩
    · have none : scheme = [] := none
      rw [none]
      rfl
    · exact same
  have cleanParts := split.clean
  have clean : ∀ c ∈ slashedUrl scheme netloc ('/' :: path) fragment, isLineChar c = false := by
    intro c member
    simp only [slashedUrl, List.mem_append, List.mem_cons] at member cleanParts
    rcases member with inScheme | rfl | rfl | rfl | inNetloc | (rfl | inPath) | inFragment
    · exact schemeHead_clean named c inScheme
    · rfl
    · rfl
    · rfl
    · exact cleanParts c (.inl (.inl (.inl inNetloc)))
    · rfl
    · exact cleanParts c (.inl (.inl (.inr (.inr inPath))))
    · have plain : ∀ d ∈ fragment, isLineChar d = false := fun d inside => cleanParts d (.inr inside)
      exact tailOf_clean rfl plain c inFragment
  have front : ∀ c ∈ (slashedUrl scheme netloc ('/' :: path) fragment).head?, 32 < c.toNat := by
    intro c first
    apply schemeHead_high named
    cases scheme with
    | nil => cases named
    | cons d scheme => exact first
  have netlocEnds : splitNetloc ('/' :: '/' :: (netloc ++ ('/' :: path ++ tailOf '#' fragment))) =
      some (netloc, '/' :: path ++ tailOf '#' fragment) := by
    apply splitNetloc_some split.netloc
    intro c first
    cases first
    rfl
  have tails := tails_read fragment split.path (List.not_mem_nil : '#' ∉ ([] : Text))
  rw [splitParts_eq, cleanUrl_eq clean front]
  unfold slashedUrl
  rw [splitScheme_some named, same]
  dsimp only
  unfold authorityOf
  have hash : partition '#' ('/' :: path ++ tailOf '#' fragment) =
      ('/' :: path ++ tailOf '?' [], !fragment.isEmpty, fragment) := tails.1
  rw [netlocEnds]
  dsimp only [Option.getD_some]
  rw [hash]
  dsimp only
  rw [tails.2]

end UrlSplit
