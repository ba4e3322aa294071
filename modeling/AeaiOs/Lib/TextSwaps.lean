import AeaiOs.Lib.UrlParts
import Mathlib.Algebra.GroupWithZero.Nat

/-!
Texts that differ in occurrences of one piece for another, and how a text is split and
decoded beside its swapped copy.
-/
namespace UrlSplit
open PyText

/-- The second text is the first with so many occurrences of `old` swapped for `new`. -/
inductive Swapped (old new : Text) : Nat → Text → Text → Prop where
  | nil : Swapped old new 0 [] []
  | keep (c : Char) {n : Nat} {s t : Text} :
      Swapped old new n s t → Swapped old new n (c :: s) (c :: t)
  | swap {n : Nat} {s t : Text} :
      Swapped old new n s t → Swapped old new (n + 1) (old ++ s) (new ++ t)

namespace Swapped
variable {old new s t : Text} {n : Nat}

theorem refl (s : Text) : Swapped old new 0 s s := by
  induction s with
  | nil => exact .nil
  | cons c s ih => exact .keep c ih

theorem eq_of_zero (swapped : Swapped old new 0 s t) : s = t := by
  generalize zero : 0 = n at swapped
  induction swapped with
  | nil => rfl
  | keep c _ ih => rw [ih zero]
  | swap _ _ => omega

theorem length (swapped : Swapped old new n s t) :
    t.length + n * old.length = s.length + n * new.length := by
  induction swapped with
  | nil => simp
  | keep c _ ih =>
    simp only [List.length_cons]
    omega
  | swap _ ih =>
    simp only [List.length_append, Nat.add_mul, Nat.one_mul]
    omega

/-- The first of the occurrences that were swapped. -/
theorem first (swapped : Swapped old new (n + 1) s t) :
    ∃ front s' t', s = front ++ (old ++ s') ∧ t = front ++ (new ++ t') ∧ Swapped old new n s' t' := by
  generalize some : n + 1 = m at swapped
  induction swapped with
  | nil => omega
  | keep c _ ih =>
    obtain ⟨front, s', t', rfl, rfl, rest⟩ := ih some
    exact ⟨c :: front, s', t', rfl, rfl, rest⟩
  | swap rest _ =>
    cases some
    exact ⟨[], _, _, rfl, rfl, rest⟩

theorem free_of_mem {c : Char} (inOld : c ∈ old) (swapped : Swapped old new n s t) (free : c ∉ s) :
    n = 0 := by
  cases n with
  | zero => rfl
  | succ n =>
    obtain ⟨front, s', t', rfl, _⟩ := swapped.first
    exact absurd (by simp [inOld]) free

theorem count {c : Char} (inOld : c ∉ old) (inNew : c ∉ new) (swapped : Swapped old new n s t) :
    s.count c = t.count c := by
  induction swapped with
  | nil => rfl
  | keep d _ ih => rw [List.count_cons, List.count_cons, ih]
  | swap _ ih =>
    rw [List.count_append, List.count_append, List.count_eq_zero_of_not_mem inOld,
      List.count_eq_zero_of_not_mem inNew, ih]

theorem partition {sep : Char} (inOld : sep ∉ old) (inNew : sep ∉ new)
    (swapped : Swapped old new n s t) :
    ∃ m k, m + k = n ∧ Swapped old new m (PyText.partition sep s).1 (PyText.partition sep t).1 ∧
      (PyText.partition sep s).2.1 = (PyText.partition sep t).2.1 ∧
      Swapped old new k (PyText.partition sep s).2.2 (PyText.partition sep t).2.2 := by
  induction swapped with
  | nil => exact ⟨0, 0, rfl, .nil, rfl, .nil⟩
  | keep c rest ih =>
    unfold PyText.partition
    split
    · exact ⟨0, _, by omega, .nil, rfl, rest⟩
    · obtain ⟨m, k, sum, front, same, back⟩ := ih
      exact ⟨m, k, sum, .keep c front, same, back⟩
  | swap rest ih =>
    rw [partition_append inOld, partition_append inNew]
    obtain ⟨m, k, sum, front, same, back⟩ := ih
    exact ⟨m + 1, k, by omega, .swap front, same, back⟩

theorem filter {p : Char → Bool} (inOld : ∀ c ∈ old, p c = true) (inNew : ∀ c ∈ new, p c = true)
    (swapped : Swapped old new n s t) : Swapped old new n (s.filter p) (t.filter p) := by
  induction swapped with
  | nil => exact .nil
  | keep c _ ih =>
    rw [List.filter_cons, List.filter_cons]
    split
    · exact .keep c ih
    · exact ih
  | swap _ ih =>
    rw [List.filter_append, List.filter_append, List.filter_eq_self.mpr inOld,
      List.filter_eq_self.mpr inNew]
    exact .swap ih

/-- What is dropped from the front ends before the first occurrence. -/
theorem dropWhile {p : Char → Bool} (ofOld : ∃ c rest, old = c :: rest ∧ p c = false)
    (ofNew : ∃ c rest, new = c :: rest ∧ p c = false) (swapped : Swapped old new n s t) :
    Swapped old new n (s.dropWhile p) (t.dropWhile p) := by
  induction swapped with
  | nil => exact .nil
  | keep c rest ih =>
    rw [List.dropWhile_cons, List.dropWhile_cons]
    split
    · exact ih
    · exact .keep c rest
  | swap rest _ =>
    obtain ⟨c, oldRest, isOld, stopOld⟩ := ofOld
    obtain ⟨d, newRest, isNew, stopNew⟩ := ofNew
    have whole := Swapped.swap rest
    rw [isOld, isNew] at whole ⊢
    rw [List.cons_append, List.dropWhile_cons_of_neg (by simp [stopOld]), List.cons_append,
      List.dropWhile_cons_of_neg (by simp [stopNew])]
    exact whole

/-- What is taken from the front may hold occurrences, and what is left. -/
theorem span {p : Char → Bool} (inOld : ∀ c ∈ old, p c = true) (inNew : ∀ c ∈ new, p c = true)
    (swapped : Swapped old new n s t) :
    ∃ m k, m + k = n ∧ Swapped old new m (s.takeWhile p) (t.takeWhile p) ∧
      Swapped old new k (s.dropWhile p) (t.dropWhile p) := by
  induction swapped with
  | nil => exact ⟨0, 0, rfl, .nil, .nil⟩
  | keep c rest ih =>
    obtain ⟨m, k, sum, front, back⟩ := ih
    rw [List.takeWhile_cons, List.takeWhile_cons, List.dropWhile_cons, List.dropWhile_cons]
    split
    · exact ⟨m, k, sum, .keep c front, back⟩
    · exact ⟨0, _, by omega, .nil, .keep c rest⟩
  | swap _ ih =>
    obtain ⟨m, k, sum, front, back⟩ := ih
    rw [List.takeWhile_append_of_pos inOld, List.takeWhile_append_of_pos inNew,
      List.dropWhile_append_of_pos inOld, List.dropWhile_append_of_pos inNew]
    exact ⟨m + 1, k, by omega, .swap front, back⟩

end Swapped

/-! `str.replace` swaps every occurrence. -/

theorem dropPrefix_some {s needle rest : Text} (found : dropPrefix? s needle = some rest) :
    s = needle ++ rest := by
  induction needle generalizing s with
  | nil =>
    cases s <;> cases found <;> rfl
  | cons d needle ih =>
    cases s with
    | nil => cases found
    | cons c s =>
      simp only [dropPrefix?] at found
      split at found
      · rename_i same
        rw [same, ih found, List.cons_append]
      · cases found

theorem dropPrefix_shorter {old rest : Text} {c : Char} {s : Text} (nonempty : old ≠ [])
    (found : dropPrefix? (c :: s) old = some rest) : rest.length ≤ s.length := by
  have lengths := congrArg List.length (dropPrefix_some found)
  have positive := List.length_pos_of_ne_nil nonempty
  simp only [List.length_cons, List.length_append] at lengths
  omega

theorem replaceText_swapped {old new : Text} (nonempty : old ≠ []) (fuel : Nat) {s : Text}
    (enough : s.length ≤ fuel) :
    ∃ n, Swapped old new n s (replaceText old new fuel s) ∧ (n = 0 ↔ contains s old = false) := by
  induction fuel generalizing s with
  | zero =>
    have empty : s = [] := List.eq_nil_of_length_eq_zero (by omega)
    subst empty
    exact ⟨0, .nil, by simpa [contains] using nonempty⟩
  | succ fuel ih =>
    cases s with
    | nil => exact ⟨0, .nil, by simpa [replaceText, contains] using nonempty⟩
    | cons c s =>
      rw [replaceText, contains]
      simp only [List.length_cons] at enough
      cases found : dropPrefix? (c :: s) old with
      | some rest =>
        have whole := dropPrefix_some found
        have shorter := dropPrefix_shorter nonempty found
        obtain ⟨n, swapped, _⟩ := ih (s := rest) (by omega)
        refine ⟨n + 1, ?_, by simp⟩
        rw [whole]
        exact .swap swapped
      | none =>
        obtain ⟨n, swapped, zero⟩ := ih (s := s) (by omega)
        exact ⟨n, .keep c swapped, by simpa using zero⟩

theorem replace_swapped {old new : Text} (nonempty : old ≠ []) (s : Text) :
    ∃ n, Swapped old new n s (replace s old new) ∧ (n = 0 ↔ contains s old = false) :=
  replaceText_swapped nonempty s.length (le_refl _)

theorem replaceText_enough {old new : Text} (nonempty : old ≠ []) {first second : Nat} {s : Text}
    (low : s.length ≤ first) (high : s.length ≤ second) :
    replaceText old new first s = replaceText old new second s := by
  induction first generalizing second s with
  | zero =>
    have empty : s = [] := List.eq_nil_of_length_eq_zero (by omega)
    subst empty
    cases second <;> rfl
  | succ first ih =>
    cases s with
    | nil => cases second <;> rfl
    | cons c s =>
      cases second with
      | zero => simp at high
      | succ second =>
        simp only [List.length_cons] at low high
        rw [replaceText, replaceText]
        cases found : dropPrefix? (c :: s) old with
        | none => exact congrArg (c :: ·) (ih (by omega) (by omega))
        | some rest =>
          have shorter := dropPrefix_shorter nonempty found
          exact congrArg (new ++ ·) (ih (by omega) (by omega))

theorem dropPrefix_cut {sep : Char} {needle : Text} (free : sep ∉ needle) (front back : Text) :
    dropPrefix? (front ++ sep :: back) needle =
      (dropPrefix? front needle).map fun rest => rest ++ sep :: back := by
  induction needle generalizing front with
  | nil => cases front <;> rfl
  | cons d needle ih =>
    simp only [List.mem_cons, not_or] at free
    cases front with
    | nil => simp [dropPrefix?, free.1]
    | cons c front =>
      simp only [List.cons_append, dropPrefix?]
      split
      · exact ih free.2 front
      · rfl

theorem replace_cons {old : Text} (nonempty : old ≠ []) (new : Text) (c : Char) (s : Text) :
    replace (c :: s) old new =
      match dropPrefix? (c :: s) old with
      | some rest => new ++ replace rest old new
      | none => c :: replace s old new := by
  unfold replace
  simp only [List.length_cons, replaceText]
  cases found : dropPrefix? (c :: s) old with
  | none => rfl
  | some rest =>
    exact congrArg (new ++ ·)
      (replaceText_enough nonempty (dropPrefix_shorter nonempty found) (le_refl rest.length))

/-- A character that is not in `old` cuts the text. -/
theorem replace_cut {sep : Char} {old : Text} (nonempty : old ≠ []) (free : sep ∉ old)
    (front back new : Text) :
    replace (front ++ sep :: back) old new = replace front old new ++ sep :: replace back old new := by
  induction size : front.length using Nat.strong_induction_on generalizing front with
  | _ n ih =>
    cases front with
    | nil =>
      rw [List.nil_append, replace_cons nonempty, ← List.nil_append (sep :: back), dropPrefix_cut free]
      cases old with
      | nil => exact absurd rfl nonempty
      | cons d old => rfl
    | cons c front =>
      simp only [List.length_cons] at size
      rw [List.cons_append, replace_cons nonempty, ← List.cons_append, dropPrefix_cut free,
        replace_cons nonempty]
      cases found : dropPrefix? (c :: front) old with
      | none => simp [ih front.length (by omega) front rfl]
      | some rest =>
        have shorter := dropPrefix_shorter nonempty found
        simp [ih rest.length (by omega) rest rfl]

/-! Decoding. -/

/-- A piece that is decoded to itself wherever it stands. -/
structure Literal (piece : Text) : Prop where
  breaks : ∃ c rest, piece = c :: rest ∧ IsBreak c
  plain : ∀ c ∈ piece, c ≠ '%' ∧ c ≠ '+'

theorem unquote_plain {front : Text} (plain : ∀ c ∈ front, c ≠ '%') (s : Text) :
    unquote (front ++ s) = front ++ unquote s := by
  induction front with
  | nil => rfl
  | cons c front ih =>
    rw [List.cons_append, unquote_cons fun _ => plain c List.mem_cons_self,
      ih fun d member => plain d (List.mem_cons_of_mem c member), List.cons_append]

theorem unquotePlus_literal {piece : Text} (literal : Literal piece) (x y : Text) :
    unquotePlus (x ++ (piece ++ y)) = unquotePlus x ++ (piece ++ unquotePlus y) := by
  obtain ⟨c, rest, rfl, breaks⟩ := literal.breaks
  have same : (c :: rest).map plusToSpace = c :: rest :=
    map_plusToSpace fun d member => (literal.plain d member).2
  have whole (s : Text) : unquotePlus s = unquote (s.map plusToSpace) := rfl
  rw [whole, whole, whole, List.map_append, List.map_append, same, List.cons_append,
    unquote_cut breaks,
    unquote_plain fun d member => (literal.plain d (List.mem_cons_of_mem c member)).1]
  rfl

namespace Swapped
variable {old new s t : Text} {n : Nat}

theorem append {m : Nat} {x y : Text} (front : Swapped old new m x y)
    (back : Swapped old new n s t) : Swapped old new (m + n) (x ++ s) (y ++ t) := by
  induction front with
  | nil => simpa using back
  | keep c _ ih => exact .keep c ih
  | swap _ ih =>
    rw [List.append_assoc, List.append_assoc, Nat.add_right_comm]
    exact .swap ih

theorem unquotePlus (ofOld : Literal old) (ofNew : Literal new) (swapped : Swapped old new n s t) :
    Swapped old new n (UrlSplit.unquotePlus s) (UrlSplit.unquotePlus t) := by
  induction n generalizing s t with
  | zero =>
    rw [swapped.eq_of_zero]
    exact refl _
  | succ n ih =>
    obtain ⟨front, s', t', rfl, rfl, rest⟩ := swapped.first
    rw [unquotePlus_literal ofOld, unquotePlus_literal ofNew]
    have kept : Swapped old new 0 (UrlSplit.unquotePlus front) (UrlSplit.unquotePlus front) := refl _
    rw [← Nat.zero_add (n + 1)]
    exact kept.append (.swap (ih rest))

theorem isEmpty (some : old ≠ []) (someNew : new ≠ []) (swapped : Swapped old new n s t) :
    s.isEmpty = t.isEmpty := by
  cases swapped with
  | nil => rfl
  | keep c _ => rfl
  | swap _ =>
    cases old with
    | nil => exact absurd rfl some
    | cons c old =>
      cases new with
      | nil => exact absurd rfl someNew
      | cons d new => rfl

theorem zero_of_nil (some : old ≠ []) (swapped : Swapped old new n [] t) : n = 0 := by
  generalize empty : [] = s at swapped
  cases swapped with
  | nil => rfl
  | keep c _ => cases empty
  | swap _ => exact absurd (List.append_eq_nil_iff.mp empty.symm).1 some

end Swapped

/-- Pieces that are swapped one by one. -/
inductive SwappedPieces (old new : Text) : Nat → List Text → List Text → Prop where
  | nil : SwappedPieces old new 0 [] []
  | cons {m n : Nat} {s t : Text} {ss ts : List Text} :
      Swapped old new m s t → SwappedPieces old new n ss ts →
        SwappedPieces old new (m + n) (s :: ss) (t :: ts)

theorem splitOn_front {sep : Char} {front : Text} (free : sep ∉ front) (s : Text) :
    ∃ piece pieces, splitOn sep s = piece :: pieces ∧
      splitOn sep (front ++ s) = (front ++ piece) :: pieces := by
  induction front with
  | nil =>
    cases whole : splitOn sep s with
    | nil =>
      cases s with
      | nil => cases whole
      | cons c s =>
        simp only [splitOn] at whole
        split at whole
        · cases whole
        · split at whole <;> cases whole
    | cons piece pieces => exact ⟨piece, pieces, rfl, by simpa using whole⟩
  | cons c front ih =>
    simp only [List.mem_cons, not_or] at free
    obtain ⟨piece, pieces, whole, joined⟩ := ih free.2
    exact ⟨piece, pieces, whole, by simp [splitOn, Ne.symm free.1, joined]⟩

theorem Swapped.splitOn {old new s t : Text} {n : Nat} {sep : Char} (inOld : sep ∉ old)
    (inNew : sep ∉ new) (swapped : Swapped old new n s t) :
    SwappedPieces old new n (PyText.splitOn sep s) (PyText.splitOn sep t) := by
  induction swapped with
  | nil => exact .cons .nil .nil
  | @keep c n s t _ ih =>
    by_cases same : c = sep
    · rw [PyText.splitOn, PyText.splitOn, if_pos same, if_pos same, ← Nat.zero_add n]
      exact .cons .nil ih
    · have free : sep ∉ [c] := by simpa using Ne.symm same
      obtain ⟨piece, pieces, whole, joined⟩ := splitOn_front free s
      obtain ⟨piece', pieces', whole', joined'⟩ := splitOn_front free t
      have front : PyText.splitOn sep (c :: s) = (c :: piece) :: pieces := joined
      have front' : PyText.splitOn sep (c :: t) = (c :: piece') :: pieces' := joined'
      rw [front, front']
      rw [whole, whole'] at ih
      cases ih with
      | cons first rest => exact .cons (.keep c first) rest
  | @swap n s t _ ih =>
    obtain ⟨piece, pieces, whole, joined⟩ := splitOn_front inOld s
    obtain ⟨piece', pieces', whole', joined'⟩ := splitOn_front inNew t
    rw [joined, joined']
    rw [whole, whole'] at ih
    cases ih with
    | @cons m k _ _ _ _ first rest =>
      rw [Nat.add_right_comm]
      exact .cons (.swap first) rest

/-- A field of a query as `parse_qsl` decodes it. -/
def decodeField (field : Text) : Text × Text :=
  (unquotePlus (partition '=' field).1, unquotePlus (partition '=' field).2.2)

theorem parseQsl_eq (qs : Text) :
    parseQsl qs = ((splitOn '&' qs).filter fun field => !field.isEmpty).map decodeField := by
  unfold parseQsl
  split
  · rename_i empty
    rw [List.isEmpty_iff.mp empty]
    rfl
  · rfl

/-- Decoded fields whose names and values are swapped. -/
inductive SwappedPairs (old new : Text) :
    Nat → Nat → List (Text × Text) → List (Text × Text) → Prop where
  | nil : SwappedPairs old new 0 0 [] []
  | cons {i j m k : Nat} {name name' value value' : Text} {ps qs : List (Text × Text)} :
      Swapped old new i name name' → Swapped old new j value value' →
        SwappedPairs old new m k ps qs →
          SwappedPairs old new (i + m) (j + k) ((name, value) :: ps) ((name', value') :: qs)

theorem Swapped.parseQsl {old new s t : Text} {n : Nat} (ofOld : Literal old) (ofNew : Literal new)
    (inOld : '&' ∉ old ∧ '=' ∉ old) (inNew : '&' ∉ new ∧ '=' ∉ new)
    (swapped : Swapped old new n s t) :
    ∃ m k, m + k = n ∧ SwappedPairs old new m k (UrlSplit.parseQsl s) (UrlSplit.parseQsl t) := by
  have someOld : old ≠ [] := by
    obtain ⟨c, rest, rfl, _⟩ := ofOld.breaks
    simp
  have someNew : new ≠ [] := by
    obtain ⟨c, rest, rfl, _⟩ := ofNew.breaks
    simp
  rw [parseQsl_eq, parseQsl_eq]
  have pieces := swapped.splitOn inOld.1 inNew.1
  generalize PyText.splitOn '&' s = ss at pieces ⊢
  generalize PyText.splitOn '&' t = ts at pieces ⊢
  clear swapped
  induction pieces with
  | nil => exact ⟨0, 0, rfl, .nil⟩
  | @cons m k s t ss ts first _ ih =>
    rw [List.filter_cons, List.filter_cons, first.isEmpty someOld someNew]
    obtain ⟨names, values, sum, pairs⟩ := ih
    obtain ⟨i, j, sum', name, _, value⟩ := first.partition inOld.2 inNew.2
    split
    · exact ⟨i + names, j + values, by omega,
        .cons (name.unquotePlus ofOld ofNew) (value.unquotePlus ofOld ofNew) pairs⟩
    · rename_i empty
      have none : t = [] := by simpa using empty
      have noneFirst : s = [] := by simpa [none] using first.isEmpty someOld someNew
      subst none noneFirst
      have zero := first.zero_of_nil someOld
      exact ⟨names, values, by omega, pairs⟩

namespace SwappedPairs
variable {old new : Text} {m k : Nat} {ps qs : List (Text × Text)}

theorem names_length (swapped : SwappedPairs old new m k ps qs) :
    (qs.map fun pair => pair.1.length).sum + m * old.length =
      (ps.map fun pair => pair.1.length).sum + m * new.length := by
  induction swapped with
  | nil => simp
  | cons name _ _ ih =>
    have size := name.length
    simp only [List.map_cons, List.sum_cons, Nat.add_mul]
    omega

theorem values_length (swapped : SwappedPairs old new m k ps qs) :
    (qs.map fun pair => pair.2.length).sum + k * old.length =
      (ps.map fun pair => pair.2.length).sum + k * new.length := by
  induction swapped with
  | nil => simp
  | cons _ value _ ih =>
    have size := value.length
    simp only [List.map_cons, List.sum_cons, Nat.add_mul]
    omega

theorem zero_of_equal {size : Nat} (longer : old.length < new.length)
    (same : size + k * old.length = size + k * new.length) : k = 0 := by
  cases k with
  | zero => rfl
  | succ k =>
    have more : (k + 1) * old.length < (k + 1) * new.length :=
      Nat.mul_lt_mul_of_pos_left longer (Nat.succ_pos k)
    omega

end SwappedPairs

/-! The parts of a url. -/

/-- A piece that stands within one part of a url and makes no scheme. -/
structure Unsplit (piece : Text) : Prop where
  front : ∃ c rest, piece = c :: rest ∧ 32 < c.toNat
  inner : ∀ c ∈ piece, isLineChar c = false ∧ endsAuthority c = false ∧ c ≠ ':'
  odd : ∃ c ∈ piece, isSchemeChar c = false

namespace Unsplit
variable {piece : Text}

theorem free (unsplit : Unsplit piece) : ':' ∉ piece ∧ '?' ∉ piece ∧ '#' ∉ piece := by
  refine ⟨fun member => (unsplit.inner ':' member).2.2 rfl, fun member => ?_, fun member => ?_⟩
  · exact absurd (unsplit.inner '?' member).2.1 (by decide)
  · exact absurd (unsplit.inner '#' member).2.1 (by decide)

theorem nonempty (unsplit : Unsplit piece) : piece ≠ [] := by
  obtain ⟨c, rest, rfl, _⟩ := unsplit.front
  simp

theorem noSlash (unsplit : Unsplit piece) : piece.head? ≠ some '/' := by
  intro first
  exact absurd (unsplit.inner '/' (List.mem_of_mem_head? first)).2.1 (by decide)

end Unsplit

namespace Swapped
variable {old new s t : Text} {n : Nat}

theorem cleanUrl (ofOld : Unsplit old) (ofNew : Unsplit new) (swapped : Swapped old new n s t) :
    Swapped old new n (UrlSplit.cleanUrl s) (UrlSplit.cleanUrl t) := by
  have stops {piece : Text} (unsplit : Unsplit piece) :
      ∃ c rest, piece = c :: rest ∧ decide (c.toNat ≤ 32) = false := by
    obtain ⟨c, rest, rfl, high⟩ := unsplit.front
    exact ⟨c, rest, rfl, by simpa using high⟩
  have kept {piece : Text} (unsplit : Unsplit piece) :
      ∀ c ∈ piece, decide (c ≠ '\t' ∧ c ≠ '\r' ∧ c ≠ '\n') = true := by
    intro c member
    have clean := (unsplit.inner c member).1
    simpa [isLineChar, and_assoc] using clean
  exact (swapped.dropWhile (stops ofOld) (stops ofNew)).filter (kept ofOld) (kept ofNew)

theorem odd (ofOld : Unsplit old) (ofNew : Unsplit new) (swapped : Swapped old new (n + 1) s t) :
    (∃ c ∈ s, isSchemeChar c = false) ∧ ∃ c ∈ t, isSchemeChar c = false := by
  obtain ⟨front, s', t', rfl, rfl, _⟩ := swapped.first
  obtain ⟨c, inOld, oddOld⟩ := ofOld.odd
  obtain ⟨d, inNew, oddNew⟩ := ofNew.odd
  exact ⟨⟨c, by simp [inOld], oddOld⟩, ⟨d, by simp [inNew], oddNew⟩⟩

theorem splitScheme (ofOld : Unsplit old) (ofNew : Unsplit new) (swapped : Swapped old new n s t) :
    (UrlSplit.splitScheme s).1 = (UrlSplit.splitScheme t).1 ∧
      Swapped old new n (UrlSplit.splitScheme s).2 (UrlSplit.splitScheme t).2 := by
  rw [splitScheme_eq, splitScheme_eq]
  obtain ⟨m, k, sum, front, found, back⟩ := swapped.partition ofOld.free.1 ofNew.free.1
  rw [found]
  cases m with
  | zero =>
    rw [front.eq_of_zero]
    cases named : (PyText.partition ':' t).2.1 && schemeHead (PyText.partition ':' t).1 with
    | true =>
      rw [Nat.zero_add] at sum
      subst sum
      exact ⟨rfl, back⟩
    | false => exact ⟨rfl, swapped⟩
  | succ m =>
    obtain ⟨⟨c, inS, oddS⟩, d, inT, oddT⟩ := front.odd ofOld ofNew
    rw [schemeHead_false inS oddS, schemeHead_false inT oddT, Bool.and_false]
    exact ⟨rfl, swapped⟩

/-- A first character that begins no piece is on both sides. -/
theorem uncons {c : Char} (ofOld : old.head? ≠ some c) (some : old ≠ [])
    (swapped : Swapped old new n (c :: s) t) : ∃ t', t = c :: t' ∧ Swapped old new n s t' := by
  generalize whole : c :: s = x at swapped
  cases swapped with
  | nil => cases whole
  | keep d rest =>
    cases whole
    exact ⟨_, rfl, rest⟩
  | swap _ =>
    cases old with
    | nil => exact absurd rfl some
    | cons d old =>
      cases whole
      exact absurd rfl ofOld

theorem uncons_right {c : Char} (ofNew : new.head? ≠ some c) (some : new ≠ [])
    (swapped : Swapped old new n s (c :: t)) : ∃ s', s = c :: s' ∧ Swapped old new n s' t := by
  generalize whole : c :: t = x at swapped
  cases swapped with
  | nil => cases whole
  | keep d rest =>
    cases whole
    exact ⟨_, rfl, rest⟩
  | swap _ =>
    cases new with
    | nil => exact absurd rfl some
    | cons d new =>
      cases whole
      exact absurd rfl ofNew

theorem authorityOf (ofOld : Unsplit old) (ofNew : Unsplit new) (swapped : Swapped old new n s t) :
    ∃ m k, m + k = n ∧ Swapped old new m (UrlSplit.authorityOf s).1 (UrlSplit.authorityOf t).1 ∧
      Swapped old new k (UrlSplit.authorityOf s).2 (UrlSplit.authorityOf t).2 := by
  have kept {piece : Text} (unsplit : Unsplit piece) : ∀ c ∈ piece, (!endsAuthority c) = true := by
    intro c member
    rw [(unsplit.inner c member).2.1]
    rfl
  by_cases slashes : ∃ tail, s = '/' :: '/' :: tail
  · obtain ⟨tail, rfl⟩ := slashes
    obtain ⟨t', rfl, once⟩ := swapped.uncons ofOld.noSlash ofOld.nonempty
    obtain ⟨t', rfl, twice⟩ := once.uncons ofOld.noSlash ofOld.nonempty
    rw [authorityOf_slashes, authorityOf_slashes]
    exact twice.span (kept ofOld) (kept ofNew)
  · have others : ¬ ∃ tail, t = '/' :: '/' :: tail := by
      rintro ⟨tail, rfl⟩
      obtain ⟨s', rfl, once⟩ := swapped.uncons_right ofNew.noSlash ofNew.nonempty
      obtain ⟨s', rfl, twice⟩ := once.uncons_right ofNew.noSlash ofNew.nonempty
      exact slashes ⟨s', rfl⟩
    rw [authorityOf_none slashes, authorityOf_none others]
    exact ⟨0, n, by omega, .nil, swapped⟩

theorem splitParts (ofOld : Unsplit old) (ofNew : Unsplit new) (swapped : Swapped old new n s t) :
    (UrlSplit.splitParts s).scheme = (UrlSplit.splitParts t).scheme ∧
      ∃ a b c d, a + (b + c) + d = n ∧
        Swapped old new a (UrlSplit.splitParts s).netloc (UrlSplit.splitParts t).netloc ∧
        Swapped old new b (UrlSplit.splitParts s).path (UrlSplit.splitParts t).path ∧
        Swapped old new c (UrlSplit.splitParts s).query (UrlSplit.splitParts t).query ∧
        Swapped old new d (UrlSplit.splitParts s).fragment (UrlSplit.splitParts t).fragment := by
  rw [splitParts_eq, splitParts_eq]
  obtain ⟨scheme, rest⟩ := (swapped.cleanUrl ofOld ofNew).splitScheme ofOld ofNew
  obtain ⟨a, k, sum, netloc, rest⟩ := rest.authorityOf ofOld ofNew
  obtain ⟨j, d, sum', rest, _, fragment⟩ := rest.partition ofOld.free.2.2 ofNew.free.2.2
  obtain ⟨b, c, sum'', path, _, query⟩ := rest.partition ofOld.free.2.1 ofNew.free.2.1
  exact ⟨scheme, a, b, c, d, by omega, netloc, path, query, fragment⟩

end Swapped
end UrlSplit
