import AeaiOs.Lib.UrlSplit
import Mathlib.Data.List.Basic

/-!
Percent escapes: what is quoted is read back, and a character that can stand in no escape
cuts a text into parts that are read apart.
-/
namespace UrlSplit
open PyText

/-! UTF-8. -/

theorem continuation_length (count acc lo hi : Nat) (bytes : List Nat) :
    (continuation count acc lo hi bytes).2.length ≤ bytes.length := by
  induction bytes generalizing count acc lo hi with
  | nil => cases count <;> simp [continuation]
  | cons b bytes ih =>
    cases count with
    | zero => simp [continuation]
    | succ count =>
      simp only [continuation]
      split
      · have shorter := ih count (acc * 64 + (b - 0x80)) 0x80 0xBF
        simp only [List.length_cons]
        omega
      · simp

theorem decodeBytes_enough {first second : Nat} {bytes : List Nat} (low : bytes.length ≤ first)
    (high : bytes.length ≤ second) : decodeBytes first bytes = decodeBytes second bytes := by
  induction first generalizing second bytes with
  | zero =>
    have empty : bytes = [] := List.eq_nil_of_length_eq_zero (by omega)
    subst empty
    cases second <;> rfl
  | succ first ih =>
    cases bytes with
    | nil => cases second <;> rfl
    | cons b bytes =>
      simp only [List.length_cons] at low high
      cases second with
      | zero => omega
      | succ second =>
        simp only [decodeBytes]
        have whole : decodeBytes first bytes = decodeBytes second bytes := ih (by omega) (by omega)
        rw [whole]
        cases leadByte b with
        | none => rfl
        | some lead =>
          obtain ⟨count, acc, lo, hi⟩ := lead
          have shorter := continuation_length count acc lo hi bytes
          dsimp only
          generalize continuation count acc lo hi bytes = read at shorter ⊢
          obtain ⟨found, rest⟩ := read
          dsimp only at shorter
          have same : decodeBytes first rest = decodeBytes second rest := ih (by omega) (by omega)
          cases found with
          | none => simp only [same]
          | some n => simp only [same]

theorem decodeUtf8_cons (b : Nat) (bytes : List Nat) :
    decodeUtf8 (b :: bytes) =
      if b < 0x80 then Char.ofNat b :: decodeUtf8 bytes
      else
        match leadByte b with
        | none => replacementChar :: decodeUtf8 bytes
        | some (count, acc, lo, hi) =>
            match continuation count acc lo hi bytes with
            | (some n, rest) => Char.ofNat n :: decodeUtf8 rest
            | (none, rest) => replacementChar :: decodeUtf8 rest := by
  unfold decodeUtf8
  simp only [List.length_cons, decodeBytes]
  cases leadByte b with
  | none => rfl
  | some lead =>
    obtain ⟨count, acc, lo, hi⟩ := lead
    have shorter := continuation_length count acc lo hi bytes
    dsimp only
    generalize continuation count acc lo hi bytes = read at shorter ⊢
    obtain ⟨found, rest⟩ := read
    have same : decodeBytes bytes.length rest = decodeBytes rest.length rest :=
      decodeBytes_enough shorter (le_refl rest.length)
    cases found with
    | none => simp only [same]
    | some n => simp only [same]

theorem toNat_valid (c : Char) : c.toNat < 0xD800 ∨ 0xDFFF < c.toNat ∧ c.toNat < 0x110000 := c.valid

theorem decodeUtf8_encodeChar (c : Char) (rest : List Nat) :
    decodeUtf8 (encodeChar c ++ rest) = c :: decodeUtf8 rest := by
  have valid := toNat_valid c
  have same := Char.ofNat_toNat c
  unfold encodeChar
  generalize c.toNat = n at valid same ⊢
  dsimp only
  split_ifs with one two three
  · rw [List.singleton_append, decodeUtf8_cons, if_pos one, same]
  · have lead : leadByte (0xC0 + n / 64) = some (1, n / 64, 0x80, 0xBF) := by
      unfold leadByte
      rw [if_pos (by omega)]
      simp
    have tail : 0x80 ≤ 0x80 + n % 64 ∧ 0x80 + n % 64 ≤ 0xBF := by omega
    have value : n / 64 * 64 + (0x80 + n % 64 - 0x80) = n := by omega
    simp only [List.cons_append, List.nil_append]
    rw [decodeUtf8_cons, if_neg (by omega), lead]
    simp only [continuation, if_pos tail, value, same]
  · have lead : ∃ lo hi, leadByte (0xE0 + n / 4096) = some (2, n / 4096, lo, hi) ∧
        lo ≤ 0x80 + n / 64 % 64 ∧ 0x80 + n / 64 % 64 ≤ hi := by
      by_cases low : n / 4096 = 0
      · exact ⟨0xA0, 0xBF, by rw [low]; rfl, by omega, by omega⟩
      by_cases surrogates : n / 4096 = 13
      · exact ⟨0x80, 0x9F, by rw [surrogates]; rfl, by omega, by omega⟩
      · refine ⟨0x80, 0xBF, ?_, by omega, by omega⟩
        unfold leadByte
        rw [if_neg (by omega), if_neg (by omega), if_neg (by omega), if_pos (by omega)]
        simp
    obtain ⟨lo, hi, lead, first⟩ := lead
    have last : 0x80 ≤ 0x80 + n % 64 ∧ 0x80 + n % 64 ≤ 0xBF := by omega
    have value : (n / 4096 * 64 + (0x80 + n / 64 % 64 - 0x80)) * 64 + (0x80 + n % 64 - 0x80) = n := by
      omega
    simp only [List.cons_append, List.nil_append]
    rw [decodeUtf8_cons, if_neg (by omega), lead]
    simp only [continuation, if_pos first, if_pos last, value, same]
  · have lead : ∃ lo hi, leadByte (0xF0 + n / 262144) = some (3, n / 262144, lo, hi) ∧
        lo ≤ 0x80 + n / 4096 % 64 ∧ 0x80 + n / 4096 % 64 ≤ hi := by
      by_cases low : n / 262144 = 0
      · exact ⟨0x90, 0xBF, by rw [low]; rfl, by omega, by omega⟩
      by_cases last : n / 262144 = 4
      · exact ⟨0x80, 0x8F, by rw [last]; rfl, by omega, by omega⟩
      · refine ⟨0x80, 0xBF, ?_, by omega, by omega⟩
        unfold leadByte
        rw [if_neg (by omega), if_neg (by omega), if_neg (by omega), if_neg (by omega),
          if_neg (by omega), if_pos (by omega)]
        simp
    obtain ⟨lo, hi, lead, first⟩ := lead
    have third : 0x80 ≤ 0x80 + n / 64 % 64 ∧ 0x80 + n / 64 % 64 ≤ 0xBF := by omega
    have last : 0x80 ≤ 0x80 + n % 64 ∧ 0x80 + n % 64 ≤ 0xBF := by omega
    have value : ((n / 262144 * 64 + (0x80 + n / 4096 % 64 - 0x80)) * 64 +
        (0x80 + n / 64 % 64 - 0x80)) * 64 + (0x80 + n % 64 - 0x80) = n := by
      omega
    simp only [List.cons_append, List.nil_append]
    rw [decodeUtf8_cons, if_neg (by omega), lead]
    simp only [continuation, if_pos first, if_pos third, if_pos last, value, same]

theorem decodeUtf8_encoded (s : Text) : decodeUtf8 (s.flatMap encodeChar) = s := by
  induction s with
  | nil => rfl
  | cons c s ih => rw [List.flatMap_cons, decodeUtf8_encodeChar, ih]

theorem leadByte_low {b count acc lo hi : Nat} (lead : leadByte b = some (count, acc, lo, hi)) :
    0x80 ≤ lo := by
  unfold leadByte at lead
  split_ifs at lead
  all_goals
    simp only [Option.some.injEq, Prod.mk.injEq] at lead
    omega

/-- A byte below 0x80 ends a sequence that is not complete. -/
theorem continuation_cut {b : Nat} (ascii : b < 0x80) (y : List Nat) (count acc lo hi : Nat)
    (low : 0x80 ≤ lo) (x : List Nat) :
    continuation count acc lo hi (x ++ b :: y) =
      ((continuation count acc lo hi x).1, (continuation count acc lo hi x).2 ++ b :: y) := by
  induction x generalizing count acc lo hi with
  | nil =>
    cases count with
    | zero => rfl
    | succ count =>
      have outside : ¬ (lo ≤ b ∧ b ≤ hi) := by omega
      simp [continuation, outside]
  | cons a x ih =>
    cases count with
    | zero => rfl
    | succ count =>
      simp only [List.cons_append, continuation]
      split
      · exact ih count _ 0x80 0xBF (le_refl _)
      · rfl

theorem decodeUtf8_cut {b : Nat} (ascii : b < 0x80) (x y : List Nat) :
    decodeUtf8 (x ++ b :: y) = decodeUtf8 x ++ Char.ofNat b :: decodeUtf8 y := by
  induction h : x.length using Nat.strong_induction_on generalizing x with
  | _ n ih =>
    cases x with
    | nil =>
      rw [List.nil_append, decodeUtf8_cons, if_pos ascii]
      rfl
    | cons a x =>
      simp only [List.length_cons] at h
      rw [List.cons_append, decodeUtf8_cons, decodeUtf8_cons]
      split
      · rw [ih x.length (by omega) x rfl, List.cons_append]
      cases lead : leadByte a with
      | none => simp only [ih x.length (by omega) x rfl, List.cons_append]
      | some found =>
        obtain ⟨count, acc, lo, hi⟩ := found
        have shorter := continuation_length count acc lo hi x
        dsimp only
        rw [continuation_cut ascii y count acc lo hi (leadByte_low lead)]
        generalize continuation count acc lo hi x = read at shorter ⊢
        obtain ⟨number, rest⟩ := read
        dsimp only at shorter ⊢
        have later := ih rest.length (by omega) rest rfl
        cases number with
        | none => simp only [later, List.cons_append]
        | some m => simp only [later, List.cons_append]

/-! Escapes. -/

/-- A character that stands in no escape. -/
def IsBreak (c : Char) : Prop := isAscii c = true ∧ c ≠ '%' ∧ hexValue c.toNat = none

theorem unquoteToBytes_cons {c : Char} (other : c ≠ '%') (s : Text) :
    unquoteToBytes (c :: s) = c.toNat :: unquoteToBytes s := by
  rw [unquoteToBytes]
  intro a b rest same
  exact absurd same other

/-- A percent sign that two hexadecimal digits do not follow. -/
theorem unquoteToBytes_percent {s : Text}
    (plain : ∀ a b rest, s = a :: b :: rest →
      hexValue a.toNat = none ∨ hexValue b.toNat = none) :
    unquoteToBytes ('%' :: s) = '%'.toNat :: unquoteToBytes s := by
  rw [unquoteToBytes.eq_def]
  split
  · rename_i a b rest same
    cases same
    rcases plain a b rest rfl with none | none
    · simp [none]
    · cases hexValue a.toNat <;> simp [none]
  · rename_i c rest other same
    cases same
    rfl
  · rename_i same
    cases same

theorem unquoteToBytes_cut {c : Char} (breaks : IsBreak c) (x y : Text) :
    unquoteToBytes (x ++ c :: y) = unquoteToBytes x ++ c.toNat :: unquoteToBytes y := by
  obtain ⟨_, other, noHex⟩ := breaks
  fun_induction unquoteToBytes x with
  | case1 a b rest hi lo first second ih =>
    simp only [List.cons_append]
    rw [unquoteToBytes]
    simp [first, second, ih]
  | case2 a b rest neither ih =>
    have plain : ∀ a' b' rest', a :: b :: rest ++ c :: y = a' :: b' :: rest' →
        hexValue a'.toNat = none ∨ hexValue b'.toNat = none := by
      intro a' b' rest' same
      cases same
      cases first : hexValue a.toNat with
      | none => exact .inl rfl
      | some hi =>
        cases second : hexValue b.toNat with
        | none => exact .inr rfl
        | some lo => exact absurd second (neither hi lo first)
    rw [List.cons_append, unquoteToBytes_percent plain, ih]
    rfl
  | case3 c' rest other' ih =>
    by_cases percent : c' = '%'
    · subst percent
      have plain : ∀ a b rest', rest ++ c :: y = a :: b :: rest' →
          hexValue a.toNat = none ∨ hexValue b.toNat = none := by
        intro a b rest' same
        match rest with
        | [] =>
          cases same
          exact .inl noHex
        | [d] =>
          cases same
          exact .inr noHex
        | d :: e :: more => exact absurd rfl (other' d e more rfl)
      rw [List.cons_append, unquoteToBytes_percent plain, ih]
      rfl
    · rw [List.cons_append, unquoteToBytes_cons percent, ih]
      rfl
  | case4 => rw [List.nil_append, unquoteToBytes_cons other, List.nil_append]

/-- What `unquote` makes of a run. -/
def unquoteRun (run : Bool × Text) : Text :=
  if run.1 then decodeUtf8 (unquoteToBytes run.2) else run.2

def unquoteRuns (s : Text) : Text := (asciiRuns s).flatMap unquoteRun

theorem asciiRuns_cons (c : Char) (s : Text) :
    asciiRuns (c :: s) =
      match asciiRuns s with
      | (kind, run) :: runs =>
          if isAscii c = kind then (kind, c :: run) :: runs
          else (isAscii c, [c]) :: (kind, run) :: runs
      | [] => [(isAscii c, [c])] := rfl

theorem asciiRuns_head (c : Char) (s : Text) :
    ∃ run runs, asciiRuns (c :: s) = (isAscii c, run) :: runs := by
  rw [asciiRuns_cons]
  split
  · split
    · rename_i same
      exact ⟨_, _, by rw [same]⟩
    · exact ⟨_, _, rfl⟩
  · exact ⟨_, _, rfl⟩

theorem decodeUtf8_nil : decodeUtf8 [] = [] := rfl

theorem ofNat_ascii {c : Char} (ascii : isAscii c = true) :
    c.toNat < 0x80 ∧ Char.ofNat c.toNat = c :=
  ⟨of_decide_eq_true ascii, Char.ofNat_toNat c⟩

theorem decodeUtf8_ascii {c : Char} (ascii : isAscii c = true) (bytes : List Nat) :
    decodeUtf8 (c.toNat :: bytes) = c :: decodeUtf8 bytes := by
  obtain ⟨low, same⟩ := ofNat_ascii ascii
  rw [decodeUtf8_cons, if_pos low, same]

/-- A character outside ASCII, and any but a percent sign within. -/
theorem unquoteRuns_cons {c : Char} (plain : isAscii c = true → c ≠ '%') (s : Text) :
    unquoteRuns (c :: s) = c :: unquoteRuns s := by
  unfold unquoteRuns
  rw [asciiRuns_cons]
  cases ascii : isAscii c with
  | false =>
    cases asciiRuns s with
    | nil => rfl
    | cons run runs =>
      obtain ⟨kind, run⟩ := run
      cases kind <;> simp [unquoteRun]
  | true =>
    have other := plain ascii
    have single : unquoteRun (true, [c]) = [c] := by
      simp [unquoteRun, unquoteToBytes_cons other, decodeUtf8_ascii ascii, unquoteToBytes,
        decodeUtf8_nil]
    cases asciiRuns s with
    | nil => simp [single]
    | cons run runs =>
      obtain ⟨kind, run⟩ := run
      cases kind
      · simp [single]
      · simp [unquoteRun, unquoteToBytes_cons other, decodeUtf8_ascii ascii]

theorem unquoteRuns_ascii {run : Text} (ascii : ∀ c ∈ run, isAscii c = true) {s : Text}
    (ends : ∀ c ∈ s.head?, isAscii c = false) :
    unquoteRuns (run ++ s) = decodeUtf8 (unquoteToBytes run) ++ unquoteRuns s := by
  have runs : run ≠ [] → asciiRuns (run ++ s) = (true, run) :: asciiRuns s := by
    intro nonempty
    induction run with
    | nil => exact absurd rfl nonempty
    | cons c run ih =>
      have first := ascii c List.mem_cons_self
      rw [List.cons_append, asciiRuns_cons]
      by_cases last : run = []
      · subst last
        rw [List.nil_append]
        cases s with
        | nil => simp [asciiRuns, first]
        | cons d s =>
          obtain ⟨run, runs, same⟩ := asciiRuns_head d s
          rw [ends d rfl] at same
          simp [same, first]
      · rw [ih (fun d member => ascii d (List.mem_cons_of_mem c member)) last]
        simp [first]
  by_cases empty : run = []
  · subst empty
    simp [unquoteToBytes, decodeUtf8_nil]
  · unfold unquoteRuns
    rw [runs empty, List.flatMap_cons]
    simp [unquoteRun]

theorem unquote_eq (s : Text) : unquote s = unquoteRuns s := by
  unfold unquote
  split
  · rfl
  · rename_i absent
    induction s with
    | nil => rfl
    | cons c s ih =>
      simp only [List.contains_eq_mem, List.mem_cons, decide_eq_true_eq, not_or] at absent ih
      rw [unquoteRuns_cons fun _ => Ne.symm absent.1, ← ih absent.2]

theorem unquoteRuns_cut {c : Char} (breaks : IsBreak c) (x y : Text) :
    unquoteRuns (x ++ c :: y) = unquoteRuns x ++ c :: unquoteRuns y := by
  have low : c.toNat < 0x80 := of_decide_eq_true breaks.1
  induction h : x.length using Nat.strong_induction_on generalizing x with
  | _ n ih =>
    have front := List.takeWhile_append_dropWhile (p := isAscii) (l := x)
    have ascii : ∀ d ∈ x.takeWhile isAscii, isAscii d = true :=
      fun d member => List.mem_takeWhile_imp member
    cases rest : x.dropWhile isAscii with
    | nil =>
      rw [rest, List.append_nil] at front
      rw [front] at ascii
      have back := List.takeWhile_append_dropWhile (p := isAscii) (l := y)
      have asciiBack : ∀ d ∈ y.takeWhile isAscii, isAscii d = true :=
        fun d member => List.mem_takeWhile_imp member
      have ends : ∀ d ∈ (y.dropWhile isAscii).head?, isAscii d = false := by
        intro d first
        simpa [Option.mem_def.mp first] using List.head?_dropWhile_not isAscii y
      have whole : ∀ d ∈ x ++ c :: y.takeWhile isAscii, isAscii d = true := by
        intro d member
        rcases List.mem_append.mp member with before | after
        · exact ascii d before
        · rcases List.mem_cons.mp after with rfl | after
          · exact breaks.1
          · exact asciiBack d after
      have alone : unquoteRuns x = decodeUtf8 (unquoteToBytes x) := by
        have read := unquoteRuns_ascii ascii (s := []) (by simp)
        simpa [unquoteRuns, asciiRuns] using read
      rw [alone, ← back]
      have regroup : x ++ c :: (y.takeWhile isAscii ++ y.dropWhile isAscii) =
          (x ++ c :: y.takeWhile isAscii) ++ y.dropWhile isAscii := by simp
      rw [regroup, unquoteRuns_ascii whole ends, unquoteRuns_ascii asciiBack ends,
        unquoteToBytes_cut breaks, decodeUtf8_cut low, Char.ofNat_toNat]
      simp
    | cons d rest' =>
      have foreign : isAscii d = false := by
        have first := List.head?_dropWhile_not isAscii x
        rw [rest] at first
        simpa using first
      have plain : isAscii d = true → d ≠ '%' := by
        intro is
        rw [foreign] at is
        cases is
      rw [rest] at front
      have shorter : rest'.length < n := by
        have lengths := congrArg List.length front
        simp only [List.length_append, List.length_cons] at lengths
        omega
      rw [← front, List.append_assoc, unquoteRuns_ascii ascii (by simpa using foreign),
        unquoteRuns_ascii ascii (by simpa using foreign), List.cons_append,
        unquoteRuns_cons plain, unquoteRuns_cons plain, ih rest'.length shorter rest' rfl]
      simp

theorem unquote_cut {c : Char} (breaks : IsBreak c) (x y : Text) :
    unquote (x ++ c :: y) = unquote x ++ c :: unquote y := by
  rw [unquote_eq, unquote_eq, unquote_eq, unquoteRuns_cut breaks]

theorem unquote_cons {c : Char} (plain : isAscii c = true → c ≠ '%') (s : Text) :
    unquote (c :: s) = c :: unquote s := by
  rw [unquote_eq, unquote_eq, unquoteRuns_cons plain]

/-! Quoting. -/

theorem encodeChar_byte (c : Char) : ∀ n ∈ encodeChar c, n < 256 := by
  have valid := toNat_valid c
  unfold encodeChar
  generalize c.toNat = n at valid ⊢
  dsimp only
  split_ifs
  all_goals
    intro m member
    simp only [List.mem_cons, List.not_mem_nil, or_false] at member
    omega

/-- A byte as `quote_plus` writes it. -/
def quoteByte (n : Nat) : Text :=
  if alwaysSafe n then [Char.ofNat n] else ['%', hexDigit (n / 16), hexDigit (n % 16)]

theorem quotePlus_cons (c : Char) (s : Text) :
    quotePlus (c :: s) =
      (if c = ' ' then ['+'] else (encodeChar c).flatMap quoteByte) ++ quotePlus s := rfl

/-- The characters of quoted texts. -/
def quotedChar (c : Char) : Bool :=
  isAscii c && (c.isAlphanum || c == '_' || c == '.' || c == '-' || c == '~' || c == '+' || c == '%')

theorem hexDigit_quoted : ∀ n < 16, quotedChar (hexDigit n) = true ∧ hexDigit n ≠ '%' ∧
    hexDigit n ≠ '+' ∧ hexValue (hexDigit n).toNat = some n := by
  decide

theorem alwaysSafe_quoted : ∀ n < 128, alwaysSafe n = true →
    quotedChar (Char.ofNat n) = true ∧ Char.ofNat n ≠ '%' ∧ Char.ofNat n ≠ '+' ∧
      (Char.ofNat n).toNat = n := by
  decide

theorem alwaysSafe_low {n : Nat} (safe : alwaysSafe n = true) : n < 128 := by
  unfold alwaysSafe at safe
  simp only [Bool.and_eq_true, decide_eq_true_eq] at safe
  exact safe.1

theorem quoteByte_quoted {n : Nat} (byte : n < 256) :
    ∀ c ∈ quoteByte n, quotedChar c = true ∧ c ≠ '+' := by
  unfold quoteByte
  split
  · rename_i safe
    obtain ⟨quoted, _, noPlus, _⟩ := alwaysSafe_quoted n (alwaysSafe_low safe) safe
    simpa using ⟨quoted, noPlus⟩
  · have high := hexDigit_quoted (n / 16) (by omega)
    have low := hexDigit_quoted (n % 16) (by omega)
    simp only [List.mem_cons, List.not_mem_nil, or_false, forall_eq_or_imp, forall_eq]
    exact ⟨by decide, ⟨high.1, high.2.2.1⟩, low.1, low.2.2.1⟩

theorem quotePlus_quoted (s : Text) : ∀ c ∈ quotePlus s, quotedChar c = true := by
  induction s with
  | nil => simp [quotePlus]
  | cons c s ih =>
    rw [quotePlus_cons]
    intro d member
    rcases List.mem_append.mp member with front | back
    · split at front
      · rw [List.mem_singleton.mp front]
        decide
      · obtain ⟨n, inside, member⟩ := List.mem_flatMap.mp front
        exact (quoteByte_quoted (encodeChar_byte c n inside) d member).1
    · exact ih d back

theorem unquoteToBytes_quoteByte {n : Nat} (byte : n < 256) (rest : Text) :
    unquoteToBytes (quoteByte n ++ rest) = n :: unquoteToBytes rest := by
  unfold quoteByte
  split
  · rename_i safe
    obtain ⟨_, noPercent, _, same⟩ := alwaysSafe_quoted n (alwaysSafe_low safe) safe
    rw [List.singleton_append, unquoteToBytes_cons noPercent, same]
  · have high := hexDigit_quoted (n / 16) (by omega)
    have low := hexDigit_quoted (n % 16) (by omega)
    simp only [List.cons_append, List.nil_append]
    rw [unquoteToBytes, high.2.2.2, low.2.2.2]
    have value : n / 16 * 16 + n % 16 = n := by omega
    simp only [value]

/-- A plus sign as `unquote_plus` reads it. -/
def plusToSpace (c : Char) : Char := if c = '+' then ' ' else c

theorem map_plusToSpace {s : Text} (none : ∀ c ∈ s, c ≠ '+') : s.map plusToSpace = s := by
  rw [List.map_congr_left (g := id) fun c member => by simp [plusToSpace, none c member]]
  exact List.map_id s

theorem unquoteToBytes_flatMap {bytes : List Nat} (small : ∀ n ∈ bytes, n < 256) (rest : Text) :
    unquoteToBytes ((bytes.flatMap quoteByte).map plusToSpace ++ rest) =
      bytes ++ unquoteToBytes rest := by
  induction bytes with
  | nil => rfl
  | cons n bytes ih =>
    have byte := small n List.mem_cons_self
    have others := ih fun m member => small m (List.mem_cons_of_mem n member)
    rw [List.flatMap_cons, List.map_append, List.append_assoc,
      map_plusToSpace fun c member => (quoteByte_quoted byte c member).2,
      unquoteToBytes_quoteByte byte, others, List.cons_append]

theorem unquoteToBytes_quotePlus (s : Text) :
    unquoteToBytes ((quotePlus s).map plusToSpace) = s.flatMap encodeChar := by
  induction s with
  | nil => simp [quotePlus, unquoteToBytes]
  | cons c s ih =>
    rw [quotePlus_cons, List.map_append, List.flatMap_cons]
    split
    · rename_i space
      subst space
      have blank : ['+'].map plusToSpace ++ (quotePlus s).map plusToSpace =
          ' ' :: (quotePlus s).map plusToSpace := rfl
      rw [blank, unquoteToBytes_cons (by decide), ih]
      rfl
    · rw [unquoteToBytes_flatMap (encodeChar_byte c), ih]

theorem unquotePlus_quotePlus (s : Text) : unquotePlus (quotePlus s) = s := by
  have ascii : ∀ c ∈ (quotePlus s).map plusToSpace, isAscii c = true := by
    intro c member
    obtain ⟨d, inside, rfl⟩ := List.mem_map.mp member
    have quoted := quotePlus_quoted s d inside
    unfold plusToSpace
    split
    · decide
    · exact (Bool.and_eq_true_iff.mp quoted).1
  have read := unquoteRuns_ascii ascii (s := []) (by simp)
  rw [List.append_nil, unquoteToBytes_quotePlus, decodeUtf8_encoded] at read
  have whole : unquotePlus (quotePlus s) = unquote ((quotePlus s).map plusToSpace) := rfl
  rw [whole, unquote_eq, read]
  simp [unquoteRuns, asciiRuns]

/-- A byte as `quote` writes it. -/
def quotePathByte (n : Nat) : Text := if n = 47 then ['/'] else quoteByte n

/-- `quote(s)`, in which slashes are safe -/
def quote (s : Text) : Text := (s.flatMap encodeChar).flatMap quotePathByte

theorem encodeChar_bytes (s : Text) : ∀ n ∈ s.flatMap encodeChar, n < 256 := by
  intro n member
  obtain ⟨c, _, inside⟩ := List.mem_flatMap.mp member
  exact encodeChar_byte c n inside

theorem quotePathByte_chars {n : Nat} (byte : n < 256) :
    ∀ c ∈ quotePathByte n, c = '/' ∨ quotedChar c = true ∧ c ≠ '+' := by
  intro c member
  unfold quotePathByte at member
  split at member
  · exact .inl (List.mem_singleton.mp member)
  · exact .inr (quoteByte_quoted byte c member)

theorem quote_chars (s : Text) : ∀ c ∈ quote s, c = '/' ∨ quotedChar c = true ∧ c ≠ '+' := by
  intro c member
  obtain ⟨n, inside, member⟩ := List.mem_flatMap.mp member
  exact quotePathByte_chars (encodeChar_bytes s n inside) c member

theorem unquoteToBytes_pathBytes {bytes : List Nat} (small : ∀ n ∈ bytes, n < 256) :
    unquoteToBytes (bytes.flatMap quotePathByte) = bytes := by
  induction bytes with
  | nil => simp [unquoteToBytes]
  | cons n bytes ih =>
    have byte := small n List.mem_cons_self
    have others := ih fun m member => small m (List.mem_cons_of_mem n member)
    rw [List.flatMap_cons]
    unfold quotePathByte
    split
    · rename_i slash
      rw [List.singleton_append, unquoteToBytes_cons (by decide), slash]
      exact congrArg (47 :: ·) others
    · rw [unquoteToBytes_quoteByte byte]
      exact congrArg (n :: ·) others

/-- What is quoted is read back. -/
theorem unquote_quote (s : Text) : unquote (quote s) = s := by
  have ascii : ∀ c ∈ quote s, isAscii c = true := by
    intro c member
    rcases quote_chars s c member with slash | ⟨quoted, _⟩
    · rw [slash]
      decide
    · exact (Bool.and_eq_true_iff.mp quoted).1
  have read := unquoteRuns_ascii ascii (s := []) (by simp)
  have bytes : unquoteToBytes (quote s) = s.flatMap encodeChar :=
    unquoteToBytes_pathBytes (encodeChar_bytes s)
  rw [List.append_nil, bytes, decodeUtf8_encoded] at read
  rw [unquote_eq, read]
  exact List.append_nil s

theorem quote_slash (s : Text) : quote ('/' :: s) = '/' :: quote s := rfl

/-- Only a slash is quoted as one. -/
theorem quote_head {s : Text} (slash : (quote s).head? = some '/') : s.head? = some '/' := by
  cases s with
  | nil => cases slash
  | cons c s =>
    obtain ⟨n, rest, bytes, slash_byte⟩ : ∃ n rest, encodeChar c = n :: rest ∧
        (n = 47 → c.toNat = 47) := by
      unfold encodeChar
      dsimp only
      split_ifs
      · exact ⟨_, _, rfl, id⟩
      · exact ⟨_, _, rfl, fun same => by omega⟩
      · exact ⟨_, _, rfl, fun same => by omega⟩
      · exact ⟨_, _, rfl, fun same => by omega⟩
    have byte : n < 256 := by
      apply encodeChar_byte c
      rw [bytes]
      exact List.mem_cons_self
    have front : ∃ more, quote (c :: s) = quotePathByte n ++ more := by
      unfold quote
      rw [List.flatMap_cons, bytes, List.cons_append, List.flatMap_cons]
      exact ⟨_, rfl⟩
    obtain ⟨more, whole⟩ := front
    rw [whole] at slash
    unfold quotePathByte at slash
    split at slash
    · rename_i is
      rw [← Char.ofNat_toNat c, slash_byte is]
      rfl
    · -- what is not safe starts with a percent sign
      have member : '/' ∈ quoteByte n := by
        unfold quoteByte at slash ⊢
        split at slash
        · rename_i safe
          rw [List.singleton_append, List.head?_cons, Option.some.injEq] at slash
          rw [if_pos safe, slash]
          exact List.mem_cons_self
        · rw [List.cons_append, List.head?_cons, Option.some.injEq] at slash
          exact absurd slash (by decide)
      have quoted := (quoteByte_quoted byte '/' member).1
      exact absurd quoted (by decide)

/-! Queries. -/

theorem partition_free {sep : Char} {s : Text} (free : sep ∉ s) : partition sep s = (s, false, []) := by
  induction s with
  | nil => rfl
  | cons c s ih =>
    simp only [List.mem_cons, not_or] at free
    simp [partition, Ne.symm free.1, ih free.2]

theorem partition_at {sep : Char} {before : Text} (free : sep ∉ before) (after : Text) :
    partition sep (before ++ sep :: after) = (before, true, after) := by
  induction before with
  | nil => simp [partition]
  | cons c before ih =>
    simp only [List.mem_cons, not_or] at free
    simp [partition, Ne.symm free.1, ih free.2]

theorem quotePlus_free {sep : Char} (plain : quotedChar sep = false) (s : Text) :
    sep ∉ quotePlus s := by
  intro member
  have quoted := quotePlus_quoted s sep member
  rw [plain] at quoted
  cases quoted

/-- A pair as `urlencode` writes it. -/
def encodeField (pair : Text × Text) : Text := quotePlus pair.1 ++ ['='] ++ quotePlus pair.2

theorem encodeField_free (pair : Text × Text) : '&' ∉ encodeField pair := by
  have name : '&' ∉ quotePlus pair.1 := quotePlus_free (by decide) pair.1
  have value : '&' ∉ quotePlus pair.2 := quotePlus_free (by decide) pair.2
  simp [encodeField, name, value]

/-- What `urlencode` writes is read back. -/
theorem parseQsl_urlencode (query : List (Text × Text)) : parseQsl (urlencode query) = query := by
  by_cases empty : query = []
  · subst empty
    rfl
  have encoded : urlencode query = joinWith ['&'] (query.map encodeField) := rfl
  have fields : splitOn '&' (urlencode query) = query.map encodeField := by
    rw [encoded]
    apply splitOn_joinWith (by simpa using empty)
    intro field member
    obtain ⟨pair, _, rfl⟩ := List.mem_map.mp member
    exact encodeField_free pair
  have nonempty : (urlencode query).isEmpty = false := by
    cases given : urlencode query with
    | nil =>
      rw [given] at fields
      cases query with
      | nil => exact absurd rfl empty
      | cons pair query =>
        rw [List.map_cons] at fields
        have first := (List.cons.inj fields).1
        simp [encodeField] at first
    | cons c s => rfl
  have kept : (query.map encodeField).filter (fun field => !field.isEmpty) = query.map encodeField := by
    rw [List.filter_eq_self]
    intro field member
    obtain ⟨pair, _, rfl⟩ := List.mem_map.mp member
    simp [encodeField]
  have read : ∀ pair : Text × Text, (unquotePlus (partition '=' (encodeField pair)).1,
      unquotePlus (partition '=' (encodeField pair)).2.2) = pair := by
    intro pair
    have split : encodeField pair = quotePlus pair.1 ++ '=' :: quotePlus pair.2 := by
      simp [encodeField]
    rw [split, partition_at (quotePlus_free (by decide) pair.1), unquotePlus_quotePlus,
      unquotePlus_quotePlus]
  unfold parseQsl
  rw [nonempty, if_neg Bool.false_ne_true, fields, kept, List.map_map]
  conv_rhs => rw [← List.map_id query]
  exact List.map_congr_left fun pair _ => read pair

end UrlSplit
