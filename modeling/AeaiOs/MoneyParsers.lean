import AeaiOs.Lib.HalfEven
import AeaiOs.RiskRules

/-!
The three parsers of amounts: the one of the analysis reads a float, the one of the
reconciliation and the one of the streamed overview a `Decimal`.
-/
namespace Analytics
open PyText RiskScan HalfEven

section parsers
variable [UnicodeDatabase]

/-- `is_missing_value` -/
def isMissing (cell : String) : Bool :=
  decide (UnicodeDatabase.lower (stripText cell.toList) ∈
    ["", "na", "n/a", "nan", "none", "null"].map String.toList)

/-! `float` of a text. -/

/-- The separators that `str.strip` removes, and `float` does not. -/
def isSeparator (c : Char) : Bool := decide (28 ≤ c.toNat) && decide (c.toNat ≤ 31)

def isFloatSpace (c : Char) : Bool := isSpace c && !isSeparator c

def isDigitChar (c : Char) : Bool := (UnicodeDatabase.digitValue c).isSome

/-- Every underscore stands between two digits; `previous` is the character before. -/
def underscoresPlaced (previous : Option Char) : Text → Bool
  | [] => decide (previous ≠ some '_')
  | c :: rest =>
      (if c = '_' then previous.any isDigitChar else decide (previous ≠ some '_') || isDigitChar c) &&
        underscoresPlaced (some c) rest

/-- `inf`, `infinity` and `nan`, with a sign or without. -/
def specialFloat (s : Text) : Option PyFloat :=
  let (negative, s) := takeSign s
  let lowered := s.map Char.toLower
  if lowered = "inf".toList ∨ lowered = "infinity".toList then some (.infinite negative)
  else if lowered = "nan".toList then some .nan
  else none

def Decimal.value (x : Decimal) : Rat := x.coefficient * 10 ^ x.exponent

/-- A number as `rounded` makes it a float, or a special one. -/
def numberOf (rounded : Rat → PyFloat) (s : Text) : Option PyFloat :=
  match decimalLiteral s with
  | some x => some (rounded (Decimal.value x))
  | none => specialFloat s

/-- `float(text)` -/
def floatOf (rounded : Rat → PyFloat) (s : Text) : Option PyFloat :=
  let body := trim isFloatSpace s
  if underscoresPlaced none body then numberOf rounded (body.filter (· ≠ '_')) else none

/-! The parsers. -/

def isCurrencySign (c : Char) : Bool := currencySigns.contains c

def parseAmountAs (rounded : Rat → PyFloat) : Option String → Option PyFloat
  | none => none
  | some value =>
      if isMissing value then none
      else
        floatOf rounded
          ((stripText (value.toList.filter (· ≠ ','))).filter fun c => !isCurrencySign c)

/-- `kpis._parse_amount` -/
def parseAmount : Option String → Option PyFloat := parseAmountAs toDouble

/-- `kpis._parse_amount` in exact arithmetic. -/
def parseAmountExactly : Option String → Option PyFloat := parseAmountAs .finite

/-- `reconcile._amount` -/
def amount : Option String → Option Decimal
  | none => none
  | some value =>
      if isMissing value then none
      else
        parseDecimal (((stripText value.toList).filter (· ≠ ',')).filter fun c => !isCurrencySign c)

/-! What the grammars have in common. -/

/-- A cell without commas, currency signs and the blanks at its ends. -/
def bareText (cell : String) : Text :=
  stripText (cell.toList.filter fun c => decide (c ≠ ',') && !isCurrencySign c)

/-- What `float` is left with. -/
def floatText (cell : String) : Text :=
  trim isFloatSpace ((stripText (cell.toList.filter (· ≠ ','))).filter fun c => !isCurrencySign c)

def plainText (cell : String) : Text := (bareText cell).filter (· ≠ '_')

/-- No separator remains, and the underscores stand between digits. -/
def FloatSpelled (cell : String) : Prop :=
  (∀ c ∈ floatText cell, isSeparator c = false) ∧ underscoresPlaced none (floatText cell) = true

omit [UnicodeDatabase] in
theorem filter_both (s : Text) :
    (s.filter (· ≠ ',')).filter (fun c => !isCurrencySign c) =
      s.filter fun c => decide (c ≠ ',') && !isCurrencySign c := by
  rw [List.filter_filter]
  congr 1
  funext c
  exact Bool.and_comm _ _

omit [UnicodeDatabase] in
theorem bareText_strip_first (cell : String) :
    stripText ((stripText cell.toList).filter fun c => decide (c ≠ ',') && !isCurrencySign c) =
      bareText cell :=
  trim_filter isSpace _ _

omit [UnicodeDatabase] in
theorem bareText_commas_first (cell : String) :
    stripText ((stripText (cell.toList.filter (· ≠ ','))).filter fun c => !isCurrencySign c) =
      bareText cell := by
  unfold bareText
  rw [← filter_both]
  exact trim_filter isSpace _ _

omit [UnicodeDatabase] in
theorem isSpace_of_floatSpace (c : Char) (space : isFloatSpace c = true) : isSpace c = true := by
  rw [isFloatSpace, Bool.and_eq_true] at space
  exact space.1

omit [UnicodeDatabase] in
/-- Without separators, `float` trims what `str.strip` strips. -/
theorem floatText_bare {cell : String} (clean : ∀ c ∈ floatText cell, isSeparator c = false) :
    floatText cell = bareText cell := by
  have same : ∀ c ∈ floatText cell, isSpace c = isFloatSpace c := by
    intro c member
    rw [isFloatSpace, clean c member, Bool.not_false, Bool.and_true]
  calc floatText cell = trim isFloatSpace (floatText cell) := (trim_idem _ _).symm
    _ = trim isSpace (floatText cell) := (trim_congr same).symm
    _ = bareText cell := (trim_trim isSpace_of_floatSpace _).trans (bareText_commas_first cell)

/-! Characters that no literal has. -/

def Foreign (c : Char) : Prop := isDigitChar c = false ∧ c ∉ "+-.eE".toList

theorem foreign_takeSign {s : Text} {c : Char} (foreign : Foreign c) (member : c ∈ s) :
    c ∈ (takeSign s).2 := by
  unfold takeSign
  split
  · rcases List.mem_cons.mp member with rfl | later
    · exact absurd (by simp) foreign.2
    · exact later
  · rcases List.mem_cons.mp member with rfl | later
    · exact absurd (by simp) foreign.2
    · exact later
  · exact member

theorem foreign_takeDigits : ∀ {s : Text} {c : Char}, Foreign c → c ∈ s → c ∈ (takeDigits s).2
  | d :: rest, c, foreign, member => by
      unfold takeDigits
      cases value : UnicodeDatabase.digitValue d with
      | none => exact member
      | some n =>
        rcases List.mem_cons.mp member with rfl | later
        · have digit := foreign.1
          rw [isDigitChar, value] at digit
          cases digit
        · exact foreign_takeDigits foreign later

theorem foreign_exponentOf {s : Text} {c : Char} (foreign : Foreign c) (member : c ∈ s) :
    exponentOf s = none := by
  cases s with
  | nil => cases member
  | cons e rest =>
    simp only [exponentOf, Bool.or_eq_true, decide_eq_true_eq]
    split
    · rename_i letter
      have later : c ∈ rest := by
        rcases List.mem_cons.mp member with rfl | later
        · rcases letter with rfl | rfl <;> exact absurd (by simp) foreign.2
        · exact later
      have remains := foreign_takeDigits foreign (foreign_takeSign foreign later)
      split
      · rename_i digits
        rw [digits] at remains
        cases remains
      · rfl
    · rfl

theorem foreign_decimalLiteral {s : Text} {c : Char} (foreign : Foreign c) (member : c ∈ s) :
    decimalLiteral s = none := by
  have whole := foreign_takeDigits foreign (foreign_takeSign foreign member)
  unfold decimalLiteral
  simp only
  split
  · rename_i rest point
    rw [point] at whole
    have later : c ∈ rest := by
      rcases List.mem_cons.mp whole with rfl | later
      · exact absurd (by simp) foreign.2
      · exact later
    rw [foreign_exponentOf foreign (foreign_takeDigits foreign later)]
    split <;> rfl
  · rw [foreign_exponentOf foreign whole]
    split <;> rfl

omit [UnicodeDatabase] in
theorem isSeparator_cases {c : Char} (separator : isSeparator c = true) :
    c = Char.ofNat 28 ∨ c = Char.ofNat 29 ∨ c = Char.ofNat 30 ∨ c = Char.ofNat 31 := by
  simp only [isSeparator, Bool.and_eq_true, decide_eq_true_eq] at separator
  have named := Char.ofNat_toNat c
  have cases : c.toNat = 28 ∨ c.toNat = 29 ∨ c.toNat = 30 ∨ c.toNat = 31 := by omega
  rcases cases with h | h | h | h
  · exact .inl (h ▸ named.symm)
  · exact .inr (.inl (h ▸ named.symm))
  · exact .inr (.inr (.inl (h ▸ named.symm)))
  · exact .inr (.inr (.inr (h ▸ named.symm)))

theorem separator_foreign {c : Char} (separator : isSeparator c = true) : Foreign c := by
  have ascii : isAscii c = true := by
    rcases isSeparator_cases separator with rfl | rfl | rfl | rfl <;> decide
  constructor
  · unfold isDigitChar
    rw [UnicodeDatabase.digitValue_ascii c ascii]
    rcases isSeparator_cases separator with rfl | rfl | rfl | rfl <;> decide
  · rcases isSeparator_cases separator with rfl | rfl | rfl | rfl <;> decide

theorem separator_special {s : Text} {c : Char} (separator : isSeparator c = true)
    (member : c ∈ s) : specialFloat s = none := by
  have inside := foreign_takeSign (separator_foreign separator) member
  have lowered : c.toLower ∈ (takeSign s).2.map Char.toLower := List.mem_map_of_mem inside
  have absent : ∀ word ∈ ["inf".toList, "infinity".toList, "nan".toList],
      (takeSign s).2.map Char.toLower ≠ word := by
    intro word listed same
    rw [same] at lowered
    simp only [List.mem_cons, List.not_mem_nil, or_false] at listed
    rcases listed with rfl | rfl | rfl <;>
      rcases isSeparator_cases separator with rfl | rfl | rfl | rfl <;>
        exact absurd lowered (by decide)
  unfold specialFloat
  simp only
  rw [if_neg, if_neg]
  · exact absent _ (by simp)
  · rintro (h | h)
    · exact absent _ (by simp) h
    · exact absent _ (by simp) h

/-- `float` reads a cell that is spelled for it as its plain text, and no other. -/
theorem parseAmount_eq {cell : String} (present : isMissing cell = false) :
    (FloatSpelled cell → parseAmount (some cell) = numberOf toDouble (plainText cell)) ∧
      (¬ FloatSpelled cell → parseAmount (some cell) = none) := by
  have read : parseAmount (some cell) = if underscoresPlaced none (floatText cell) then
      numberOf toDouble ((floatText cell).filter (· ≠ '_')) else none := by
    simp only [parseAmount, parseAmountAs, present, Bool.false_eq_true, if_false]
    rfl
  rw [read]
  constructor
  · rintro ⟨clean, placed⟩
    rw [if_pos placed, floatText_bare clean]
    rfl
  · intro misspelled
    by_cases placed : underscoresPlaced none (floatText cell) = true
    · rw [if_pos placed]
      have dirty : ∃ c ∈ floatText cell, isSeparator c = true := by
        by_contra clean
        push Not at clean
        exact misspelled ⟨fun c member => by simpa using clean c member, placed⟩
      obtain ⟨c, member, separator⟩ := dirty
      have kept : c ∈ (floatText cell).filter (· ≠ '_') := by
        rw [List.mem_filter]
        refine ⟨member, ?_⟩
        rcases isSeparator_cases separator with rfl | rfl | rfl | rfl <;> decide
      unfold numberOf
      rw [foreign_decimalLiteral (separator_foreign separator) kept]
      exact separator_special separator kept
    · rw [if_neg placed]

theorem amount_eq {cell : String} (present : isMissing cell = false) :
    amount (some cell) = (decimalLiteral (plainText cell)).filter Decimal.representable := by
  simp only [amount, present, Bool.false_eq_true, if_false, parseDecimal]
  rw [filter_both, bareText_strip_first]
  rfl

/-- The reconciliation and the overview read alike. -/
theorem amount_eq_money (cell : Option String) : amount cell = money cell := by
  cases cell with
  | none => rfl
  | some value =>
    have markers : isMissing value = decide (UnicodeDatabase.lower (stripText value.toList) ∈
        ["", "none", "na", "n/a", "null", "nan"].map String.toList) := by
      unfold isMissing
      rw [decide_eq_decide]
      simp only [List.map_cons, List.map_nil, List.mem_cons, List.not_mem_nil, or_false]
      tauto
    simp only [amount, money, markers, decide_eq_true_eq, filter_both]
    rfl

/-! When the parsers agree. -/

/-- All three reject the cell, or accept it with one decimal and the double nearest to it. -/
def MoneyAgrees (cell : String) : Prop :=
  (parseAmount (some cell) = none ∧ amount (some cell) = none ∧ money (some cell) = none) ∨
    ∃ x v, amount (some cell) = some x ∧ money (some cell) = some x ∧
      parseAmount (some cell) = some (.finite v) ∧ IsDouble v ∧
        ∀ w, IsDouble w → |v - Decimal.value x| ≤ |w - Decimal.value x|

/-- The cell is missing; or it is neither a number nor a special float; or it is a number, spelled
    for `float`, with an exponent of a `Decimal` and a magnitude of a double, or with neither
    that spelling nor such an exponent. -/
def ReadAlike (cell : String) : Prop :=
  isMissing cell = true ∨
    match decimalLiteral (plainText cell) with
    | none => FloatSpelled cell → specialFloat (plainText cell) = none
    | some x =>
        (FloatSpelled cell ∧ x.representable = true ∧ |Decimal.value x| < overflowLimit) ∨
          (¬ FloatSpelled cell ∧ x.representable = false)

omit [UnicodeDatabase] in
theorem toDouble_finite {q : Rat} {v : Rat} :
    toDouble q = .finite v ↔ |q| < overflowLimit ∧ v = nearestDouble q := by
  unfold toDouble
  split
  · rename_i large
    simp [not_lt.mpr large]
  · rename_i small
    rw [not_le] at small
    simp [small, eq_comm]

/-- The parsers agree on the cells that are read alike. -/
theorem money_agrees_iff (cell : String) : MoneyAgrees cell ↔ ReadAlike cell := by
  unfold MoneyAgrees ReadAlike
  simp only [← amount_eq_money]
  cases missing : isMissing cell with
  | true => simp [parseAmount, parseAmountAs, amount, missing]
  | false =>
    obtain ⟨reads, refuses⟩ := parseAmount_eq missing
    rw [amount_eq missing]
    by_cases spelled : FloatSpelled cell
    · rw [reads spelled, numberOf]
      cases literal : decimalLiteral (plainText cell) with
      | none => simp [spelled]
      | some x =>
        cases exponent : x.representable with
        | false => simp [exponent, spelled]
        | true =>
          simp only [Option.filter_some, exponent, if_true, Option.some.injEq, toDouble_finite,
            reduceCtorEq, and_self, false_or, Bool.false_eq_true, not_true_eq_false, spelled,
            or_false, true_and]
          constructor
          · rintro ⟨y, v, rfl, -, ⟨small, -⟩, -⟩
            exact small
          · intro small
            exact ⟨x, _, rfl, rfl, ⟨small, rfl⟩, nearestDouble_isDouble _,
              fun w => nearestDouble_nearest _⟩
    · rw [refuses spelled]
      cases literal : decimalLiteral (plainText cell) with
      | none => simp [spelled]
      | some x =>
        cases exponent : x.representable with
        | false => simp [exponent, spelled]
        | true => simp [exponent, spelled]

end parsers

/-- An infinity is an amount for the analysis only. -/
theorem infinity_is_an_amount :
    let _ := asciiDatabase
    ¬ MoneyAgrees "inf" := by
  intro _ agrees
  have read : parseAmount (some "inf") = some (.infinite false) := by decide
  rcases agrees with ⟨none, -⟩ | ⟨x, v, -, -, finite, -⟩
  · rw [read] at none
    cases none
  · rw [read] at finite
    cases finite

end Analytics
