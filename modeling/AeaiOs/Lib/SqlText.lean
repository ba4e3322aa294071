import AeaiOs.Lib.PyText

/-!
How a SQL text is read before it is parsed: comments, strings, quoted
identifiers, variables and the nesting of parentheses.
-/
namespace SqlText
open PyText

/-- The lexical rules in which dialects differ. -/
structure Dialect where
  /-- `//` opens a comment, as `--` does. -/
  slashComments : Bool
  /-- A backslash in a string hides the next character. -/
  backslashEscapes : Bool
  /-- `$$ … $$` is a string. -/
  dollarStrings : Bool
  backticks : Bool
  brackets : Bool
  /-- `$name`, `@name`, `:name` and `#name` may end in a parenthesised suffix
      that belongs to the name. -/
  suffixedVariables : Bool
deriving Repr, DecidableEq

inductive Mode
  | plain
  | word
  | minus
  | slash
  | dollar
  | variable (named : Bool)
  | variableColon (named : Bool)
  | suffix
  | lineComment
  | blockComment
  | blockStar
  | quoted (closing : Char)
  | escaped
  | dollarQuoted
  | dollarQuotedDollar
deriving Repr, DecidableEq

/-- Outside comments, strings, quoted identifiers and variable suffixes. -/
def Mode.inCode : Mode → Bool
  | .plain | .word | .minus | .slash | .dollar | .variable _ | .variableColon _ => true
  | _ => false

def isWordChar (c : Char) : Bool := c.isAlphanum || c == '_' || c == '$' || 128 ≤ c.toNat

def startsVariable (c : Char) : Bool := c == '$' || c == '@' || c == ':' || c == '#'

def isBlank (c : Char) : Bool := c == ' ' || (9 ≤ c.toNat && c.toNat ≤ 13)

/-- The mode after the first character of a token. -/
def Dialect.first (d : Dialect) (c : Char) : Mode :=
  if c = '-' then .minus
  else if c = '/' then .slash
  else if c = '\'' ∨ c = '"' then .quoted c
  else if c = '`' ∧ d.backticks then .quoted c
  else if c = '[' ∧ d.brackets then .quoted ']'
  else if c = '$' ∧ d.dollarStrings then .dollar
  else if startsVariable c ∧ d.suffixedVariables then .variable false
  else if isWordChar c then .word
  else .plain

def Dialect.next (d : Dialect) (c : Char) : Mode → Mode
  | .plain => d.first c
  | .word => if isWordChar c then .word else d.first c
  | .minus => if c = '-' then .lineComment else d.first c
  | .slash =>
      if c = '*' then .blockComment
      else if c = '/' ∧ d.slashComments then .lineComment
      else d.first c
  | .dollar => if c = '$' then .dollarQuoted else if isWordChar c then .word else d.first c
  | .variable named =>
      if isWordChar c then .variable true
      else if c = '(' ∧ named then .suffix
      else if c = ':' then .variableColon named
      else d.first c
  | .variableColon named =>
      -- `::` stays in the name; a single colon opened another variable
      if c = ':' then .variable named
      else if isWordChar c then .variable true
      else d.first c
  | .suffix => if c = ')' ∨ isBlank c then .plain else .suffix
  | .lineComment => if c = '\n' then .plain else .lineComment
  | .blockComment => if c = '*' then .blockStar else .blockComment
  | .blockStar => if c = '/' then .plain else if c = '*' then .blockStar else .blockComment
  -- a doubled quote closes the text and opens it again
  | .quoted closing =>
      if c = closing then .plain
      else if c = '\\' ∧ closing = '\'' ∧ d.backslashEscapes then .escaped
      else .quoted closing
  | .escaped => .quoted '\''
  | .dollarQuoted => if c = '$' then .dollarQuotedDollar else .dollarQuoted
  | .dollarQuotedDollar => if c = '$' then .plain else .dollarQuoted

/-- Whether a parenthesis that is read in this mode nests. -/
def Mode.nests (c : Char) : Mode → Bool
  | .variable named => !(named && c == '(')
  | mode => mode.inCode

/-- The reader of a text: its mode, the positions of the open parentheses, the
    innermost first, and whether a parenthesis was closed that none had opened. -/
structure Scan where
  mode : Mode := .plain
  opened : List Nat := []
  stray : Bool := false
  position : Nat := 0
deriving Repr, DecidableEq

def Scan.step (d : Dialect) (scan : Scan) (c : Char) : Scan :=
  let opens := c = '(' ∧ scan.mode.nests c
  let closes := c = ')' ∧ scan.mode.nests c
  { mode := d.next c scan.mode
    opened :=
      if opens then scan.position :: scan.opened
      else if closes then scan.opened.tail
      else scan.opened
    stray := scan.stray || (decide closes && scan.opened.isEmpty)
    position := scan.position + 1 }

def Scan.run (d : Dialect) (scan : Scan) (text : Text) : Scan := text.foldl (Scan.step d) scan

def scanText (d : Dialect) (text : Text) : Scan := Scan.run d {} text

/-- The parenthesis at `closeAt` closes the one at `openAt`. -/
def Closes (d : Dialect) (text : Text) (openAt closeAt : Nat) : Prop :=
  text[closeAt]? = some ')' ∧ (scanText d (text.take closeAt)).mode.nests ')' ∧
    (scanText d (text.take closeAt)).opened.head? = some openAt

/-- What stands at `position` is code, and outside all parentheses. -/
def LiveAt (d : Dialect) (text : Text) (position : Nat) : Prop :=
  (scanText d (text.take position)).mode.inCode ∧ (scanText d (text.take position)).opened = []

/-- Nothing that the text opens is open at its end, and it closes nothing else. -/
def SelfContained (d : Dialect) (text : Text) : Prop :=
  (scanText d text).mode.inCode ∧ (scanText d text).opened = [] ∧ (scanText d text).stray = false

instance (d : Dialect) (text : Text) (openAt closeAt : Nat) :
    Decidable (Closes d text openAt closeAt) := inferInstanceAs (Decidable (_ ∧ _ ∧ _))

instance (d : Dialect) (text : Text) (position : Nat) : Decidable (LiveAt d text position) :=
  inferInstanceAs (Decidable (_ ∧ _))

instance (d : Dialect) (text : Text) : Decidable (SelfContained d text) :=
  inferInstanceAs (Decidable (_ ∧ _ ∧ _))

@[simp] theorem Scan.run_nil (d : Dialect) (scan : Scan) : scan.run d [] = scan := rfl

@[simp] theorem Scan.run_cons (d : Dialect) (scan : Scan) (c : Char) (text : Text) :
    scan.run d (c :: text) = (scan.step d c).run d text := rfl

theorem Scan.run_append (d : Dialect) (scan : Scan) (front back : Text) :
    scan.run d (front ++ back) = (scan.run d front).run d back :=
  List.foldl_append

theorem nests_close (mode : Mode) : mode.nests ')' = mode.inCode := by
  cases mode <;> simp [Mode.nests, Mode.inCode]

theorem next_close (d : Dialect) {mode : Mode} (code : mode.inCode = true) :
    d.next ')' mode = .plain := by
  cases mode <;> simp_all [Mode.inCode, Dialect.next, Dialect.first, isWordChar, startsVariable]

theorem Scan.run_position (d : Dialect) (scan : Scan) (text : Text) :
    (scan.run d text).position = scan.position + text.length := by
  induction text generalizing scan with
  | nil => simp
  | cons c text ih =>
    have later := ih (scan.step d c)
    simp only [run_cons, List.length_cons]
    simp only [Scan.step] at later ⊢
    omega

/-- A character that opens nothing and nests nothing. -/
def isQuiet (c : Char) : Bool := c.isAlphanum || c == '_' || c == '*' || c == ' '

theorem first_quiet (d : Dialect) {c : Char} (quiet : isQuiet c = true) :
    d.first c = .plain ∨ d.first c = .word := by
  have others : c ≠ '-' ∧ c ≠ '/' ∧ c ≠ '\'' ∧ c ≠ '"' ∧ c ≠ '`' ∧ c ≠ '[' ∧ c ≠ '$' ∧
      startsVariable c = false := by
    refine ⟨?_, ?_, ?_, ?_, ?_, ?_, ?_, ?_⟩
    case refine_8 =>
      by_contra starts
      simp only [startsVariable, Bool.not_eq_false, Bool.or_eq_true, beq_iff_eq] at starts
      obtain ((rfl | rfl) | rfl) | rfl := starts <;> simp [isQuiet] at quiet
    all_goals
      rintro rfl
      simp [isQuiet] at quiet
  simp only [Dialect.first, others]
  by_cases word : isWordChar c = true <;> simp [word]

theorem step_quiet (d : Dialect) {scan : Scan} {c : Char} (quiet : isQuiet c = true)
    (outside : scan.mode = .plain ∨ scan.mode = .word) :
    ((scan.step d c).mode = .plain ∨ (scan.step d c).mode = .word) ∧
      (scan.step d c).opened = scan.opened := by
  have first := first_quiet d quiet
  constructor
  · obtain plain | word := outside
    · simpa [Scan.step, plain, Dialect.next] using first
    · by_cases continued : isWordChar c = true
      · simp [Scan.step, word, Dialect.next, continued]
      · simpa [Scan.step, word, Dialect.next, continued] using first
  · have notOpen : c ≠ '(' := by
      rintro rfl
      simp [isQuiet] at quiet
    have notClose : c ≠ ')' := by
      rintro rfl
      simp [isQuiet] at quiet
    simp [Scan.step, notOpen, notClose]

theorem run_quiet (d : Dialect) {scan : Scan} {text : Text} (quiet : text.all isQuiet = true)
    (outside : scan.mode = .plain ∨ scan.mode = .word) :
    ((scan.run d text).mode = .plain ∨ (scan.run d text).mode = .word) ∧
      (scan.run d text).opened = scan.opened := by
  induction text generalizing scan with
  | nil => exact ⟨outside, rfl⟩
  | cons c text ih =>
    simp only [List.all_cons, Bool.and_eq_true] at quiet
    obtain ⟨stays, kept⟩ := step_quiet d quiet.1 outside
    obtain ⟨later, keptLater⟩ := ih quiet.2 stays
    exact ⟨later, keptLater.trans kept⟩

/-- Words, stars and blanks that end in a blank leave the reader between tokens. -/
theorem run_words (d : Dialect) {scan : Scan} {text : Text} (quiet : text.all isQuiet = true)
    (outside : scan.mode = .plain ∨ scan.mode = .word) :
    (scan.run d (text ++ [' '])).mode = .plain ∧
      (scan.run d (text ++ [' '])).opened = scan.opened := by
  obtain ⟨mode, kept⟩ := run_quiet d quiet outside
  rw [Scan.run_append]
  constructor
  · obtain mode | mode := mode <;>
      simp [Scan.step, mode, Dialect.next, Dialect.first, isWordChar, startsVariable]
  · simp [Scan.step, kept]

/-- Two readers of one text, the second with one parenthesis more below it,
    opened at `below`, until the text closes it. -/
structure Scan.Nested (shift below : Nat) (alone nested : Scan) : Prop where
  mode : nested.mode = alone.mode
  position : nested.position = alone.position + shift
  opened : nested.opened =
    alone.opened.map (· + shift) ++ if alone.stray then [] else [below]

theorem Scan.step_opens {scan : Scan} {c : Char} (d : Dialect)
    (opens : c = '(' ∧ scan.mode.nests c = true) :
    (scan.step d c).opened = scan.position :: scan.opened ∧
      (scan.step d c).stray = scan.stray := by
  obtain ⟨rfl, nests⟩ := opens
  simp [Scan.step, nests]

theorem Scan.step_closes {scan : Scan} {c : Char} (d : Dialect)
    (closes : c = ')' ∧ scan.mode.nests c = true) :
    (scan.step d c).opened = scan.opened.tail ∧
      (scan.step d c).stray = (scan.stray || scan.opened.isEmpty) := by
  obtain ⟨rfl, nests⟩ := closes
  simp [Scan.step, nests]

theorem Scan.step_other {scan : Scan} {c : Char} (d : Dialect)
    (opens : ¬ (c = '(' ∧ scan.mode.nests c = true))
    (closes : ¬ (c = ')' ∧ scan.mode.nests c = true)) :
    (scan.step d c).opened = scan.opened ∧ (scan.step d c).stray = scan.stray := by
  simp [Scan.step, opens, closes]

theorem Scan.Nested.step {shift below : Nat} {alone nested : Scan}
    (related : Scan.Nested shift below alone nested) (d : Dialect) (c : Char) :
    Scan.Nested shift below (alone.step d c) (nested.step d c) := by
  have samePosition := related.position
  constructor
  · simp [Scan.step, related.mode]
  · simp only [Scan.step]
    omega
  · by_cases opens : c = '(' ∧ alone.mode.nests c = true
    · obtain ⟨pushed, kept⟩ := step_opens d opens
      have nestedPushed := (step_opens d (related.mode ▸ opens)).1
      rw [nestedPushed, pushed, kept, related.opened, samePosition]
      simp
    · by_cases closes : c = ')' ∧ alone.mode.nests c = true
      · obtain ⟨popped, strays⟩ := step_closes d closes
        have nestedPopped := (step_closes d (related.mode ▸ closes)).1
        rw [nestedPopped, popped, strays, related.opened]
        cases alone.opened with
        | nil => cases alone.stray <;> simp
        | cons first others => simp
      · obtain ⟨kept, noStray⟩ := step_other d opens closes
        have nestedKept := (step_other d (related.mode ▸ opens) (related.mode ▸ closes)).1
        rw [nestedKept, kept, noStray, related.opened]

theorem Scan.Nested.run {shift below : Nat} {alone nested : Scan}
    (related : Scan.Nested shift below alone nested) (d : Dialect) (text : Text) :
    Scan.Nested shift below (alone.run d text) (nested.run d text) := by
  induction text generalizing alone nested with
  | nil => exact related
  | cons c text ih => exact ih (related.step d c)

/-- Below the text the enclosing parenthesis is the innermost one that is open
    exactly if the text closes all it opens and nothing else. -/
theorem Scan.Nested.innermost {shift below : Nat} {alone nested : Scan}
    (related : Scan.Nested shift below alone nested) (before : below < shift) :
    nested.opened.head? = some below ↔ alone.opened = [] ∧ alone.stray = false := by
  rw [related.opened]
  cases alone.opened with
  | nil => cases alone.stray <;> simp
  | cons first others =>
    simp only [List.map_cons, List.cons_append, List.head?_cons, Option.some.injEq, reduceCtorEq,
      false_and, iff_false]
    omega

section wrapped
variable {d : Dialect} {front text back : Text}

theorem scan_wrapped (text : Text) (before : (scanText d front).mode = .plain)
    (outer : (scanText d front).opened = []) :
    Scan.Nested (front.length + 1) front.length (scanText d text)
      (scanText d (front ++ '(' :: text)) := by
  have position : (scanText d front).position = front.length := by
    simpa [scanText] using Scan.run_position d {} front
  have start : Scan.Nested (front.length + 1) front.length {} ((scanText d front).step d '(') := by
    constructor
    · simp [Scan.step, before, Dialect.next, Dialect.first, isWordChar, startsVariable]
    · simp only [Scan.step, position]
      omega
    · simp [Scan.step, before, outer, position, Mode.nests, Mode.inCode]
  have ran := start.run d text
  simpa [scanText, Scan.run_append] using ran

theorem take_wrapped (front text back : Text) :
    (front ++ '(' :: text ++ ')' :: back).take (front.length + 1 + text.length) =
      front ++ '(' :: text := by
  rw [List.take_append_of_le_length (by simp; omega)]
  exact List.take_of_length_le (by simp; omega)

theorem char_wrapped (front text back : Text) :
    (front ++ '(' :: text ++ ')' :: back)[front.length + 1 + text.length]? = some ')' := by
  have measured : (front ++ '(' :: text).length = front.length + 1 + text.length := by
    simp
    omega
  rw [← measured, List.getElem?_append_right (Nat.le_refl _), Nat.sub_self]
  rfl

/-- The parenthesis behind a wrapped text closes the one before it exactly if
    the text is self-contained. -/
theorem closes_wrapped_iff (before : (scanText d front).mode = .plain)
    (outer : (scanText d front).opened = []) :
    Closes d (front ++ '(' :: text ++ ')' :: back) front.length (front.length + 1 + text.length) ↔
      SelfContained d text := by
  have related := scan_wrapped text before outer
  unfold Closes SelfContained
  rw [take_wrapped, char_wrapped, related.mode, nests_close,
    related.innermost (Nat.lt_succ_self _)]
  simp

theorem scan_after_wrapped (before : (scanText d front).mode = .plain)
    (outer : (scanText d front).opened = []) (contained : SelfContained d text) :
    (scanText d (front ++ '(' :: text ++ [')'])).mode = .plain ∧
      (scanText d (front ++ '(' :: text ++ [')'])).opened = [] := by
  have related := scan_wrapped text before outer
  obtain ⟨code, closed, noStray⟩ := contained
  have modes := related.mode
  have opens := related.opened
  rw [closed, noStray] at opens
  have split : scanText d (front ++ '(' :: text ++ [')']) =
      (scanText d (front ++ '(' :: text)).step d ')' := by
    simp [scanText, Scan.run_append]
  rw [split]
  constructor
  · simp only [Scan.step, modes]
    exact next_close d code
  · simp [Scan.step, modes, opens, nests_close, code]

end wrapped

end SqlText
