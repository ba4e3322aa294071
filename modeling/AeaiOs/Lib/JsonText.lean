import AeaiOs.Lib.OrderedDict
import Mathlib.Data.Char
import Mathlib.Data.List.TakeWhile

/-!
JSON texts as Python's `json` writes and reads them. Numbers with a fraction or an exponent stay
literals, and half of a surrogate pair is no character.
-/
namespace JsonText
open OrderedDict

abbrev Text := List Char

inductive Json where
  | null
  | bool (value : Bool)
  | int (value : Int)
  | real (literal : Text)
  | str (text : Text)
  | list (items : List Json)
  | dict (entries : List (Text × Json))

/-! Writing: `json.dumps(value, ensure_ascii=False)`. -/

def escaped (c : Char) : Text :=
  if c = '"' then ['\\', '"']
  else if c = '\\' then ['\\', '\\']
  else if c = '\n' then ['\\', 'n']
  else if c = '\r' then ['\\', 'r']
  else if c = '\t' then ['\\', 't']
  else if c = '\x08' then ['\\', 'b']
  else if c = '\x0c' then ['\\', 'f']
  else if c.toNat < 32 then
    ['\\', 'u', '0', '0', Nat.digitChar (c.toNat / 16), Nat.digitChar (c.toNat % 16)]
  else [c]

/-- A text up to its closing quote. -/
def quotedTail (text : Text) : Text := text.flatMap escaped ++ ['"']

def intText (n : Int) : Text :=
  if n < 0 then '-' :: Nat.toDigits 10 n.natAbs else Nat.toDigits 10 n.natAbs

/-- `", ".join` -/
def joined : List Text → Text
  | [] => []
  | [text] => text
  | text :: texts => text ++ ',' :: ' ' :: joined texts

mutual

def write : Json → Text
  | .null => ['n', 'u', 'l', 'l']
  | .bool true => ['t', 'r', 'u', 'e']
  | .bool false => ['f', 'a', 'l', 's', 'e']
  | .int value => intText value
  | .real literal => literal
  | .str text => '"' :: quotedTail text
  | .list items => '[' :: (joined (writeItems items) ++ [']'])
  | .dict entries => '{' :: (joined (writeEntries entries) ++ ['}'])

def writeItems : List Json → List Text
  | [] => []
  | item :: items => write item :: writeItems items

def writeEntries : List (Text × Json) → List Text
  | [] => []
  | (key, value) :: entries =>
      ('"' :: (quotedTail key ++ ':' :: ' ' :: write value)) :: writeEntries entries

end

/-! Reading: `json.loads`. -/

def isBlank (c : Char) : Bool := c == ' ' || c == '\t' || c == '\n' || c == '\r'

def skipBlanks (s : Text) : Text := s.dropWhile isBlank

def hexValue (c : Char) : Option Nat :=
  if c.isDigit then some (c.toNat - '0'.toNat)
  else if 'a' ≤ c ∧ c ≤ 'f' then some (c.toNat - 'a'.toNat + 10)
  else if 'A' ≤ c ∧ c ≤ 'F' then some (c.toNat - 'A'.toNat + 10)
  else none

def readHex4 : Text → Option (Nat × Text)
  | a :: b :: c :: d :: s => do
      let a ← hexValue a
      let b ← hexValue b
      let c ← hexValue c
      let d ← hexValue d
      return (((a * 16 + b) * 16 + c) * 16 + d, s)
  | _ => none

def isHighSurrogate (n : Nat) : Bool := 0xD800 ≤ n && n ≤ 0xDBFF

def isLowSurrogate (n : Nat) : Bool := 0xDC00 ≤ n && n ≤ 0xDFFF

/-- The character behind `\u`. -/
def readUnicode (s : Text) : Option (Char × Text) := do
  let (high, s) ← readHex4 s
  if isHighSurrogate high then
    match s with
    | '\\' :: 'u' :: s => do
        let (low, s) ← readHex4 s
        if isLowSurrogate low then
          return (Char.ofNat (0x10000 + (high - 0xD800) * 1024 + (low - 0xDC00)), s)
        else none
    | _ => none
  else if isLowSurrogate high then none
  else return (Char.ofNat high, s)

def unescape : Char → Option Char
  | '"' => some '"'
  | '\\' => some '\\'
  | '/' => some '/'
  | 'b' => some '\x08'
  | 'f' => some '\x0c'
  | 'n' => some '\n'
  | 'r' => some '\r'
  | 't' => some '\t'
  | _ => none

/-- One character of a text; control characters are refused. -/
def readChar : Text → Option (Char × Text)
  | '\\' :: 'u' :: s => readUnicode s
  | '\\' :: c :: s => (unescape c).map fun c => (c, s)
  | c :: s => if c = '\\' ∨ c.toNat < 32 then none else some (c, s)
  | [] => none

/-- A text behind its opening quote, with at most so many characters. -/
def readString : Nat → Text → Option (Text × Text)
  | _, '"' :: s => some ([], s)
  | 0, _ => none
  | n + 1, s => do
      let (c, s) ← readChar s
      let (text, s) ← readString n s
      return (c :: text, s)

/-- Digits, without a zero before others. -/
def readDigits (s : Text) : Option (Text × Text) :=
  match s.takeWhile Char.isDigit with
  | [] => none
  | '0' :: _ => some (['0'], s.tail)
  | digits => some (digits, s.dropWhile Char.isDigit)

/-- A fraction behind an integer, if there is one. -/
def readFraction : Text → Text × Text
  | '.' :: s =>
      match s.takeWhile Char.isDigit with
      | [] => ([], '.' :: s)
      | digits => ('.' :: digits, s.dropWhile Char.isDigit)
  | s => ([], s)

/-- An exponent, if there is one. -/
def readExponent (s : Text) : Text × Text :=
  match s with
  | e :: rest =>
      if e = 'e' ∨ e = 'E' then
        let (sign, rest) :=
          match rest with
          | '-' :: rest => (['-'], rest)
          | '+' :: rest => (['+'], rest)
          | rest => ([], rest)
        match rest.takeWhile Char.isDigit with
        | [] => ([], s)
        | digits => (e :: (sign ++ digits), rest.dropWhile Char.isDigit)
      else ([], s)
  | [] => ([], s)

def readUnsigned (negative : Bool) (s : Text) : Option (Json × Text) := do
  let (digits, s) ← readDigits s
  let (fraction, s) := readFraction s
  let (exponent, s) := readExponent s
  let sign : Text := if negative then ['-'] else []
  let n : Int := (Nat.ofDigitChars 10 digits 0 : Nat)
  if fraction = [] ∧ exponent = [] then return (.int (if negative then -n else n), s)
  else return (.real (sign ++ digits ++ fraction ++ exponent), s)

def readNumber : Text → Option (Json × Text)
  | '-' :: s => readUnsigned true s
  | s => readUnsigned false s

def readWord (word : Text) (value : Json) (s : Text) : Option (Json × Text) :=
  if word.isPrefixOf s then some (value, s.drop word.length) else none

/-- What is neither a text nor a container. -/
def readScalar (s : Text) : Option (Json × Text) :=
  (readWord ['n', 'u', 'l', 'l'] .null s).orElse fun _ =>
    (readWord ['t', 'r', 'u', 'e'] (.bool true) s).orElse fun _ =>
    (readWord ['f', 'a', 'l', 's', 'e'] (.bool false) s).orElse fun _ =>
    (readNumber s).orElse fun _ =>
    (readWord "NaN".toList (.real "NaN".toList) s).orElse fun _ =>
    (readWord "Infinity".toList (.real "Infinity".toList) s).orElse fun _ =>
    readWord "-Infinity".toList (.real "-Infinity".toList) s

section separated
variable {α : Type} (close : Char) (read : Text → Option (α × Text))

/-- Elements between commas, up to the closing character. -/
def readSeparated : Nat → Text → Option (List α × Text)
  | 0, _ => none
  | n + 1, s => do
      let (item, s) ← read s
      match skipBlanks s with
      | c :: s =>
          if c = close then return ([item], s)
          else if c = ',' then do
            let (items, s) ← readSeparated n (skipBlanks s)
            return (item :: items, s)
          else none
      | [] => none

def readElements (s : Text) : Option (List α × Text) :=
  match skipBlanks s with
  | [] => none
  | c :: s => if c = close then some ([], s) else readSeparated close read (s.length + 1) (c :: s)

end separated

def readEntry (read : Text → Option (Json × Text)) : Text → Option ((Text × Json) × Text)
  | '"' :: s => do
      let (key, s) ← readString s.length s
      match skipBlanks s with
      | ':' :: s => do
          let (value, s) ← read (skipBlanks s)
          return ((key, value), s)
      | _ => none
  | _ => none

/-- A value with at most so many containers in one another. Of entries with one key the last
    one counts. -/
def readValue : Nat → Text → Option (Json × Text)
  | 0, _ => none
  | fuel + 1, s =>
      match s with
      | '"' :: s => (readString s.length s).map fun (text, s) => (.str text, s)
      | '[' :: s => (readElements ']' (readValue fuel) s).map fun (items, s) => (.list items, s)
      | '{' :: s =>
          (readElements '}' (readEntry (readValue fuel)) s).map fun (pairs, s) =>
            (.dict (Dict.ofPairs pairs).entries, s)
      | s => readScalar s

def read (s : Text) : Option Json := do
  let (value, rest) ← readValue (s.length + 1) (skipBlanks s)
  if skipBlanks rest = [] then return value else none

/-! Reading what was written. -/

theorem hexValue_digitChar : ∀ k < 16, hexValue (Nat.digitChar k) = some k := by decide

theorem readChar_escaped (c : Char) (s : Text) : readChar (escaped c ++ s) = some (c, s) := by
  unfold escaped
  split
  · subst c
    rfl
  split
  · subst c
    rfl
  split
  · subst c
    rfl
  split
  · subst c
    rfl
  split
  · subst c
    rfl
  split
  · subst c
    rfl
  split
  · subst c
    rfl
  split
  · rename_i control
    have first := hexValue_digitChar (c.toNat / 16) (by omega)
    have second := hexValue_digitChar (c.toNat % 16) (by omega)
    have zero : hexValue '0' = some 0 := by decide
    have value : ((0 * 16 + 0) * 16 + c.toNat / 16) * 16 + c.toNat % 16 = c.toNat := by omega
    have high : isHighSurrogate c.toNat = false := by
      simp only [isHighSurrogate, Bool.and_eq_false_iff, decide_eq_false_iff_not]
      omega
    have low : isLowSurrogate c.toNat = false := by
      simp only [isLowSurrogate, Bool.and_eq_false_iff, decide_eq_false_iff_not]
      omega
    have read : readHex4 ('0' :: '0' :: Nat.digitChar (c.toNat / 16) ::
        Nat.digitChar (c.toNat % 16) :: s) = some (c.toNat, s) := by
      simp only [readHex4, zero, first, second, bind, Option.bind, pure, value]
    have char : readUnicode ('0' :: '0' :: Nat.digitChar (c.toNat / 16) ::
        Nat.digitChar (c.toNat % 16) :: s) = some (Char.ofNat c.toNat, s) := by
      unfold readUnicode
      simp only [read, bind, Option.bind, high, low, pure, Bool.false_eq_true, if_false]
    rw [Char.ofNat_toNat] at char
    exact char
  · rename_i noQuote noBackslash _ _ _ _ _ printable
    show readChar (c :: s) = some (c, s)
    unfold readChar
    split
    · rename_i same
      exact absurd (List.cons.inj same).1 noBackslash
    · rename_i same
      exact absurd (List.cons.inj same).1 noBackslash
    · rename_i same
      cases same
      rw [if_neg]
      simp [noBackslash]
      omega
    · rename_i same
      cases same

theorem escaped_head (c : Char) : ∃ d rest, escaped c = d :: rest ∧ d ≠ '"' := by
  unfold escaped
  split
  · exact ⟨_, _, rfl, by decide⟩
  split
  · exact ⟨_, _, rfl, by decide⟩
  split
  · exact ⟨_, _, rfl, by decide⟩
  split
  · exact ⟨_, _, rfl, by decide⟩
  split
  · exact ⟨_, _, rfl, by decide⟩
  split
  · exact ⟨_, _, rfl, by decide⟩
  split
  · exact ⟨_, _, rfl, by decide⟩
  split
  · exact ⟨_, _, rfl, by decide⟩
  · exact ⟨_, _, rfl, by assumption⟩

theorem readString_escaped (n : Nat) (c : Char) (s : Text) :
    readString (n + 1) (escaped c ++ s) = (readString n s).map fun (text, s) => (c :: text, s) := by
  obtain ⟨d, rest, head, other⟩ := escaped_head c
  have step : readString (n + 1) (escaped c ++ s) = do
      let (c, s) ← readChar (escaped c ++ s)
      let (text, s) ← readString n s
      return (c :: text, s) := by
    rw [head, List.cons_append, readString]
    intro s same
    exact other (List.cons.inj same).1
  rw [step, readChar_escaped]
  simp only [Option.bind_eq_bind, Option.bind_some]
  cases readString n s <;> rfl

theorem readString_quoted {n : Nat} {text : Text} (enough : text.length ≤ n) (s : Text) :
    readString n (quotedTail text ++ s) = some (text, s) := by
  induction text generalizing n with
  | nil => cases n <;> rfl
  | cons c text ih =>
    obtain ⟨m, rfl⟩ : ∃ m, n = m + 1 := ⟨n - 1, by simp at enough; omega⟩
    have tail : quotedTail (c :: text) ++ s = escaped c ++ (quotedTail text ++ s) := by
      simp [quotedTail]
    rw [tail, readString_escaped, ih (by simpa using enough)]
    rfl

theorem length_quotedTail (text : Text) : text.length < (quotedTail text).length := by
  induction text with
  | nil => decide
  | cons c text ih =>
    obtain ⟨d, rest, head, _⟩ := escaped_head c
    simp only [quotedTail, List.flatMap_cons, head, List.length_append, List.length_cons] at ih ⊢
    omega

/-- What may stand behind a value. -/
def Stops (s : Text) : Prop := ∀ c ∈ s.head?, c = ',' ∨ c = ']' ∨ c = '}'

theorem takeWhile_digits {digits s : Text} (all : ∀ c ∈ digits, c.isDigit = true) (stops : Stops s) :
    (digits ++ s).takeWhile Char.isDigit = digits ∧ (digits ++ s).dropWhile Char.isDigit = s := by
  have here : s.takeWhile Char.isDigit = [] ∧ s.dropWhile Char.isDigit = s := by
    cases s with
    | nil => exact ⟨rfl, rfl⟩
    | cons c s =>
      have plain : c.isDigit = false := by
        rcases stops c rfl with rfl | rfl | rfl <;> rfl
      simp [plain]
  rw [List.takeWhile_append_of_pos all, List.dropWhile_append_of_pos all, here.1, here.2,
    List.append_nil]
  exact ⟨rfl, rfl⟩

theorem toDigits_head (n : Nat) (positive : 0 < n) : ∃ d rest, Nat.toDigits 10 n = d :: rest ∧ d ≠ '0' := by
  induction n using Nat.strong_induction_on with
  | _ n ih =>
    by_cases small : n < 10
    · refine ⟨Nat.digitChar n, [], Nat.toDigits_of_lt_base small, ?_⟩
      have plain : ∀ k < 10, 0 < k → Nat.digitChar k ≠ '0' := by decide
      exact plain n small positive
    · obtain ⟨d, rest, front, nonzero⟩ := ih (n / 10) (by omega) (by omega)
      refine ⟨d, rest ++ [Nat.digitChar (n % 10)], ?_, nonzero⟩
      rw [Nat.toDigits_of_base_le (by omega) (by omega), front, List.cons_append]

theorem readDigits_toDigits (n : Nat) {s : Text} (stops : Stops s) :
    readDigits (Nat.toDigits 10 n ++ s) = some (Nat.toDigits 10 n, s) := by
  have all : ∀ c ∈ Nat.toDigits 10 n, c.isDigit = true :=
    fun c member => Nat.isDigit_of_mem_toDigits (by omega) (by omega) member
  obtain ⟨taken, dropped⟩ := takeWhile_digits all stops
  unfold readDigits
  rw [taken, dropped]
  rcases Nat.eq_zero_or_pos n with rfl | positive
  · rfl
  · obtain ⟨d, rest, digits, nonzero⟩ := toDigits_head n positive
    rw [digits]
    split
    · rename_i same
      cases same
    · rename_i same
      exact absurd (List.cons.inj same).1 nonzero
    · rfl

theorem readUnsigned_toDigits (negative : Bool) (n : Nat) {s : Text} (stops : Stops s) :
    readUnsigned negative (Nat.toDigits 10 n ++ s) =
      some (.int (if negative then -(n : Int) else n), s) := by
  have fraction : readFraction s = ([], s) := by
    cases s with
    | nil => rfl
    | cons c s => rcases stops c rfl with rfl | rfl | rfl <;> rfl
  have exponent : readExponent s = ([], s) := by
    cases s with
    | nil => rfl
    | cons c s => rcases stops c rfl with rfl | rfl | rfl <;> rfl
  unfold readUnsigned
  rw [readDigits_toDigits n stops]
  simp only [Option.bind_eq_bind, Option.bind_some, fraction, exponent, and_self, if_true,
    Nat.ofDigitChars_ten_toDigits]
  rfl

theorem toDigits_cons (n : Nat) : ∃ d rest, Nat.toDigits 10 n = d :: rest ∧ d.isDigit = true := by
  cases digits : Nat.toDigits 10 n with
  | nil => exact absurd digits Nat.toDigits_ne_nil
  | cons d rest =>
    have member : d ∈ Nat.toDigits 10 n := by simp [digits]
    exact ⟨d, rest, rfl, Nat.isDigit_of_mem_toDigits (by omega) (by omega) member⟩

theorem readNumber_intText (n : Int) {s : Text} (stops : Stops s) :
    readNumber (intText n ++ s) = some (.int n, s) := by
  unfold intText
  split
  · have negative := readUnsigned_toDigits true n.natAbs stops
    have value : -(n.natAbs : Int) = n := by omega
    rw [if_pos rfl, value] at negative
    exact negative
  · have positive := readUnsigned_toDigits false n.natAbs stops
    have value : (n.natAbs : Int) = n := by omega
    rw [if_neg (by decide), value] at positive
    obtain ⟨d, rest, digits, digit⟩ := toDigits_cons n.natAbs
    rw [← positive, digits, List.cons_append, readNumber]
    rintro s same
    have minus := (List.cons.inj same).1
    subst minus
    cases digit

theorem intText_head (n : Int) :
    ∃ d rest, intText n = d :: rest ∧ (d = '-' ∨ d.isDigit = true) := by
  obtain ⟨d, rest, digits, digit⟩ := toDigits_cons n.natAbs
  unfold intText
  split
  · exact ⟨_, _, rfl, .inl rfl⟩
  · exact ⟨d, rest, digits, .inr digit⟩

/-- A number begins like no other value. -/
theorem number_start {c d : Char} (kind : d = '-' ∨ d.isDigit = true)
    (other : c ≠ '-' ∧ c.isDigit = false) : c ≠ d := by
  rintro rfl
  rcases kind with rfl | digit
  · exact other.1 rfl
  · rw [other.2] at digit
    cases digit

theorem readScalar_intText (n : Int) {s : Text} (stops : Stops s) :
    readScalar (intText n ++ s) = some (.int n, s) := by
  have number := readNumber_intText n stops
  obtain ⟨d, rest, text, kind⟩ := intText_head n
  have plain : ∀ c : Char, c = 'n' ∨ c = 't' ∨ c = 'f' → c ≠ d := by
    intro c letter
    apply number_start kind
    rcases letter with rfl | rfl | rfl <;> decide
  have none : ∀ c word value, (c = 'n' ∨ c = 't' ∨ c = 'f') →
      readWord (c :: word) value (intText n ++ s) = none := by
    intro c word value letter
    unfold readWord
    rw [text, List.cons_append, if_neg]
    simp [plain c letter]
  unfold readScalar
  rw [none 'n' _ _ (.inl rfl), none 't' _ _ (.inr (.inl rfl)), none 'f' _ _ (.inr (.inr rfl)), number]
  rfl

section separated
variable {α : Type} {close : Char} {reads : Text → Option (α × Text)} {shown : α → Text}

/-- The text starts with a character that is neither blank nor closes anything. -/
def Opens (s : Text) : Prop := ∃ c rest, s = c :: rest ∧ isBlank c = false ∧ c ≠ ']' ∧ c ≠ '}'

theorem Opens.append {s : Text} (opens : Opens s) (t : Text) : Opens (s ++ t) := by
  obtain ⟨c, rest, rfl, plain⟩ := opens
  exact ⟨c, rest ++ t, rfl, plain⟩

theorem Opens.skipBlanks {s : Text} (opens : Opens s) : skipBlanks s = s := by
  obtain ⟨c, rest, rfl, plain, _⟩ := opens
  exact List.dropWhile_cons_of_neg (by simp [plain])

theorem opens_joined {text : Text} {texts : List Text} (opens : Opens text) :
    Opens (joined (text :: texts)) := by
  cases texts with
  | nil => exact opens
  | cons next texts => exact opens.append _

theorem length_joined {texts : List Text} (opens : ∀ text ∈ texts, Opens text) :
    texts.length ≤ (joined texts).length := by
  induction texts with
  | nil => exact le_rfl
  | cons text texts ih =>
    obtain ⟨c, rest, rfl, _⟩ := opens text List.mem_cons_self
    have tail := ih fun other member => opens other (List.mem_cons_of_mem _ member)
    cases texts with
    | nil => simp [joined]
    | cons next texts =>
      simp only [joined, List.length_append, List.length_cons] at tail ⊢
      omega

theorem readSeparated_joined (closes : close = ']' ∨ close = '}') {items : List α}
    (read_shown : ∀ item ∈ items, ∀ s, Stops s → reads (shown item ++ s) = some (item, s))
    (opens : ∀ item ∈ items, Opens (shown item)) (nonempty : items ≠ []) {n : Nat}
    (enough : items.length ≤ n) (s : Text) :
    readSeparated close reads n (joined (items.map shown) ++ close :: s) = some (items, s) := by
  have blank : isBlank close = false := by rcases closes with rfl | rfl <;> rfl
  induction items generalizing n with
  | nil => exact absurd rfl nonempty
  | cons item items ih =>
    obtain ⟨m, rfl⟩ : ∃ m, n = m + 1 := ⟨n - 1, by simp at enough; omega⟩
    have here := read_shown item List.mem_cons_self
    cases items with
    | nil =>
      have stops : Stops (close :: s) := by
        intro c same
        cases same
        exact .inr closes
      have closing : skipBlanks (close :: s) = close :: s :=
        List.dropWhile_cons_of_neg (by simp [blank])
      simp only [List.map_cons, List.map_nil, joined, readSeparated, here _ stops,
        Option.bind_eq_bind, Option.bind_some, closing, if_true]
      rfl
    | cons next items =>
      have stops : ∀ t, Stops (',' :: t) := by
        intro t c same
        cases same
        exact .inl rfl
      have apart : ',' ≠ close := by rcases closes with rfl | rfl <;> decide
      have later := ih (fun other member => read_shown other (List.mem_cons_of_mem _ member))
        (fun other member => opens other (List.mem_cons_of_mem _ member)) (by simp)
        (by simpa using enough)
      have opened : Opens (joined ((next :: items).map shown) ++ close :: s) :=
        (opens_joined (opens next (by simp))).append _
      have comma : ∀ t, skipBlanks (',' :: t) = ',' :: t := fun t => rfl
      have space : ∀ t, skipBlanks (' ' :: t) = skipBlanks t := fun t => rfl
      have text : joined ((item :: next :: items).map shown) ++ close :: s =
          shown item ++ ',' :: ' ' :: (joined ((next :: items).map shown) ++ close :: s) := by
        simp [joined]
      rw [text, readSeparated, here _ (stops _)]
      simp only [Option.bind_eq_bind, Option.bind_some, comma, if_neg apart, if_true, space,
        opened.skipBlanks, later]
      rfl

theorem readElements_joined (closes : close = ']' ∨ close = '}') {items : List α}
    (read_shown : ∀ item ∈ items, ∀ s, Stops s → reads (shown item ++ s) = some (item, s))
    (opens : ∀ item ∈ items, Opens (shown item)) (s : Text) :
    readElements close reads (joined (items.map shown) ++ close :: s) = some (items, s) := by
  have blank : isBlank close = false := by rcases closes with rfl | rfl <;> rfl
  unfold readElements
  cases items with
  | nil =>
    have closing : skipBlanks (close :: s) = close :: s :=
      List.dropWhile_cons_of_neg (by simp [blank])
    simp only [List.map_nil, joined, List.nil_append, closing, if_true]
  | cons item items =>
    have opened : Opens (joined ((item :: items).map shown)) :=
      opens_joined (opens item List.mem_cons_self)
    have all : ∀ text ∈ (item :: items).map shown, Opens text := by
      intro text member
      obtain ⟨other, inside, rfl⟩ := List.mem_map.mp member
      exact opens other inside
    have length := length_joined all
    have separated := fun n enough => readSeparated_joined (n := n) closes read_shown opens
      (List.cons_ne_nil item items) enough s
    rw [(opened.append _).skipBlanks]
    obtain ⟨c, rest, text, _, noBracket, noBrace⟩ := opened.append (close :: s)
    have other : c ≠ close := by
      rcases closes with rfl | rfl
      · exact noBracket
      · exact noBrace
    have total := congrArg List.length text
    rw [text] at separated ⊢
    simp only [if_neg other]
    apply separated
    simp only [List.length_append, List.length_cons, List.length_map] at total length ⊢
    omega

end separated
/-! Values. -/

def writeEntry (entry : Text × Json) : Text :=
  '"' :: (quotedTail entry.1 ++ ':' :: ' ' :: write entry.2)

theorem writeItems_eq (items : List Json) : writeItems items = items.map write := by
  induction items with
  | nil => rfl
  | cons item items ih => rw [writeItems, ih, List.map_cons]

theorem writeEntries_eq (entries : List (Text × Json)) :
    writeEntries entries = entries.map writeEntry := by
  induction entries with
  | nil => rfl
  | cons entry entries ih => rw [writeEntries, ih, List.map_cons, writeEntry]

mutual

/-- No number is a literal, and no key is in an object twice. -/
def Plain : Json → Prop
  | .real _ => False
  | .list items => PlainItems items
  | .dict entries => (entries.map Prod.fst).Nodup ∧ PlainEntries entries
  | _ => True

def PlainItems : List Json → Prop
  | [] => True
  | item :: items => Plain item ∧ PlainItems items

def PlainEntries : List (Text × Json) → Prop
  | [] => True
  | (_, value) :: entries => Plain value ∧ PlainEntries entries

end

mutual

/-- The containers in one another, with the value itself. -/
def depth : Json → Nat
  | .list items => depthItems items + 1
  | .dict entries => depthEntries entries + 1
  | _ => 1

def depthItems : List Json → Nat
  | [] => 0
  | item :: items => max (depth item) (depthItems items)

def depthEntries : List (Text × Json) → Nat
  | [] => 0
  | (_, value) :: entries => max (depth value) (depthEntries entries)

end

theorem plain_item {items : List Json} (plain : PlainItems items) :
    ∀ item ∈ items, Plain item ∧ depth item ≤ depthItems items := by
  induction items with
  | nil =>
    intro item member
    cases member
  | cons first items ih =>
    intro item member
    rw [depthItems]
    rcases List.mem_cons.mp member with rfl | later
    · exact ⟨plain.1, le_max_left _ _⟩
    · obtain ⟨plain_item, within⟩ := ih plain.2 item later
      exact ⟨plain_item, within.trans (le_max_right _ _)⟩

theorem plain_entry {entries : List (Text × Json)} (plain : PlainEntries entries) :
    ∀ entry ∈ entries, Plain entry.2 ∧ depth entry.2 ≤ depthEntries entries := by
  induction entries with
  | nil =>
    intro entry member
    cases member
  | cons first entries ih =>
    intro entry member
    obtain ⟨key, value⟩ := first
    rw [depthEntries]
    rcases List.mem_cons.mp member with rfl | later
    · exact ⟨plain.1, le_max_left _ _⟩
    · obtain ⟨plain_value, within⟩ := ih plain.2 entry later
      exact ⟨plain_value, within.trans (le_max_right _ _)⟩

theorem opens_write {value : Json} (plain : Plain value) : Opens (write value) := by
  cases value with
  | null => exact ⟨_, _, rfl, rfl, by decide, by decide⟩
  | bool value => cases value <;> exact ⟨_, _, rfl, rfl, by decide, by decide⟩
  | int value =>
    rw [write]
    obtain ⟨d, rest, text, kind⟩ := intText_head value
    refine ⟨d, rest, text, ?_, ?_, ?_⟩
    · rw [Bool.eq_false_iff]
      intro blank
      simp only [isBlank, Bool.or_eq_true, beq_iff_eq] at blank
      rcases blank with ((rfl | rfl) | rfl) | rfl <;> rcases kind with kind | kind <;> cases kind
    · exact (number_start kind (by decide)).symm
    · exact (number_start kind (by decide)).symm
  | real literal => cases plain
  | str text => exact ⟨_, _, rfl, rfl, by decide, by decide⟩
  | list items => exact ⟨_, _, rfl, rfl, by decide, by decide⟩
  | dict entries => exact ⟨_, _, rfl, rfl, by decide, by decide⟩

theorem opens_writeEntry (entry : Text × Json) : Opens (writeEntry entry) :=
  ⟨_, _, rfl, rfl, by decide, by decide⟩

theorem readString_self (text s : Text) :
    readString (quotedTail text ++ s).length (quotedTail text ++ s) = some (text, s) := by
  have longer := length_quotedTail text
  apply readString_quoted
  rw [List.length_append]
  omega

theorem readEntry_written {reads : Text → Option (Json × Text)} {entry : Text × Json}
    (opens : Opens (write entry.2))
    (read_written : ∀ s, Stops s → reads (write entry.2 ++ s) = some (entry.2, s)) {s : Text}
    (stops : Stops s) : readEntry reads (writeEntry entry ++ s) = some (entry, s) := by
  have text : writeEntry entry ++ s =
      '"' :: (quotedTail entry.1 ++ (':' :: ' ' :: (write entry.2 ++ s))) := by
    simp [writeEntry]
  have colon : ∀ t, skipBlanks (':' :: t) = ':' :: t := fun t => rfl
  have space : ∀ t, skipBlanks (' ' :: t) = skipBlanks t := fun t => rfl
  rw [text, readEntry, readString_self]
  simp only [Option.bind_eq_bind, Option.bind_some, colon, space, (opens.append s).skipBlanks,
    read_written s stops]
  rfl

/-- What was written is read again, whatever stands behind it. -/
theorem readValue_write {fuel : Nat} {value : Json} (plain : Plain value)
    (enough : depth value ≤ fuel) {s : Text} (stops : Stops s) :
    readValue fuel (write value ++ s) = some (value, s) := by
  induction fuel generalizing value s with
  | zero => cases value <;> simp [depth] at enough
  | succ fuel ih =>
    cases value with
    | null => rfl
    | bool value => cases value <;> rfl
    | int value =>
      have scalar := readScalar_intText value stops
      obtain ⟨d, rest, text, kind⟩ := intText_head value
      rw [write, ← scalar, text, List.cons_append, readValue]
      · intro t same
        exact number_start kind (by decide) (List.cons.inj same).1.symm
      · intro t same
        exact number_start kind (by decide) (List.cons.inj same).1.symm
      · intro t same
        exact number_start kind (by decide) (List.cons.inj same).1.symm
    | real literal => cases plain
    | str text =>
      rw [write, List.cons_append, readValue, readString_self]
      rfl
    | list items =>
      have inner : depthItems items ≤ fuel := by
        rw [depth] at enough
        omega
      have elements : readElements ']' (readValue fuel) (joined (items.map write) ++ ']' :: s) =
          some (items, s) := readElements_joined (.inl rfl)
        (fun item member t stops => by
          obtain ⟨plain_item, within⟩ := plain_item plain item member
          exact ih plain_item (within.trans inner) stops)
        (fun item member => opens_write (plain_item plain item member).1) s
      have text : write (.list items) ++ s = '[' :: (joined (items.map write) ++ ']' :: s) := by
        simp [write, writeItems_eq]
      rw [text, readValue, elements]
      rfl
    | dict entries =>
      have inner : depthEntries entries ≤ fuel := by
        rw [depth] at enough
        omega
      have elements : readElements '}' (readEntry (readValue fuel))
          (joined (entries.map writeEntry) ++ '}' :: s) = some (entries, s) :=
        readElements_joined (.inr rfl)
        (fun entry member t stops => by
          obtain ⟨plain_value, within⟩ := plain_entry plain.2 entry member
          exact readEntry_written (opens_write plain_value)
            (fun u stops => ih plain_value (within.trans inner) stops) stops)
        (fun entry _ => opens_writeEntry entry) s
      have text : write (.dict entries) ++ s = '{' :: (joined (entries.map writeEntry) ++ '}' :: s) := by
        simp [write, writeEntries_eq]
      rw [text, readValue, elements, Option.map_some]
      dsimp only
      rw [Dict.entries_ofPairs plain.1]

theorem length_le_joined {text : Text} {texts : List Text} (member : text ∈ texts) :
    text.length ≤ (joined texts).length := by
  induction texts with
  | nil => cases member
  | cons first texts ih =>
    cases texts with
    | nil =>
      rw [List.mem_singleton.mp member]
      exact le_rfl
    | cons next texts =>
      have split : joined (first :: next :: texts) = first ++ ',' :: ' ' :: joined (next :: texts) := rfl
      rw [split, List.length_append, List.length_cons, List.length_cons]
      rcases List.mem_cons.mp member with rfl | later
      · omega
      · have tail := ih later
        omega

theorem depthItems_le {items : List Json} {k : Nat} (all : ∀ item ∈ items, depth item ≤ k) :
    depthItems items ≤ k := by
  induction items with
  | nil => exact Nat.zero_le k
  | cons item items ih =>
    rw [depthItems]
    exact max_le (all item List.mem_cons_self)
      (ih fun other member => all other (List.mem_cons_of_mem _ member))

theorem depthEntries_le {entries : List (Text × Json)} {k : Nat}
    (all : ∀ entry ∈ entries, depth entry.2 ≤ k) : depthEntries entries ≤ k := by
  induction entries with
  | nil => exact Nat.zero_le k
  | cons entry entries ih =>
    obtain ⟨key, value⟩ := entry
    rw [depthEntries]
    exact max_le (all (key, value) List.mem_cons_self)
      (ih fun other member => all other (List.mem_cons_of_mem _ member))

theorem depth_le_length {n : Nat} {value : Json} (plain : Plain value) (bound : depth value ≤ n) :
    depth value ≤ (write value).length := by
  induction n generalizing value with
  | zero => cases value <;> simp [depth] at bound
  | succ n ih =>
    have opened : 1 ≤ (write value).length := by
      obtain ⟨c, rest, text, _⟩ := opens_write plain
      simp [text]
    cases value with
    | list items =>
      rw [depth] at bound ⊢
      have inner : depthItems items ≤ (joined (items.map write)).length := by
        apply depthItems_le
        intro item member
        obtain ⟨plain_item, within⟩ := plain_item plain item member
        have written := length_le_joined (List.mem_map_of_mem (f := write) member)
        exact (ih plain_item (by omega)).trans written
      simp only [write, writeItems_eq, List.length_cons, List.length_append]
      omega
    | dict entries =>
      rw [depth] at bound ⊢
      have inner : depthEntries entries ≤ (joined (entries.map writeEntry)).length := by
        apply depthEntries_le
        intro entry member
        obtain ⟨plain_value, within⟩ := plain_entry plain.2 entry member
        have written := length_le_joined (List.mem_map_of_mem (f := writeEntry) member)
        have value := ih plain_value (by omega)
        simp only [writeEntry, List.length_cons, List.length_append] at written
        omega
      simp only [write, writeEntries_eq, List.length_cons, List.length_append]
      omega
    | _ => exact opened

/-- Reading gives back what was written. -/
theorem read_write {value : Json} (plain : Plain value) : read (write value) = some value := by
  have opened := opens_write plain
  have enough := depth_le_length plain le_rfl
  have whole : readValue ((write value).length + 1) (write value ++ []) = some (value, []) := by
    apply readValue_write plain (by omega)
    intro c none
    cases none
  rw [List.append_nil] at whole
  unfold read
  rw [opened.skipBlanks, whole]
  rfl

end JsonText
