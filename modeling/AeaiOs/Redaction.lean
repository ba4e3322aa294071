import AeaiOs.Lib.BacktrackRegex
import AeaiOs.Lib.UrlSplit
import AeaiOs.Values

/-!
Secret redaction. Values are rewritten by two drivers: the name of the key they
are filed under, and patterns searched in every text.
-/
namespace Redaction
open PyText BacktrackRegex UrlSplit RunValues

variable [UnicodeDatabase]

def redacted : String := "[REDACTED]"

def sensitiveKeyFragments : List String :=
  ["api_key", "apikey", "auth_token", "authorization", "cookie", "password", "private_key",
    "secret", "session", "token"]

def sensitiveExactKeys : List String :=
  ["access_key", "access_key_id", "connection_string", "database_url", "dsn",
    "secret_access_key"]

def safeReferenceKeys : List String :=
  ["configured_env_keys", "credential_profile", "credential_profile_id",
    "credential_profile_ids", "missing_env_keys", "secret_env_keys", "token_env_options"]

def isSensitiveKeyText (key : Text) : Bool :=
  let normalized := (UnicodeDatabase.lower key).map fun c => if c = '-' then '_' else c
  if safeReferenceKeys.any (fun k => k.toList == normalized) then false
  else if sensitiveExactKeys.any (fun k => k.toList == normalized) then true
  else sensitiveKeyFragments.any fun fragment => contains normalized fragment.toList

def isSensitiveKey (key : String) : Bool := isSensitiveKeyText key.toList

/-! The three patterns, as they are spelled in the source. -/

/-- `\b[a-z][a-z0-9+.-]*://[^\s<>'"]+` -/
def urlPattern : Regex :=
  inSequence
    [.boundary, .one foldLetter,
      .star (.one fun c => foldLetter c || c.isDigit || oneOf "+.-" c),
      literal "://", plus (.one fun c => !(isSpace c || oneOf "<>'\"" c))]

def bearerChar (c : Char) : Bool := foldLetter c || c.isDigit || oneOf "._~+/=-" c

/-- `\b(bearer)\s+([A-Za-z0-9._~+/=-]{6,})` -/
def bearerPattern : Regex :=
  inSequence
    [.boundary, .group 1 (literal "bearer"), plus (.one isSpace),
      .group 2 (inSequence (List.replicate 6 (.one bearerChar) ++ [.star (.one bearerChar)]))]

def keyNames : Regex :=
  let dash := orEmpty (.one (oneOf "_-"))
  choice
    [inSequence [literal "api", dash, literal "key"],
      inSequence [literal "access", dash, literal "token"],
      inSequence [literal "refresh", dash, literal "token"],
      inSequence [literal "auth", dash, literal "token"], literal "token",
      literal "authorization", literal "password", literal "passwd", literal "secret",
      inSequence [literal "private", dash, literal "key"],
      inSequence [literal "session", dash, literal "id"]]

/-- `\b(api[_-]?key|...|session[_-]?id)(\s*[:=]\s*)([^\s,;]+)` -/
def keyValuePattern : Regex :=
  inSequence
    [.boundary, .group 1 keyNames,
      .group 2 (inSequence [.star (.one isSpace), .one (oneOf ":="), .star (.one isSpace)]),
      .group 3 (plus (.one fun c => !(isSpace c || oneOf ",;" c)))]

/-! Redacting a uri. `ValueError`s of `urlsplit` are caught, those of `.port` are not. -/

def maskedUserinfo : Text := "__aeai_redacted__@".toList

def redactedNetloc (parsed : SplitResult) : Except String Text := do
  let named := parsed.username.any (fun name => !name.isEmpty) ||
    parsed.password.any (fun password => !password.isEmpty)
  if named then
    let host := parsed.hostname.getD []
    let port ← parsed.port
    let suffix := match port with
      | some n => if n = 0 then [] else ':' :: (toString n).toList
      | none => []
    return redacted.toList ++ ['@'] ++ host ++ suffix
  else return parsed.netloc

def redactUriText (uri : Text) : Except String Text :=
  match urlsplit (replace uri (redacted.toList ++ ['@']) maskedUserinfo) with
  | .error _ => .ok uri
  | .ok parsed => do
      let netloc ← redactedNetloc parsed
      let query := urlencode <| (parseQsl parsed.query).map fun (key, value) =>
        (key, if isSensitiveKeyText key then redacted.toList else value)
      return urlunsplit ⟨parsed.scheme, netloc, parsed.path, query, parsed.fragment⟩

def redactTextChars (value : Text) : Except String Text :=
  if fullmatch urlPattern value then redactUriText value
  else do
    let value ← sub urlPattern (fun m => redactUriText m.text) value
    let value ← sub bearerPattern
      (fun m => .ok (m.groupAt 1 ++ [' '] ++ redacted.toList)) value
    sub keyValuePattern
      (fun m => .ok (m.groupAt 1 ++ m.groupAt 2 ++ redacted.toList)) value

/-- `redact_text` of a `str`; what escapes is the `ValueError` of `.port`. -/
def redactText (value : String) : Except PyError String :=
  match redactTextChars value.toList with
  | .ok text => .ok (String.ofList text)
  | .error message => .error (.valueError message)

def redactUri (uri : String) : Except PyError String :=
  match redactUriText uri.toList with
  | .ok text => .ok (String.ofList text)
  | .error message => .error (.valueError message)

/-- `redact_text(value)` of an optional text. -/
def redactOptional : Option String → Except PyError (Option String)
  | none => .ok none
  | some value => (redactText value).map some

/-- A text that is filed under a key. -/
def redactTextAt (key value : String) : Except PyError String :=
  if isSensitiveKey key then .ok redacted else redactText value

mutual

def redactValueAt : Option String → PyValue → Except PyError PyValue
  | key, value =>
      if key.any isSensitiveKey then .ok (.str redacted)
      else match value with
        | .dict entries => (redactEntries entries).map .dict
        | .list items => (redactItems items).map .list
        | .str text => (redactText text).map .str
        | other => .ok other

def redactEntries : List (String × PyValue) → Except PyError (List (String × PyValue))
  | [] => .ok []
  | (key, value) :: rest => do
      let value ← redactValueAt (some key) value
      let rest ← redactEntries rest
      return (key, value) :: rest

def redactItems : List PyValue → Except PyError (List PyValue)
  | [] => .ok []
  | item :: rest => do
      let item ← redactValueAt none item
      let rest ← redactItems rest
      return item :: rest

end

def redactValue (value : PyValue) : Except PyError PyValue := redactValueAt none value

/-- `redact_value` of a list of texts. -/
def redactTexts : List String → Except PyError (List String)
  | [] => .ok []
  | text :: rest => do
      let text ← redactText text
      let rest ← redactTexts rest
      return text :: rest

/-! No pattern matches without a colon, an equals sign or white space. -/

def plainChar (c : Char) : Bool := !(foldChar ':' c || isSpace c || oneOf ":=" c)

theorem url_demands_colon : Demands (foldChar ':') urlPattern :=
  demands_second <| demands_second <| demands_second <| demands_first <| demands_first <|
    demands_one _

theorem bearer_demands_space : Demands isSpace bearerPattern :=
  demands_second <| demands_second <| demands_first <| demands_first <| demands_one _

theorem keyValue_demands_separator : Demands (oneOf ":=") keyValuePattern :=
  demands_second <| demands_second <| demands_first <| demands_group <| demands_second <|
    demands_first <| demands_one _

theorem redactText_unmatched {value : String} (whole : fullmatch urlPattern value.toList = false)
    (url : ∀ replacement : Match → Except String Text,
      sub urlPattern replacement value.toList = .ok value.toList)
    (bearer : ∀ replacement : Match → Except String Text,
      sub bearerPattern replacement value.toList = .ok value.toList)
    (keyValue : ∀ replacement : Match → Except String Text,
      sub keyValuePattern replacement value.toList = .ok value.toList) :
    redactText value = .ok value := by
  have unchanged : redactTextChars value.toList = .ok value.toList := by
    simp only [redactTextChars, whole, Bool.false_eq_true, if_false, url, bearer, keyValue, bind,
      Except.bind]
  simp [redactText, unchanged]

theorem redactText_plain {value : String} (h : ∀ c ∈ value.toList, plainChar c = true) :
    redactText value = .ok value := by
  have noColon : ∀ c ∈ value.toList, foldChar ':' c = false := by
    intro c hc
    have := h c hc
    simp only [plainChar, Bool.not_eq_true', Bool.or_eq_false_iff] at this
    exact this.1.1
  have noSpace : ∀ c ∈ value.toList, isSpace c = false := by
    intro c hc
    have := h c hc
    simp only [plainChar, Bool.not_eq_true', Bool.or_eq_false_iff] at this
    exact this.1.2
  have noSeparator : ∀ c ∈ value.toList, oneOf ":=" c = false := by
    intro c hc
    have := h c hc
    simp only [plainChar, Bool.not_eq_true', Bool.or_eq_false_iff] at this
    exact this.2
  apply redactText_unmatched
  · exact fullmatch_false url_demands_colon noColon
  · exact sub_unchanged url_demands_colon noColon
  · exact sub_unchanged bearer_demands_space noSpace
  · exact sub_unchanged keyValue_demands_separator noSeparator

theorem bearer_starts {before : Option Char} {s : Text} (h : clashes "bearer".toList s = true) :
    matchAt bearerPattern before s = none := by
  simp only [matchAt, Option.map_eq_none_iff, List.head?_eq_none_iff]
  rw [List.eq_nil_iff_forall_not_mem]
  intro n member
  simp only [bearerPattern, inSequence, List.foldr_cons, paths, List.mem_flatMap] at member
  obtain ⟨start, bounded, middle, grouped, -⟩ := member
  split at bounded
  · rw [List.mem_singleton] at bounded
    obtain ⟨inner, read, -⟩ := List.mem_map.mp grouped
    have starts := literal_starts read
    rw [bounded] at starts
    simp only at starts
    rw [h] at starts
    cases starts
  · cases bounded

/-- White space alone brings no pattern in. -/
theorem redactText_sentence {value : String}
    (plain : ∀ c ∈ value.toList, (foldChar ':' c || oneOf ":=" c) = false)
    (bearerless : nowhere "bearer".toList value.toList = true) : redactText value = .ok value := by
  have noColon : ∀ c ∈ value.toList, foldChar ':' c = false := by
    intro c member
    exact (Bool.or_eq_false_iff.mp (plain c member)).1
  have noSeparator : ∀ c ∈ value.toList, oneOf ":=" c = false := by
    intro c member
    exact (Bool.or_eq_false_iff.mp (plain c member)).2
  have noBearer : ∀ before t, t <:+ value.toList → t ≠ [] →
      matchAt bearerPattern before t = none := by
    intro before t inside nonempty
    exact bearer_starts (clashes_of_nowhere bearerless inside nonempty)
  apply redactText_unmatched
  · exact fullmatch_false url_demands_colon noColon
  · exact sub_unchanged url_demands_colon noColon
  · intro replacement
    exact sub_of_no_match replacement noBearer
  · exact sub_unchanged keyValue_demands_separator noSeparator

/-- Every pattern needs at least five characters. -/
theorem redactText_short {value : String} (short : value.length < 5) :
    redactText value = .ok value := by
  have url : minLength urlPattern = 5 := by decide
  have bearer : minLength bearerPattern = 13 := by decide
  have keyValue : minLength keyValuePattern = 7 := by decide
  have length : value.toList.length < 5 := short
  apply redactText_unmatched
  · exact fullmatch_short (by omega)
  · exact sub_short (by omega)
  · exact sub_short (by omega)
  · exact sub_short (by omega)

/-! Timestamps. -/

/-- The characters of a timestamp as `isoformat` writes it. -/
def stampChar (c : Char) : Bool := c.isDigit || oneOf "-T:.+" c

/-- A letter of which every name in the third pattern has one, and no timestamp any. -/
def namingChar (c : Char) : Bool :=
  foldChar 'a' c || foldChar 'r' c || foldChar 'o' c || foldChar 'p' c || foldChar 's' c

omit [UnicodeDatabase] in
theorem stampChar_plain {c : Char} (h : stampChar c = true) :
    foldChar '/' c = false ∧ isSpace c = false ∧ namingChar c = false := by
  have small : c.toNat < 128 := by
    simp only [stampChar, oneOf, Bool.or_eq_true, List.contains_eq_mem, decide_eq_true_eq,
      Char.isDigit, Bool.and_eq_true] at h
    rcases h with ⟨-, digit⟩ | other
    · have : c.toNat ≤ 57 := digit
      omega
    · have each : ∀ d ∈ "-T:.+".toList, d.toNat < 128 := by simp
      exact each c other
  have each : ∀ n, n < 128 → stampChar (Char.ofNat n) = true →
      foldChar '/' (Char.ofNat n) = false ∧ isSpace (Char.ofNat n) = false ∧
        namingChar (Char.ofNat n) = false := by decide
  have here := each c.toNat small
  rw [Char.ofNat_toNat] at here
  exact here h

theorem url_demands_slash : Demands (foldChar '/') urlPattern :=
  demands_second <| demands_second <| demands_second <| demands_first <| demands_second <|
    demands_first <| demands_one _

theorem keyNames_demand_letter : Demands namingChar keyNames := by
  have first : ∀ {letter : Char} {rest : Regex}, (∀ c, foldChar letter c = true →
      namingChar c = true) → Demands namingChar (.seq (.one (foldChar letter)) rest) :=
    fun imp => demands_first (demands_of_imp (demands_one _) imp)
  have a : ∀ c, foldChar 'a' c = true → namingChar c = true := by simp_all [namingChar]
  have r : ∀ c, foldChar 'r' c = true → namingChar c = true := by simp_all [namingChar]
  have o : ∀ c, foldChar 'o' c = true → namingChar c = true := by simp_all [namingChar]
  have p : ∀ c, foldChar 'p' c = true → namingChar c = true := by simp_all [namingChar]
  have s : ∀ c, foldChar 's' c = true → namingChar c = true := by simp_all [namingChar]
  apply demands_alt (demands_first (first a))
  apply demands_alt (demands_first (first a))
  apply demands_alt (demands_first (first r))
  apply demands_alt (demands_first (first a))
  apply demands_alt (demands_second (first o))
  apply demands_alt (first a)
  apply demands_alt (first p)
  apply demands_alt (first p)
  apply demands_alt (first s)
  exact demands_alt (demands_first (first p)) (demands_first (first s))

theorem keyValue_demands_letter : Demands namingChar keyValuePattern :=
  demands_second <| demands_first <| demands_group keyNames_demand_letter

theorem redactText_stamp {value : String} (h : ∀ c ∈ value.toList, stampChar c = true) :
    redactText value = .ok value := by
  have noSlash : ∀ c ∈ value.toList, foldChar '/' c = false :=
    fun c member => (stampChar_plain (h c member)).1
  have noSpace : ∀ c ∈ value.toList, isSpace c = false :=
    fun c member => (stampChar_plain (h c member)).2.1
  have noLetter : ∀ c ∈ value.toList, namingChar c = false :=
    fun c member => (stampChar_plain (h c member)).2.2
  apply redactText_unmatched
  · exact fullmatch_false url_demands_slash noSlash
  · exact sub_unchanged url_demands_slash noSlash
  · exact sub_unchanged bearer_demands_space noSpace
  · exact sub_unchanged keyValue_demands_letter noLetter

@[simp] theorem redactText_redacted : redactText redacted = .ok redacted :=
  redactText_plain (List.all_eq_true.mp (by decide))

end Redaction
