import AeaiOs.Redaction

/-!
What redaction raises. It reads the port of every uri that has a user, and a port that is no
number, or too large, is an error that nothing on the way catches.
-/
namespace Redaction
open PyText BacktrackRegex UrlSplit SplitResult RunValues

theorem isOk_map {ε α β : Type} (f : α → β) (x : Except ε α) : (x.map f).isOk = x.isOk := by
  cases x <;> rfl

theorem isOk_bind_return {ε α β γ : Type} (x : Except ε α) (y : Except ε β) (f : α → β → γ) :
    (do let a ← x; let b ← y; return f a b : Except ε γ).isOk = true ↔
      x.isOk = true ∧ y.isOk = true := by
  cases x <;> cases y <;> simp [bind, Except.bind, pure, Except.pure, Except.isOk, Except.toBool]

/-- `parsed.username or parsed.password` -/
def hasUser (parsed : SplitResult) : Bool :=
  parsed.username.any (fun name => !name.isEmpty) ||
    parsed.password.any (fun password => !password.isEmpty)

/-- Whatever the uri splits into, a user in it comes with a port that is a number, or with
    none. -/
def UriReadable (uri : Text) : Prop :=
  ∀ parsed, urlsplit (replace uri (redacted.toList ++ ['@']) maskedUserinfo) = .ok parsed →
    hasUser parsed = true → IsPort parsed.hostinfo.2

variable [UnicodeDatabase]

/-- The uri that the text is, or each of those that occur in it, is readable. -/
def TextReadable (value : Text) : Prop :=
  if fullmatch urlPattern value then UriReadable value
  else ∀ m ∈ finditer urlPattern value, UriReadable m.text

mutual

/-- Every text of the value is readable, unless it is filed under a sensitive key. -/
def ValueReadable : Option String → PyValue → Prop
  | key, value =>
      key.any isSensitiveKey = true ∨
        match value with
        | .dict entries => EntriesReadable entries
        | .list items => ItemsReadable items
        | .str text => TextReadable text.toList
        | _ => True

def EntriesReadable : List (String × PyValue) → Prop
  | [] => True
  | (key, value) :: rest => ValueReadable (some key) value ∧ EntriesReadable rest

def ItemsReadable : List PyValue → Prop
  | [] => True
  | item :: rest => ValueReadable none item ∧ ItemsReadable rest

end

theorem redactedNetloc_isOk (parsed : SplitResult) :
    (redactedNetloc parsed).isOk = true ↔ (hasUser parsed = true → IsPort parsed.hostinfo.2) := by
  rw [← port_isOk]
  unfold redactedNetloc
  by_cases user : hasUser parsed = true
  · have named : (parsed.username.any (fun name => !name.isEmpty) ||
        parsed.password.any (fun password => !password.isEmpty)) = true := user
    simp only [named, if_true, user, true_imp_iff]
    cases parsed.port <;> simp [bind, Except.bind, pure, Except.pure, Except.isOk, Except.toBool]
  · have unnamed : (parsed.username.any (fun name => !name.isEmpty) ||
        parsed.password.any (fun password => !password.isEmpty)) = false := by
      simpa [hasUser] using user
    simp only [unnamed, user]
    simp [pure, Except.pure, Except.isOk, Except.toBool]

theorem redactUriText_isOk (uri : Text) :
    (redactUriText uri).isOk = true ↔ UriReadable uri := by
  unfold redactUriText UriReadable
  cases split : urlsplit (replace uri (redacted.toList ++ ['@']) maskedUserinfo) with
  | error message => simp [Except.isOk, Except.toBool]
  | ok parsed =>
    simp only [Except.ok.injEq, forall_eq']
    rw [← redactedNetloc_isOk]
    cases redactedNetloc parsed <;>
      simp [bind, Except.bind, pure, Except.pure, Except.isOk, Except.toBool]

/-- The last two patterns bring in no error. -/
theorem redactTextChars_isOk (value : Text) :
    (redactTextChars value).isOk = true ↔ TextReadable value := by
  unfold redactTextChars TextReadable
  split_ifs with whole
  · exact redactUriText_isOk value
  · have total : ∀ (r : Regex) (f : Match → Text) (s : Text),
        ∃ s', sub (ε := String) r (fun m => .ok (f m)) s = .ok s' := by
      intro r f s
      have fine : (sub (ε := String) r (fun m => .ok (f m)) s).isOk = true :=
        sub_isOk.mpr fun _ _ => rfl
      cases made : sub (ε := String) r (fun m => .ok (f m)) s with
      | error message => simp [made, Except.isOk, Except.toBool] at fine
      | ok s' => exact ⟨s', rfl⟩
    have urls : (sub urlPattern (fun m => redactUriText m.text) value).isOk = true ↔
        ∀ m ∈ finditer urlPattern value, UriReadable m.text := by
      rw [sub_isOk]
      exact forall₂_congr fun m _ => redactUriText_isOk m.text
    rw [← urls]
    cases sub urlPattern (fun m => redactUriText m.text) value with
    | error message => simp [bind, Except.bind, Except.isOk, Except.toBool]
    | ok value' =>
      obtain ⟨bearerless, made⟩ :=
        total bearerPattern (fun m => m.groupAt 1 ++ [' '] ++ redacted.toList) value'
      obtain ⟨valueless, done⟩ :=
        total keyValuePattern (fun m => m.groupAt 1 ++ m.groupAt 2 ++ redacted.toList) bearerless
      simp only [bind, Except.bind, made, done]
      exact iff_of_true rfl rfl

theorem redactText_isOk (value : String) :
    (redactText value).isOk = true ↔ TextReadable value.toList := by
  rw [← redactTextChars_isOk]
  unfold redactText
  cases redactTextChars value.toList <;> rfl

theorem redactUri_isOk (uri : String) :
    (redactUri uri).isOk = true ↔ UriReadable uri.toList := by
  rw [← redactUriText_isOk]
  unfold redactUri
  cases redactUriText uri.toList <;> rfl

mutual

theorem redactValueAt_isOk : ∀ (key : Option String) (value : PyValue),
    (redactValueAt key value).isOk = true ↔ ValueReadable key value
  | key, value => by
    unfold redactValueAt ValueReadable
    by_cases sensitive : key.any isSensitiveKey = true
    · simp [sensitive, Except.isOk, Except.toBool]
    · simp only [sensitive, Bool.false_eq_true, if_false, false_or]
      cases value with
      | dict entries =>
        simp only [isOk_map]
        exact redactEntries_isOk entries
      | list items =>
        simp only [isOk_map]
        exact redactItems_isOk items
      | str text =>
        simp only [isOk_map]
        exact redactText_isOk text
      | none => simp [Except.isOk, Except.toBool]
      | bool b => simp [Except.isOk, Except.toBool]
      | int n => simp [Except.isOk, Except.toBool]
      | float q => simp [Except.isOk, Except.toBool]

theorem redactEntries_isOk : ∀ entries : List (String × PyValue),
    (redactEntries entries).isOk = true ↔ EntriesReadable entries
  | [] => by simp [redactEntries, EntriesReadable, Except.isOk, Except.toBool]
  | (key, value) :: rest => by
    unfold redactEntries EntriesReadable
    rw [isOk_bind_return, redactValueAt_isOk (some key) value, redactEntries_isOk rest]

theorem redactItems_isOk : ∀ items : List PyValue,
    (redactItems items).isOk = true ↔ ItemsReadable items
  | [] => by simp [redactItems, ItemsReadable, Except.isOk, Except.toBool]
  | item :: rest => by
    unfold redactItems ItemsReadable
    rw [isOk_bind_return, redactValueAt_isOk none item, redactItems_isOk rest]

end

end Redaction
