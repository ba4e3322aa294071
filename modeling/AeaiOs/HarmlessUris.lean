import AeaiOs.ArtifactStore
import AeaiOs.Lib.TextSwaps
import AeaiOs.RedactionErrors

/-!
What the redaction of a uri without secrets leaves of it: the path and the query that it
names, and for the path of a stored file the file.
-/
namespace Redaction
open PyText UrlSplit SplitResult

/-- `[REDACTED]@`, which is masked before a uri is split. -/
def markedUserinfo : Text := redacted.toList ++ ['@']

def masked (uri : Text) : Text := replace uri markedUserinfo maskedUserinfo

theorem markedUserinfo_chars : markedUserinfo =
    ['[', 'R', 'E', 'D', 'A', 'C', 'T', 'E', 'D', ']', '@'] := rfl

theorem maskedUserinfo_chars : maskedUserinfo =
    ['_', '_', 'a', 'e', 'a', 'i', '_', 'r', 'e', 'd', 'a', 'c', 't', 'e', 'd', '_', '_', '@'] := rfl

/-- No character of the text is read by `urlsplit` or by the decoding of a query. -/
def harmlessText (text : Text) : Bool :=
  text.all fun c => !isLineChar c && !endsAuthority c && c != ':' && c != '%' && c != '+'

theorem harmlessText_inner {text : Text} (harmless : harmlessText text = true) :
    (∀ c ∈ text, isLineChar c = false ∧ endsAuthority c = false ∧ c ≠ ':') ∧
      ∀ c ∈ text, c ≠ '%' ∧ c ≠ '+' := by
  unfold harmlessText at harmless
  simp only [List.all_eq_true, Bool.and_eq_true, Bool.not_eq_true', bne_iff_ne] at harmless
  constructor
  · intro c member
    obtain ⟨⟨⟨⟨line, authority⟩, colon⟩, _⟩, _⟩ := harmless c member
    exact ⟨line, authority, colon⟩
  · intro c member
    exact ⟨(harmless c member).1.2, (harmless c member).2⟩

theorem markedUserinfo_harmless : harmlessText markedUserinfo = true := by
  rw [markedUserinfo_chars]
  rfl

theorem maskedUserinfo_harmless : harmlessText maskedUserinfo = true := by
  rw [maskedUserinfo_chars]
  rfl

theorem markedUserinfo_unsplit : Unsplit markedUserinfo where
  front := ⟨'[', _, markedUserinfo_chars, by decide⟩
  inner := (harmlessText_inner markedUserinfo_harmless).1
  odd := ⟨'[', List.mem_cons_self, rfl⟩

theorem maskedUserinfo_unsplit : Unsplit maskedUserinfo where
  front := ⟨'_', _, maskedUserinfo_chars, by decide⟩
  inner := (harmlessText_inner maskedUserinfo_harmless).1
  odd := ⟨'_', List.mem_cons_self, rfl⟩

theorem markedUserinfo_literal : Literal markedUserinfo where
  breaks := ⟨'[', _, markedUserinfo_chars, by decide, by decide, by decide⟩
  plain := (harmlessText_inner markedUserinfo_harmless).2

theorem maskedUserinfo_literal : Literal maskedUserinfo where
  breaks := ⟨'_', _, maskedUserinfo_chars, by decide, by decide, by decide⟩
  plain := (harmlessText_inner maskedUserinfo_harmless).2

theorem mask_longer : markedUserinfo.length < maskedUserinfo.length := by
  rw [markedUserinfo_chars, maskedUserinfo_chars]
  decide

theorem masked_swapped (uri : Text) :
    ∃ n, Swapped markedUserinfo maskedUserinfo n uri (masked uri) ∧
      (n = 0 ↔ contains uri markedUserinfo = false) :=
  replace_swapped markedUserinfo_unsplit.nonempty uri

section uris
variable [UnicodeDatabase]

/-- The pairs of a query with the values of sensitive keys redacted. -/
def redactPairs (query : List (Text × Text)) : List (Text × Text) :=
  query.map fun (key, value) => (key, if isSensitiveKeyText key then redacted.toList else value)

/-- A uri without userinfo and without a sensitive key in its query or its fragment. -/
structure Harmless (uri : Text) : Prop where
  userinfo : '@' ∉ (splitParts uri).netloc
  query : ∀ pair ∈ parseQsl (splitParts uri).query, isSensitiveKeyText pair.1 = false
  fragment : ∀ pair ∈ parseQsl (splitParts uri).fragment, isSensitiveKeyText pair.1 = false

/-- Both are one text, or `urlsplit` reads one path and one decoded query from them. -/
def SameResource (first second : Text) : Prop :=
  first = second ∨ ∃ p q, urlsplit first = .ok p ∧ urlsplit second = .ok q ∧ q.path = p.path ∧
    parseQsl q.query = parseQsl p.query

/-- The redaction returns a uri of the same resource. -/
def NamesSame (uri : Text) : Prop := ∃ v, redactUriText uri = .ok v ∧ SameResource uri v

/-- `urlsplit` refuses the authority. -/
def Refused (uri : Text) : Prop := (checkAuthority (splitParts uri).netloc).isOk = false

/-- A relative path behind a scheme whose urls have an authority. -/
structure Unrooted (p : SplitResult) : Prop where
  scheme : p.scheme ≠ [] ∧ usesNetloc.contains (String.ofList p.scheme) = true
  netloc : p.netloc = []
  path : p.path ≠ [] ∧ p.path.head? ≠ some '/'

/-- The uri is not parsed, or no `[REDACTED]@` stands before its fragment, and its path is
    absolute if its scheme has an authority. -/
def KeepsName (uri : Text) : Prop :=
  Refused uri ∨ contains (partition '#' uri).1 markedUserinfo = false ∧ ¬ Unrooted (splitParts uri)

omit [UnicodeDatabase] in
theorem urlsplit_ok {uri : Text} {parsed : SplitResult} :
    urlsplit uri = .ok parsed ↔ ¬ Refused uri ∧ parsed = splitParts uri := by
  rw [urlsplit_eq]
  unfold Refused
  cases checkAuthority (splitParts uri).netloc with
  | error e => simp [Except.map, Except.isOk, Except.toBool]
  | ok u => simp [Except.map, Except.isOk, Except.toBool, eq_comm]

omit [UnicodeDatabase] in
theorem hasUser_free {p : SplitResult} (free : '@' ∉ p.netloc) : hasUser p = false := by
  have none : (rpartition '@' p.netloc).2.1 = false := by
    unfold rpartition
    rw [partition_free (by simpa using free)]
    rfl
  unfold hasUser username password
  simp [none]

theorem redactedNetloc_free {p : SplitResult} (none : hasUser p = false) :
    redactedNetloc p = .ok p.netloc := by
  unfold hasUser at none
  unfold redactedNetloc
  simp only [none, Bool.false_eq_true, if_false]
  rfl

/-- A uri that is split, and names no user, is put together from its parts. -/
theorem redactUriText_free {uri : Text} (accepted : ¬ Refused (masked uri))
    (none : hasUser (splitParts (masked uri)) = false) :
    redactUriText uri = .ok (urlunsplit
      { splitParts (masked uri) with
        query := urlencode (redactPairs (parseQsl (splitParts (masked uri)).query)) }) := by
  have split : urlsplit (replace uri (redacted.toList ++ ['@']) maskedUserinfo) =
      .ok (splitParts (masked uri)) := urlsplit_ok.mpr ⟨accepted, rfl⟩
  unfold redactUriText
  rw [split]
  dsimp only
  rw [redactedNetloc_free none]
  rfl

theorem redactUriText_refused {uri : Text} (refused : Refused (masked uri)) :
    redactUriText uri = .ok uri := by
  unfold redactUriText
  cases split : urlsplit (replace uri (redacted.toList ++ ['@']) maskedUserinfo) with
  | error e => rfl
  | ok parsed => exact absurd refused (urlsplit_ok.mp split).1

/-! A uri beside its masked copy. -/

omit [UnicodeDatabase]

/-- The parts before the fragment are those of the text before it. -/
theorem splitParts_front (uri : Text) :
    { splitParts uri with fragment := [] } = splitParts (partition '#' uri).1 := by
  obtain ⟨free, found, absent⟩ := partition_spec '#' uri
  cases is : (partition '#' uri).2.1 with
  | true =>
    have whole := found is
    generalize (partition '#' uri).1 = front at free whole ⊢
    rw [whole]
    exact splitParts_fragment free _
  | false =>
    have whole := (absent is).1
    rw [← whole] at free ⊢
    have none := splitParts_free free
    rw [← none]

theorem masked_front (uri : Text) : (partition '#' (masked uri)).1 = masked (partition '#' uri).1 := by
  obtain ⟨free, found, absent⟩ := partition_spec '#' uri
  have free' : '#' ∉ masked (partition '#' uri).1 := by
    obtain ⟨n, swapped, _⟩ := masked_swapped (partition '#' uri).1
    obtain ⟨_, _, _, _, same, _⟩ :=
      swapped.partition markedUserinfo_unsplit.free.2.2 maskedUserinfo_unsplit.free.2.2
    rw [partition_free free] at same
    obtain ⟨noHash, _, whole⟩ := partition_spec '#' (masked (partition '#' uri).1)
    rw [(whole same.symm).1]
    exact noHash
  cases is : (partition '#' uri).2.1 with
  | true =>
    have whole := found is
    generalize (partition '#' uri).1 = front at free free' whole ⊢
    rw [whole]
    unfold masked at free' ⊢
    rw [replace_cut markedUserinfo_unsplit.nonempty markedUserinfo_unsplit.free.2.2,
      partition_at free']
  | false =>
    have whole := (absent is).1
    rw [← whole] at free' ⊢
    rw [partition_free free']

/-- How the parts before the fragment are swapped. -/
theorem masked_parts {uri : Text} (userinfo : '@' ∉ (splitParts uri).netloc) :
    (splitParts uri).scheme = (splitParts (masked uri)).scheme ∧
      (splitParts uri).netloc = (splitParts (masked uri)).netloc ∧
      ∃ b c, Swapped markedUserinfo maskedUserinfo b (splitParts uri).path
          (splitParts (masked uri)).path ∧
        Swapped markedUserinfo maskedUserinfo c (splitParts uri).query
          (splitParts (masked uri)).query ∧
        (b + c = 0 ↔ contains (partition '#' uri).1 markedUserinfo = false) := by
  have front := splitParts_front uri
  have frontMasked := splitParts_front (masked uri)
  rw [masked_front] at frontMasked
  obtain ⟨n, swapped, zero⟩ := masked_swapped (partition '#' uri).1
  obtain ⟨scheme, a, b, c, d, sum, netloc, path, query, fragment⟩ :=
    swapped.splitParts markedUserinfo_unsplit maskedUserinfo_unsplit
  rw [← front, ← frontMasked] at scheme netloc path query fragment
  have noneA : a = 0 := netloc.free_of_mem (by decide) userinfo
  have noneD : d = 0 := fragment.zero_of_nil markedUserinfo_unsplit.nonempty
  subst noneA
  refine ⟨scheme, netloc.eq_of_zero, b, c, path, query, ?_⟩
  rw [← zero]
  omega

theorem parseQsl_queries {b : Nat} {s t : Text} (swapped : Swapped markedUserinfo maskedUserinfo b s t) :
    ∃ m k, m + k = b ∧
      SwappedPairs markedUserinfo maskedUserinfo m k (parseQsl s) (parseQsl t) :=
  swapped.parseQsl markedUserinfo_literal maskedUserinfo_literal (by decide)
    (by decide)

theorem urlencode_chars (query : List (Text × Text)) :
    ∀ c ∈ urlencode query, quotedChar c = true ∨ c = '=' ∨ c = '&' := by
  have encoded : urlencode query = joinWith ['&'] (query.map encodeField) := rfl
  rw [encoded]
  induction query with
  | nil => simp [joinWith]
  | cons pair query ih =>
    have field : ∀ c ∈ encodeField pair, quotedChar c = true ∨ c = '=' ∨ c = '&' := by
      intro c member
      simp only [encodeField, List.mem_append, List.mem_singleton] at member
      rcases member with (name | rfl) | value
      · exact .inl (quotePlus_quoted _ c name)
      · exact .inr (.inl rfl)
      · exact .inl (quotePlus_quoted _ c value)
    intro c member
    cases query with
    | nil => exact field c member
    | cons second others =>
      simp only [List.map_cons, joinWith, List.mem_append, List.mem_singleton] at member
      rcases member with (first | rfl) | rest
      · exact field c first
      · exact .inr (.inr rfl)
      · exact ih rfl c rest

theorem urlencode_free {sep : Char} (plain : quotedChar sep = false) (noEquals : sep ≠ '=')
    (noAmpersand : sep ≠ '&') (query : List (Text × Text)) : sep ∉ urlencode query := by
  intro member
  rcases urlencode_chars query sep member with quoted | same | same
  · rw [plain] at quoted
    cases quoted
  · exact noEquals same
  · exact noAmpersand same

theorem urlencode_clean (query : List (Text × Text)) : ∀ c ∈ urlencode query, isLineChar c = false := by
  intro c member
  cases line : isLineChar c with
  | false => rfl
  | true =>
    simp only [isLineChar, Bool.or_eq_true, beq_iff_eq] at line
    rcases line with (rfl | rfl) | rfl
    all_goals exact absurd member (urlencode_free (by decide) (by decide) (by decide) query)

theorem isSplit_encoded {p : SplitResult} (split : IsSplit p) (query : List (Text × Text)) :
    IsSplit { p with query := urlencode query } where
  scheme := split.scheme
  netloc := split.netloc
  path := split.path
  rooted := split.rooted
  query := urlencode_free (by decide) (by decide) (by decide) query
  clean := by
    have clean := split.clean
    have encoded := urlencode_clean query
    simp only [List.mem_append, or_imp, forall_and] at clean ⊢
    exact ⟨⟨clean.1.1, encoded⟩, clean.2⟩
  front := split.front
  bare := split.bare

/-- A path behind the slashes of an authority stays, unless it is relative. -/
theorem rootedPath_kept {p : SplitResult} (split : IsSplit p) (rooted : ¬ Unrooted p) :
    (if p.slashed then rootedPath p.path else p.path) = p.path := by
  split
  · rename_i slashed
    have absolute : p.path = [] ∨ p.path.head? = some '/' := by
      by_contra relative
      rw [not_or] at relative
      obtain ⟨c, rest, path⟩ := List.exists_cons_of_ne_nil relative.1
      have other : c ≠ '/' := by
        rintro rfl
        exact relative.2 (by rw [path]; rfl)
      unfold SplitResult.slashed at slashed
      rw [Bool.or_eq_true, Bool.or_eq_true] at slashed
      have noNetloc : p.netloc = [] := by
        by_contra some
        exact other (split.rooted some c (by rw [path]; rfl))
      rcases slashed with (netloc | named) | slashes
      · simp [noNetloc] at netloc
      · simp only [Bool.and_eq_true, Bool.not_eq_true', List.isEmpty_eq_false_iff] at named
        exact rooted ⟨named, noNetloc, relative⟩
      · rw [path, beq_iff_eq] at slashes
        exact other (List.cons.inj slashes).1
    unfold rootedPath
    rcases absolute with none | slash
    · simp [none]
    · simp [slash]
  · rfl

theorem rootedPath_length (path : Text) : path.length ≤ (rootedPath path).length := by
  unfold rootedPath
  split <;> simp

theorem unrooted_changes {p : SplitResult} (unrooted : Unrooted p) :
    (if p.slashed then rootedPath p.path else p.path) ≠ p.path := by
  have slashed : p.slashed = true := by
    unfold SplitResult.slashed
    have named : p.scheme.isEmpty = false := by simpa using unrooted.scheme.1
    rw [named, unrooted.scheme.2]
    simp
  have relative : rootedPath p.path = '/' :: p.path := by
    unfold rootedPath
    rw [if_pos]
    simpa using unrooted.path
  rw [if_pos slashed, relative]
  intro same
  have lengths := congrArg List.length same
  simp at lengths

end uris

section harmless
variable [UnicodeDatabase]

theorem redactPairs_keys (query : List (Text × Text)) :
    (redactPairs query).map Prod.fst = query.map Prod.fst := by
  simp [redactPairs]

theorem redactPairs_plain {query : List (Text × Text)}
    (plain : ∀ pair ∈ query, isSensitiveKeyText pair.1 = false) : redactPairs query = query := by
  unfold redactPairs
  conv_rhs => rw [← List.map_id query]
  apply List.map_congr_left
  intro pair member
  simp [plain pair member]

/-- Redacted, a masked query without sensitive keys is the query itself only if nothing was
    masked in it. -/
theorem redactPairs_masked {c : Nat} {s t : Text}
    (swapped : Swapped markedUserinfo maskedUserinfo c s t)
    (plain : ∀ pair ∈ parseQsl s, isSensitiveKeyText pair.1 = false) :
    redactPairs (parseQsl t) = parseQsl s ↔ c = 0 := by
  constructor
  · intro same
    obtain ⟨m, k, sum, pairs⟩ := parseQsl_queries swapped
    have keys : (parseQsl t).map Prod.fst = (parseQsl s).map Prod.fst := by
      rw [← same, redactPairs_keys]
    have plainMasked : ∀ pair ∈ parseQsl t, isSensitiveKeyText pair.1 = false := by
      intro pair member
      have key : pair.1 ∈ (parseQsl s).map Prod.fst := by
        rw [← keys]
        exact List.mem_map_of_mem member
      obtain ⟨other, inside, equal⟩ := List.mem_map.mp key
      rw [← equal]
      exact plain other inside
    rw [redactPairs_plain plainMasked] at same
    have names := pairs.names_length
    have values := pairs.values_length
    rw [same] at names values
    have noNames := SwappedPairs.zero_of_equal mask_longer names
    have noValues := SwappedPairs.zero_of_equal mask_longer values
    omega
  · rintro rfl
    rw [← swapped.eq_of_zero]
    exact redactPairs_plain plain

/-- A uri without secrets keeps its name through the redaction exactly if nothing in it is
    taken for a redacted user and its path needs no slash. -/
theorem namesSame_iff {uri : Text} (harmless : Harmless uri) : NamesSame uri ↔ KeepsName uri := by
  obtain ⟨scheme, netloc, b, c, path, query, marks⟩ := masked_parts harmless.userinfo
  have sameRefused : Refused (masked uri) ↔ Refused uri := by
    unfold Refused
    rw [netloc]
  by_cases refused : Refused uri
  · have kept := redactUriText_refused (sameRefused.mpr refused)
    exact iff_of_true ⟨uri, kept, .inl rfl⟩ (.inl refused)
  have accepted : ¬ Refused (masked uri) := fun is => refused (sameRefused.mp is)
  have user : hasUser (splitParts (masked uri)) = false := by
    apply hasUser_free
    rw [← netloc]
    exact harmless.userinfo
  have made := redactUriText_free accepted user
  have whole := splitParts_isSplit (masked uri)
  have encoded := isSplit_encoded whole (redactPairs (parseQsl (splitParts (masked uri)).query))
  have reread := splitParts_urlunsplit encoded
  have splitUri : urlsplit uri = .ok (splitParts uri) := urlsplit_ok.mpr ⟨refused, rfl⟩
  unfold NamesSame
  rw [made]
  simp only [Except.ok.injEq, exists_eq_left']
  generalize urlunsplit { splitParts (masked uri) with
    query := urlencode (redactPairs (parseQsl (splitParts (masked uri)).query)) } = v at reread ⊢
  have splitV : urlsplit v = .ok (splitParts v) := by
    apply urlsplit_ok.mpr ⟨?_, rfl⟩
    unfold Refused at accepted ⊢
    rwa [reread]
  have resource : SameResource uri v ↔ (splitParts v).path = (splitParts uri).path ∧
      parseQsl (splitParts v).query = parseQsl (splitParts uri).query := by
    constructor
    · rintro (rfl | ⟨p, q, first, second, same⟩)
      · exact ⟨rfl, rfl⟩
      · rw [splitUri] at first
        rw [splitV] at second
        cases first
        cases second
        exact same
    · intro same
      exact .inr ⟨_, _, splitUri, splitV, same⟩
  rw [resource, reread]
  dsimp only
  rw [parseQsl_urlencode, redactPairs_masked query harmless.query]
  unfold KeepsName
  rw [or_iff_right refused, ← marks]
  have sameRooted : (splitParts uri).path = (splitParts (masked uri)).path →
      (Unrooted { splitParts (masked uri) with
        query := urlencode (redactPairs (parseQsl (splitParts (masked uri)).query)) } ↔
      Unrooted (splitParts uri)) := by
    intro samePath
    constructor
    · intro is
      exact ⟨scheme ▸ is.scheme, netloc ▸ is.netloc, samePath ▸ is.path⟩
    · intro is
      exact ⟨scheme ▸ is.scheme, netloc ▸ is.netloc, samePath ▸ is.path⟩
  constructor
  · rintro ⟨samePath, noQueryMarks⟩
    have fits : (splitParts (masked uri)).path.length ≤ (splitParts uri).path.length := by
      have longer := rootedPath_length (splitParts (masked uri)).path
      rw [← samePath]
      split <;> omega
    have noMarks : b = 0 := by
      have size := path.length
      by_contra some
      have more := Nat.mul_lt_mul_of_pos_left mask_longer (Nat.pos_of_ne_zero some)
      omega
    refine ⟨by omega, ?_⟩
    rw [noMarks] at path
    intro unrooted
    apply unrooted_changes ((sameRooted path.eq_of_zero).mpr unrooted)
    exact samePath.trans path.eq_of_zero
  · rintro ⟨noMarks, rooted⟩
    have noPathMarks : b = 0 := by omega
    rw [noPathMarks] at path
    have kept := rootedPath_kept encoded fun is => rooted ((sameRooted path.eq_of_zero).mp is)
    exact ⟨kept.trans path.eq_of_zero.symm, by omega⟩

end harmless
end Redaction
