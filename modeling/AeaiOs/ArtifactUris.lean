import AeaiOs.HarmlessUris
import AeaiOs.RunOperations

/-!
The uri of a stored file, redacted when the artifact is recorded, as the path that the local
store reads later.
-/
namespace ArtifactStorage
open PyText PosixPath UrlSplit Redaction

/-- What `local_path` answers: a path, or the cached download of a uri. -/
inductive LocalPath
  | file (path : PosixPath.Path)
  | download (uri : Text)

/-- `LocalArtifactStore.local_path` -/
def localPath (uri : Text) : Except String LocalPath := do
  let parsed ← urlsplit uri
  if parsed.scheme = [] then return .file (parse uri)
  else if parsed.scheme = "file".toList then return .file (parse parsed.path)
  else if parsed.scheme ∈ ["http".toList, "https".toList] then return .download uri
  else throw s!"Local artifact store cannot read URI: {String.ofList uri}"

section uris
variable [UnicodeDatabase]

/-- The redacted text of a path still resolves to the path. -/
def Resolves (path : PosixPath.Path) : Prop :=
  ∃ uri, redactUriText path.toText = .ok uri ∧ localPath uri = .ok (.file path)

/-- The text names no user, its marks stand before something, and its query is an encoded one
    without secrets. -/
structure Settled (text : Text) : Prop where
  user : hasUser (splitParts text) = false
  unmarked : contains text markedUserinfo = false
  rejoins : Rejoins text
  query : ∃ pairs, (splitParts text).query = urlencode pairs ∧ redactPairs pairs = pairs

/-- The text has no scheme, its authority is accepted, and the redaction leaves it alone: it
    cannot be parsed once `[REDACTED]@` is masked, or it is settled. -/
structure PlainPath (text : Text) : Prop where
  scheme : (splitParts text).scheme = []
  accepted : ¬ Refused text
  kept : Refused (masked text) ∨ Settled text

omit [UnicodeDatabase] in
theorem localPath_plain {uri : Text} (accepted : ¬ Refused uri) (scheme : (splitParts uri).scheme = []) :
    localPath uri = .ok (.file (parse uri)) := by
  have split : urlsplit uri = .ok (splitParts uri) := urlsplit_ok.mpr ⟨accepted, rfl⟩
  unfold localPath
  rw [split]
  simp only [bind, Except.bind, scheme, if_true]
  rfl

omit [UnicodeDatabase] in
theorem masked_unmarked {text : Text} (unmarked : contains text markedUserinfo = false) :
    masked text = text := by
  obtain ⟨n, swapped, zero⟩ := masked_swapped text
  have none := zero.mpr unmarked
  subst none
  exact swapped.eq_of_zero.symm

theorem redactPairs_idempotent (query : List (Text × Text)) :
    redactPairs (redactPairs query) = redactPairs query := by
  unfold redactPairs
  rw [List.map_map]
  apply List.map_congr_left
  intro pair _
  cases sensitive : isSensitiveKeyText pair.1 <;> simp [sensitive]

theorem resolves_of_plain {path : PosixPath.Path} (plain : PlainPath path.toText) : Resolves path := by
  refine ⟨path.toText, ?_, ?_⟩
  · rcases plain.kept with refused | settled
    · exact redactUriText_refused refused
    · have same := masked_unmarked settled.unmarked
      have accepted : ¬ Refused (masked path.toText) := by
        rw [same]
        exact plain.accepted
      have made := redactUriText_free accepted (by rw [same]; exact settled.user)
      obtain ⟨pairs, query, fixed⟩ := settled.query
      have encoded : urlencode (redactPairs (parseQsl (splitParts path.toText).query)) =
          (splitParts path.toText).query := by
        rw [query, parseQsl_urlencode, fixed]
      rw [same, encoded] at made
      rw [made]
      exact congrArg Except.ok ((urlunsplit_eq_iff plain.scheme).mpr settled.rejoins)
  · rw [localPath_plain plain.accepted plain.scheme, parse_toText]

/-! A redacted user is no bracketed host. -/

omit [UnicodeDatabase]

theorem marked_refused (rest : Text) : (checkAuthority (markedUserinfo ++ rest)).isOk = false := by
  have spelled : markedUserinfo = '[' :: ("REDACTED".toList ++ ']' :: ['@']) := by decide
  have host : checkBracketedHost "REDACTED".toList =
      .error "host does not appear to be an IPv4 or IPv6 address" := by decide
  have free : ']' ∉ "REDACTED".toList := by decide
  have brackets : (markedUserinfo ++ rest).contains '[' = true ∧
      (markedUserinfo ++ rest).contains ']' = true := by
    rw [spelled]
    simp
  have inside : (partition ']' (partition '[' (markedUserinfo ++ rest)).2.2).1 =
      "REDACTED".toList := by
    rw [spelled, List.cons_append, partition, if_pos rfl, List.append_assoc]
    exact congrArg Prod.fst (partition_at free _)
  have refused : checkBrackets (markedUserinfo ++ rest) =
      .error "host does not appear to be an IPv4 or IPv6 address" := by
    unfold checkBrackets
    rw [inside, host, brackets.1, brackets.2]
    rfl
  unfold checkAuthority
  rw [refused]
  rfl

theorem cleanUrl_append {front : Text} (some : front ≠ []) (clean : ∀ c ∈ front, isLineChar c = false)
    (high : ∀ c ∈ front.head?, 32 < c.toNat) (rest : Text) :
    ∃ rest', cleanUrl (front ++ rest) = front ++ rest' := by
  have kept : front.filter (fun c => c ≠ '\t' ∧ c ≠ '\r' ∧ c ≠ '\n') = front := by
    rw [List.filter_eq_self]
    intro c member
    have plain := clean c member
    simpa [isLineChar, and_assoc] using plain
  have stays : (front ++ rest).dropWhile (fun c => decide (c.toNat ≤ 32)) = front ++ rest := by
    obtain ⟨c, more, rfl⟩ := List.exists_cons_of_ne_nil some
    have first := high c rfl
    rw [List.cons_append, List.dropWhile_cons_of_neg (by simpa using first)]
  refine ⟨rest.filter fun c => c ≠ '\t' ∧ c ≠ '\r' ∧ c ≠ '\n', ?_⟩
  unfold cleanUrl
  rw [stays, List.filter_append, kept]

theorem refused_at {uri : Text} (rest : Text)
    (shape : (splitScheme (cleanUrl uri)).2 = '/' :: '/' :: (markedUserinfo ++ rest)) : Refused uri := by
  have inside : ∀ c ∈ markedUserinfo, (!endsAuthority c) = true := by
    intro c member
    rw [(markedUserinfo_unsplit.inner c member).2.1]
    rfl
  unfold Refused
  rw [splitParts_eq, shape, authorityOf_slashes]
  dsimp only
  rw [List.takeWhile_append_of_pos inside]
  exact marked_refused _

/-- No uri with a redacted user is parsed. -/
theorem redacted_refused {p : SplitResult} (scheme : p.scheme = [] ∨ schemeHead p.scheme = true)
    {rest : Text} (netloc : p.netloc = markedUserinfo ++ rest) : Refused (urlunsplit p) := by
  have clean : ∀ c ∈ markedUserinfo, isLineChar c = false :=
    fun c member => (markedUserinfo_unsplit.inner c member).1
  have body : ∃ y, p.body = ('/' :: '/' :: markedUserinfo) ++ y := by
    have some : p.netloc.isEmpty = false := by
      rw [netloc]
      exact List.isEmpty_eq_false_iff.mpr (List.append_ne_nil_of_left_ne_nil (by decide) _)
    have slashed : p.slashed = true := by
      unfold SplitResult.slashed
      rw [some]
      rfl
    unfold SplitResult.body
    rw [if_pos slashed, netloc]
    exact ⟨rest ++ rootedPath p.path ++ (tailOf '?' p.query ++ tailOf '#' p.fragment), by simp⟩
  obtain ⟨y, body⟩ := body
  rw [urlunsplit_eq, body]
  rcases scheme with none | is
  · have front : ∀ c ∈ '/' :: '/' :: markedUserinfo, isLineChar c = false := by
      simpa [isLineChar] using clean
    obtain ⟨y', cleaned⟩ := cleanUrl_append (by simp) front (by simp) y
    rw [none]
    apply refused_at y'
    simp only [List.isEmpty_nil, if_true]
    rw [cleaned, splitScheme_none (noScheme_slash (by simp))]
    rfl
  · have some : p.scheme.isEmpty = false := by simpa using schemeHead_some is
    have front : ∀ c ∈ p.scheme ++ ':' :: '/' :: '/' :: markedUserinfo, isLineChar c = false := by
      have name := schemeHead_clean is
      simp only [List.mem_append, List.mem_cons, or_imp, forall_and]
      exact ⟨name, by simp [isLineChar], by simp [isLineChar], by simp [isLineChar], clean⟩
    have high : ∀ c ∈ (p.scheme ++ ':' :: '/' :: '/' :: markedUserinfo).head?, 32 < c.toNat := by
      rw [List.head?_append_of_ne_nil _ (schemeHead_some is)]
      exact schemeHead_high is
    obtain ⟨y', cleaned⟩ := cleanUrl_append (by simp) front high y
    rw [some, if_neg Bool.false_ne_true]
    apply refused_at y'
    have regroup : p.scheme ++ ':' :: ('/' :: '/' :: markedUserinfo ++ y) =
        (p.scheme ++ ':' :: '/' :: '/' :: markedUserinfo) ++ y := by simp
    rw [regroup, cleaned]
    have whole : p.scheme ++ ':' :: '/' :: '/' :: markedUserinfo ++ y' =
        p.scheme ++ ':' :: ('/' :: '/' :: (markedUserinfo ++ y')) := by simp
    rw [whole, splitScheme_some is]

/-! Slashes. -/

theorem cleanUrl_sublist (uri : Text) : (cleanUrl uri).Sublist uri :=
  List.filter_sublist.trans (List.dropWhile_sublist _)

theorem count_masked (s : Text) : (masked s).count '/' = s.count '/' := by
  obtain ⟨n, swapped, _⟩ := masked_swapped s
  exact (swapped.count (by decide) (by decide)).symm

theorem count_tailOf {c mark : Char} (other : c ≠ mark) (s : Text) :
    (tailOf mark s).count c = s.count c := by
  unfold tailOf
  split
  · rename_i empty
    rw [List.isEmpty_iff.mp empty]
  · rw [List.count_cons_of_ne other.symm]

/-- Without a scheme an encoded query brings no slash in. -/
theorem count_urlunsplit {url : Text} (scheme : (splitParts url).scheme = [])
    (query : List (Text × Text)) :
    (urlunsplit { splitParts url with query := urlencode query }).count '/' ≤ url.count '/' := by
  have whole := splitParts_isSplit url
  have encoded := isSplit_encoded whole query
  have rooted : ¬ Unrooted { splitParts url with query := urlencode query } :=
    fun is => is.scheme.1 scheme
  have kept := rootedPath_kept encoded rooted
  have noSlash : (urlencode query).count '/' = 0 :=
    List.count_eq_zero_of_not_mem (urlencode_free (by decide) (by decide) (by decide) query)
  have bare : splitScheme (cleanUrl url) = ([], cleanUrl url) := splitScheme_bare scheme
  have fewer := (cleanUrl_sublist url).count_le '/'
  rw [urlunsplit_eq, scheme]
  simp only [List.isEmpty_nil, if_true, SplitResult.body, List.count_append,
    count_tailOf (show '/' ≠ '?' by decide), noSlash,
    count_tailOf (show '/' ≠ '#' by decide)]
  rw [splitParts_eq, bare] at kept ⊢
  dsimp only at kept ⊢
  have fragment := count_partition (show '/' ≠ '#' by decide) (authorityOf (cleanUrl url)).2
  have inner := count_partition (show '/' ≠ '?' by decide)
    (partition '#' (authorityOf (cleanUrl url)).2).1
  rcases (authorityOf_spec (cleanUrl url)).2 with ⟨none, same, noSlashes⟩ | ⟨split, _⟩
  · have unslashed : SplitResult.slashed ⟨[], (authorityOf (cleanUrl url)).1,
        (partition '?' (partition '#' (authorityOf (cleanUrl url)).2).1).1, urlencode query,
        (partition '#' (authorityOf (cleanUrl url)).2).2.2⟩ = false := by
      unfold SplitResult.slashed
      rw [none, same]
      simpa using fun slashes => noSlashes (two_of_partition (two_of_partition slashes))
    rw [if_neg (by simp [unslashed])]
    rw [same] at fragment inner ⊢
    omega
  · have counts := congrArg (List.count '/') split
    simp only [List.count_cons_self, List.count_append] at counts
    split
    · rename_i slashed
      rw [if_pos slashed] at kept
      rw [kept]
      simp only [List.count_cons_self, List.count_append]
      omega
    · omega

/-! What resolves to a path. -/

theorem localPath_file {uri : Text} {path : PosixPath.Path} (found : localPath uri = .ok (.file path)) :
    ¬ Refused uri ∧
      ((splitParts uri).scheme = [] ∧ parse uri = path ∨
        (splitParts uri).scheme = "file".toList ∧ parse (splitParts uri).path = path) := by
  unfold localPath at found
  cases split : urlsplit uri with
  | error e =>
    rw [split] at found
    cases found
  | ok parsed =>
    obtain ⟨accepted, rfl⟩ := urlsplit_ok.mp split
    rw [split] at found
    simp only [bind, Except.bind] at found
    refine ⟨accepted, ?_⟩
    split at found
    · rename_i none
      cases found
      exact .inl ⟨none, rfl⟩
    · split at found
      · rename_i file
        cases found
        exact .inr ⟨file, rfl⟩
      · split at found <;> cases found

theorem path_sublist (uri : Text) : (splitParts uri).path.Sublist (splitScheme (cleanUrl uri)).2 := by
  rw [splitParts_eq]
  have part (sep : Char) (s : Text) : (partition sep s).1.Sublist s := by
    obtain ⟨rest, whole⟩ := partition_prefix sep s
    conv_rhs => rw [whole]
    exact List.sublist_append_left _ _
  have authority (s : Text) : (authorityOf s).2.Sublist s := by
    rcases (authorityOf_spec s).2 with ⟨_, same, _⟩ | ⟨whole, _⟩
    · rw [same]
    · conv_rhs => rw [whole]
      exact ((List.sublist_append_right _ _).cons _).cons _
  exact ((part '?' _).trans (part '#' _)).trans (authority _)

/-- Behind a scheme a path is shorter than its uri. -/
theorem path_shorter {uri : Text} (scheme : (splitParts uri).scheme ≠ []) :
    (splitParts uri).path.length < uri.length ∧ (splitParts uri).path.count '/' ≤ uri.count '/' := by
  have inner := path_sublist uri
  have clean := cleanUrl_sublist uri
  rw [splitParts_eq] at scheme
  rcases splitScheme_cases (cleanUrl uri) with noScheme | ⟨head, tail, whole, is⟩
  · rw [splitScheme_none noScheme] at scheme
    exact absurd rfl scheme
  · rw [whole, splitScheme_some is] at inner
    rw [whole] at clean
    have tailOf : tail.Sublist (head ++ ':' :: tail) :=
      (List.sublist_cons_self _ _).trans (List.sublist_append_right _ _)
    have lengths := clean.length_le
    have below : (splitParts uri).path.length ≤ tail.length := inner.length_le
    simp only [List.length_append, List.length_cons] at lengths
    exact ⟨by omega, ((inner.trans tailOf).trans clean).count_le '/'⟩

theorem parse_rooted {s : Text} (slash : s.head? = some '/') : (parse s).root ≠ [] := by
  obtain ⟨rest, rfl⟩ : ∃ rest, s = '/' :: rest := by
    cases s with
    | nil => cases slash
    | cons c rest => exact ⟨rest, by rw [Option.some.inj slash]⟩
  show (splitRoot ('/' :: rest)).1 ≠ []
  unfold splitRoot
  split <;> simp_all

theorem toText_rooted {path : PosixPath.Path} (rooted : path.root ≠ []) :
    path.toText.head? = some '/' := by
  unfold PosixPath.Path.toText
  rw [if_neg fun empty => rooted empty.1]
  rcases path.isRoot with none | one | two
  · exact absurd none rooted
  · rw [one]
    rfl
  · rw [two]
    rfl

/-- A rooted path has no scheme, masked or not. -/
theorem masked_rooted {s : Text} (slash : s.head? = some '/') :
    (splitParts (masked s)).scheme = [] := by
  obtain ⟨n, swapped, _⟩ := masked_swapped s
  obtain ⟨rest, same⟩ : ∃ rest, masked s = '/' :: rest := by
    generalize masked s = m at swapped ⊢
    cases swapped with
    | nil => cases slash
    | keep c rest =>
      rw [Option.some.inj slash]
      exact ⟨_, rfl⟩
    | swap rest =>
      rw [List.head?_append_of_ne_nil _ markedUserinfo_unsplit.nonempty] at slash
      exact absurd slash (by decide)
  obtain ⟨rest', cleaned⟩ :=
    cleanUrl_append (show ['/'] ≠ [] by simp) (by simp [isLineChar]) (by simp) rest
  rw [splitParts_eq, same]
  rw [List.singleton_append] at cleaned
  rw [cleaned, List.singleton_append, splitScheme_none (noScheme_slash (by simp))]

/-- A uri whose parts are those of its masked copy, with an encoded query, was never
    masked. -/
theorem unmarked_of_parts {text : Text} {query : List (Text × Text)}
    (same : splitParts text = { splitParts (masked text) with query := urlencode query }) :
    contains text markedUserinfo = false := by
  obtain ⟨n, swapped, zero⟩ := masked_swapped text
  obtain ⟨_, a, b, c, d, sum, netloc, path, querySwapped, fragment⟩ :=
    swapped.splitParts markedUserinfo_unsplit maskedUserinfo_unsplit
  have none {k : Nat} {s t : Text} (pair : Swapped markedUserinfo maskedUserinfo k s t)
      (equal : s = t) : k = 0 := by
    have lengths := pair.length
    by_contra some
    have more := Nat.mul_lt_mul_of_pos_left mask_longer (Nat.pos_of_ne_zero some)
    rw [equal] at lengths
    omega
  have noNetloc := none netloc (by rw [same])
  have noPath := none path (by rw [same])
  have noFragment := none fragment (by rw [same])
  have noQuery : c = 0 := by
    apply querySwapped.free_of_mem (c := '[') (by decide)
    rw [same]
    exact urlencode_free (by decide) (by decide) (by decide) query
  exact zero.mp (by omega)

variable [UnicodeDatabase]

theorem redactUriText_user {uri : Text} {v : Text} (accepted : ¬ Refused (masked uri))
    (user : hasUser (splitParts (masked uri)) = true) (made : redactUriText uri = .ok v) :
    Refused v := by
  have split : urlsplit (replace uri (redacted.toList ++ ['@']) maskedUserinfo) =
      .ok (splitParts (masked uri)) := urlsplit_ok.mpr ⟨accepted, rfl⟩
  unfold redactUriText at made
  rw [split] at made
  dsimp only at made
  cases netloc : redactedNetloc (splitParts (masked uri)) with
  | error e =>
    rw [netloc] at made
    cases made
  | ok text =>
    rw [netloc] at made
    have marked : ∃ rest, text = markedUserinfo ++ rest := by
      unfold hasUser at user
      unfold redactedNetloc at netloc
      simp only [user, if_true] at netloc
      cases port : (splitParts (masked uri)).port with
      | error e =>
        rw [port] at netloc
        cases netloc
      | ok n =>
        rw [port] at netloc
        cases netloc
        exact ⟨_, List.append_assoc _ _ _⟩
    obtain ⟨rest, rfl⟩ := marked
    cases made
    have scheme := (splitParts_isSplit (masked uri)).scheme
    exact redacted_refused (scheme.imp_right And.left) rfl

/-- A path that still resolves is one that the redaction leaves alone. -/
theorem plain_of_resolves {path : PosixPath.Path} (some : path.parts ≠ []) (resolves : Resolves path) :
    PlainPath path.toText := by
  obtain ⟨v, made, found⟩ := resolves
  obtain ⟨accepted, named⟩ := localPath_file found
  by_cases refused : Refused (masked path.toText)
  · rw [redactUriText_refused refused] at made
    cases made
    rcases named with ⟨scheme, _⟩ | ⟨scheme, same⟩
    · exact ⟨scheme, accepted, .inl refused⟩
    · have file : (splitParts path.toText).scheme ≠ [] := by
        rw [scheme]
        decide
      obtain ⟨shorter, few⟩ := path_shorter file
      have whole := eq_of_parse some few same
      rw [whole] at shorter
      omega
  by_cases user : hasUser (splitParts (masked path.toText)) = true
  · exact absurd (redactUriText_user refused user made) accepted
  have noUser : hasUser (splitParts (masked path.toText)) = false := by simpa using user
  rw [redactUriText_free refused noUser] at made
  have split := splitParts_isSplit (masked path.toText)
  have encoded := isSplit_encoded split
    (redactPairs (parseQsl (splitParts (masked path.toText)).query))
  have reread := splitParts_urlunsplit encoded
  cases made
  rcases named with ⟨scheme, same⟩ | ⟨scheme, same⟩
  · rw [reread] at scheme
    have few := count_urlunsplit scheme
      (redactPairs (parseQsl (splitParts (masked path.toText)).query))
    rw [count_masked] at few
    have rejoined := eq_of_parse some few same
    have kept := rootedPath_kept encoded fun is => is.scheme.1 scheme
    rw [kept, rejoined] at reread
    have unmarked := unmarked_of_parts reread
    have unmasked := masked_unmarked unmarked
    rw [rejoined] at accepted
    rw [unmasked] at noUser rejoined reread scheme
    have bare : (splitParts path.toText).scheme = [] := scheme
    refine ⟨bare, accepted, .inr ⟨noUser, unmarked, ?_, ?_⟩⟩
    · apply (urlunsplit_eq_iff bare).mp
      rw [← reread] at rejoined
      exact rejoined
    · exact ⟨_, congrArg SplitResult.query reread, redactPairs_idempotent _⟩
  · rw [reread] at scheme same
    dsimp only at scheme same
    exfalso
    have named : usesNetloc.contains (String.ofList "file".toList) = true := by decide
    have slashed : SplitResult.slashed { splitParts (masked path.toText) with
        query := urlencode (redactPairs (parseQsl (splitParts (masked path.toText)).query)) } =
        true := by
      have isSome : "file".toList.isEmpty = false := by decide
      unfold SplitResult.slashed
      rw [scheme, named, isSome]
      simp
    rw [if_pos slashed] at same
    have head : ∀ c ∈ (rootedPath (splitParts (masked path.toText)).path).head?, c = '/' :=
      rootedPath_head
    generalize rootedPath (splitParts (masked path.toText)).path = p at same head
    cases p with
    | nil =>
      rw [← same] at some
      exact some rfl
    | cons c rest =>
      have rooted : path.root ≠ [] := by
        rw [← same]
        exact parse_rooted (by rw [head c rfl]; rfl)
      rw [masked_rooted (toText_rooted rooted)] at scheme
      exact absurd scheme (by decide)

omit [UnicodeDatabase] in
theorem name_relative (path : PosixPath.Path) : (parse path.name).root = [] := by
  unfold PosixPath.Path.name
  cases last : path.parts.getLast? with
  | none => simp [List.getLastD_eq_getLast?, last, parse, splitRoot]
  | some part =>
    have proper := path.isPart part (List.mem_of_getLast? last)
    simp [List.getLastD_eq_getLast?, last, (parse_part proper).1]

/-- The path of a payload has the parts of its run and its node. -/
theorem path_named (store : LocalArtifactStore) (name : PayloadName) : (store.path name).parts ≠ [] := by
  obtain ⟨runRoot, runParts⟩ := parse_part (cleanPathSegment_isPart name.runId)
  obtain ⟨nodeRoot, nodeParts⟩ :=
    (parse (cleanPathSegment name.runId)).join_part (cleanPathSegment_isPart name.nodeId)
  have relative : (payloadRelativePath name).root = [] ∧ (payloadRelativePath name).parts ≠ [] := by
    obtain ⟨root, parts⟩ :=
      ((parse (cleanPathSegment name.runId)).join (parse (cleanPathSegment name.nodeId))).join_relative
        (name_relative (parse name.filename.toList))
    unfold payloadRelativePath
    rw [root, parts, nodeRoot, nodeParts, runRoot, runParts]
    simp
  unfold LocalArtifactStore.path
  rw [(store.root.join_relative relative.1).2]
  simp [relative.2]

end uris

section records
open StoreAction Action RunArchive InMemoryRunRepository RunModels RunValues CivilTime
variable [PyRuntime]

/-- An artifact is recorded under its redacted uri. -/
theorem addArtifact_uri {given : ArtifactArguments} {fresh : String} {createdAt now : Time}
    {repo repo' : InMemoryRunRepository.Repo} {record : ArtifactRecord}
    (added : addArtifact given fresh createdAt now repo = (.ok record, repo')) :
    redactUri given.uri = .ok record.uri := by
  simp only [addArtifact, bind_run, getRun_run, ofExcept_run] at added
  cases stored : repo.runs.get? given.runId with
  | none => simp [stored] at added
  | some run =>
    simp only [stored, found_some] at added
    cases metadata : redactEntries given.metadata with
    | error e => simp [metadata] at added
    | ok entries =>
      simp only [metadata] at added
      cases storage : artifactStorageMetadata entries given.contentType given.storageBackend
          given.storageKey given.sizeBytes with
      | error e => simp [storage] at added
      | ok columns =>
        simp only [storage] at added
        cases uri : redactUri given.uri with
        | error e => simp [uri] at added
        | ok text =>
          simp only [uri, recordArtifact, bind_run, getRun_run, stored, found_some, change_run]
            at added
          split at added
          all_goals
            have result := congrArg Prod.fst added
            simp only [change_run, bind_run, pure_run, Except.ok.injEq] at result
            rw [← result]

/-- The run that has written a table. -/
def tableRun : RunRecord where
  id := "run-1"
  task := "Load the orders."
  status := .running
  metadata := []
  createdAt := 1783468800000000
  updatedAt := 1783468800000000

def tableArtifact : ArtifactArguments where
  runId := "run-1"
  artifactType := .kpiTable
  uri := "artifacts/run-1/load/sales.csv"

end records

end ArtifactStorage
