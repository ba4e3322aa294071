import AeaiOs.Lib.OrderedDict
import AeaiOs.Lib.PyText

/-! Who a request is from: the token in its headers, and the profiles of the tokens. -/
namespace Authentication
open PyText OrderedDict

inductive UserRole where
  | viewer
  | operator
  | reviewer
  | approver
  | admin
  deriving DecidableEq, Repr

def UserRole.value : UserRole → String
  | .viewer => "viewer"
  | .operator => "operator"
  | .reviewer => "reviewer"
  | .approver => "approver"
  | .admin => "admin"

def UserRole.all : List UserRole := [.viewer, .operator, .reviewer, .approver, .admin]

/-- `UserRole(value)` -/
def UserRole.ofValue (value : Text) : Option UserRole :=
  UserRole.all.find? fun role => role.value.toList = value

structure AuthenticatedUser where
  id : Text
  name : Option Text
  roles : List UserRole
  organizationId : Text
  workspaceIds : List Text
  workspaceId : Text
  deriving DecidableEq, Repr

/-- What is raised: an `AuthenticationError`, or the `TypeError` of `compare_digest`. -/
inductive AuthError where
  | authentication (message : String)
  | typeError
  deriving DecidableEq, Repr

abbrev Profiles := Dict Text AuthenticatedUser

inductive TokenProfiles where
  | raw (text : Text)
  | table (profiles : Profiles)

/-- The arguments of `authenticated_user_from_headers` apart from the headers. -/
structure Settings where
  authEnabled : Bool
  tokenProfiles : TokenProfiles
  localUserId : Text
  localUserName : Option Text
  localRoles : Text
  localOrganizationId : Text := "local-org".toList
  localWorkspaceIds : Text := "default".toList

def normalizeRequired (value : Text) (label : String) : Except AuthError Text :=
  let normalized := stripText value
  if normalized = [] then .error (.authentication s!"{label} must not be blank.")
  else .ok normalized

def normalizeOptional (value : Option Text) : Option Text :=
  match value with
  | none => none
  | some value =>
      let normalized := stripText value
      if normalized = [] then none else some normalized

/-- `hmac.compare_digest`, which takes texts of ASCII characters only. -/
def compareDigest (a b : Text) : Except AuthError Bool :=
  if a.all isAscii && b.all isAscii then .ok (a = b) else .error .typeError

/-- `raw.replace(";", ",").split(",")` -/
def candidatesOf (raw : Text) : List Text := splitOn ',' (replace raw [';'] [','])

def parseWorkspaceIds (rawWorkspaceIds : Text) : Except AuthError (List Text) :=
  let workspaces := ((candidatesOf rawWorkspaceIds).map stripText).filter (· ≠ [])
  if workspaces = [] then .error (.authentication "At least one workspace id is required.")
  else .ok workspaces.eraseDups

section headers
variable [UnicodeDatabase]

/-- One turn of the loop of `parse_roles`. -/
def addRole (roles : List UserRole) (candidate : Text) : Except AuthError (List UserRole) :=
  let normalized := UnicodeDatabase.lower (stripText candidate)
  if normalized = [] then .ok roles
  else
    match UserRole.ofValue normalized with
    | none =>
        let name := String.ofList normalized
        let validRoles := ", ".intercalate (UserRole.all.map UserRole.value)
        .error (.authentication s!"Unknown role '{name}'. Valid roles: {validRoles}.")
    | some role => .ok (if role ∈ roles then roles else roles ++ [role])

def parseRoles (rawRoles : Text) : Except AuthError (List UserRole) := do
  let roles ← (candidatesOf rawRoles).foldlM addRole []
  if roles = [] then .error (.authentication "At least one user role is required.")
  else .ok roles

def localDevelopmentUser (settings : Settings) : Except AuthError AuthenticatedUser := do
  let workspaces ← parseWorkspaceIds settings.localWorkspaceIds
  let id ← normalizeRequired settings.localUserId "Local user id"
  let roles ← parseRoles settings.localRoles
  let organizationId ← normalizeRequired settings.localOrganizationId "Organization id"
  return {
    id, roles, organizationId
    name := normalizeOptional settings.localUserName
    workspaceIds := workspaces
    workspaceId := workspaces.headD [] }

/-- The user of an entry whose parts are known. -/
def profileUser (userId userName roles organizationId rawWorkspaces : Text) :
    Except AuthError AuthenticatedUser := do
  let workspaces ← parseWorkspaceIds rawWorkspaces
  let id ← normalizeRequired userId "User id"
  let roles ← parseRoles roles
  let organizationId ← normalizeRequired organizationId "Organization id"
  return {
    id, roles, organizationId
    name := some ((normalizeOptional (some userName)).getD id)
    workspaceIds := workspaces
    workspaceId := workspaces.headD [] }

/-- The parts of an entry with the defaults for the two that may be left out. -/
def profileParts (settings : Settings) (userSpec : Text) :
    Except AuthError (Text × Text × Text × Text × Text) :=
  match (splitOn '|' userSpec).map stripText with
  | [userId, userName, roles] =>
      .ok (userId, userName, roles, settings.localOrganizationId, settings.localWorkspaceIds)
  | [userId, userName, roles, organizationId, rawWorkspaces] =>
      .ok (userId, userName, roles, organizationId, rawWorkspaces)
  | _ =>
      .error (.authentication <|
        "Token profiles must include user id, display name, roles, and optionally " ++
          "organization id and comma-separated workspace ids.")

/-- One turn of the loop of `parse_token_profiles`. -/
def addProfile (settings : Settings) (profiles : Profiles) (rawProfile : Text) :
    Except AuthError Profiles :=
  let profile := stripText rawProfile
  if profile = [] then .ok profiles
  else
    let (token, separator, userSpec) := partition '=' profile
    if !separator then
      .error (.authentication "Token profiles must use token=user_id|display_name|roles format.")
    else do
      let normalizedToken ← normalizeRequired token "Auth token"
      let (userId, userName, roles, organizationId, rawWorkspaces) ← profileParts settings userSpec
      if (profiles.get? normalizedToken).isSome then
        .error (.authentication "Duplicate auth token profile configured.")
      else do
        let user ← profileUser userId userName roles organizationId rawWorkspaces
        return profiles.set normalizedToken user

def parseTokenProfiles (settings : Settings) (rawProfiles : Text) : Except AuthError Profiles :=
  (splitOn ';' rawProfiles).foldlM (addProfile settings) Dict.empty

/-- `_header` -/
def header (headers : Dict Text Text) (name : Text) : Option Text :=
  match headers.get? name with
  | some direct => some direct
  | none =>
      (headers.entries.find? fun entry =>
        UnicodeDatabase.lower entry.1 = UnicodeDatabase.lower name).map Prod.snd

/-- `_bearer_token` -/
def bearerToken (headers : Dict Text Text) : Except AuthError (Option Text) :=
  match header headers "authorization".toList with
  | none => .ok none
  | some authorization =>
      let (scheme, separator, credentials) := partition ' ' authorization
      if !separator || UnicodeDatabase.lower scheme ≠ "bearer".toList then
        .error (.authentication "Authorization header must use the Bearer scheme.")
      else
        let token := stripText credentials
        if token = [] then .error (.authentication "Bearer token must not be blank.")
        else .ok (some token)

/-- `_bearer_token(headers) or _header(headers, "x-aeai-api-key")` -/
def tokenOf (headers : Dict Text Text) : Except AuthError (Option Text) := do
  match ← bearerToken headers with
  | some token => return some token
  | none => return header headers "x-aeai-api-key".toList

def profilesOf (settings : Settings) : Except AuthError Profiles :=
  match settings.tokenProfiles with
  | .table profiles => .ok profiles
  | .raw text => parseTokenProfiles settings text

end headers

/-- The comparison with one configured token after the other. -/
def compareAll (token : Text) : List (Text × AuthenticatedUser) → Except AuthError AuthenticatedUser
  | [] => .error (.authentication "Invalid authentication credentials.")
  | (expectedToken, user) :: rest => do
      if ← compareDigest token expectedToken then .ok user else compareAll token rest

def authenticatedUserFromHeaders [UnicodeDatabase] (headers : Dict Text Text) (settings : Settings) :
    Except AuthError AuthenticatedUser := do
  if !settings.authEnabled then localDevelopmentUser settings
  else
    match ← tokenOf headers with
    | none => .error (.authentication "Missing bearer token or X-AEAI-API-Key header.")
    | some token => do
        let profiles ← profilesOf settings
        if profiles.entries = [] then
          .error (.authentication "No authentication token profiles are configured.")
        else compareAll token profiles.entries

/-! What raises. -/

/-- Nothing but an `AuthenticationError` is raised. -/
def OnlyAuthentication (result : Except AuthError α) : Prop :=
  ∀ e, result = .error e → ∃ message, e = .authentication message

theorem only_ok (value : α) : OnlyAuthentication (.ok value : Except AuthError α) := by
  intro e raised
  cases raised

theorem only_error (message : String) :
    OnlyAuthentication (.error (.authentication message) : Except AuthError α) := by
  intro e raised
  cases raised
  exact ⟨message, rfl⟩

theorem only_bind {first : Except AuthError α} {rest : α → Except AuthError β}
    (only : OnlyAuthentication first) (then_only : ∀ value, OnlyAuthentication (rest value)) :
    OnlyAuthentication (first >>= rest) := by
  cases first with
  | error e =>
    intro e' raised
    cases raised
    exact only e rfl
  | ok value => exact then_only value

theorem only_foldlM {step : β → α → Except AuthError β}
    (only : ∀ state item, OnlyAuthentication (step state item)) (items : List α) (state : β) :
    OnlyAuthentication (items.foldlM step state) := by
  induction items generalizing state with
  | nil => exact only_ok state
  | cons item items ih =>
    rw [List.foldlM_cons]
    exact only_bind (only state item) ih

theorem normalizeRequired_only (value : Text) (label : String) :
    OnlyAuthentication (normalizeRequired value label) := by
  unfold normalizeRequired
  dsimp only
  split
  · exact only_error _
  · exact only_ok _

theorem parseWorkspaceIds_only (raw : Text) : OnlyAuthentication (parseWorkspaceIds raw) := by
  unfold parseWorkspaceIds
  dsimp only
  split
  · exact only_error _
  · exact only_ok _

section headers
variable [UnicodeDatabase]

theorem parseRoles_only (raw : Text) : OnlyAuthentication (parseRoles raw) := by
  have one : ∀ roles candidate, OnlyAuthentication (addRole roles candidate) := by
    intro roles candidate
    unfold addRole
    dsimp only
    split
    · exact only_ok _
    split
    · exact only_error _
    · exact only_ok _
  unfold parseRoles
  apply only_bind (only_foldlM one _ _)
  intro roles
  split
  · exact only_error _
  · exact only_ok _

theorem profileUser_only (userId userName roles organizationId rawWorkspaces : Text) :
    OnlyAuthentication (profileUser userId userName roles organizationId rawWorkspaces) := by
  unfold profileUser
  apply only_bind (parseWorkspaceIds_only _)
  intro workspaces
  apply only_bind (normalizeRequired_only _ _)
  intro id
  apply only_bind (parseRoles_only _)
  intro roles
  apply only_bind (normalizeRequired_only _ _)
  intro organization
  exact only_ok _

omit [UnicodeDatabase] in
theorem profileParts_only (settings : Settings) (userSpec : Text) :
    OnlyAuthentication (profileParts settings userSpec) := by
  unfold profileParts
  split
  · exact only_ok _
  · exact only_ok _
  · exact only_error _

theorem addProfile_only (settings : Settings) (profiles : Profiles) (rawProfile : Text) :
    OnlyAuthentication (addProfile settings profiles rawProfile) := by
  unfold addProfile
  dsimp only
  split
  · exact only_ok _
  split
  · exact only_error _
  apply only_bind (normalizeRequired_only _ _)
  intro token
  apply only_bind (profileParts_only _ _)
  intro parts
  split
  · exact only_error _
  apply only_bind (profileUser_only _ _ _ _ _)
  intro user
  exact only_ok _

theorem profilesOf_only (settings : Settings) : OnlyAuthentication (profilesOf settings) := by
  unfold profilesOf
  split
  · exact only_ok _
  · exact only_foldlM (addProfile_only settings) _ _

theorem tokenOf_only (headers : Dict Text Text) : OnlyAuthentication (tokenOf headers) := by
  have bearer : OnlyAuthentication (bearerToken headers) := by
    unfold bearerToken
    split
    · exact only_ok _
    · dsimp only
      split
      · exact only_error _
      split
      · exact only_error _
      · exact only_ok _
  unfold tokenOf
  apply only_bind bearer
  intro token
  cases token with
  | none => exact only_ok _
  | some token => exact only_ok _

end headers

/-! The comparisons. -/

/-- No comparison before that with the token itself meets a character outside ASCII. -/
def Comparable (token : Text) (expected : List Text) : Prop :=
  token.all isAscii = true ∧ ∀ other ∈ expected.takeWhile (· ≠ token), other.all isAscii = true

instance (token : Text) (expected : List Text) : Decidable (Comparable token expected) :=
  inferInstanceAs (Decidable (_ ∧ _))

theorem compareAll_comparable {token : Text} {entries : List (Text × AuthenticatedUser)}
    (comparable : Comparable token (entries.map Prod.fst)) :
    compareAll token entries =
      match lookupEntries entries token with
      | some user => .ok user
      | none => .error (.authentication "Invalid authentication credentials.") := by
  obtain ⟨ascii, before⟩ := comparable
  induction entries with
  | nil => rfl
  | cons entry entries ih =>
    obtain ⟨expected, user⟩ := entry
    unfold compareAll lookupEntries
    by_cases same : expected = token
    · subst same
      have equal : compareDigest expected expected = .ok true := by
        unfold compareDigest
        simp [ascii]
      rw [equal, if_pos rfl]
      rfl
    · rw [List.map_cons, List.takeWhile_cons_of_pos (by simpa using same)] at before
      have other : compareDigest token expected = .ok false := by
        unfold compareDigest
        simp [ascii, before expected List.mem_cons_self, Ne.symm same]
      rw [other, if_neg same]
      exact ih fun later member => before later (List.mem_cons_of_mem _ member)

theorem compareAll_typeError {token : Text} {entries : List (Text × AuthenticatedUser)}
    (some : entries ≠ []) (incomparable : ¬ Comparable token (entries.map Prod.fst)) :
    compareAll token entries = .error .typeError := by
  induction entries with
  | nil => exact absurd rfl some
  | cons entry entries ih =>
    obtain ⟨expected, user⟩ := entry
    unfold compareAll
    by_cases both : (token.all isAscii && expected.all isAscii) = true
    swap
    · have raised : compareDigest token expected = .error .typeError := if_neg both
      rw [raised]
      rfl
    obtain ⟨ascii, ascii'⟩ := Bool.and_eq_true_iff.mp both
    have other : expected ≠ token := by
      rintro rfl
      apply incomparable
      refine ⟨ascii, ?_⟩
      rw [List.map_cons, List.takeWhile_cons_of_neg (by simp)]
      intro other member
      cases member
    have answered : compareDigest token expected = .ok false := by
      unfold compareDigest
      rw [if_pos both, decide_eq_false (Ne.symm other)]
    have later : ¬ Comparable token (entries.map Prod.fst) := by
      rintro ⟨_, before⟩
      apply incomparable
      refine ⟨ascii, ?_⟩
      rw [List.map_cons, List.takeWhile_cons_of_pos (by simpa using other)]
      intro word member
      rcases List.mem_cons.mp member with rfl | later
      · exact ascii'
      · exact before word later
    have more : entries ≠ [] := by
      rintro rfl
      apply later
      refine ⟨ascii, fun word member => ?_⟩
      cases member
    rw [answered]
    exact ih more later

section headers
variable [UnicodeDatabase]

/-- The token that the headers present. -/
def Presents (headers : Dict Text Text) (token : Text) : Prop := tokenOf headers = .ok (some token)

/-- The token is that of the user. -/
def Configured (settings : Settings) (token : Text) (user : AuthenticatedUser) : Prop :=
  ∃ profiles, profilesOf settings = .ok profiles ∧ profiles.get? token = some user

/-- The user is the one whose token is presented, and there is no other exception than an
    `AuthenticationError`. -/
def Authenticates (headers : Dict Text Text) (settings : Settings) : Prop :=
  (∀ user, authenticatedUserFromHeaders headers settings = .ok user ↔
    ∃ token, Presents headers token ∧ Configured settings token user) ∧
  OnlyAuthentication (authenticatedUserFromHeaders headers settings)

theorem authenticates_of_error {headers : Dict Text Text} {settings : Settings} {message : String}
    (raised : authenticatedUserFromHeaders headers settings = .error (.authentication message))
    (nobody : ∀ token user, Presents headers token → ¬ Configured settings token user) :
    Authenticates headers settings := by
  unfold Authenticates
  rw [raised]
  refine ⟨fun user => ⟨fun answered => ?_, ?_⟩, only_error message⟩
  · cases answered
  · rintro ⟨token, presented, configured⟩
    exact absurd configured (nobody token user presented)

theorem authenticated_eq (headers : Dict Text Text) {settings : Settings}
    (enabled : settings.authEnabled = true) :
    authenticatedUserFromHeaders headers settings =
      (tokenOf headers >>= fun token =>
        match token with
        | none => .error (.authentication "Missing bearer token or X-AEAI-API-Key header.")
        | some token => profilesOf settings >>= fun profiles =>
            if profiles.entries = [] then
              .error (.authentication "No authentication token profiles are configured.")
            else compareAll token profiles.entries) := by
  unfold authenticatedUserFromHeaders
  rw [enabled]
  rfl

/-- Without a token, or without profiles for it, there is nothing to compare. -/
theorem authenticates_of_nobody {headers : Dict Text Text} {settings : Settings}
    (enabled : settings.authEnabled = true)
    (nothing : ∀ token profiles, tokenOf headers = .ok (some token) →
      profilesOf settings = .ok profiles → profiles.entries = []) :
    Authenticates headers settings := by
  have nobody : ∀ token user, Presents headers token → ¬ Configured settings token user := by
    rintro token user presented ⟨profiles, configured, stored⟩
    have member := Dict.mem_entries_of_get? stored
    rw [nothing token profiles presented configured] at member
    cases member
  have walk := authenticated_eq headers enabled
  cases presented : tokenOf headers with
  | error e =>
    obtain ⟨message, rfl⟩ := tokenOf_only headers e presented
    rw [presented] at walk
    exact authenticates_of_error walk nobody
  | ok token =>
    rw [presented] at walk
    cases token with
    | none => exact authenticates_of_error walk nobody
    | some token =>
      cases configured : profilesOf settings with
      | error e =>
        obtain ⟨message, rfl⟩ := profilesOf_only settings e configured
        dsimp only [bind, Except.bind] at walk
        rw [configured] at walk
        exact authenticates_of_error walk nobody
      | ok profiles =>
        dsimp only [bind, Except.bind] at walk
        rw [configured] at walk
        dsimp only at walk
        rw [if_pos (nothing token profiles presented configured)] at walk
        exact authenticates_of_error walk nobody

/-- With a token and profiles, all depends on the comparisons. -/
theorem authenticates_compared {headers : Dict Text Text} {settings : Settings}
    (enabled : settings.authEnabled = true) {token : Text} {profiles : Profiles}
    (presented : tokenOf headers = .ok (some token)) (configured : profilesOf settings = .ok profiles)
    (some : profiles.entries ≠ []) :
    Authenticates headers settings ↔ Comparable token profiles.keys := by
  have answer := authenticated_eq headers enabled
  rw [presented] at answer
  dsimp only [bind, Except.bind] at answer
  rw [configured] at answer
  dsimp only at answer
  rw [if_neg some] at answer
  have table : ∀ user, (∃ token', Presents headers token' ∧ Configured settings token' user) ↔
      profiles.get? token = Option.some user := by
    intro user
    constructor
    · rintro ⟨token', found, profiles', found', stored⟩
      unfold Presents at found
      rw [presented] at found
      rw [configured] at found'
      cases found
      cases found'
      exact stored
    · intro stored
      exact ⟨token, presented, profiles, configured, stored⟩
  unfold Authenticates
  rw [answer]
  simp only [table]
  constructor
  · rintro ⟨_, authentication⟩
    by_contra incomparable
    obtain ⟨message, same⟩ := authentication _ (compareAll_typeError some incomparable)
    cases same
  · intro comparable
    have found : lookupEntries profiles.entries token = profiles.get? token := rfl
    rw [compareAll_comparable comparable, found]
    cases profiles.get? token with
    | none => exact ⟨fun user => by simp, only_error _⟩
    | some known => exact ⟨fun user => by simp, only_ok _⟩

/-- Authentication fails only as authentication, and for the right requests, exactly if no text
    outside ASCII is compared. -/
theorem authenticates_iff (headers : Dict Text Text) (settings : Settings)
    (enabled : settings.authEnabled = true) :
    Authenticates headers settings ↔
      ∀ token profiles, tokenOf headers = .ok (some token) → profilesOf settings = .ok profiles →
        profiles.entries ≠ [] → Comparable token profiles.keys := by
  constructor
  · intro authenticates token profiles presented configured some
    exact (authenticates_compared enabled presented configured some).mp authenticates
  · intro comparable
    by_cases compared : ∃ token profiles, tokenOf headers = .ok (some token) ∧
        profilesOf settings = .ok profiles ∧ profiles.entries ≠ []
    · obtain ⟨token, profiles, presented, configured, some⟩ := compared
      exact (authenticates_compared enabled presented configured some).mpr
        (comparable token profiles presented configured some)
    · apply authenticates_of_nobody enabled
      intro token profiles presented configured
      by_contra some
      exact compared ⟨token, profiles, presented, configured, some⟩

end headers

/-- One profile: the token `k` of an operator. -/
def oneProfile : Settings where
  authEnabled := true
  tokenProfiles := .raw "k=u1|Ada|operator".toList
  localUserId := "local".toList
  localUserName := none
  localRoles := "viewer".toList

def ada : AuthenticatedUser where
  id := "u1".toList
  name := some "Ada".toList
  roles := [.operator]
  organizationId := "local-org".toList
  workspaceIds := ["default".toList]
  workspaceId := "default".toList

theorem oneProfile_authenticates :
    let _ := asciiDatabase
    Authenticates (Dict.empty.set "Authorization".toList "Bearer k".toList) oneProfile := by
  intro _
  apply (authenticates_iff _ oneProfile rfl).mpr
  intro token profiles presented configured _
  have key : tokenOf (Dict.empty.set "Authorization".toList "Bearer k".toList) =
      .ok (some ['k']) := rfl
  have table : profilesOf oneProfile = .ok (Dict.empty.set ['k'] ada) := rfl
  rw [key] at presented
  rw [table] at configured
  cases presented
  cases configured
  decide

/-- A key outside ASCII raises a `TypeError`. -/
theorem key_raises :
    let _ := asciiDatabase
    ¬ Authenticates (Dict.empty.set "X-AEAI-API-Key".toList ['é']) oneProfile := by
  rintro _ ⟨_, only⟩
  obtain ⟨message, same⟩ := only .typeError rfl
  cases same

end Authentication
