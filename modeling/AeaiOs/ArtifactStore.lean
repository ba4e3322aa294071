import AeaiOs.ExecutionGraph
import AeaiOs.Lib.PosixPath

/-!
Where the artifact stores put a payload. The names of the run, the node and the file become
the parts of one path, on disk or as the key of an object.
-/
namespace ArtifactStorage
open PyText PosixPath

/-- What a caller of `write_bytes` names a payload by. -/
structure PayloadName where
  runId : String
  nodeId : String
  filename : String
deriving DecidableEq

/-- A file name that is one part of a path, and not the parent directory. -/
def PlainFilename (filename : String) : Prop :=
  IsPart filename.toList ∧ filename.toList ≠ ['.', '.']

inductive Location
  | file (path : Path)
  | object (bucket key : Text)
deriving DecidableEq

section segments
variable [UnicodeDatabase]

def keepsCharacter (c : Char) : Bool := UnicodeDatabase.isAlnum c || c == '_' || c == '-'

def cleanCharacter (c : Char) : Char := if keepsCharacter c then c else '_'

/-- `_clean_path_segment` -/
def cleanPathSegment (value : String) : Text :=
  let cleaned := (stripText value.toList).map cleanCharacter
  if cleaned = [] then "unknown".toList else cleaned

/-- `_payload_relative_path` -/
def payloadRelativePath (name : PayloadName) : Path :=
  ((parse (cleanPathSegment name.runId)).join (parse (cleanPathSegment name.nodeId))).join
    (parse (parse name.filename.toList).name)

end segments

/-- `_clean_prefix` -/
def cleanPrefix (text : String) : Text :=
  joinWith ['/'] ((splitOn '/' (trim (· == '/') text.toList)).filter (· ≠ []))

structure LocalArtifactStore where
  root : Path

structure S3ArtifactStore where
  bucket : Text
  keyPrefix : Text

/-- `S3ArtifactStore.__init__`; without a bucket there is no store. -/
def S3ArtifactStore.make (bucket keyPrefix : String) : Option S3ArtifactStore :=
  if strip bucket = "" then none else some ⟨stripText bucket.toList, cleanPrefix keyPrefix⟩

section stores
variable [UnicodeDatabase]

/-- The path that `write_bytes` writes -/
def LocalArtifactStore.path (store : LocalArtifactStore) (name : PayloadName) : Path :=
  store.root.join (payloadRelativePath name)

/-- `_key` -/
def S3ArtifactStore.key (store : S3ArtifactStore) (name : PayloadName) : Text :=
  let relative := (payloadRelativePath name).toText
  if store.keyPrefix = [] then relative else store.keyPrefix ++ '/' :: relative

inductive ArtifactStore
  | onDisk (store : LocalArtifactStore)
  | inBucket (store : S3ArtifactStore)

/-- What `write_bytes` writes: the file or the object. -/
def ArtifactStore.location (store : ArtifactStore) (name : PayloadName) : Location :=
  match store with
  | .onDisk store => .file (store.path name)
  | .inBucket store => .object store.bucket (store.key name)

/-- The uri of the stored artifact -/
def ArtifactStore.uri (store : ArtifactStore) (name : PayloadName) : Text :=
  match store with
  | .onDisk store => (store.path name).toText
  | .inBucket store => "s3://".toList ++ store.bucket ++ '/' :: store.key name

/-! Names that are cleaned to the same segment. -/

/-- A character that becomes an underscore, or is one. -/
def blurred (c : Char) : Bool := !UnicodeDatabase.isAlnum c && c != '-'

def SameCharacter (c d : Char) : Prop := c = d ∨ blurred c = true ∧ blurred d = true

/-- A text that is cleaned to the segment of blank names. -/
def Anonymous (text : Text) : Prop := text = [] ∨ text = "unknown".toList

/-- Stripped, the names differ only in characters that are neither letters nor digits nor
    dashes, or each is blank or `unknown`. -/
def Alike (first second : String) : Prop :=
  List.Forall₂ SameCharacter (stripText first.toList) (stripText second.toList) ∨
    Anonymous (stripText first.toList) ∧ Anonymous (stripText second.toList)

/-- The names of one file of two runs or nodes that are alike. -/
structure PayloadName.Alike (first second : PayloadName) : Prop where
  runs : ArtifactStorage.Alike first.runId second.runId
  nodes : ArtifactStorage.Alike first.nodeId second.nodeId
  files : first.filename = second.filename

instance : DecidableRel SameCharacter := fun c d =>
  inferInstanceAs (Decidable (c = d ∨ blurred c = true ∧ blurred d = true))

instance (text : Text) : Decidable (Anonymous text) := inferInstanceAs (Decidable (_ ∨ _))

instance (first second : String) : Decidable (Alike first second) :=
  inferInstanceAs (Decidable (List.Forall₂ SameCharacter _ _ ∨ _))

instance (filename : String) : Decidable (PlainFilename filename) :=
  inferInstanceAs (Decidable (_ ∧ _))

theorem isAlnum_ascii {c : Char} (ascii : isAscii c = true) :
    UnicodeDatabase.isAlnum c = c.isAlphanum := UnicodeDatabase.isAlnum_ascii c ascii

theorem underscore_blurred : blurred '_' = true := by
  simp [blurred, isAlnum_ascii (c := '_') (by decide)]

theorem cleanCharacter_blurred {c : Char} (blurs : blurred c = true) : cleanCharacter c = '_' := by
  simp only [blurred, Bool.and_eq_true, Bool.not_eq_true', bne_iff_ne] at blurs
  by_cases same : c = '_'
  · simp [cleanCharacter, same]
  · simp [cleanCharacter, keepsCharacter, blurs, same]

theorem cleanCharacter_clear {c : Char} (clear : blurred c = false) :
    cleanCharacter c = c ∧ c ≠ '_' := by
  constructor
  · by_cases dash : c = '-'
    · simp [cleanCharacter, keepsCharacter, dash]
    · have alnum : UnicodeDatabase.isAlnum c = true := by simpa [blurred, dash] using clear
      simp [cleanCharacter, keepsCharacter, alnum]
  · intro same
    rw [same, underscore_blurred] at clear
    exact Bool.noConfusion clear

theorem sameCharacter_iff (c d : Char) :
    cleanCharacter c = cleanCharacter d ↔ SameCharacter c d := by
  unfold SameCharacter
  cases first : blurred c with
  | true =>
    cases second : blurred d with
    | true => simp [cleanCharacter_blurred first, cleanCharacter_blurred second]
    | false =>
      obtain ⟨kept, other⟩ := cleanCharacter_clear second
      have apart : c ≠ d := by
        intro same
        rw [same, second] at first
        exact Bool.noConfusion first
      simp [cleanCharacter_blurred first, kept, other.symm, apart]
  | false =>
    obtain ⟨kept, noUnderscore⟩ := cleanCharacter_clear first
    cases second : blurred d with
    | true =>
      have apart : c ≠ d := by
        intro same
        rw [same, second] at first
        exact Bool.noConfusion first
      simp [kept, cleanCharacter_blurred second, noUnderscore, apart]
    | false => simp [kept, (cleanCharacter_clear second).1]

theorem map_cleanCharacter_iff (first second : Text) :
    first.map cleanCharacter = second.map cleanCharacter ↔
      List.Forall₂ SameCharacter first second := by
  have pointwise : (fun c d => cleanCharacter c = cleanCharacter d) = SameCharacter := by
    funext c d
    exact propext (sameCharacter_iff c d)
  rw [← pointwise, ← List.forall₂_map_right_iff (R := fun c e => cleanCharacter c = e),
    ← List.forall₂_map_left_iff, List.forall₂_eq_eq_eq]

theorem cleanCharacter_fixed {c : Char} (clear : blurred (cleanCharacter c) = false) :
    cleanCharacter c = c := by
  cases was : blurred c with
  | true =>
    rw [cleanCharacter_blurred was, underscore_blurred] at clear
    exact Bool.noConfusion clear
  | false => exact (cleanCharacter_clear was).1

theorem map_cleanCharacter_fixed {text : Text}
    (fixed : ∀ c ∈ text, cleanCharacter c = c) : text.map cleanCharacter = text := by
  rw [List.map_congr_left fixed]
  exact List.map_id' text

/-- Only the text itself is cleaned to a text without underscores and the like. -/
theorem cleaned_clear_iff {text clear : Text} (cleared : ∀ c ∈ clear, blurred c = false) :
    text.map cleanCharacter = clear ↔ text = clear := by
  constructor
  · intro cleaned
    rw [← cleaned]
    refine (map_cleanCharacter_fixed fun c member => cleanCharacter_fixed (cleared _ ?_)).symm
    rw [← cleaned]
    exact List.mem_map_of_mem member
  · intro same
    rw [same]
    exact map_cleanCharacter_fixed fun c member => (cleanCharacter_clear (cleared c member)).1

theorem unknown_clear : ∀ c ∈ "unknown".toList, blurred c = false := by
  intro c member
  have letters : c.isAlphanum = true ∧ isAscii c = true := by
    have all : "unknown".toList.all fun c => c.isAlphanum && isAscii c := by decide
    simpa using List.all_eq_true.mp all c member
  simp [blurred, isAlnum_ascii letters.2, letters.1]

theorem cleanPathSegment_eq_iff (first second : String) :
    cleanPathSegment first = cleanPathSegment second ↔ Alike first second := by
  unfold cleanPathSegment Alike Anonymous
  have unknown : ∀ text : Text, text.map cleanCharacter = "unknown".toList ↔
      text = "unknown".toList := fun text => cleaned_clear_iff unknown_clear
  have nonempty : "unknown".toList ≠ [] := by decide
  rw [← map_cleanCharacter_iff]
  generalize stripText first.toList = one
  generalize stripText second.toList = other
  generalize "unknown".toList = name at unknown nonempty ⊢
  simp only [List.map_eq_nil_iff]
  by_cases noFirst : one = []
  · by_cases noSecond : other = []
    · simp [noFirst, noSecond]
    · simp only [noFirst, noSecond, if_true, if_false, List.map_nil]
      rw [eq_comm, unknown]
      simp [noSecond]
  · by_cases noSecond : other = []
    · simp only [noFirst, noSecond, if_true, if_false, List.map_nil]
      rw [unknown]
      simp [noFirst]
    · simp only [noFirst, noSecond, if_false, false_or]
      constructor
      · intro same
        exact .inl same
      · intro alike
        obtain same | ⟨firstNamed, secondNamed⟩ := alike
        · exact same
        · rw [firstNamed, secondNamed]

theorem cleanCharacter_proper (c : Char) : cleanCharacter c ≠ '/' ∧ cleanCharacter c ≠ '.' := by
  by_cases kept : keepsCharacter c = true
  · have clean : cleanCharacter c = c := by simp [cleanCharacter, kept]
    rw [clean]
    constructor
    · rintro rfl
      simp [keepsCharacter, isAlnum_ascii (c := '/') (by decide)] at kept
    · rintro rfl
      simp [keepsCharacter, isAlnum_ascii (c := '.') (by decide)] at kept
  · simp [cleanCharacter, kept]

theorem cleanPathSegment_isPart (value : String) : IsPart (cleanPathSegment value) := by
  unfold cleanPathSegment
  generalize stripText value.toList = text
  by_cases blank : text.map cleanCharacter = []
  · rw [if_pos blank]
    decide
  · rw [if_neg blank]
    have clean : ∀ c ∈ text.map cleanCharacter, c ≠ '/' ∧ c ≠ '.' := by
      intro c member
      obtain ⟨d, _, rfl⟩ := List.mem_map.mp member
      exact cleanCharacter_proper d
    refine ⟨blank, ?_, ?_⟩
    · intro dot
      rw [dot] at clean
      exact (clean '.' (by simp)).2 rfl
    · intro slash
      exact (clean '/' slash).1 rfl

theorem payloadRelativePath_parts {name : PayloadName} (plain : PlainFilename name.filename) :
    (payloadRelativePath name).root = [] ∧
      (payloadRelativePath name).parts =
        [cleanPathSegment name.runId, cleanPathSegment name.nodeId, name.filename.toList] := by
  obtain ⟨runRoot, runParts⟩ := parse_part (cleanPathSegment_isPart name.runId)
  obtain ⟨nodeRoot, nodeParts⟩ :=
    (parse (cleanPathSegment name.runId)).join_part (cleanPathSegment_isPart name.nodeId)
  unfold payloadRelativePath
  rw [name_part plain.1]
  obtain ⟨root, parts⟩ :=
    ((parse (cleanPathSegment name.runId)).join (parse (cleanPathSegment name.nodeId))).join_part
      plain.1
  rw [root, parts, nodeRoot, nodeParts, runRoot, runParts]
  simp

theorem payloadRelativePath_eq_iff {first second : PayloadName}
    (firstPlain : PlainFilename first.filename) (secondPlain : PlainFilename second.filename) :
    payloadRelativePath first = payloadRelativePath second ↔ first.Alike second := by
  obtain ⟨firstRoot, firstParts⟩ := payloadRelativePath_parts firstPlain
  obtain ⟨secondRoot, secondParts⟩ := payloadRelativePath_parts secondPlain
  rw [PosixPath.Path.ext_iff, firstRoot, secondRoot, firstParts, secondParts]
  simp only [List.cons.injEq, true_and, and_true, String.toList_inj]
  rw [cleanPathSegment_eq_iff, cleanPathSegment_eq_iff]
  constructor
  · intro ⟨runs, nodes, files⟩
    exact ⟨runs, nodes, files⟩
  · intro ⟨runs, nodes, files⟩
    exact ⟨runs, nodes, files⟩

theorem key_eq_iff (store : S3ArtifactStore) (first second : PayloadName) :
    store.key first = store.key second ↔
      payloadRelativePath first = payloadRelativePath second := by
  constructor
  · intro same
    apply toText_inj
    unfold S3ArtifactStore.key at same
    by_cases bare : store.keyPrefix = []
    · simpa [bare] using same
    · simpa [bare] using same
  · intro same
    rw [S3ArtifactStore.key, same, S3ArtifactStore.key]

theorem location_eq_iff (store : ArtifactStore) {first second : PayloadName}
    (firstPlain : PlainFilename first.filename) (secondPlain : PlainFilename second.filename) :
    store.location first = store.location second ↔ first.Alike second := by
  have relative := payloadRelativePath_eq_iff firstPlain secondPlain
  cases store with
  | onDisk store =>
    have joined := store.root.join_inj (payloadRelativePath_parts firstPlain).1
      (payloadRelativePath_parts secondPlain).1
    simp only [ArtifactStore.location, Location.file.injEq]
    exact joined.trans relative
  | inBucket store =>
    simp only [ArtifactStore.location, Location.object.injEq, true_and]
    exact (key_eq_iff store first second).trans relative

/-- Two payloads of different names are kept apart exactly if they are not files of one name
    of runs and nodes that are alike. -/
theorem names_apart_iff (store : ArtifactStore) {first second : PayloadName}
    (firstPlain : PlainFilename first.filename) (secondPlain : PlainFilename second.filename) :
    (first ≠ second → store.location first ≠ store.location second) ↔
      first = second ∨ ¬ first.Alike second := by
  rw [ne_eq (store.location first), location_eq_iff store firstPlain secondPlain]
  by_cases same : first = second
  · simp [same]
  · simp [same]

/-- What a store holds after some writes, the last one first: the payload of the last write
    at the place. -/
def ArtifactStore.holds (store : ArtifactStore) {Payload : Type} :
    List (PayloadName × Payload) → Location → Option Payload
  | [], _ => none
  | (name, payload) :: earlier, place =>
      if store.location name = place then some payload else store.holds earlier place

/-- The last payload that was written under a name. -/
def lastPayload {Payload : Type} : List (PayloadName × Payload) → PayloadName → Option Payload
  | [], _ => none
  | (name, payload) :: earlier, wanted =>
      if name = wanted then some payload else lastPayload earlier wanted

/-- While no two names of the writes are alike, no payload overwrites another name's. -/
theorem payloads_kept (store : ArtifactStore) {Payload : Type}
    {writes : List (PayloadName × Payload)} {wanted : PayloadName}
    (plain : PlainFilename wanted.filename)
    (apart : ∀ write ∈ writes, PlainFilename write.1.filename ∧
      (write.1 = wanted ∨ ¬ write.1.Alike wanted)) :
    store.holds writes (store.location wanted) = lastPayload writes wanted := by
  induction writes with
  | nil => rfl
  | cons write earlier ih =>
    obtain ⟨writePlain, different⟩ := apart write (by simp)
    have before := ih fun other member => apart other (List.mem_cons_of_mem _ member)
    simp only [ArtifactStore.holds, lastPayload]
    by_cases same : write.1 = wanted
    · simp [same]
    · have elsewhere : store.location write.1 ≠ store.location wanted := by
        rw [ne_eq, location_eq_iff store writePlain plain]
        exact different.resolve_left same
      rw [if_neg elsewhere, if_neg same, before]

end stores

/-- The underscore stands for the blank: both nodes of a valid graph write to one place. -/
def twoLoads : Orchestration.ExecutionGraph where
  runId := "run-1"
  nodes :=
    [{ id := "load data", agent := "data", task := "Load the orders." },
      { id := "load_data", agent := "data", task := "Load the payments." }]

theorem nodes_share_location : let _ := asciiDatabase
    twoLoads.validate ["data"] = .ok () ∧ twoLoads.ids = ["load data", "load_data"] ∧
      PlainFilename "table.csv" ∧ ∀ store : ArtifactStore,
        store.location ⟨"run-1", "load data", "table.csv"⟩ =
          store.location ⟨"run-1", "load_data", "table.csv"⟩ := by
  intro _
  have relative : payloadRelativePath ⟨"run-1", "load data", "table.csv"⟩ =
      payloadRelativePath ⟨"run-1", "load_data", "table.csv"⟩ := by
    unfold payloadRelativePath
    have cleaned : cleanPathSegment "load data" = cleanPathSegment "load_data" := by
      decide
    rw [cleaned]
  refine ⟨by decide, by decide, by decide, ?_⟩
  intro store
  cases store with
  | onDisk store => rw [ArtifactStore.location, ArtifactStore.location,
      LocalArtifactStore.path, LocalArtifactStore.path, relative]
  | inBucket store => rw [ArtifactStore.location, ArtifactStore.location,
      S3ArtifactStore.key, S3ArtifactStore.key, relative]

/-- Two runs keep their files apart. -/
theorem runs_kept_apart : let _ := asciiDatabase
    ArtifactStore.location (.onDisk ⟨parse "artifacts".toList⟩)
        ⟨"run-1", "load data", "table.csv"⟩ ≠
      ArtifactStore.location (.onDisk ⟨parse "artifacts".toList⟩)
        ⟨"run-2", "load data", "table.csv"⟩ := by
  intro _
  have different : ¬ PayloadName.Alike ⟨"run-1", "load data", "table.csv"⟩
      ⟨"run-2", "load data", "table.csv"⟩ := by
    intro alike
    exact absurd alike.runs (by decide)
  exact (names_apart_iff (.onDisk ⟨parse "artifacts".toList⟩) (by decide)
    (by decide)).mpr (.inr different) (by decide)

end ArtifactStorage
