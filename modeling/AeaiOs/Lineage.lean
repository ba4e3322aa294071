import AeaiOs.RunRepository
import Mathlib.Data.List.Perm.Subperm
import Mathlib.Logic.Relation

/-! The lineage of an artifact: what it is made from, over any number of steps. -/
namespace ArtifactLineageService
open OrderedDict StoreAction RunValues RunModels InMemoryRunRepository Relation

structure ArtifactLineageEdge where
  sourceArtifactId : String
  targetArtifactId : String
  deriving DecidableEq, Repr

structure ArtifactLineage where
  rootArtifact : ArtifactRecord
  upstreamArtifacts : List ArtifactRecord
  edges : List ArtifactLineageEdge

/-- The two collections that the recursion of `build_lineage` fills. -/
structure Walk where
  upstream : Dict String ArtifactRecord
  edges : List ArtifactLineageEdge

/-- Why there is no lineage: the bound on the recursion is met, or a read raises. -/
inductive Halt where
  | unfinished
  | raised (e : PyError)

section service
variable (repo : Repo) (runId : String)

/-- `self._repository.get_artifact(run_id, artifact_id)` -/
def artifact (artifactId : String) : Except Halt ArtifactRecord :=
  (getArtifact runId artifactId repo).1.mapError Halt.raised

/-- One turn of the loop over the sources of `targetId`. -/
def follow (descend : Walk → ArtifactRecord → Except Halt Walk) (targetId : String) (walk : Walk)
    (sourceArtifactId : String) : Except Halt Walk :=
  let walk := { walk with edges := walk.edges ++ [⟨sourceArtifactId, targetId⟩] }
  if (walk.upstream.get? sourceArtifactId).isSome then .ok walk
  else
    match artifact repo runId sourceArtifactId with
    | .error halt => .error halt
    | .ok source => descend { walk with upstream := walk.upstream.set source.id source } source

/-- `visit`. On its way out the target is taken from `visiting` again. -/
def visit : Nat → List String → Walk → ArtifactRecord → Except Halt Walk
  | 0, _, _, _ => .error .unfinished
  | fuel + 1, visiting, walk, target =>
      if target.id ∈ visiting then .ok walk
      else
        target.sourceArtifactIds.foldlM
          (follow repo runId (visit fuel (target.id :: visiting)) target.id) walk

def buildLineage (fuel : Nat) (artifactId : String) : Except Halt ArtifactLineage :=
  match artifact repo runId artifactId with
  | .error halt => .error halt
  | .ok root =>
      match visit repo runId fuel [] ⟨Dict.empty, []⟩ root with
      | .error halt => .error halt
      | .ok walk => .ok ⟨root, walk.upstream.values, walk.edges⟩

/-- `append_once` -/
def appendOnce (orderedIds : List String) (artifactId : String) : List String :=
  if artifactId ∈ orderedIds then orderedIds else orderedIds ++ [artifactId]

def expandOne (fuel : Nat) (orderedIds : List String) (artifactId : String) :
    Except Halt (List String) :=
  match artifact repo runId artifactId with
  | .error halt => .error halt
  | .ok _ =>
      match buildLineage repo runId fuel artifactId with
      | .error halt => .error halt
      | .ok lineage =>
          .ok ((lineage.upstreamArtifacts.map ArtifactRecord.id).foldl appendOnce
            (appendOnce orderedIds artifactId))

def expandSourceArtifactIds (fuel : Nat) (artifactIds : List String) :
    Except Halt (List String) :=
  artifactIds.foldlM (expandOne repo runId fuel) []

end service

/-! What is reached. -/

def artifactsOf (repo : Repo) (runId : String) : List ArtifactRecord :=
  (repo.artifacts.get? runId).getD []

/-- The sources of the artifacts of a run are artifacts of the run, each under an id of its own. -/
structure Connected (repo : Repo) (runId : String) : Prop where
  run : (repo.runs.get? runId).isSome = true
  unique : ((artifactsOf repo runId).map ArtifactRecord.id).Nodup
  sources : ∀ artifact ∈ artifactsOf repo runId, ∀ id ∈ artifact.sourceArtifactIds,
    id ∈ (artifactsOf repo runId).map ArtifactRecord.id

/-- The first artifact names the second one as its source. -/
def Links (repo : Repo) (runId : String) (a b : String) : Prop :=
  ∃ artifact ∈ artifactsOf repo runId, artifact.id = a ∧ b ∈ artifact.sourceArtifactIds

/-- One edge for each source entry. -/
def edgesOf (artifact : ArtifactRecord) : List ArtifactLineageEdge :=
  artifact.sourceArtifactIds.map fun source => ⟨source, artifact.id⟩

section connected
variable {repo : Repo} {runId : String}

theorem artifact_ok (connected : Connected repo runId) {artifactId : String}
    {record : ArtifactRecord} :
    artifact repo runId artifactId = .ok record ↔
      record ∈ artifactsOf repo runId ∧ record.id = artifactId := by
  obtain ⟨run, stored⟩ := Option.isSome_iff_exists.mp connected.run
  have answer : artifact repo runId artifactId =
      (found ((artifactsOf repo runId).find? fun artifact => artifact.id = artifactId)
        (.artifactNotFound artifactId)).mapError Halt.raised := by
    unfold artifact getArtifact getRun artifactsOf
    simp only [Action.bind_run, Action.read_run, stored, present_run, found_some]
  rw [answer]
  constructor
  · intro answered
    cases search : (artifactsOf repo runId).find? fun artifact => artifact.id = artifactId with
    | none =>
      rw [search] at answered
      cases answered
    | some record' =>
      rw [search] at answered
      cases answered
      exact ⟨List.mem_of_find?_eq_some search, by simpa using List.find?_some search⟩
  · rintro ⟨member, rfl⟩
    cases search : (artifactsOf repo runId).find? fun artifact => artifact.id = record.id with
    | none =>
      have other := List.find?_eq_none.mp search record member
      simp at other
    | some record' =>
      have same : record'.id = record.id := by simpa using List.find?_some search
      rw [List.inj_on_of_nodup_map connected.unique (List.mem_of_find?_eq_some search) member same]
      rfl

/-- What is collected are artifacts of the run, under their ids. -/
def Kept (repo : Repo) (runId : String) (walk : Walk) : Prop :=
  ∀ pair ∈ walk.upstream.entries, pair.2 ∈ artifactsOf repo runId ∧ pair.2.id = pair.1

/-- What visiting the sources `todo` of an artifact adds: their edges, and the artifacts `new`,
    each with its edges and its sources. The root has its own edges already. -/
structure Grown (repo : Repo) (runId root targetId : String) (todo : List String)
    (walk walk' : Walk) (new : List (String × ArtifactRecord)) : Prop where
  upstream : walk'.upstream.entries = walk.upstream.entries ++ new
  edges : walk'.edges.Perm (walk.edges ++ (todo.map fun source => ⟨source, targetId⟩) ++
    ((new.map Prod.snd).filter fun artifact => artifact.id ≠ root).flatMap edgesOf)
  covers : ∀ source ∈ todo, source ∈ walk'.upstream.keys
  closed : ∀ pair ∈ new, pair.1 ≠ root → ∀ source ∈ pair.2.sourceArtifactIds,
    source ∈ walk'.upstream.keys
  reached : ∀ pair ∈ new, TransGen (Links repo runId) targetId pair.1

theorem Grown.keys {root targetId : String} {todo : List String} {walk walk' : Walk}
    {new : List (String × ArtifactRecord)} (grown : Grown repo runId root targetId todo walk walk' new) :
    walk'.upstream.keys = walk.upstream.keys ++ new.map Prod.fst := by
  unfold Dict.keys
  rw [grown.upstream, List.map_append]

theorem kept_length {walk : Walk} (kept : Kept repo runId walk) :
    walk.upstream.keys.length ≤ (artifactsOf repo runId).length := by
  have inside : walk.upstream.keys ⊆ (artifactsOf repo runId).map ArtifactRecord.id := by
    intro key member
    obtain ⟨pair, stored, rfl⟩ := List.mem_map.mp member
    obtain ⟨record, same⟩ := kept pair stored
    exact List.mem_map.mpr ⟨pair.2, record, same⟩
  have short := (List.subperm_of_subset walk.upstream.keys_nodup inside).length_le
  have ids : ((artifactsOf repo runId).map ArtifactRecord.id).length =
      (artifactsOf repo runId).length := List.length_map _
  rw [ids] at short
  exact short

/-- What a visit with this bound does below the root: it ends, for the collected artifacts are
    more on every level. -/
def VisitGrows (repo : Repo) (runId root : String) (fuel : Nat) : Prop :=
  ∀ visiting walk source, root ∈ visiting →
    (∀ id ∈ visiting, id = root ∨ id ∈ walk.upstream.keys ∧ id ≠ source.id) →
    Kept repo runId walk → source ∈ artifactsOf repo runId → source.id ∈ walk.upstream.keys →
    (artifactsOf repo runId).length < fuel + walk.upstream.keys.length →
    ∃ walk' new, visit repo runId fuel visiting walk source = .ok walk' ∧
      Kept repo runId walk' ∧
      Grown repo runId root source.id (if source.id = root then [] else source.sourceArtifactIds)
        walk walk' new

theorem follow_grows (connected : Connected repo runId) {root : String} {fuel : Nat}
    (visits : VisitGrows repo runId root fuel) {visiting : List String} (rooted : root ∈ visiting)
    {target : ArtifactRecord} (member : target ∈ artifactsOf repo runId) {walk : Walk}
    (stacked : ∀ id ∈ visiting, id = root ∨ id ∈ walk.upstream.keys) (kept : Kept repo runId walk)
    (enough : (artifactsOf repo runId).length ≤ fuel + walk.upstream.keys.length)
    {todo : List String} (sources : todo ⊆ target.sourceArtifactIds) :
    ∃ walk' new, todo.foldlM (follow repo runId (visit repo runId fuel visiting) target.id) walk =
        .ok walk' ∧
      Kept repo runId walk' ∧ Grown repo runId root target.id todo walk walk' new := by
  induction todo generalizing walk with
  | nil =>
    refine ⟨walk, [], rfl, kept, ?_⟩
    constructor
    · simp
    · simp
    · simp
    · simp
    · simp
  | cons source rest ih =>
    have named : source ∈ target.sourceArtifactIds := sources List.mem_cons_self
    have rest_named : rest ⊆ target.sourceArtifactIds :=
      fun id later => sources (List.mem_cons_of_mem _ later)
    have link : Links repo runId target.id source := ⟨target, member, rfl, named⟩
    rw [List.foldlM_cons]
    unfold follow
    dsimp only
    by_cases known : source ∈ walk.upstream.keys
    · obtain ⟨old, stored⟩ := Dict.mem_keys_iff.mp known
      have answer : (walk.upstream.get? source).isSome = true := by rw [stored]; rfl
      let walk₁ : Walk := { walk with edges := walk.edges ++ [⟨source, target.id⟩] }
      have kept₁ : Kept repo runId walk₁ := kept
      have stacked₁ : ∀ id ∈ visiting, id = root ∨ id ∈ walk₁.upstream.keys := stacked
      obtain ⟨walk', new, done, kept', grown⟩ := ih stacked₁ kept₁ enough rest_named
      rw [if_pos answer]
      refine ⟨walk', new, done, kept', ?_⟩
      constructor
      · exact grown.upstream
      · have edges := grown.edges
        simpa [walk₁] using edges
      · intro id named
        rcases List.mem_cons.mp named with rfl | later
        · rw [grown.keys]
          exact List.mem_append_left _ known
        · exact grown.covers id later
      · exact grown.closed
      · exact grown.reached
    · have absent : walk.upstream.get? source = none := by
        cases search : walk.upstream.get? source with
        | none => rfl
        | some old => exact absurd (Dict.mem_keys_iff.mpr ⟨old, search⟩) known
      obtain ⟨record, here, same⟩ := List.mem_map.mp (connected.sources target member source named)
      have read : artifact repo runId source = .ok record := (artifact_ok connected).mpr ⟨here, same⟩
      rw [if_neg (by rw [absent]; exact Bool.false_ne_true), read]
      dsimp only
      subst same
      have added : (walk.upstream.set record.id record).entries =
          walk.upstream.entries ++ [(record.id, record)] := storeEntries_fresh record absent
      have keys := Dict.keys_set_of_fresh record absent
      -- the source is collected, then visited
      have kept₁ : Kept repo runId ⟨walk.upstream.set record.id record,
          walk.edges ++ [⟨record.id, target.id⟩]⟩ := by
        intro pair stored
        rw [added, List.mem_append, List.mem_singleton] at stored
        rcases stored with old | rfl
        · exact kept pair old
        · exact ⟨here, rfl⟩
      have stacked₁ : ∀ id ∈ visiting, id = root ∨
          id ∈ (walk.upstream.set record.id record).keys ∧ id ≠ record.id := by
        intro id on
        rcases stacked id on with top | collected
        · exact .inl top
        · refine .inr ⟨by rw [keys]; exact List.mem_append_left _ collected, ?_⟩
          rintro rfl
          exact known collected
      obtain ⟨walk₂, new₂, visited, kept₂, grown₂⟩ := visits visiting _ record rooted stacked₁ kept₁
        here (by rw [keys]; simp) (by rw [keys, List.length_append, List.length_singleton]; omega)
      have keys₂ := grown₂.keys
      rw [keys] at keys₂
      have stacked₂ : ∀ id ∈ visiting, id = root ∨ id ∈ walk₂.upstream.keys := by
        intro id on
        rw [keys₂]
        rcases stacked id on with top | collected
        · exact .inl top
        · simp [collected]
      obtain ⟨walk', new, done, kept', grown⟩ := ih stacked₂ kept₂
        (by rw [keys₂]; simp only [List.length_append]; omega) rest_named
      have keys' := grown.keys
      refine ⟨walk', (record.id, record) :: (new₂ ++ new), ?_, kept', ?_⟩
      · rw [visited]
        exact done
      constructor
      · rw [grown.upstream, grown₂.upstream, added]
        simp
      · have edges₂ := grown₂.edges
        have edges := grown.edges
        rw [List.perm_iff_count] at edges edges₂ ⊢
        intro edge
        have count₂ := edges₂ edge
        have count := edges edge
        by_cases top : record.id = root
        · simp only [top, if_true, List.map_nil, List.append_nil, List.map_cons, List.map_append,
            List.filter_cons_of_neg, List.filter_append, List.flatMap_append, List.count_append,
            ne_eq, not_true_eq_false, decide_false, Bool.false_eq_true, not_false_eq_true,
            List.count_cons, List.count_nil] at count count₂ ⊢
          omega
        · have own : record.sourceArtifactIds.map (fun source =>
              (⟨source, record.id⟩ : ArtifactLineageEdge)) = edgesOf record := rfl
          simp only [top, if_false, own, List.map_cons, List.map_append, List.filter_append,
            List.filter_cons_of_pos, List.flatMap_cons, List.flatMap_append, List.count_append,
            ne_eq, not_false_eq_true, decide_true, List.count_cons, List.count_nil] at count count₂ ⊢
          omega
      · intro id todo
        rcases List.mem_cons.mp todo with rfl | later
        · rw [keys', keys₂]
          simp
        · exact grown.covers id later
      · intro pair stored other id named
        have later : id ∈ walk₂.upstream.keys → id ∈ walk'.upstream.keys := by
          intro collected
          rw [keys']
          exact List.mem_append_left _ collected
        rcases List.mem_cons.mp stored with rfl | old
        · have covers := grown₂.covers
          rw [if_neg other] at covers
          exact later (covers id named)
        rcases List.mem_append.mp old with below | behind
        · exact later (grown₂.closed pair below other id named)
        · exact grown.closed pair behind other id named
      · intro pair stored
        rcases List.mem_cons.mp stored with rfl | later
        · exact .single link
        rcases List.mem_append.mp later with below | behind
        · exact .head link (grown₂.reached pair below)
        · exact grown.reached pair behind

theorem visit_grows (connected : Connected repo runId) (root : String) (fuel : Nat) :
    VisitGrows repo runId root fuel := by
  induction fuel with
  | zero =>
    intro visiting walk source _ _ kept _ _ enough
    have short := kept_length kept
    omega
  | succ fuel ih =>
    intro visiting walk source rooted stacked kept member collected enough
    unfold visit
    by_cases on : source.id ∈ visiting
    · have top : source.id = root := by
        rcases stacked _ on with top | ⟨_, other⟩
        · exact top
        · exact absurd rfl other
      rw [if_pos on, if_pos top]
      refine ⟨walk, [], rfl, kept, ?_⟩
      constructor
      · simp
      · simp
      · simp
      · simp
      · simp
    · have other : source.id ≠ root := by
        rintro same
        rw [same] at on
        exact on rooted
      rw [if_neg on, if_neg other]
      have deeper : ∀ id ∈ source.id :: visiting, id = root ∨ id ∈ walk.upstream.keys := by
        intro id stands
        rcases List.mem_cons.mp stands with rfl | higher
        · exact .inr collected
        · rcases stacked id higher with top | ⟨there, _⟩
          · exact .inl top
          · exact .inr there
      exact follow_grows connected ih (List.mem_cons_of_mem _ rooted) member deeper kept
        (by omega) (List.Subset.refl _)

/-- A larger bound gives the same answer. -/
theorem visit_more {fuel : Nat} {visiting : List String} {walk walk' : Walk} {target : ArtifactRecord}
    (visited : visit repo runId fuel visiting walk target = .ok walk') :
    visit repo runId (fuel + 1) visiting walk target = .ok walk' := by
  induction fuel generalizing visiting walk walk' target with
  | zero =>
    unfold visit at visited
    cases visited
  | succ fuel ih =>
    unfold visit at visited ⊢
    by_cases on : target.id ∈ visiting
    · rw [if_pos on] at visited ⊢
      exact visited
    rw [if_neg on] at visited ⊢
    generalize target.sourceArtifactIds = todo at visited
    induction todo generalizing walk with
    | nil => exact visited
    | cons source rest later =>
      rw [List.foldlM_cons] at visited ⊢
      cases first : follow repo runId (visit repo runId fuel (target.id :: visiting)) target.id walk
          source with
      | error halt =>
        rw [first] at visited
        cases visited
      | ok walk₁ =>
        have same : follow repo runId (visit repo runId (fuel + 1) (target.id :: visiting)) target.id
            walk source = .ok walk₁ := by
          unfold follow at first ⊢
          dsimp only at first ⊢
          by_cases known : (walk.upstream.get? source).isSome = true
          · rw [if_pos known] at first ⊢
            exact first
          rw [if_neg known] at first ⊢
          cases read : artifact repo runId source with
          | error halt =>
            rw [read] at first
            cases first
          | ok record =>
            rw [read] at first
            exact ih first
        rw [first] at visited
        rw [same]
        exact later visited

theorem buildLineage_more {fuel more : Nat} {artifactId : String} {lineage : ArtifactLineage}
    (built : buildLineage repo runId fuel artifactId = .ok lineage) (le : fuel ≤ more) :
    buildLineage repo runId more artifactId = .ok lineage := by
  induction more, le using Nat.le_induction with
  | base => exact built
  | succ more _ ih =>
    unfold buildLineage at ih ⊢
    cases read : artifact repo runId artifactId with
    | error halt =>
      rw [read] at ih
      cases ih
    | ok root =>
      rw [read] at ih
      dsimp only at ih ⊢
      cases visited : visit repo runId more [] ⟨Dict.empty, []⟩ root with
      | error halt =>
        rw [visited] at ih
        cases ih
      | ok walk =>
        rw [visited] at ih
        rw [visit_more visited]
        exact ih

/-! The lineage. -/

/-- What the lineage of an artifact of the run is. -/
structure IsLineage (repo : Repo) (runId : String) (root : ArtifactRecord)
    (lineage : ArtifactLineage) : Prop where
  rootArtifact : lineage.rootArtifact = root
  unique : (lineage.upstreamArtifacts.map ArtifactRecord.id).Nodup
  upstream : ∀ artifact, artifact ∈ lineage.upstreamArtifacts ↔
    artifact ∈ artifactsOf repo runId ∧ TransGen (Links repo runId) root.id artifact.id
  edges : lineage.edges.Perm
    ((root :: lineage.upstreamArtifacts.filter fun artifact => artifact.id ≠ root.id).flatMap edgesOf)

theorem linked_inside (connected : Connected repo runId) {a b : String}
    (path : TransGen (Links repo runId) a b) : b ∈ (artifactsOf repo runId).map ArtifactRecord.id := by
  obtain ⟨last, _, artifact, member, _, named⟩ := TransGen.tail'_iff.mp path
  exact connected.sources artifact member b named

/-- With a bound of more than the artifacts of the run the recursion ends, in the lineage. -/
theorem buildLineage_ok (connected : Connected repo runId) {root : ArtifactRecord}
    (member : root ∈ artifactsOf repo runId) {fuel : Nat}
    (enough : (artifactsOf repo runId).length < fuel) :
    ∃ lineage, buildLineage repo runId fuel root.id = .ok lineage ∧
      IsLineage repo runId root lineage := by
  obtain ⟨fuel, rfl⟩ : ∃ n, fuel = n + 1 := ⟨fuel - 1, by omega⟩
  have read : artifact repo runId root.id = .ok root := (artifact_ok connected).mpr ⟨member, rfl⟩
  have none : Kept repo runId ⟨Dict.empty, []⟩ := by
    intro pair stored
    cases stored
  obtain ⟨walk, new, walked, kept, grown⟩ := follow_grows connected
    (visit_grows connected root.id fuel) (List.mem_singleton_self root.id) member
    (fun id on => .inl (List.mem_singleton.mp on)) none (by omega) (List.Subset.refl _)
  have entries : walk.upstream.entries = new := grown.upstream
  -- what is collected is closed under the links from the root
  have closed : ∀ id, TransGen (Links repo runId) root.id id → id ∈ walk.upstream.keys := by
    intro id path
    induction path with
    | single link =>
      obtain ⟨artifact, here, same, named⟩ := link
      cases List.inj_on_of_nodup_map connected.unique here member same
      exact grown.covers _ named
    | tail _ link ih =>
      obtain ⟨artifact, here, rfl, named⟩ := link
      by_cases top : artifact.id = root.id
      · cases List.inj_on_of_nodup_map connected.unique here member top
        exact grown.covers _ named
      · obtain ⟨pair, stored, same⟩ := List.mem_map.mp ih
        obtain ⟨there, id⟩ := kept pair stored
        have record := List.inj_on_of_nodup_map connected.unique there here (id.trans same)
        rw [← record] at named
        exact grown.closed pair (entries ▸ stored) (by rw [same]; exact top) _ named
  have visited : visit repo runId (fuel + 1) [] ⟨Dict.empty, []⟩ root = .ok walk := by
    unfold visit
    rw [if_neg List.not_mem_nil]
    exact walked
  have built : buildLineage repo runId (fuel + 1) root.id =
      .ok ⟨root, walk.upstream.values, walk.edges⟩ := by
    unfold buildLineage
    rw [read]
    dsimp only
    rw [visited]
  refine ⟨⟨root, walk.upstream.values, walk.edges⟩, built, ?_⟩
  constructor
  · rfl
  · have ids : walk.upstream.values.map ArtifactRecord.id = walk.upstream.keys := by
      unfold Dict.values Dict.keys
      rw [List.map_map]
      apply List.map_congr_left
      intro pair stored
      exact (kept pair stored).2
    dsimp only
    rw [ids]
    exact walk.upstream.keys_nodup
  · intro artifact
    constructor
    · intro stored
      obtain ⟨pair, here, rfl⟩ := List.mem_map.mp stored
      obtain ⟨there, same⟩ := kept pair here
      rw [same]
      exact ⟨there, grown.reached pair (entries ▸ here)⟩
    · rintro ⟨there, path⟩
      obtain ⟨pair, stored, same⟩ := List.mem_map.mp (closed _ path)
      obtain ⟨record, id⟩ := kept pair stored
      rw [← List.inj_on_of_nodup_map connected.unique record there (id.trans same)]
      exact List.mem_map_of_mem stored
  · have edges := grown.edges
    rw [← entries] at edges
    rw [List.flatMap_cons]
    exact edges

theorem appendOnce_spec {orderedIds : List String} (unique : orderedIds.Nodup) (ids : List String) :
    (ids.foldl appendOnce orderedIds).Nodup ∧
      ∀ id, id ∈ ids.foldl appendOnce orderedIds ↔ id ∈ orderedIds ∨ id ∈ ids := by
  induction ids generalizing orderedIds with
  | nil => exact ⟨unique, by simp⟩
  | cons first rest ih =>
    have next : (appendOnce orderedIds first).Nodup ∧
        ∀ id, id ∈ appendOnce orderedIds first ↔ id ∈ orderedIds ∨ id = first := by
      unfold appendOnce
      by_cases known : first ∈ orderedIds
      · rw [if_pos known]
        refine ⟨unique, fun id => ⟨.inl, ?_⟩⟩
        rintro (old | rfl)
        · exact old
        · exact known
      · rw [if_neg known]
        constructor
        · apply List.nodup_append.mpr
          refine ⟨unique, List.nodup_singleton first, fun id old id' same equal => ?_⟩
          rw [equal, List.mem_singleton.mp same] at old
          exact known old
        · simp
    obtain ⟨nodup, members⟩ := ih next.1
    refine ⟨nodup, fun id => ?_⟩
    rw [List.foldl_cons, members, next.2, List.mem_cons, or_assoc]

/-- What is collected of these artifacts: they, and all that they are made from. -/
structure IsExpansion (repo : Repo) (runId : String) (artifactIds orderedIds : List String) : Prop where
  unique : orderedIds.Nodup
  members : ∀ id, id ∈ orderedIds ↔
    id ∈ artifactIds ∨ ∃ artifactId ∈ artifactIds, TransGen (Links repo runId) artifactId id

theorem expandOne_ok (connected : Connected repo runId) {fuel : Nat}
    (enough : (artifactsOf repo runId).length < fuel) {artifactId : String}
    (inside : artifactId ∈ (artifactsOf repo runId).map ArtifactRecord.id) {orderedIds : List String}
    (unique : orderedIds.Nodup) :
    ∃ orderedIds', expandOne repo runId fuel orderedIds artifactId = .ok orderedIds' ∧
      orderedIds'.Nodup ∧ ∀ id, id ∈ orderedIds' ↔
        id ∈ orderedIds ∨ id = artifactId ∨ TransGen (Links repo runId) artifactId id := by
  obtain ⟨root, member, rfl⟩ := List.mem_map.mp inside
  have read : artifact repo runId root.id = .ok root := (artifact_ok connected).mpr ⟨member, rfl⟩
  obtain ⟨lineage, built, is⟩ := buildLineage_ok connected member enough
  have upstream : ∀ id, id ∈ lineage.upstreamArtifacts.map ArtifactRecord.id ↔
      TransGen (Links repo runId) root.id id := by
    intro id
    constructor
    · intro named
      obtain ⟨artifact, stored, rfl⟩ := List.mem_map.mp named
      exact ((is.upstream artifact).mp stored).2
    · intro path
      obtain ⟨artifact, stored, rfl⟩ := List.mem_map.mp (linked_inside connected path)
      exact List.mem_map_of_mem ((is.upstream artifact).mpr ⟨stored, path⟩)
  obtain ⟨once, first⟩ := appendOnce_spec unique [root.id]
  obtain ⟨nodup, members⟩ := appendOnce_spec once (lineage.upstreamArtifacts.map ArtifactRecord.id)
  have expanded : expandOne repo runId fuel orderedIds root.id =
      .ok ((lineage.upstreamArtifacts.map ArtifactRecord.id).foldl appendOnce
        ([root.id].foldl appendOnce orderedIds)) := by
    unfold expandOne
    rw [read]
    dsimp only
    rw [built]
    rfl
  refine ⟨_, expanded, nodup, fun id => ?_⟩
  rw [members, first, upstream, List.mem_singleton, or_assoc]

theorem expand_from (connected : Connected repo runId) {fuel : Nat}
    (enough : (artifactsOf repo runId).length < fuel) {artifactIds : List String}
    (inside : artifactIds ⊆ (artifactsOf repo runId).map ArtifactRecord.id) {orderedIds : List String}
    (unique : orderedIds.Nodup) :
    ∃ orderedIds', artifactIds.foldlM (expandOne repo runId fuel) orderedIds = .ok orderedIds' ∧
      orderedIds'.Nodup ∧ ∀ id, id ∈ orderedIds' ↔ id ∈ orderedIds ∨ id ∈ artifactIds ∨
        ∃ artifactId ∈ artifactIds, TransGen (Links repo runId) artifactId id := by
  induction artifactIds generalizing orderedIds with
  | nil => exact ⟨orderedIds, rfl, unique, by simp⟩
  | cons first rest ih =>
    obtain ⟨ids₁, one, unique₁, members₁⟩ :=
      expandOne_ok connected enough (inside List.mem_cons_self) unique
    obtain ⟨ids₂, all, unique₂, members₂⟩ :=
      ih (fun id later => inside (List.mem_cons_of_mem _ later)) unique₁
    refine ⟨ids₂, ?_, unique₂, fun id => ?_⟩
    · rw [List.foldlM_cons, one]
      exact all
    · rw [members₂, members₁, List.mem_cons, List.exists_mem_cons_iff]
      tauto

/-- The recursion ends, from every artifact of the run, with the artifacts that the root is made
    from over any number of steps; and the expansion adds to its arguments what they are made
    from. -/
theorem lineage_is_reachable (connected : Connected repo runId) :
    (∀ root ∈ artifactsOf repo runId, ∃ lineage, IsLineage repo runId root lineage ∧
      ∀ fuel, (artifactsOf repo runId).length < fuel →
        buildLineage repo runId fuel root.id = .ok lineage) ∧
    ∀ artifactIds ⊆ (artifactsOf repo runId).map ArtifactRecord.id,
      ∀ fuel, (artifactsOf repo runId).length < fuel →
        ∃ orderedIds, expandSourceArtifactIds repo runId fuel artifactIds = .ok orderedIds ∧
          IsExpansion repo runId artifactIds orderedIds := by
  constructor
  · intro root member
    obtain ⟨lineage, built, is⟩ := buildLineage_ok connected member (Nat.lt_succ_self _)
    refine ⟨lineage, is, fun fuel enough => ?_⟩
    exact buildLineage_more built enough
  · intro artifactIds inside fuel enough
    obtain ⟨orderedIds, expanded, unique, members⟩ :=
      expand_from connected enough inside List.nodup_nil
    refine ⟨orderedIds, expanded, unique, fun id => ?_⟩
    simpa using members id

end connected

/-- An artifact of the run `run_1`. -/
def madeFrom (id : String) (sources : List String) : ArtifactRecord where
  id := id
  runId := "run_1"
  type := .dataset
  uri := "artifacts/" ++ id
  metadata := []
  sourceArtifactIds := sources
  createdAt := 0

/-- A run with one artifact that names itself and a second one, twice, which names the first. -/
def looped : Repo :=
  { Repo.init with
    runs := Dict.empty.set "run_1"
      { id := "run_1", task := "Summarise.", status := .completed, metadata := []
        createdAt := 0, updatedAt := 0 }
    artifacts := Dict.empty.set "run_1" [madeFrom "a" ["a", "b", "b"], madeFrom "b" ["a"]] }

theorem looped_lineage :
    ∃ lineage, buildLineage looped "run_1" 3 "a" = .ok lineage ∧
      IsLineage looped "run_1" (madeFrom "a" ["a", "b", "b"]) lineage ∧
      ∃ orderedIds, expandSourceArtifactIds looped "run_1" 3 ["b"] = .ok orderedIds ∧
        IsExpansion looped "run_1" ["b"] orderedIds := by
  have connected : Connected looped "run_1" := by
    constructor
    · rfl
    · decide
    · decide
  obtain ⟨lineage, is, built⟩ :=
    (lineage_is_reachable connected).1 (madeFrom "a" ["a", "b", "b"]) List.mem_cons_self
  have expansion := (lineage_is_reachable connected).2 ["b"] (by decide) 3 (by decide)
  exact ⟨lineage, built 3 (by decide), is, expansion⟩

end ArtifactLineageService
