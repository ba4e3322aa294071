import Mathlib.Data.List.Nodup

/-!
Insertion-ordered dictionaries with unique keys. Storing under a key that is
present replaces the value in place; a new key goes to the end. Uniqueness of
the keys is a field, so no later proof assumes it.
-/
namespace OrderedDict

variable {κ α β ε : Type} [DecidableEq κ]

/-- The value filed under `key` in a raw entry list, first match first. -/
def lookupEntries : List (κ × α) → κ → Option α
  | [], _ => none
  | (k, v) :: rest, key => if k = key then some v else lookupEntries rest key

def storeEntries : List (κ × α) → κ → α → List (κ × α)
  | [], key, value => [(key, value)]
  | (k, v) :: rest, key, value =>
      if k = key then (k, value) :: rest else (k, v) :: storeEntries rest key value

theorem mem_keys_storeEntries (entries : List (κ × α)) (key k : κ) (value : α) :
    k ∈ (storeEntries entries key value).map Prod.fst ↔
      k = key ∨ k ∈ entries.map Prod.fst := by
  induction entries with
  | nil => simp [storeEntries]
  | cons entry rest ih =>
    obtain ⟨k0, v0⟩ := entry
    simp only [storeEntries]
    split
    · rename_i same
      subst same
      simp
    · simp only [List.map_cons, List.mem_cons, ih]
      tauto

theorem storeEntries_nodup (entries : List (κ × α)) (key : κ) (value : α)
    (h : (entries.map Prod.fst).Nodup) :
    ((storeEntries entries key value).map Prod.fst).Nodup := by
  induction entries with
  | nil => simp [storeEntries]
  | cons entry rest ih =>
    obtain ⟨k0, v0⟩ := entry
    simp only [List.map_cons, List.nodup_cons] at h
    simp only [storeEntries]
    split
    · simpa using h
    · rename_i other
      simp only [List.map_cons, List.nodup_cons]
      refine ⟨?_, ih h.2⟩
      intro member
      rcases (mem_keys_storeEntries rest key k0 value).mp member with same | old
      · exact other same
      · exact h.1 old

theorem lookup_storeEntries (entries : List (κ × α)) (key k : κ) (value : α) :
    lookupEntries (storeEntries entries key value) k =
      if key = k then some value else lookupEntries entries k := by
  induction entries with
  | nil => simp [storeEntries, lookupEntries]
  | cons entry rest ih =>
    obtain ⟨k0, v0⟩ := entry
    by_cases hit : k0 = key
    · subst hit
      by_cases same : k0 = k <;> simp [storeEntries, lookupEntries, same]
    · by_cases front : k0 = k
      · subst front
        simp [storeEntries, lookupEntries, hit, Ne.symm hit]
      · simp [storeEntries, lookupEntries, hit, front, ih]

/-- A key that is not there yet goes to the end. -/
theorem storeEntries_fresh {entries : List (κ × α)} {key : κ} (value : α)
    (h : lookupEntries entries key = none) :
    storeEntries entries key value = entries ++ [(key, value)] := by
  induction entries with
  | nil => rfl
  | cons entry rest ih =>
    obtain ⟨k, v⟩ := entry
    simp only [lookupEntries] at h
    split at h
    · cases h
    · rename_i other
      simp only [storeEntries, other, if_false, ih h, List.cons_append]

/-- A view of the entries that a stored value does not change stays the same. -/
theorem map_storeEntries {γ : Type} {view : κ × α → γ} {entries : List (κ × α)} {key : κ}
    {old value : α} (found : lookupEntries entries key = some old)
    (same : view (key, value) = view (key, old)) :
    (storeEntries entries key value).map view = entries.map view := by
  induction entries with
  | nil => cases found
  | cons entry rest ih =>
    obtain ⟨k, v⟩ := entry
    unfold lookupEntries at found
    unfold storeEntries
    by_cases here : k = key
    · subst here
      simp only [if_true, Option.some.injEq] at found
      simp only [if_true, List.map_cons, same, found]
    · simp only [here, if_false] at found
      simp only [here, if_false, List.map_cons, ih found]

theorem mem_of_lookupEntries {entries : List (κ × α)} {key : κ} {value : α}
    (found : lookupEntries entries key = some value) : (key, value) ∈ entries := by
  induction entries with
  | nil => simp [lookupEntries] at found
  | cons entry rest ih =>
    by_cases front : entry.1 = key
    · simp only [lookupEntries, front, if_true, Option.some.injEq] at found
      simp [← front, ← found]
    · simp only [lookupEntries, front, if_false] at found
      exact List.mem_cons_of_mem _ (ih found)

theorem lookupEntries_none {entries : List (κ × α)} {key : κ} :
    lookupEntries entries key = none ↔ key ∉ entries.map Prod.fst := by
  induction entries with
  | nil => simp [lookupEntries]
  | cons entry rest ih =>
    obtain ⟨k, v⟩ := entry
    by_cases same : k = key
    · simp [lookupEntries, same]
    · simp only [lookupEntries, same, if_false, ih, List.map_cons, List.mem_cons]
      have other : ¬ key = k := fun h => same h.symm
      simp [other]

/-- Every value rewritten by a function of its key that may raise. -/
def traverseEntries (f : κ → α → Except ε β) : List (κ × α) → Except ε (List (κ × β))
  | [] => .ok []
  | (key, value) :: rest => do
      let value ← f key value
      let rest ← traverseEntries f rest
      return (key, value) :: rest

omit [DecidableEq κ] in
theorem traverseEntries_cons {f : κ → α → Except ε β} {key : κ} {value : α}
    {rest : List (κ × α)} {entries : List (κ × β)}
    (h : traverseEntries f ((key, value) :: rest) = .ok entries) :
    ∃ value' rest', f key value = .ok value' ∧ traverseEntries f rest = .ok rest' ∧
      entries = (key, value') :: rest' := by
  simp only [traverseEntries, bind, Except.bind] at h
  cases first : f key value with
  | error e => simp [first] at h
  | ok value' =>
    cases later : traverseEntries f rest with
    | error e => simp [first, later] at h
    | ok rest' =>
      simp only [first, later, pure, Except.pure, Except.ok.injEq] at h
      exact ⟨value', rest', rfl, rfl, h.symm⟩

omit [DecidableEq κ] in
theorem keys_traverseEntries {f : κ → α → Except ε β} {entries : List (κ × α)}
    {entries' : List (κ × β)} (h : traverseEntries f entries = .ok entries') :
    entries'.map Prod.fst = entries.map Prod.fst := by
  induction entries generalizing entries' with
  | nil =>
    simp only [traverseEntries, Except.ok.injEq] at h
    simp [← h]
  | cons entry rest ih =>
    obtain ⟨value', rest', -, hrest, rfl⟩ := traverseEntries_cons h
    simp [ih hrest]

theorem lookup_traverseEntries {f : κ → α → Except ε β} {entries : List (κ × α)}
    {entries' : List (κ × β)} (h : traverseEntries f entries = .ok entries') (key : κ) :
    match lookupEntries entries key, lookupEntries entries' key with
    | some value, some value' => f key value = .ok value'
    | none, none => True
    | _, _ => False := by
  induction entries generalizing entries' with
  | nil =>
    simp only [traverseEntries, Except.ok.injEq] at h
    simp [← h, lookupEntries]
  | cons entry rest ih =>
    obtain ⟨value', rest', hvalue, hrest, rfl⟩ := traverseEntries_cons h
    by_cases front : entry.1 = key
    · subst front
      simpa [lookupEntries] using hvalue
    · simpa [lookupEntries, front] using ih hrest

structure Dict (κ α : Type) where
  entries : List (κ × α)
  keys_nodup : (entries.map Prod.fst).Nodup

namespace Dict

def empty : Dict κ α := ⟨[], List.nodup_nil⟩

def get? (d : Dict κ α) (key : κ) : Option α := lookupEntries d.entries key

def set (d : Dict κ α) (key : κ) (value : α) : Dict κ α :=
  ⟨storeEntries d.entries key value, storeEntries_nodup _ _ _ d.keys_nodup⟩

/-- A dictionary from pairs; the last value of a key wins. -/
def ofPairs (pairs : List (κ × α)) : Dict κ α :=
  pairs.foldl (fun d pair => d.set pair.1 pair.2) empty

def keys (d : Dict κ α) : List κ := d.entries.map Prod.fst

def values (d : Dict κ α) : List α := d.entries.map Prod.snd

def erase (d : Dict κ α) (key : κ) : Dict κ α :=
  ⟨d.entries.filter (fun entry => entry.1 ≠ key),
    d.keys_nodup.sublist (List.Sublist.map _ List.filter_sublist)⟩

/-- The entries that a test keeps, in their order. -/
def retain (keep : κ → α → Bool) (d : Dict κ α) : Dict κ α :=
  ⟨d.entries.filter (fun entry => keep entry.1 entry.2),
    d.keys_nodup.sublist (List.Sublist.map _ List.filter_sublist)⟩

def mapValues (f : κ → α → α) (d : Dict κ α) : Dict κ α :=
  ⟨d.entries.map fun entry => (entry.1, f entry.1 entry.2), by
    rw [List.map_map]
    exact d.keys_nodup⟩

def traverse (f : κ → α → Except ε β) (d : Dict κ α) : Except ε (Dict κ β) :=
  match h : traverseEntries f d.entries with
  | .ok entries => .ok ⟨entries, by rw [keys_traverseEntries h]; exact d.keys_nodup⟩
  | .error e => .error e

instance [DecidableEq α] : DecidableEq (Dict κ α) := fun a b =>
  decidable_of_iff (a.entries = b.entries)
    ⟨fun h => by cases a; cases b; simpa using h, fun h => h ▸ rfl⟩

omit [DecidableEq κ] in
@[ext] theorem ext {a b : Dict κ α} (h : a.entries = b.entries) : a = b := by
  cases a; cases b; simpa using h

@[simp] theorem get?_empty (key : κ) : (empty : Dict κ α).get? key = none := rfl

theorem get?_set (d : Dict κ α) (key k : κ) (value : α) :
    (d.set key value).get? k = if key = k then some value else d.get? k :=
  lookup_storeEntries d.entries key k value

@[simp] theorem get?_set_self (d : Dict κ α) (key : κ) (value : α) :
    (d.set key value).get? key = some value := by
  simp [get?_set]

theorem get?_set_other (d : Dict κ α) {key k : κ} (value : α) (h : key ≠ k) :
    (d.set key value).get? k = d.get? k := by
  simp [get?_set, h]

theorem lookup_erased (entries : List (κ × α)) (key k : κ) :
    lookupEntries (entries.filter fun entry => decide (entry.1 ≠ key)) k =
      if k = key then none else lookupEntries entries k := by
  induction entries with
  | nil => simp [lookupEntries]
  | cons entry rest ih =>
    by_cases gone : entry.1 = key
    · rw [List.filter_cons_of_neg (by simp [gone]), ih]
      by_cases hit : k = key
      · simp [hit]
      · simp [lookupEntries, hit, gone, Ne.symm hit]
    · rw [List.filter_cons_of_pos (by simp [gone])]
      by_cases front : entry.1 = k
      · have other : k ≠ key := fun same => gone (front.trans same)
        simp [lookupEntries, front, other]
      · simp only [lookupEntries, front, if_false, ih]

theorem get?_erase (d : Dict κ α) (key k : κ) :
    (d.erase key).get? k = if k = key then none else d.get? k :=
  lookup_erased d.entries key k

theorem mem_entries_of_get? {d : Dict κ α} {key : κ} {value : α} (h : d.get? key = some value) :
    (key, value) ∈ d.entries :=
  mem_of_lookupEntries h

theorem get?_of_mem_entries {d : Dict κ α} {key : κ} {value : α} (h : (key, value) ∈ d.entries) :
    d.get? key = some value := by
  have walk : ∀ entries : List (κ × α), (entries.map Prod.fst).Nodup → (key, value) ∈ entries →
      lookupEntries entries key = some value := by
    intro entries
    induction entries with
    | nil => simp
    | cons entry rest ih =>
      intro nodup member
      simp only [List.map_cons, List.nodup_cons] at nodup
      rcases List.mem_cons.mp member with same | old
      · simp [lookupEntries, ← same]
      · have other : entry.1 ≠ key := by
          intro same
          exact nodup.1 (same ▸ List.mem_map_of_mem (f := Prod.fst) old)
        simp only [lookupEntries, other, if_false]
        exact ih nodup.2 old
  exact walk d.entries d.keys_nodup h

theorem get?_retain (keep : κ → α → Bool) (d : Dict κ α) (key : κ) :
    (d.retain keep).get? key = (d.get? key).filter (keep key) := by
  cases found : (d.retain keep).get? key with
  | some value =>
    have member := mem_entries_of_get? found
    simp only [retain, List.mem_filter] at member
    rw [get?_of_mem_entries member.1]
    simp [Option.filter, member.2]
  | none =>
    cases stored : d.get? key with
    | none => rfl
    | some value =>
      by_cases kept : keep key value = true
      · have member : (key, value) ∈ (d.retain keep).entries := by
          simp only [retain, List.mem_filter]
          exact ⟨mem_entries_of_get? stored, kept⟩
        rw [get?_of_mem_entries member] at found
        cases found
      · simp [Option.filter, kept]

theorem get?_mapValues (f : κ → α → α) (d : Dict κ α) (key : κ) :
    (d.mapValues f).get? key = (d.get? key).map (f key) := by
  have walk : ∀ entries : List (κ × α),
      lookupEntries (entries.map fun entry => (entry.1, f entry.1 entry.2)) key =
        (lookupEntries entries key).map (f key) := by
    intro entries
    induction entries with
    | nil => rfl
    | cons entry rest ih =>
      simp only [List.map_cons, lookupEntries]
      by_cases same : entry.1 = key
      · simp [same]
      · simp [same, ih]
  exact walk d.entries

theorem filterMap_keys (d : Dict κ α) : d.keys.filterMap d.get? = d.values := by
  unfold keys values
  rw [List.filterMap_map, ← List.filterMap_eq_map]
  refine List.filterMap_congr ?_
  intro entry member
  exact get?_of_mem_entries member

theorem mem_keys_iff {d : Dict κ α} {key : κ} : key ∈ d.keys ↔ ∃ value, d.get? key = some value := by
  constructor
  · intro member
    obtain ⟨entry, inside, same⟩ := List.mem_map.mp member
    exact ⟨entry.2, same ▸ get?_of_mem_entries inside⟩
  · rintro ⟨value, found⟩
    exact List.mem_map_of_mem (f := Prod.fst) (mem_entries_of_get? found)

theorem keys_set_of_found {d : Dict κ α} {key : κ} {old : α} (value : α)
    (found : d.get? key = some old) : (d.set key value).keys = d.keys :=
  map_storeEntries found rfl

theorem keys_set_of_fresh {d : Dict κ α} {key : κ} (value : α) (fresh : d.get? key = none) :
    (d.set key value).keys = d.keys ++ [key] := by
  change (storeEntries d.entries key value).map Prod.fst = d.entries.map Prod.fst ++ [key]
  rw [storeEntries_fresh value fresh, List.map_append]
  rfl

omit [DecidableEq κ] in
theorem traverse_entries {f : κ → α → Except ε β} {d : Dict κ α} {d' : Dict κ β} :
    d.traverse f = .ok d' ↔ traverseEntries f d.entries = .ok d'.entries := by
  obtain ⟨entries', nodup'⟩ := d'
  simp only [traverse]
  split
  · rename_i entries h
    simp [h]
  · rename_i e h
    simp [h]

theorem get?_traverse {f : κ → α → Except ε β} {d : Dict κ α} {d' : Dict κ β}
    (h : d.traverse f = .ok d') (key : κ) :
    match d.get? key, d'.get? key with
    | some value, some value' => f key value = .ok value'
    | none, none => True
    | _, _ => False :=
  lookup_traverseEntries (traverse_entries.mp h) key

theorem get?_of_traverse {f : κ → α → Except ε β} {d : Dict κ α} {d' : Dict κ β}
    (h : d.traverse f = .ok d') {key : κ} {value' : β} (found : d'.get? key = some value') :
    ∃ value, d.get? key = some value ∧ f key value = .ok value' := by
  have related := get?_traverse h key
  rw [found] at related
  cases source : d.get? key with
  | none => simp [source] at related
  | some value =>
    simp only [source] at related
    exact ⟨value, rfl, related⟩

theorem get?_traverse_none {f : κ → α → Except ε β} {d : Dict κ α} {d' : Dict κ β}
    (h : d.traverse f = .ok d') {key : κ} (absent : d.get? key = none) :
    d'.get? key = none := by
  have related := get?_traverse h key
  rw [absent] at related
  cases found : d'.get? key with
  | none => rfl
  | some value => simp [found] at related

theorem get?_foldl_set (pairs : List (κ × α)) (d : Dict κ α) (key : κ) :
    (pairs.foldl (fun d pair => d.set pair.1 pair.2) d).get? key =
      ((pairs.reverse.find? fun pair => decide (pair.1 = key)).map Prod.snd).or (d.get? key) := by
  induction pairs generalizing d with
  | nil => simp
  | cons pair rest ih =>
    rw [List.foldl_cons, ih, List.reverse_cons, List.find?_append, get?_set]
    by_cases hit : pair.1 = key
    · cases rest.reverse.find? (fun pair => decide (pair.1 = key)) <;> simp [hit]
    · cases rest.reverse.find? (fun pair => decide (pair.1 = key)) <;> simp [hit]

theorem mem_of_get?_ofPairs {pairs : List (κ × α)} {key : κ} {value : α}
    (h : (ofPairs pairs).get? key = some value) : (key, value) ∈ pairs := by
  unfold ofPairs at h
  rw [get?_foldl_set, get?_empty, Option.or_none, Option.map_eq_some_iff] at h
  obtain ⟨pair, found, same⟩ := h
  have member := List.mem_of_find?_eq_some found
  have hit := List.find?_some found
  simp only [decide_eq_true_eq] at hit
  rw [List.mem_reverse] at member
  rw [← hit, ← same]
  exact member

theorem get?_ofPairs_of_mem {pairs : List (κ × α)} {key : κ} {value : α}
    (h : (key, value) ∈ pairs) : ∃ found, (ofPairs pairs).get? key = some found := by
  unfold ofPairs
  rw [get?_foldl_set, get?_empty, Option.or_none]
  cases search : pairs.reverse.find? fun pair => decide (pair.1 = key) with
  | some pair => exact ⟨pair.2, rfl⟩
  | none =>
    rw [List.find?_eq_none] at search
    have := search (key, value) (List.mem_reverse.mpr h)
    simp at this

/-- Pairs of different keys are the entries, in their order. -/
theorem entries_ofPairs {pairs : List (κ × α)} (nodup : (pairs.map Prod.fst).Nodup) :
    (ofPairs pairs).entries = pairs := by
  have walk : ∀ (later : List (κ × α)) (d : Dict κ α), (d.keys ++ later.map Prod.fst).Nodup →
      (later.foldl (fun d pair => d.set pair.1 pair.2) d).entries = d.entries ++ later := by
    intro later
    induction later with
    | nil => simp
    | cons pair rest ih =>
      intro d nodup
      have fresh : d.get? pair.1 = none := by
        apply lookupEntries_none.mpr
        intro member
        exact (List.nodup_append.mp nodup).2.2 _ member _ (by simp) rfl
      have stored : (d.set pair.1 pair.2).entries = d.entries ++ [pair] :=
        storeEntries_fresh pair.2 fresh
      have keys := keys_set_of_fresh pair.2 fresh
      rw [List.foldl_cons, ih, stored, List.append_assoc, List.singleton_append]
      rw [keys, List.append_assoc]
      exact nodup
  exact walk pairs empty (by simpa [keys, empty] using nodup)

theorem get?_ofPairs_iff {pairs : List (κ × α)} (nodup : (pairs.map Prod.fst).Nodup) {key : κ}
    {value : α} : (ofPairs pairs).get? key = some value ↔ (key, value) ∈ pairs := by
  have same := entries_ofPairs nodup
  constructor
  · intro found
    exact same ▸ mem_entries_of_get? found
  · intro member
    exact get?_of_mem_entries (same.symm ▸ member)

/-! What holds of every entry. -/

def All (p : κ → α → Prop) (d : Dict κ α) : Prop := ∀ key value, d.get? key = some value → p key value

theorem all_empty (p : κ → α → Prop) : All p (empty : Dict κ α) := by
  intro key value found
  cases found

theorem all_set {p : κ → α → Prop} {d : Dict κ α} (all : All p d) {key : κ} {value : α}
    (h : p key value) : All p (d.set key value) := by
  intro k found stored
  rw [get?_set] at stored
  split at stored
  · rename_i same
    exact Option.some.inj stored ▸ same ▸ h
  · exact all k found stored

theorem all_erase {p : κ → α → Prop} {d : Dict κ α} (all : All p d) (key : κ) :
    All p (d.erase key) := by
  intro k found stored
  rw [get?_erase] at stored
  split at stored
  · cases stored
  · exact all k found stored

theorem all_retain {p : κ → α → Prop} {d : Dict κ α} (all : All p d) (keep : κ → α → Bool) :
    All p (d.retain keep) := by
  intro k found stored
  rw [get?_retain, Option.filter_eq_some_iff] at stored
  exact all k found stored.1

theorem all_foldl_set {p : κ → α → Prop} {d : Dict κ α} (all : All p d) {pairs : List (κ × α)}
    (h : ∀ pair ∈ pairs, p pair.1 pair.2) :
    All p (pairs.foldl (fun d pair => d.set pair.1 pair.2) d) := by
  induction pairs generalizing d with
  | nil => exact all
  | cons pair rest ih =>
    have first := all_set all (h pair List.mem_cons_self)
    exact ih first fun later member => h later (List.mem_cons_of_mem pair member)

end Dict
end OrderedDict
