import AeaiOs.ArchiveConfinement
import AeaiOs.RepositoryAgreement
import AeaiOs.RunOperations

/-!
What holds of every text and timestamp in the repository, given that it holds of those that
the operations bring in. A text may be anywhere inside a stored dictionary, and a rewriting
method moves it only into places like that.
-/
namespace RunArchive
open OrderedDict PyText CivilTime StoreAction Action ExceptLists RunValues RunModels Redaction
open InMemoryRunRepository

/-! Every text of a value, the keys of its dictionaries included. -/

mutual

def ValueAll (p : String → Prop) : PyValue → Prop
  | .str text => p text
  | .list items => ItemsAll p items
  | .dict entries => EntriesAll p entries
  | _ => True

def EntriesAll (p : String → Prop) : List (String × PyValue) → Prop
  | [] => True
  | (key, value) :: rest => p key ∧ ValueAll p value ∧ EntriesAll p rest

def ItemsAll (p : String → Prop) : List PyValue → Prop
  | [] => True
  | item :: rest => ValueAll p item ∧ ItemsAll p rest

end

section values
variable {p : String → Prop}

theorem itemsAll_iff {items : List PyValue} : ItemsAll p items ↔ ∀ item ∈ items, ValueAll p item := by
  induction items with
  | nil => simp [ItemsAll]
  | cons item rest ih => simp [ItemsAll, ih]

theorem entriesAll_iff {entries : PyDict} :
    EntriesAll p entries ↔ ∀ entry ∈ entries, p entry.1 ∧ ValueAll p entry.2 := by
  induction entries with
  | nil => simp [EntriesAll]
  | cons entry rest ih => simp [EntriesAll, ih, and_assoc]

theorem entriesAll_append {entries more : PyDict} (front : EntriesAll p entries)
    (back : EntriesAll p more) : EntriesAll p (entries ++ more) := by
  rw [entriesAll_iff] at front back ⊢
  intro entry member
  rcases List.mem_append.mp member with old | new
  · exact front entry old
  · exact back entry new

theorem entriesAll_store {entries : PyDict} (all : EntriesAll p entries) {key : String}
    (named : p key) {value : PyValue} (held : ValueAll p value) :
    EntriesAll p (storeEntries entries key value) := by
  induction entries with
  | nil => exact ⟨named, held, True.intro⟩
  | cons entry rest ih =>
    obtain ⟨k, old⟩ := entry
    obtain ⟨first, value', others⟩ := all
    unfold storeEntries
    split
    · exact ⟨first, held, others⟩
    · exact ⟨first, value', ih others⟩

theorem valueAll_lookup {entries : PyDict} (all : EntriesAll p entries) {key : String}
    {default : PyValue} (otherwise : ValueAll p default) :
    ValueAll p ((lookupEntries entries key).getD default) := by
  cases found : lookupEntries entries key with
  | none => exact otherwise
  | some value => exact (entriesAll_iff.mp all _ (mem_of_lookupEntries found)).2

theorem valueAll_ofOption {text : Option String} (all : ∀ t ∈ text, p t) :
    ValueAll p (.ofOption text) := by
  cases text with
  | none => exact True.intro
  | some t => exact all t rfl

theorem itemsAll_toList (single : ∀ c : Char, p (String.ofList [c])) {value : PyValue}
    {items : List PyValue} (all : ValueAll p value) (listed : value.toList = .ok items) :
    ItemsAll p items := by
  cases value with
  | list items' =>
    simp only [PyValue.toList, Except.ok.injEq] at listed
    exact listed ▸ all
  | str text =>
    simp only [PyValue.toList, Except.ok.injEq] at listed
    rw [← listed, itemsAll_iff]
    intro item member
    obtain ⟨c, -, rfl⟩ := List.mem_map.mp member
    exact single c
  | dict entries =>
    simp only [PyValue.toList, Except.ok.injEq] at listed
    rw [← listed, itemsAll_iff]
    intro item member
    obtain ⟨entry, inside, rfl⟩ := List.mem_map.mp member
    exact (entriesAll_iff.mp all entry inside).1
  | none => cases listed
  | bool => cases listed
  | int => cases listed
  | float => cases listed

end values

section redaction
variable [UnicodeDatabase] {p : String → Prop}

/-- Redaction brings in no text but its mark and the redactions of texts. -/
structure Redacts (p : String → Prop) : Prop where
  mark : p redacted
  text : ∀ {text text'}, p text → redactText text = .ok text' → p text'

mutual

theorem valueAll_redacted (closed : Redacts p) : ∀ {key : Option String} {value value' : PyValue},
    ValueAll p value → redactValueAt key value = .ok value' → ValueAll p value'
  | key, value, value', all, made => by
    unfold redactValueAt at made
    split at made
    · simp only [Except.ok.injEq] at made
      rw [← made]
      exact closed.mark
    · cases value with
      | dict entries =>
        obtain ⟨entries', rest, rfl⟩ := except_map_ok made
        exact entriesAll_redacted closed all rest
      | list items =>
        obtain ⟨items', rest, rfl⟩ := except_map_ok made
        exact itemsAll_redacted closed all rest
      | str text =>
        obtain ⟨text', rest, rfl⟩ := except_map_ok made
        exact closed.text all rest
      | none => exact Except.ok.inj made ▸ all
      | bool => exact Except.ok.inj made ▸ all
      | int => exact Except.ok.inj made ▸ all
      | float => exact Except.ok.inj made ▸ all

theorem entriesAll_redacted (closed : Redacts p) : ∀ {entries entries' : List (String × PyValue)},
    EntriesAll p entries → redactEntries entries = .ok entries' → EntriesAll p entries'
  | [], entries', all, made => by
    simp only [redactEntries, Except.ok.injEq] at made
    exact made ▸ all
  | (key, value) :: rest, entries', all, made => by
    simp only [redactEntries, bind_eq_ok, pure_eq_ok] at made
    obtain ⟨value', first, rest', others, rfl⟩ := made
    exact ⟨all.1, valueAll_redacted closed all.2.1 first,
      entriesAll_redacted closed all.2.2 others⟩

theorem itemsAll_redacted (closed : Redacts p) : ∀ {items items' : List PyValue},
    ItemsAll p items → redactItems items = .ok items' → ItemsAll p items'
  | [], items', all, made => by
    simp only [redactItems, Except.ok.injEq] at made
    exact made ▸ all
  | item :: rest, items', all, made => by
    simp only [redactItems, bind_eq_ok, pure_eq_ok] at made
    obtain ⟨item', first, rest', others, rfl⟩ := made
    exact ⟨valueAll_redacted closed all.1 first, itemsAll_redacted closed all.2 others⟩

end
end redaction
end RunArchive
