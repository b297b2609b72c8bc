import Mathlib.Data.List.AList
import Mathlib.Data.List.Sort
import Mathlib.Data.String.Basic

/-!
# Collections of documents

A collection holds at most one document under each identifier.  A query looks
for the documents that meet a condition, in the order of their identifiers and
up to a limit; below the limit it finds them all.
-/

namespace Documents

universe u

variable {α : Type u}

abbrev Collection (α : Type u) := AList fun _ : String => α

namespace Collection

def any (documents : Collection α) (meets : α → Bool) : Bool :=
  documents.entries.any fun entry => meets entry.2

/-- The entries that meet a condition, in the order of their identifiers. -/
def matching (documents : Collection α) (meets : α → Bool) :
    List (Sigma fun _ : String => α) :=
  (documents.entries.filter fun entry => meets entry.2).insertionSort
    fun first second => first.1 ≤ second.1

def query (documents : Collection α) (limit : Nat) (meets : α → Bool) :
    List α :=
  ((documents.matching meets).take limit).map fun entry => entry.2

def modify (documents : Collection α) (id : String) (change : α → α) :
    Collection α :=
  match documents.lookup id with
  | none => documents
  | some document => documents.insert id (change document)

variable {documents : Collection α} {id : String} {document : α}

theorem mem_entries_iff :
    (⟨id, document⟩ : Sigma fun _ : String => α) ∈ documents.entries ↔
      documents.lookup id = some document :=
  AList.mem_lookup_iff.symm

variable {meets : α → Bool}

theorem any_iff :
    documents.any meets = true ↔
      ∃ id document, documents.lookup id = some document ∧
        meets document = true := by
  rw [any, List.any_eq_true]
  constructor
  · intro found
    obtain ⟨⟨id, document⟩, member, meeting⟩ := found
    exact ⟨id, document, mem_entries_iff.mp member, meeting⟩
  · intro found
    obtain ⟨id, document, stored, meeting⟩ := found
    exact ⟨⟨id, document⟩, mem_entries_iff.mpr stored, meeting⟩

theorem any_eq_false_iff :
    documents.any meets = false ↔
      ∀ id document, documents.lookup id = some document →
        meets document = false := by
  rw [← Bool.not_eq_true, any_iff]
  constructor
  · intro none id document stored
    rw [← Bool.not_eq_true]
    exact fun meeting => none ⟨id, document, stored, meeting⟩
  · intro all found
    obtain ⟨id, document, stored, meeting⟩ := found
    rw [all id document stored] at meeting
    cases meeting

theorem mem_matching_iff :
    (⟨id, document⟩ : Sigma fun _ : String => α) ∈ documents.matching meets ↔
      documents.lookup id = some document ∧ meets document = true := by
  rw [matching, List.mem_insertionSort, List.mem_filter, mem_entries_iff]

theorem mem_query_of_few {limit : Nat}
    (few : (documents.matching meets).length ≤ limit)
    (stored : documents.lookup id = some document)
    (meeting : meets document = true) :
    document ∈ documents.query limit meets := by
  rw [query, List.take_of_length_le few]
  exact List.mem_map.mpr
    ⟨⟨id, document⟩, mem_matching_iff.mpr ⟨stored, meeting⟩, rfl⟩

end Collection

end Documents
