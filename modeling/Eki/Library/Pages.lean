import Mathlib.Data.List.Sort

/-!
# Pages of an ordered listing

A page holds the first items of a listing that are to be kept.  What it does
not hold lies behind all that it holds, and then it is full.
-/

namespace Pages

universe u v

variable {α : Type u} {ρ : Type v} [LinearOrder ρ]

def listing (position : α → ρ) (keep : α → Bool) (items : List α) : List α :=
  (items.filter keep).insertionSort fun first second =>
    position first ≤ position second

def page (position : α → ρ) (keep : α → Bool) (size : Nat) (items : List α) :
    List α :=
  (listing position keep items).take size

variable {position : α → ρ} {keep : α → Bool} {size : Nat} {items : List α}
  {item : α}

theorem mem_listing :
    item ∈ listing position keep items ↔ item ∈ items ∧ keep item = true := by
  rw [listing, List.mem_insertionSort, List.mem_filter]

theorem mem_of_mem_page (member : item ∈ page position keep size items) :
    item ∈ items ∧ keep item = true :=
  mem_listing.mp (List.mem_of_mem_take member)

theorem page_nodup {κ : Type u} {key : α → κ} (nodup : (items.map key).Nodup) :
    ((page position keep size items).map key).Nodup := by
  have kept : ((items.filter keep).map key).Nodup :=
    nodup.sublist (List.filter_sublist.map key)
  have sorted : ((listing position keep items).map key).Nodup :=
    ((List.perm_insertionSort _ _).map key).nodup_iff.mpr kept
  exact sorted.sublist ((List.take_sublist _ _).map key)

theorem listing_sorted :
    (listing position keep items).Pairwise fun first second =>
      position first ≤ position second := by
  have total : Std.Total fun first second : α =>
      position first ≤ position second :=
    ⟨fun first second => le_total (position first) (position second)⟩
  have transitive : IsTrans α fun first second =>
      position first ≤ position second :=
    ⟨fun _ _ _ => le_trans⟩
  exact List.pairwise_insertionSort _ _

theorem mem_page_or_behind (member : item ∈ items)
    (kept : keep item = true) :
    item ∈ page position keep size items ∨
      (page position keep size items).length = size ∧
        ∀ other ∈ page position keep size items,
          position other ≤ position item := by
  have listed : item ∈ listing position keep items :=
    mem_listing.mpr ⟨member, kept⟩
  rw [← List.take_append_drop size (listing position keep items)] at listed
  rcases List.mem_append.mp listed with first | later
  · exact Or.inl first
  · right
    constructor
    · have more : 0 < ((listing position keep items).drop size).length :=
        List.length_pos_of_mem later
      rw [List.length_drop] at more
      rw [page, List.length_take]
      omega
    · intro other early
      have sorted := @listing_sorted α ρ _ position keep items
      rw [← List.take_append_drop size (listing position keep items),
        List.pairwise_append] at sorted
      exact sorted.2.2 other early item later

end Pages
