import Eki.Library.Pages
import Eki.Library.Transition

/-!
# Pages of a reconciliation

A query is read page by page behind a cursor, while documents come and go.
-/

namespace Eki

open Transition

variable {Id : Type} [LinearOrder Id]

def reconciliationPageSize : Nat := 100

/-- The ids that match the query when it is read. -/
abbrev Matching.Ids (Id : Type) := { ids : List Id // ids.Nodup }

/-- What `reconciliationPages` has yielded, and where it goes on. -/
structure ReconciliationPages (Id : Type) where
  cursor : Option Id := none
  yielded : List Id := []
  done : Bool := false

namespace ReconciliationPages

def reconciliationPage (cursor : Option Id) (ids : List Id) : List Id :=
  Pages.page id (fun id => cursor.all (· < id)) reconciliationPageSize ids

def step : System (ReconciliationPages Id) (Matching.Ids Id) :=
  fun pages matching =>
    if pages.done then none
    else
      let docs := reconciliationPage pages.cursor matching.val
      let nextCursor :=
        if docs.length = reconciliationPageSize then docs.getLast? else none
      some
        { cursor := nextCursor
          yielded := pages.yielded ++ docs
          done := nextCursor.isNone }

/-- Every id yielded lies up to the cursor, every other one that stays behind
it. -/
structure Sound (kept : List Id) (pages : ReconciliationPages Id) : Prop where
  sorted : pages.yielded.Pairwise (· < ·)
  reached : pages.done = false → ∀ id ∈ pages.yielded,
    pages.cursor.any (id ≤ ·) = true
  ahead : ∀ id ∈ kept, id ∉ pages.yielded →
    pages.done = false ∧ pages.cursor.all (· < id) = true

variable {cursor : Option Id} {ids : List Id}

theorem page_sorted (nodup : ids.Nodup) :
    (reconciliationPage cursor ids).Pairwise (· < ·) := by
  have mapped : ((reconciliationPage cursor ids).map id).Nodup :=
    Pages.page_nodup (by rwa [List.map_id])
  rw [List.map_id] at mapped
  have sorted : (reconciliationPage cursor ids).Pairwise (· ≤ ·) :=
    Pages.listing_sorted.sublist (List.take_sublist _ _)
  exact (sorted.and mapped).imp fun both =>
    lt_of_le_of_ne both.1 both.2

theorem sound_step {kept : List Id} {pages next : ReconciliationPages Id}
    {matching : Matching.Ids Id} (sound : Sound kept pages)
    (stays : kept ⊆ matching.val) (taken : step pages matching = some next) :
    Sound kept next := by
  unfold step at taken
  split at taken
  · cases taken
  rename_i running
  have running := (Bool.not_eq_true _).mp running
  have sorted : (reconciliationPage pages.cursor matching.val).Pairwise
      (· < ·) := page_sorted matching.property
  have later : ∀ before ∈ pages.yielded,
      ∀ doc ∈ reconciliationPage pages.cursor matching.val, before < doc := by
    intro before yielded doc member
    have reached := sound.reached running before yielded
    have kept := (Pages.mem_of_mem_page member).2
    cases known : pages.cursor with
    | none =>
      rw [known] at reached
      cases reached
    | some cursor =>
      rw [known] at reached kept
      exact lt_of_le_of_lt (of_decide_eq_true reached) (of_decide_eq_true kept)
  have all : (pages.yielded ++
      reconciliationPage pages.cursor matching.val).Pairwise (· < ·) :=
    List.pairwise_append.mpr ⟨sound.sorted, sorted, later⟩
  cases taken
  refine ⟨all, ?_, ?_⟩
  · intro goes before yielded
    dsimp only at goes ⊢
    split at goes
    · obtain ⟨last, found⟩ := Option.isSome_iff_exists.mp
        (Option.isNone_eq_false_iff.mp goes)
      obtain ⟨front, docs⟩ := List.getLast?_eq_some_iff.mp found
      rw [if_pos ‹_›, found]
      rw [docs, ← List.append_assoc] at all yielded
      rcases List.mem_append.mp yielded with earlier | same
      · have before := (List.pairwise_append.mp all).2.2 before earlier last
          (List.mem_singleton_self last)
        simpa using before.le
      · simp [List.mem_singleton.mp same]
    · cases goes
  · intro document member missing
    rw [List.mem_append, not_or] at missing
    have ahead := (sound.ahead document member missing.1).2
    obtain ⟨full, behind⟩ := (Pages.mem_page_or_behind (stays member)
      ahead).resolve_left missing.2
    have full : (reconciliationPage pages.cursor matching.val).length =
        reconciliationPageSize := full
    dsimp only
    rw [if_pos full]
    cases found : (reconciliationPage pages.cursor matching.val).getLast? with
    | none =>
      rw [List.getLast?_eq_none_iff.mp found] at full
      cases full
    | some last =>
      have inside := List.mem_of_getLast? found
      have different : last ≠ document := fun same => missing.2 (same ▸ inside)
      have less := lt_of_le_of_ne (behind last inside) different
      simpa using less

/-- Whatever comes and goes between the reads, no document is yielded twice,
and at the end each one is that was there at every read. -/
theorem pages_visit_once {kept : List Id} {pages : ReconciliationPages Id}
    (steps : System.Steps step (fun _ matching => kept ⊆ matching.val) {}
      pages) : pages.yielded.Pairwise (· < ·) ∧
      (pages.done = true → kept ⊆ pages.yielded) := by
  have sound : Sound kept pages := by
    apply steps.invariant ⟨.nil, by simp, by simp⟩
    intro before matching next sound stays taken
    exact sound_step sound stays taken
  refine ⟨sound.sorted, ?_⟩
  intro done document member
  by_contra missing
  have goes := (sound.ahead document member missing).1
  rw [done] at goes
  cases goes

/-- The document 7 stays, and 150 is deleted after the first page. -/
theorem pages_visit_once_two : ∃ pages : ReconciliationPages Nat,
    7 ∈ pages.yielded ∧ 120 ∈ pages.yielded := by
  have executed : (System.run step (fun _ matching => [7, 120] ⊆ matching.val)
      ({} : ReconciliationPages Nat)
      [⟨List.range 151, List.nodup_range⟩,
        ⟨List.range 130, List.nodup_range⟩]).any (·.done) = true := by
    decide +kernel
  obtain ⟨pages, steps, done⟩ := System.exists_of_run executed
  have visited := (pages_visit_once (steps.mono fun _ _ =>
    of_decide_eq_true)).2 done
  exact ⟨pages, visited (by simp), visited (by simp)⟩

end ReconciliationPages

end Eki
