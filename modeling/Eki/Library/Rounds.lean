import Mathlib.Data.List.Nodup

/-!
# Turns in a ring

Keys join a ring at its end, leave it from any place and are served at its
head.  Between two turns of one key, every other key that was in the ring and
did not leave it has a turn.
-/

namespace Rounds

universe u

inductive Event (κ : Type u) where
  | joined (key : κ)
  | left (key : κ)
  | served (key : κ)

variable {κ : Type u} [DecidableEq κ]

inductive Turns : List κ → Event κ → List κ → Prop where
  | joined {ring : List κ} {key : κ} (absent : key ∉ ring) :
      Turns ring (.joined key) (ring ++ [key])
  | left (ring : List κ) (key : κ) :
      Turns ring (.left key) (ring.erase key)
  | served (key : κ) (rest : List κ) :
      Turns (key :: rest) (.served key) rest

inductive Replay : List κ → List (Event κ) → List κ → Prop where
  | nil (ring : List κ) : Replay ring [] ring
  | cons {ring middle last : List κ} {event : Event κ}
      {events : List (Event κ)} (head : Turns ring event middle)
      (tail : Replay middle events last) : Replay ring (event :: events) last

variable {ring last : List κ} {event : Event κ}

theorem Replay.single (turns : Turns ring event last) :
    Replay ring [event] last :=
  .cons turns (.nil last)

variable {front : List (Event κ)}

theorem Replay.append {first middle : List κ} {back : List (Event κ)}
    (before : Replay first front middle) (after : Replay middle back last) :
    Replay first (front ++ back) last := by
  induction before with
  | nil => exact after
  | cons head _ induction => exact .cons head (induction after)

theorem Replay.split {first : List κ} {back : List (Event κ)}
    (replay : Replay first (front ++ back) last) :
    ∃ middle, Replay first front middle ∧ Replay middle back last := by
  induction front generalizing first with
  | nil => exact ⟨first, .nil first, replay⟩
  | cons event front induction =>
    rw [List.cons_append] at replay
    cases replay with
    | cons head tail =>
      obtain ⟨middle, before, after⟩ := induction tail
      exact ⟨middle, .cons head before, after⟩

theorem Turns.nodup (turns : Turns ring event last) (nodup : ring.Nodup) :
    last.Nodup := by
  cases turns with
  | joined absent =>
    rw [List.nodup_append]
    refine ⟨nodup, List.nodup_singleton _, ?_⟩
    intro other member last final same
    rw [same, List.mem_singleton.mp final] at member
    exact absent member
  | left key => exact nodup.erase _
  | served key => exact (List.nodup_cons.mp nodup).2

variable {events : List (Event κ)}

theorem Replay.nodup (replay : Replay ring events last) (nodup : ring.Nodup) :
    last.Nodup := by
  induction replay with
  | nil => exact nodup
  | cons head _ induction => exact induction (head.nodup nodup)

/-- A key comes before every turn of another one. -/
def Ahead (first second : κ) (ring : List κ) : Prop :=
  ∃ front back, ring = front ++ first :: back ∧ second ∉ front

variable {first second : κ}

omit [DecidableEq κ] in
theorem Ahead.of_absent (member : first ∈ ring) (absent : second ∉ ring) :
    Ahead first second ring := by
  obtain ⟨front, back, split⟩ := List.append_of_mem member
  refine ⟨front, back, split, ?_⟩
  intro inside
  apply absent
  rw [split]
  exact List.mem_append_left _ inside

theorem Turns.ahead (turns : Turns ring event last)
    (ahead : Ahead first second ring) (unserved : event ≠ .served first)
    (stays : event ≠ .left first) : Ahead first second last := by
  obtain ⟨front, back, split, absent⟩ := ahead
  cases turns with
  | @joined _ key _ =>
    refine ⟨front, back ++ [key], ?_, absent⟩
    rw [split, List.append_assoc, List.cons_append]
  | left _ key =>
    have different : first ≠ key := by
      intro same
      rw [same] at stays
      exact stays rfl
    rw [split, List.erase_append]
    split
    · refine ⟨front.erase key, back, rfl, ?_⟩
      intro member
      exact absent (List.mem_of_mem_erase member)
    · refine ⟨front, back.erase key, ?_, absent⟩
      rw [List.erase_cons_tail (by simpa using different)]
  | served key rest =>
    cases front with
    | nil =>
      rw [List.nil_append] at split
      cases split
      exact absurd rfl unserved
    | cons head front =>
      rw [List.cons_append] at split
      cases split
      refine ⟨front, back, rfl, ?_⟩
      intro member
      exact absent (List.mem_cons_of_mem _ member)

theorem Replay.ahead (replay : Replay ring events last)
    (ahead : Ahead first second ring) (unserved : .served first ∉ events)
    (stays : .left first ∉ events) : Ahead first second last := by
  induction replay with
  | nil => exact ahead
  | cons head _ induction =>
    rw [List.mem_cons, not_or] at unserved stays
    exact induction
      (head.ahead ahead (Ne.symm unserved.1) (Ne.symm stays.1))
      unserved.2 stays.2

theorem Replay.served_between {between : List κ} {middle : List (Event κ)}
    {key other : κ} (nodup : ring.Nodup)
    (first : Replay ring (front ++ [.served key]) between)
    (second : Replay between (middle ++ [.served key]) last)
    (different : other ≠ key) (member : other ∈ between)
    (stays : .left other ∉ middle) : .served other ∈ middle := by
  obtain ⟨start, before, turn⟩ := first.split
  have absent : key ∉ between := by
    have once := before.nodup nodup
    cases turn with
    | cons head tail =>
      cases tail
      cases head
      exact (List.nodup_cons.mp once).1
  obtain ⟨later, during, again⟩ := second.split
  by_contra unserved
  have ahead := during.ahead (Ahead.of_absent member absent) unserved stays
  obtain ⟨queue, back, split, missing⟩ := ahead
  cases again with
  | cons head _ =>
    cases head
    cases queue with
    | nil =>
      rw [List.nil_append] at split
      cases split
      exact different rfl
    | cons first queue =>
      rw [List.cons_append] at split
      cases split
      exact missing (List.mem_cons_self ..)

/-! ## The ring that events leave -/

def turned (ring : List κ) : Event κ → List κ
  | .joined key => ring ++ [key]
  | .left key => ring.erase key
  | .served _ => ring.tail

def ringAfter (events : List (Event κ)) : List κ :=
  events.foldl turned []

theorem Replay.last_eq (replay : Replay ring events last) :
    last = events.foldl turned ring := by
  induction replay with
  | nil => rfl
  | cons head _ induction =>
    rw [induction, List.foldl_cons]
    congr 1
    cases head with
    | joined | left | served => rfl

theorem Replay.ringAfter_eq (replay : Replay [] events last) :
    ringAfter events = last :=
  replay.last_eq.symm

end Rounds
