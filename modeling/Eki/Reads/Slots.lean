import Eki.Reads.BoundedSingleFlight

/-!
# Slots of flights

A flight has the slot of its key until its work has settled, and no other
flight has it meanwhile.
-/

namespace Eki.Reads

open Insertion

namespace SingleFlight

variable {Value : Type} {fills other : SingleFlight Value}

/-- Flights and slots, told from either side. -/
structure Sound (budgets : Budgets) (fills : SingleFlight Value) : Prop where
  slot : ∀ key id, fills.flights.get key = some id →
    ∃ flight, fills.heap[id]? = some flight ∧ flight.key = key ∧
      flight.stage.isSettled = false
  kept : ∀ id flight, fills.heap[id]? = some flight →
    flight.stage.isSettled = false → fills.flights.get flight.key = some id
  room : fills.flights.size ≤ budgets.maxFills

theorem sound_empty (budgets : Budgets) :
    Sound budgets ({} : SingleFlight Value) where
  slot := by
    intro key id stored
    cases stored
  kept := by
    intro id flight found
    cases found
  room := Nat.zero_le _

structure Changed (change : Nat → Flight Value → Flight Value)
    (before after : SingleFlight Value) : Prop where
  flights : after.flights = before.flights
  heap : ∀ id, after.heap[id]? = (before.heap[id]?).map (change id)

@[simp] theorem flights_modify (id : Nat)
    (change : Flight Value → Flight Value) (fills : SingleFlight Value) :
    (fills.modify id change).flights = fills.flights :=
  rfl

@[simp] theorem flights_invalidate (scope : Option String)
    (fills : SingleFlight Value) :
    (fills.invalidate scope).flights = fills.flights :=
  rfl

theorem changed_modify (id : Nat) (change : Flight Value → Flight Value)
    (fills : SingleFlight Value) :
    Changed (fun other flight => if id = other then change flight else flight)
      fills (fills.modify id change) where
  flights := rfl
  heap := by
    intro other
    exact List.getElem?_modify change id fills.heap other

theorem changed_invalidate (scope : Option String)
    (fills : SingleFlight Value) :
    Changed (fun id flight =>
      if fills.registered id && (scope.isNone || scope == some flight.scope)
      then { flight with current := false } else flight)
      fills (fills.invalidate scope) where
  flights := rfl
  heap := by
    intro id
    exact List.getElem?_mapIdx

theorem Changed.sound {budgets : Budgets}
    {change : Nat → Flight Value → Flight Value}
    {before after : SingleFlight Value}
    (changed : Changed change before after)
    (keeps : ∀ id flight, before.heap[id]? = some flight →
      (change id flight).key = flight.key ∧
      (change id flight).stage.isSettled = flight.stage.isSettled)
    (sound : Sound budgets before) : Sound budgets after where
  slot := by
    intro key id stored
    rw [changed.flights] at stored
    obtain ⟨flight, found, own, unsettled⟩ := sound.slot key id stored
    obtain ⟨sameKey, sameStage⟩ := keeps id flight found
    refine ⟨change id flight, ?_, ?_, ?_⟩
    · rw [changed.heap, found]
      rfl
    · rw [sameKey, own]
    · rw [sameStage, unsettled]
  kept := by
    intro id flight found unsettled
    rw [changed.heap, Option.map_eq_some_iff] at found
    obtain ⟨old, stored, rfl⟩ := found
    obtain ⟨sameKey, sameStage⟩ := keeps id old stored
    rw [sameStage] at unsettled
    rw [changed.flights, sameKey]
    exact sound.kept id old stored unsettled
  room := by
    rw [changed.flights]
    exact sound.room

/-! ## A flight for a key -/

/-- What a call leaves of the flights: as they were, or with one more. -/
inductive Opened (budgets : Budgets) (now : Nat) (key scope : String)
    (fills : SingleFlight Value) : Nat → SingleFlight Value → Prop where
  | found {id : Nat} (stored : fills.flights.get key = some id) :
      Opened budgets now key scope fills id fills
  | made (absent : fills.flights.get key = none)
      (free : fills.flights.size < budgets.maxFills) :
      Opened budgets now key scope fills fills.heap.length
        { flights := fills.flights.set key fills.heap.length
          heap := fills.heap ++ [{
            key := key
            scope := scope
            current := true
            startedAt := now
            waiters := 0
            stage := .queued }] }

variable {budgets : Budgets} {now id : Nat} {key scope : String}

variable {opened : SingleFlight Value}

theorem opened_of_flightFor
    (made : fills.flightFor budgets now key scope = some (id, opened)) :
    Opened budgets now key scope fills id opened := by
  unfold flightFor at made
  split at made
  · rename_i stored
    cases made
    exact .found stored
  · rename_i absent
    split at made
    · cases made
    · rename_i free
      cases made
      exact .made absent (Nat.lt_of_not_le free)

theorem getElem?_append_singleton (flight : Flight Value) (id : Nat)
    {found : Flight Value}
    (stored : (fills.heap ++ [flight])[id]? = some found) :
    fills.heap[id]? = some found ∨
      id = fills.heap.length ∧ found = flight := by
  rw [List.getElem?_append] at stored
  split at stored
  · exact .inl stored
  · rename_i beyond
    rw [List.getElem?_singleton] at stored
    split at stored
    · rename_i zero
      cases stored
      exact .inr ⟨by omega, rfl⟩
    · cases stored

theorem size_set_of_absent {map : OrderedMap String Nat}
    (absent : map.get key = none) : (map.set key id).size = map.size + 1 := by
  have missing := OrderedMap.get_eq_none_iff.mp absent
  unfold OrderedMap.size OrderedMap.set
  rw [dif_neg (by rw [missing]; decide), List.length_append]
  rfl

section

variable (call : Opened budgets now key scope fills id opened)

include call

theorem Opened.sound (sound : Sound budgets fills) : Sound budgets opened := by
  cases call with
  | found => exact sound
  | made absent free =>
    constructor
    · intro other index stored
      by_cases same : other = key
      · subst same
        rw [OrderedMap.get_set_self] at stored
        cases stored
        exact ⟨_, List.getElem?_concat_length, rfl, rfl⟩
      · rw [OrderedMap.get_set_of_ne same] at stored
        obtain ⟨flight, found, own⟩ := sound.slot other index stored
        refine ⟨flight, ?_, own⟩
        rw [List.getElem?_append_left (List.getElem?_eq_some_iff.mp found).1]
        exact found
    · intro index flight stored unsettled
      rcases getElem?_append_singleton _ index stored with
        found | ⟨rfl, rfl⟩
      · have slot := sound.kept index flight found unsettled
        have different : flight.key ≠ key := by
          intro same
          rw [same, absent] at slot
          cases slot
        rw [OrderedMap.get_set_of_ne different]
        exact slot
      · exact OrderedMap.get_set_self
    · show (fills.flights.set key fills.heap.length).size ≤ _
      rw [size_set_of_absent absent]
      exact free

theorem Opened.heap {index : Nat} {flight : Flight Value}
    (found : fills.heap[index]? = some flight) :
    opened.heap[index]? = some flight := by
  cases call with
  | found => exact found
  | made =>
    rw [List.getElem?_append_left (List.getElem?_eq_some_iff.mp found).1]
    exact found

theorem Opened.slot {other : String} {index : Nat}
    (stored : fills.flights.get other = some index) :
    opened.flights.get other = some index := by
  cases call with
  | found => exact stored
  | made absent free =>
    have different : other ≠ key := by
      rintro rfl
      rw [absent] at stored
      cases stored
    rw [OrderedMap.get_set_of_ne different]
    exact stored

theorem Opened.own (sound : Sound budgets fills) :
    ∃ flight, opened.heap[id]? = some flight ∧ flight.key = key ∧
      (fills.flights.get key = some id ∧ fills.heap[id]? = some flight ∨
        flight.stage = .queued) := by
  cases call with
  | found stored =>
    obtain ⟨flight, found, own, -⟩ := sound.slot key id stored
    exact ⟨flight, found, own, .inl ⟨stored, found⟩⟩
  | made => exact ⟨_, List.getElem?_concat_length, rfl, .inr rfl⟩

end

theorem join_ok {joined : SingleFlight Value}
    (success : fills.join budgets now id = .ok joined) :
    ∃ flight, fills.heap[id]? = some flight ∧
      flight.waiters < budgets.maxWaitersPerFill ∧
      now - flight.startedAt < budgets.responseMs ∧
      joined = fills.modify id fun flight =>
        { flight with waiters := flight.waiters + 1 } := by
  unfold join at success
  split at success
  · cases success
  · rename_i flight found
    split at success
    · cases success
    · rename_i waits
      split at success
      · cases success
      · rename_i intime
        cases success
        exact ⟨flight, found, Nat.lt_of_not_le waits,
          Nat.lt_of_not_le intime, rfl⟩

/-! ## The end of a flight -/

theorem Sound.finish (sound : Sound budgets fills) {flight : Flight Value}
    (found : fills.heap[id]? = some flight)
    (unsettled : flight.stage.isSettled = false) (result : Result Value) :
    Sound budgets ((fills.release id flight.key).modify id fun flight =>
      { flight with stage := .settled result }) := by
  have own := sound.kept id flight found unsettled
  have changed := changed_modify id (fun flight : Flight Value =>
    { flight with stage := .settled result }) (fills.release id flight.key)
  have released : fills.release id flight.key =
      { fills with flights := fills.flights.delete flight.key } := by
    unfold release
    rw [if_pos own]
  rw [released] at changed ⊢
  have apart : ∀ key index,
      (fills.flights.delete flight.key).get key = some index →
        fills.flights.get key = some index ∧ index ≠ id := by
    intro key index stored
    have held := OrderedMap.get_of_get_delete stored
    refine ⟨held, ?_⟩
    rintro rfl
    obtain ⟨same, sameFound, sameKey, -⟩ := sound.slot key index held
    rw [found] at sameFound
    cases sameFound
    rw [← sameKey, OrderedMap.get_delete_self] at stored
    cases stored
  constructor
  · intro key index stored
    obtain ⟨held, different⟩ := apart key index stored
    obtain ⟨other, otherFound, otherOwn⟩ := sound.slot key index held
    refine ⟨other, ?_, otherOwn⟩
    rw [changed.heap]
    show (fills.heap[index]?).map _ = _
    rw [otherFound, Option.map_some, if_neg (Ne.symm different)]
  · intro index other stored open_
    rw [changed.heap] at stored
    obtain ⟨old, oldFound, rfl⟩ := Option.map_eq_some_iff.mp stored
    by_cases same : id = index
    · rw [if_pos same] at open_
      cases open_
    · rw [if_neg same] at open_ ⊢
      have held := sound.kept index old oldFound open_
      have different : old.key ≠ flight.key := by
        intro sameKey
        rw [sameKey, own] at held
        exact same (Option.some.inj held)
      show (fills.flights.delete flight.key).get old.key = some index
      rw [OrderedMap.get_delete_of_ne different]
      exact held
  · have fewer : (fills.flights.delete flight.key).size ≤
        fills.flights.size := List.length_filter_le _ _
    exact Nat.le_trans fewer sound.room

end SingleFlight

end Eki.Reads
