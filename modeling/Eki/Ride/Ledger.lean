import Eki.Library.Ownership
import Eki.Ride.Steps

/-!
# The ledger of locks and open sessions

What the lock documents name and which buses the open sessions hold, as a
ledger of exclusive ownership, and the kinds of write that move it as a
transaction may.
-/

namespace Eki

open Ownership
open Function (update update_eq_self)

variable {R : Type}

def RideSession.openBus (session : RideSession) : Option String :=
  if session.status.terminal then none else some session.busId

namespace Firestore

variable (firestore : Firestore R)

def ledger : Ledger String String :=
  { lock := fun busId => lockSession (firestore.locks busId)
    held := fun sessionId =>
      (firestore.sessions sessionId).bind RideSession.openBus }

def busOf (sessionId : String) : Option String :=
  (firestore.sessions sessionId).map fun session => session.busId

end Firestore

variable {firestore : Firestore R} {sessionId busId : String}

theorem held_eq_some :
    firestore.ledger.held sessionId = some busId ↔
      ∃ session, firestore.sessions sessionId = some session ∧
        session.status.terminal = false ∧ session.busId = busId := by
  simp [Firestore.ledger, Option.bind_eq_some_iff, RideSession.openBus]

variable {session : RideSession}

theorem busOf_of_stored
    (stored : firestore.sessions sessionId = some session) :
    firestore.busOf sessionId = some session.busId := by
  simp [Firestore.busOf, stored]

variable {before after : Firestore R}

section

variable {lock : Option BusLock}
  (locks : after.locks = Function.update before.locks busId lock)

include locks

theorem lock_of_locks :
    after.ledger.lock =
      update before.ledger.lock busId (lockSession lock) := by
  funext other
  by_cases same : other = busId
  · subst same
    simp [Firestore.ledger, locks]
  · simp [Firestore.ledger, locks, same]

theorem lock_of_same
    (same : lockSession lock = lockSession (before.locks busId)) :
    after.ledger.lock = before.ledger.lock := by
  rw [lock_of_locks locks, same]
  exact update_eq_self busId before.ledger.lock

end

theorem held_of_sessions {session : Option RideSession}
    (sessions : after.sessions = update before.sessions sessionId session) :
    after.ledger.held =
      update before.ledger.held sessionId
        (session.bind RideSession.openBus) := by
  funext other
  by_cases same : other = sessionId
  · subst same
    simp [Firestore.ledger, sessions]
  · simp [Firestore.ledger, sessions, same]

theorem held_of_same {written : RideSession} (sessions : after.sessions =
      update before.sessions sessionId (some written))
    (stored : before.sessions sessionId = some session)
    (same : written.openBus = session.openBus) :
    after.ledger.held = before.ledger.held := by
  have kept : before.ledger.held sessionId = session.openBus := by
    simp [Firestore.ledger, stored]
  rw [held_of_sessions sessions, Option.bind_some, same, ← kept]
  exact update_eq_self sessionId before.ledger.held

theorem lock_of_release (locks : after.locks =
      if lockSession (before.locks busId) == some sessionId then
        update before.locks busId none
      else before.locks) :
    after.ledger.lock =
      if before.ledger.lock busId = some sessionId then
        update before.ledger.lock busId none
      else before.ledger.lock := by
  by_cases own : lockSession (before.locks busId) = some sessionId
  · rw [if_pos (show before.ledger.lock busId = some sessionId from own)]
    have released : after.locks = update before.locks busId none := by
      rw [locks, if_pos (by simpa using own)]
    exact lock_of_locks released
  · rw [if_neg (show before.ledger.lock busId ≠ some sessionId from own)]
    simp only [Firestore.ledger, locks,
      if_neg (show ¬ (lockSession (before.locks busId) ==
        some sessionId) = true by simpa using own)]

/-- What a transaction does to the ledger, and every stored session stays on
its bus. -/
structure Firestore.Moves (before after : Firestore R) : Prop where
  ledger : Ledger.Move before.ledger after.ledger
  busOf : ∀ sessionId busId, before.busOf sessionId = some busId →
    after.busOf sessionId = some busId

theorem Firestore.Moves.same (sessions : after.sessions = before.sessions)
    (lock : after.ledger.lock = before.ledger.lock) : before.Moves after :=
  { ledger := .keep lock (by simp [Firestore.ledger, sessions])
    busOf := by simp [Firestore.busOf, sessions] }

theorem busOf_of_sessions {written : String} {session : Option RideSession}
    (sessions : after.sessions = update before.sessions written session)
    (kept : ∀ busId, before.busOf written = some busId →
      session.map (fun session => session.busId) = some busId) :
    ∀ sessionId busId, before.busOf sessionId = some busId →
      after.busOf sessionId = some busId := by
  intro sessionId busId stored
  by_cases same : sessionId = written
  · subst same
    simpa [Firestore.busOf, sessions] using kept busId stored
  · simpa [Firestore.busOf, sessions, same] using stored

theorem Firestore.Moves.rewrite {written : RideSession}
    (sessions : after.sessions =
      update before.sessions sessionId (some written))
    (stored : before.sessions sessionId = some session)
    (bus : written.busId = session.busId)
    (status : written.status.terminal = session.status.terminal)
    (lock : after.ledger.lock = before.ledger.lock) : before.Moves after := by
  refine ⟨.keep lock (held_of_same sessions stored ?_), ?_⟩
  · simp [RideSession.openBus, bus, status]
  · apply busOf_of_sessions sessions
    intro busId known
    rw [busOf_of_stored stored] at known
    simpa [bus] using known

theorem Firestore.Moves.create {lock : BusLock} (sessions : after.sessions =
      update before.sessions sessionId (some session))
    (locks : after.locks = update before.locks busId (some lock))
    (fresh : before.sessions sessionId = none)
    (free : before.locks busId = none) (held : session.openBus = some busId)
    (names : lockSession (some lock) = some sessionId) :
    before.Moves after := by
  refine ⟨.acquire busId sessionId ?_ ?_ ?_ ?_, ?_⟩
  · simp [Firestore.ledger, free]
  · simp [Firestore.ledger, fresh]
  · rw [lock_of_locks locks, names]
  · rw [held_of_sessions sessions, Option.bind_some, held]
  · apply busOf_of_sessions sessions
    intro bus known
    simp [Firestore.busOf, fresh] at known

theorem Firestore.Moves.finish {session : Option RideSession}
    (sessions : after.sessions =
      update before.sessions sessionId session) (locks : after.locks =
      if lockSession (before.locks busId) == some sessionId then
        update before.locks busId none
      else before.locks) (ended : session.bind RideSession.openBus = none)
    (bus : session.map (fun session => session.busId) = before.busOf sessionId)
    (own : ∀ other, before.ledger.held sessionId = some other →
      other = busId) : before.Moves after := by
  refine ⟨.release busId sessionId own (lock_of_release locks) ?_, ?_⟩
  · rw [held_of_sessions sessions, ended]
  · apply busOf_of_sessions sessions
    intro other known
    rw [bus, known]

theorem bus_of_held (held : firestore.ledger.held sessionId = some busId) :
    firestore.busOf sessionId = some busId := by
  obtain ⟨session, stored, -, bus⟩ := held_eq_some.mp held
  rw [busOf_of_stored stored, bus]

theorem held_bus_unique (known : firestore.busOf sessionId = some busId) :
    ∀ other, firestore.ledger.held sessionId = some other → other = busId := by
  intro other held
  have same := bus_of_held held
  rw [known] at same
  exact (Option.some.inj same).symm

end Eki
