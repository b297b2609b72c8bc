import Eki.Firmware.DnsResolution

/-!
# No stale address

What the slot hands out was stored for the ticket that is asked for, in the
epoch and the time of its lookup.
-/

namespace Eki.Firmware.Dns

open Transition

def Event.startedTicket : Event → Option Serial.Number
  | .begin _ _ _ request =>
    if request.admission = .started then some request.ticket else none
  | _ => none

def tickets (history : List Event) : List Serial.Number :=
  history.filterMap Event.startedTicket

/-- The lookups that no completion has ended. -/
def outstanding : List Event → List Serial.Number
  | [] => []
  | .begin _ _ _ request :: earlier =>
    if request.admission = .started then
      request.ticket :: outstanding earlier
    else outstanding earlier
  | .complete ticket _ _ _ _ :: earlier => (outstanding earlier).erase ticket
  | .poll .. :: earlier => outstanding earlier

def Started (ticket : Serial.Number) (epoch : BitVec 32) (startedAt : Millis)
    (history : List Event) : Prop :=
  ∃ host before,
    .begin host epoch startedAt
      { admission := .started
        ticket := ticket } :: before <:+ history

/-- The lookup was completed with this address while it was outstanding, in
its epoch and its time. -/
def Completed (ticket : Serial.Number) (epoch : BitVec 32)
    (startedAt : Millis) (address : BitVec 32) (history : List Event) : Prop :=
  ∃ completedAt before,
    .complete ticket epoch address completedAt true :: before <:+ history ∧
      outstanding before = [ticket] ∧
      Started ticket epoch startedAt before ∧
      completedAt - startedAt < responseBudgetMs

/-- No lookup that was given up or belongs to another network is ever
answered, and there is one lookup at a time. -/
structure NeverStale (resolver : Resolver) : Prop where
  resolved : ∀ ticket epoch now address before,
    .poll ticket epoch now .resolved address :: before <:+ resolver.history →
    address ≠ 0 ∧ ∃ startedAt,
      Completed ticket epoch startedAt address before ∧
        now - startedAt < responseBudgetMs
  distinct : (tickets resolver.history).Nodup
  single : (outstanding resolver.history).length ≤ 1
  vacant : ∀ host epoch now ticket before,
    .begin host epoch now
        { admission := .started
          ticket := ticket } :: before <:+ resolver.history →
      outstanding before = []
  inert : ∀ ticket currentEpoch address now,
    ticket ∉ outstanding resolver.history →
      resolver.state.complete ticket currentEpoch address now =
        (false, resolver.state)

/-! ## What each call does -/

section Calls

variable {state : ResolutionState}

theorem ResolutionState.begin_cases (state : ResolutionState)
    (host : Option CString) (epoch : BitVec 32) (now : Millis) :
    (state.begin host epoch now).1.admission ≠ .started ∧
        (state.begin host epoch now).2 = state ∨
      state.active = false ∧ ∃ name,
        state.begin host epoch now =
          ({ admission := .started
             ticket := Serial.next state.sequence },
            { state with
              active := true
              sequence := Serial.next state.sequence
              ticket := Serial.next state.sequence
              epoch := epoch
              startedAt := now
              host := name }) := by
  cases host with
  | none => exact Or.inl ⟨by simp [begin, Request.refused], rfl⟩
  | some name =>
    rw [begin]
    split
    · exact Or.inl ⟨by simp [Request.refused], rfl⟩
    · split
      · exact Or.inl ⟨by simp [Request.refused], rfl⟩
      · split
        · split
          · exact Or.inl ⟨by simp, rfl⟩
          · exact Or.inl ⟨by simp [Request.refused], rfl⟩
        · rename_i free
          refine Or.inr ⟨?_, name, rfl⟩
          simpa using free

theorem ResolutionState.complete_of_other (ticket : Serial.Number)
    (currentEpoch address : BitVec 32) (now : Millis)
    (other : state.active = false ∨ ticket ≠ state.ticket) :
    state.complete ticket currentEpoch address now = (false, state) := by
  rw [complete, if_pos]
  simpa using other

theorem ResolutionState.complete_of_outstanding
    (currentEpoch address : BitVec 32) (now : Millis)
    (active : state.active = true) :
    state.complete state.ticket currentEpoch address now =
      (true,
        { state with
          active := false
          finishedTicket := state.ticket
          finishedEpoch := state.epoch
          finishedStart := state.startedAt
          address :=
            if currentEpoch = state.epoch ∧
              now - state.startedAt < responseBudgetMs then address
            else 0 }) := by
  rw [complete, if_neg]
  simp [active]

theorem ResolutionState.of_poll_resolved {ticket : Serial.Number}
    {epoch : BitVec 32} {now : Millis} {address : BitVec 32}
    (answer : state.poll ticket epoch now = (.resolved, address)) :
    ticket = state.finishedTicket ∧ epoch = state.finishedEpoch ∧
      now - state.finishedStart < responseBudgetMs ∧
      address = state.address ∧ address ≠ 0 := by
  rw [poll] at answer
  split at answer
  · split at answer
    · cases answer
    · split at answer
      · cases answer
      · cases answer
  · split at answer
    · cases answer
    · rename_i known
      simp only [not_or, not_not] at known
      split at answer
      · cases answer
      · rename_i young
        split at answer
        · rename_i some
          cases answer
          exact ⟨known.2.1, known.2.2, BitVec.not_le.mp young, rfl, some⟩
        · cases answer

end Calls

/-! ## The slot and its history -/

variable {ticket : Serial.Number} {epoch : BitVec 32} {startedAt : Millis}
  {history : List Event}

theorem Started.later (started : Started ticket epoch startedAt history)
    (event : Event) : Started ticket epoch startedAt (event :: history) := by
  obtain ⟨host, before, suffix⟩ := started
  exact ⟨host, before, suffix.trans (List.suffix_cons _ _)⟩

theorem Completed.later {address : BitVec 32}
    (completed : Completed ticket epoch startedAt address history)
    (event : Event) :
    Completed ticket epoch startedAt address (event :: history) := by
  obtain ⟨completedAt, before, suffix, rest⟩ := completed
  exact ⟨completedAt, before, suffix.trans (List.suffix_cons _ _), rest⟩

/-- What the slot knows of its history. -/
structure Tracked (resolver : Resolver) : Prop where
  issued : tickets resolver.history =
    Serial.issued 0 (tickets resolver.history).length
  sequence : resolver.state.sequence =
    Serial.advance 0 (tickets resolver.history).length
  outstanding : outstanding resolver.history =
    if resolver.state.active then [resolver.state.ticket] else []
  started : resolver.state.active = true →
    Started resolver.state.ticket resolver.state.epoch
      resolver.state.startedAt resolver.history
  finished : resolver.state.address ≠ 0 →
    Completed resolver.state.finishedTicket resolver.state.finishedEpoch
      resolver.state.finishedStart resolver.state.address resolver.history
  resolved : ∀ ticket epoch now address before,
    .poll ticket epoch now .resolved address :: before <:+ resolver.history →
    address ≠ 0 ∧ ∃ startedAt,
      Completed ticket epoch startedAt address before ∧
        now - startedAt < responseBudgetMs
  vacant : ∀ host epoch now ticket before,
    .begin host epoch now
        { admission := .started
          ticket := ticket } :: before <:+ resolver.history →
      Dns.outstanding before = []

theorem Tracked.initial : Tracked Resolver.initial where
  issued := rfl
  sequence := rfl
  outstanding := rfl
  started := by
    intro active
    cases active
  finished := by
    intro some
    exact absurd rfl some
  resolved := by
    intro ticket epoch now address before suffix
    exact absurd (List.suffix_nil.mp suffix) (List.cons_ne_nil _ _)
  vacant := by
    intro host epoch now ticket before suffix
    exact absurd (List.suffix_nil.mp suffix) (List.cons_ne_nil _ _)

variable {resolver next : Resolver}

theorem Tracked.record (tracked : Tracked resolver) (event : Event)
    (starts : event.startedTicket = none)
    (same : Dns.outstanding (event :: resolver.history) =
      Dns.outstanding resolver.history)
    (answer : ∀ ticket epoch now address,
      event = .poll ticket epoch now .resolved address →
        address ≠ 0 ∧ ∃ startedAt,
          Completed ticket epoch startedAt address resolver.history ∧
            now - startedAt < responseBudgetMs) :
    Tracked
      { state := resolver.state
        history := event :: resolver.history } := by
  have kept : tickets (event :: resolver.history) = tickets resolver.history :=
    List.filterMap_cons_none starts
  constructor
  · rw [kept]
    exact tracked.issued
  · rw [kept]
    exact tracked.sequence
  · rw [same]
    exact tracked.outstanding
  · intro active
    exact (tracked.started active).later event
  · intro some
    exact (tracked.finished some).later event
  · intro ticket epoch now address before suffix
    rcases List.suffix_cons_iff.mp suffix with head | tail
    · cases head
      exact answer ticket epoch now address rfl
    · exact tracked.resolved ticket epoch now address before tail
  · intro host epoch now ticket before suffix
    rcases List.suffix_cons_iff.mp suffix with head | tail
    · cases head
      simp [Event.startedTicket] at starts
    · exact tracked.vacant host epoch now ticket before tail

theorem Tracked.begin (tracked : Tracked resolver) (host : Option CString)
    (epoch : BitVec 32) (now : Millis) :
    Tracked (resolver.called (.begin host epoch now)) := by
  simp only [Resolver.called]
  rcases resolver.state.begin_cases host epoch now with
    ⟨refused, same⟩ | ⟨free, name, starts⟩
  · rw [same]
    apply tracked.record
    · simp [Event.startedTicket, refused]
    · simp [Dns.outstanding, refused]
    · intro ticket epoch now address polled
      cases polled
  · rw [starts]
    have counted : ∀ request : Request, request.admission = .started →
        tickets (.begin host epoch now request :: resolver.history) =
          request.ticket :: tickets resolver.history := by
      intro request started
      apply List.filterMap_cons_some
      simp [Event.startedTicket, started]
    have idle : Dns.outstanding resolver.history = [] := by
      rw [tracked.outstanding, free]
      rfl
    constructor
    · rw [counted _ rfl, List.length_cons, Serial.issued, Serial.advance,
        ← tracked.issued, tracked.sequence]
    · rw [counted _ rfl, List.length_cons, Serial.advance, tracked.sequence]
    · simp [Dns.outstanding, idle]
    · intro active
      exact ⟨host, resolver.history, List.suffix_refl _⟩
    · intro some
      exact (tracked.finished some).later _
    · intro ticket epoch now address before suffix
      rcases List.suffix_cons_iff.mp suffix with head | tail
      · cases head
      · exact tracked.resolved ticket epoch now address before tail
    · intro host epoch now ticket before suffix
      rcases List.suffix_cons_iff.mp suffix with head | tail
      · cases head
        exact idle
      · exact tracked.vacant host epoch now ticket before tail

theorem Tracked.inert (tracked : Tracked resolver)
    (other : ticket ∉ Dns.outstanding resolver.history)
    (currentEpoch address : BitVec 32) (now : Millis) :
    resolver.state.complete ticket currentEpoch address now =
      (false, resolver.state) := by
  apply ResolutionState.complete_of_other
  rw [tracked.outstanding] at other
  cases active : resolver.state.active with
  | false => exact Or.inl rfl
  | true =>
    rw [if_pos active] at other
    exact Or.inr fun same => other (List.mem_singleton.mpr same)

theorem Tracked.complete (tracked : Tracked resolver)
    (ticket : Serial.Number) (currentEpoch address : BitVec 32)
    (now : Millis) :
    Tracked (resolver.called (.complete ticket currentEpoch address now)) := by
  simp only [Resolver.called]
  by_cases held : ticket ∈ Dns.outstanding resolver.history
  · have whole := tracked.outstanding
    split at whole
    · rename_i active
      rw [whole] at held
      cases List.mem_singleton.mp held
      rw [resolver.state.complete_of_outstanding _ _ _ active]
      constructor
      · exact tracked.issued
      · exact tracked.sequence
      · simp [Dns.outstanding, whole]
      · intro again
        cases again
      · intro some
        dsimp only at some ⊢
        split at some
        · rename_i valid
          rw [if_pos valid]
          obtain ⟨rfl, young⟩ := valid
          exact ⟨now, resolver.history, List.suffix_refl _, whole,
            tracked.started active, young⟩
        · exact absurd rfl some
      · intro ticket epoch now address before suffix
        rcases List.suffix_cons_iff.mp suffix with head | tail
        · cases head
        · exact tracked.resolved ticket epoch now address before tail
      · intro host epoch now ticket before suffix
        rcases List.suffix_cons_iff.mp suffix with head | tail
        · cases head
        · exact tracked.vacant host epoch now ticket before tail
    · rw [whole] at held
      cases held
  · rw [tracked.inert held]
    apply tracked.record
    · rfl
    · exact List.erase_of_not_mem held
    · intro ticket epoch now address polled
      cases polled

theorem Tracked.poll (tracked : Tracked resolver) (ticket : Serial.Number)
    (epoch : BitVec 32) (now : Millis) :
    Tracked (resolver.called (.poll ticket epoch now)) := by
  simp only [Resolver.called]
  apply tracked.record
  · rfl
  · rfl
  · intro asked current moment address polled
    simp only [Event.poll.injEq] at polled
    obtain ⟨rfl, rfl, rfl, resolved, handed⟩ := polled
    have answer : resolver.state.poll ticket epoch now =
        (.resolved, address) :=
      Prod.ext resolved handed
    obtain ⟨rfl, rfl, young, rfl, some⟩ :=
      ResolutionState.of_poll_resolved answer
    exact ⟨some, resolver.state.finishedStart, tracked.finished some, young⟩

theorem Tracked.called (tracked : Tracked resolver) (call : Call) :
    Tracked (resolver.called call) := by
  cases call with
  | begin host epoch now => exact tracked.begin host epoch now
  | complete ticket currentEpoch address now =>
    exact tracked.complete ticket currentEpoch address now
  | poll ticket epoch now => exact tracked.poll ticket epoch now

theorem tracked_of_steps {allowed : Resolver → Call → Prop}
    (steps : System.Steps Resolver.step allowed Resolver.initial resolver) :
    Tracked resolver := by
  apply steps.invariant Tracked.initial
  intro state call next tracked _ taken
  cases taken
  exact tracked.called call

/-- As long as the tickets have not gone round, no answer is stale. -/
theorem neverStale_of_steps {allowed : Resolver → Call → Prop}
    (steps : System.Steps Resolver.step allowed Resolver.initial resolver)
    (few : (tickets resolver.history).length < 4294967296) :
    NeverStale resolver := by
  have tracked := tracked_of_steps steps
  constructor
  · exact tracked.resolved
  · rw [tracked.issued]
    apply Serial.issued_nodup
    exact Nat.le_of_lt_succ few
  · rw [tracked.outstanding]
    split
    · exact Nat.le_refl 1
    · exact Nat.zero_le 1
  · exact tracked.vacant
  · intro ticket currentEpoch address now other
    exact tracked.inert other currentEpoch address now

/-- An answer that comes after the clock has wrapped, then a lookup whose
callback is late. -/
theorem neverStale_across_wrap :
    ∃ resolver,
      System.Steps Resolver.step (fun _ _ => True) Resolver.initial resolver ∧
      resolver.history.map Event.startedTicket =
        [none, none, none, some 2, none, none, some 1] ∧
      .poll 1 7 200 .resolved 42 ∈ resolver.history ∧
      .poll 2 7 1500 .expired 0 ∈ resolver.history ∧
      .poll 2 7 1700 .expired 0 ∈ resolver.history ∧
      NeverStale resolver := by
  let host : CString :=
    { bytes := [101, 107, 105]
      terminated := by decide }
  let calls : List Call :=
    [.begin (some host) 7 4294967000, .complete 1 7 42 100, .poll 1 7 200,
      .begin (some host) 7 300, .poll 2 7 1500, .complete 2 7 43 1600,
      .poll 2 7 1700]
  have decided :
      (System.run Resolver.step (fun _ _ => true) Resolver.initial calls).any
        (fun resolver =>
          decide (resolver.history.map Event.startedTicket =
            [none, none, none, some 2, none, none, some 1]) &&
          decide (.poll 1 7 200 .resolved 42 ∈ resolver.history) &&
          decide (.poll 2 7 1500 .expired 0 ∈ resolver.history) &&
          decide (.poll 2 7 1700 .expired 0 ∈ resolver.history) &&
          decide ((tickets resolver.history).length < 4294967296)) = true := by
    decide +kernel
  obtain ⟨resolver, ran, holds⟩ := System.exists_of_run decided
  have steps : System.Steps Resolver.step (fun _ _ => True) _ resolver :=
    ran.mono fun _ _ _ => trivial
  simp only [Bool.and_eq_true, decide_eq_true_eq] at holds
  obtain ⟨⟨⟨⟨started, resolved⟩, expired⟩, late⟩, few⟩ := holds
  exact ⟨resolver, steps, started, resolved, expired, late,
    neverStale_of_steps steps few⟩

end Eki.Firmware.Dns
