import Mathlib.Data.List.Sort
import Eki.Work.WritesInOrder

/-!
# A needed write is not dropped

A fingerprint that is remembered for a key is the one of the last write that
was admitted, and that write has not failed as far as its callback knows.  The
writes of a key run in the order of their admission.
-/

namespace Eki.Work

open Insertion Transition
open List (append_nil map_append mem_append mem_append_left mem_append_right
  mem_filter mem_map_of_mem mem_singleton mem_singleton_self)

namespace ChangeWriter

variable {K R V E F : Type} [DecidableEq K] [DecidableEq F] [JsNumber R]
  {options : WriterOptions R} {writer : ChangeWriter K R V E F}

/-! ## The last of a key -/

section Latest

variable {α : Type} {keyOf : α → K} {items : List α} {item : α} {key : K}

def latest (keyOf : α → K) (items : List α) (key : K) : Option α :=
  (items.filter fun item => keyOf item = key).getLast?

theorem latest_append_self (same : keyOf item = key) :
    latest keyOf (items ++ [item]) key = some item := by
  unfold latest
  rw [List.filter_append, List.filter_cons_of_pos (by simpa using same),
    List.filter_nil, List.getLast?_concat]

theorem latest_append_of_ne (different : keyOf item ≠ key) :
    latest keyOf (items ++ [item]) key = latest keyOf items key := by
  unfold latest
  rw [List.filter_append, List.filter_cons_of_neg (by simpa using different),
    List.filter_nil, append_nil]

theorem mem_of_latest (found : latest keyOf items key = some item) :
    item ∈ items ∧ keyOf item = key := by
  have member := List.mem_of_getLast? found
  rw [mem_filter] at member
  exact ⟨member.1, of_decide_eq_true member.2⟩

end Latest

def admissionsOf (writer : ChangeWriter K R V E F) (key : K) :
    List (AdmittedWrite K F) :=
  writer.admissions.filter fun admission => admission.key = key

def lastAdmission (writer : ChangeWriter K R V E F) (key : K) :
    Option (AdmittedWrite K F) :=
  latest AdmittedWrite.key writer.admissions key

def lastAsk (writer : ChangeWriter K R V E F) (key : K) : Option (Ask K F) :=
  latest Ask.key writer.asks key

/-! ## The admissions and the executor -/

structure Admits (options : WriterOptions R)
    (writer : ChangeWriter K R V E F) : Prop where
  logged : Executor.Logged options.toExecutionBudgets writer.executor
    writer.events
  sorted : (writer.admissions.map AdmittedWrite.id).Pairwise (· < ·)
  below : ∀ admission ∈ writer.admissions,
    admission.id < writer.executor.nextId
  own : ∀ key, ∀ id ∈ writer.executor.tasksOf (writer.owner, key),
    ∃ admission ∈ writer.admissions,
      admission.id = id ∧ admission.key = key
  only : ∀ admission ∈ writer.admissions, ∀ other,
    admission.id ∈ writer.executor.tasksOf other →
    other = (writer.owner, admission.key)

omit [DecidableEq F] in
theorem admits_new (owner : Nat) :
    Admits options (new owner : ChangeWriter K R V E F) := by
  constructor
  · exact Executor.logged_new
  · exact List.Pairwise.nil
  · intro admission member
    cases member
  · intro key id member
    cases member
  · intro admission member
    cases member

omit [DecidableEq F] in
theorem Admits.execute (admits : Admits options writer)
    {label : ExecutorLabel (Nat × K) R V E}
    {after : Executor (Nat × K) R V E}
    (foreign : ∀ key now, label ≠ .run (writer.owner, key) now)
    (taken : Executor.step options.toExecutionBudgets writer.executor label =
      some after) :
    Admits options
      { writer with
        executor := after
        events := writer.events ++ after.observed label } := by
  have kept := admits.logged.sound.toKept
  constructor
  · exact admits.logged.step taken
  · exact admits.sorted
  · intro admission member
    exact Nat.lt_of_lt_of_le (admits.below admission member)
      (Executor.step_nextId taken)
  · intro key id member
    rcases kept.step_tasksOf taken member with before | ⟨-, -, now, same⟩
    · exact admits.own key id before
    · exact absurd same (foreign key now)
  · intro admission member other task
    rcases kept.step_tasksOf taken task with before | ⟨latest, -⟩
    · exact admits.only admission member other before
    · have lower := admits.below admission member
      rw [latest] at lower
      exact absurd lower (Nat.lt_irrefl _)

variable {key : K} {after : ChangeWriter K R V E F}

omit [DecidableEq F] in
theorem Admits.admitted (admits : Admits options writer)
    (room : writer.executor.canRun options.toExecutionBudgets
      (writer.owner, key) = true) (fingerprint : Option F) (now : R)
    (owner : after.owner = writer.owner)
    (executor : after.executor = writer.executor.run
      options.toExecutionBudgets (writer.owner, key) now)
    (admissions : after.admissions = writer.admissions ++
      [{ id := writer.executor.nextId
         key
         fingerprint }]) (events : after.events = writer.events) :
    Admits options after := by
  have kept := admits.logged.sound.toKept
  have tasks := kept.run_tasksOf room now
  have nextId := Executor.run_nextId room now
  constructor
  · rw [executor, events]
    exact admits.logged.run (writer.owner, key) now
  · rw [admissions, map_append, List.pairwise_append]
    refine ⟨admits.sorted, List.pairwise_singleton _ _, ?_⟩
    intro earlier member latest same
    obtain ⟨admission, inside, named⟩ := List.mem_map.mp member
    rw [mem_singleton.mp same, ← named]
    exact admits.below admission inside
  · intro admission member
    rw [executor, nextId]
    rw [admissions] at member
    rcases mem_append.mp member with before | latest
    · exact Nat.lt_succ_of_lt (admits.below admission before)
    · rw [mem_singleton.mp latest]
      exact Nat.lt_succ_self _
  · intro other id member
    rw [executor, owner, tasks] at member
    rw [admissions]
    rcases mem_append.mp member with before | latest
    · obtain ⟨admission, inside, found⟩ := admits.own other id before
      exact ⟨admission, mem_append_left _ inside, found⟩
    · split at latest
      · rename_i same
        have keys : other = key := congrArg Prod.snd same
        refine ⟨_, mem_append_right _ (mem_singleton_self _), ?_, keys.symm⟩
        exact (mem_singleton.mp latest).symm
      · cases latest
  · intro admission member other task
    rw [executor, tasks] at task
    rw [owner]
    rw [admissions] at member
    rcases mem_append.mp member with before | latest
    · rcases mem_append.mp task with held | joined
      · exact admits.only admission before other held
      · have lower := admits.below admission before
        split at joined
        · rw [mem_singleton.mp joined] at lower
          exact absurd lower (Nat.lt_irrefl _)
        · cases joined
    · rw [mem_singleton.mp latest] at task ⊢
      rcases mem_append.mp task with held | joined
      · have lower := admits.logged.fair.below other _ held
        exact absurd lower (Nat.lt_irrefl _)
      · split at joined
        · assumption
        · cases joined

/-! ## The fingerprints -/

structure Remembers (writer : ChangeWriter K R V E F) : Prop where
  callbacks : writer.callbacks.Sublist writer.admissions
  queued : ∀ key id, writer.queues.get key = some id →
    ∃ admission ∈ writer.callbacks, admission.id = id ∧
      writer.lastAdmission key = some admission
  waiting : ∀ key, ∀ admission ∈ writer.callbacks,
    writer.lastAdmission key = some admission →
    writer.queues.get key = some admission.id
  remembered : ∀ key fingerprint,
    writer.fingerprints.get key = some fingerprint →
    ∃ admission, writer.lastAdmission key = some admission ∧
      admission.fingerprint = some fingerprint ∧
      (admission ∈ writer.callbacks ∨
        ∃ value, (admission.id, .own (.ok value)) ∈ writer.executor.settled)
  asked : ∀ key ask, writer.lastAsk key = some ask →
    ask.answer = .refused ∨
      ∃ admission, writer.lastAdmission key = some admission ∧
        admission.fingerprint = ask.fingerprint

omit [DecidableEq F] [JsNumber R] in
theorem remembers_new (owner : Nat) :
    Remembers (new owner : ChangeWriter K R V E F) := by
  constructor
  · exact List.Sublist.refl _
  · intro key id stored
    cases stored
  · intro key admission member
    cases member
  · intro key fingerprint stored
    cases stored
  · intro key ask found
    cases found

omit [DecidableEq F] [JsNumber R] in
theorem Remembers.frame (remembers : Remembers writer)
    (callbacks : after.callbacks = writer.callbacks)
    (admissions : after.admissions = writer.admissions)
    (queues : after.queues = writer.queues) (asks : after.asks = writer.asks)
    (settled : ∀ entry ∈ writer.executor.settled,
      entry ∈ after.executor.settled) (fingerprints : ∀ key fingerprint,
      after.fingerprints.get key = some fingerprint →
      writer.fingerprints.get key = some fingerprint) : Remembers after := by
  have last : ∀ key, after.lastAdmission key = writer.lastAdmission key := by
    intro key
    unfold lastAdmission
    rw [admissions]
  constructor
  · rw [callbacks, admissions]
    exact remembers.callbacks
  · intro key id stored
    rw [queues] at stored
    rw [callbacks, last]
    exact remembers.queued key id stored
  · intro key admission member found
    rw [callbacks] at member
    rw [last] at found
    rw [queues]
    exact remembers.waiting key admission member found
  · intro key fingerprint stored
    obtain ⟨admission, found, same, alive⟩ :=
      remembers.remembered key fingerprint (fingerprints key fingerprint stored)
    refine ⟨admission, (last key).trans found, same, ?_⟩
    rw [callbacks]
    rcases alive with pending | ⟨value, done⟩
    · exact Or.inl pending
    · exact Or.inr ⟨value, settled _ done⟩
  · intro key ask found
    unfold lastAsk at found
    rw [asks] at found
    rw [last]
    exact remembers.asked key ask found

omit [JsNumber R] in
theorem retry_fingerprints {other : K} {fingerprint found : F}
    (stored : (writer.retry key fingerprint).fingerprints.get other =
      some found) : writer.fingerprints.get other = some found := by
  unfold retry at stored
  simp only at stored
  split at stored
  · have before := OrderedMap.get_of_get_delete stored
    rw [Reads.LruCache.get_touch] at before
    exact before
  · rw [Reads.LruCache.get_touch] at stored
    exact stored

omit [JsNumber R] in
theorem retry_forgets (key : K) (fingerprint : F) :
    (writer.retry key fingerprint).fingerprints.get key ≠
      some fingerprint := by
  unfold retry
  simp only
  split
  · rw [OrderedMap.get_delete_self]
    intro same
    cases same
  · rename_i other
    rw [Reads.LruCache.get_touch]
    exact other

/-! ## Enqueue -/

variable {fingerprint : Option F}

theorem answer_suppressed {pending : Option Nat}
    (answered : writer.answer options key fingerprint = .suppressed pending) :
    pending = writer.queues.get key ∧
      ∃ value, fingerprint = some value ∧
        writer.fingerprints.get key = some value := by
  unfold answer at answered
  split at answered
  · rename_i same
    rw [Bool.and_eq_true, beq_iff_eq] at same
    cases answered
    obtain ⟨value, has⟩ := Option.isSome_iff_exists.mp same.1
    exact ⟨rfl, value, has, same.2.trans has⟩
  · split at answered
    · cases answered
    · cases answered

variable {id : Nat}

theorem answer_queued
    (answered : writer.answer options key fingerprint = .queued id) :
    id = writer.executor.nextId ∧
      writer.executor.canRun options.toExecutionBudgets (writer.owner, key) =
        true := by
  unfold answer at answered
  split at answered
  · cases answered
  · split at answered
    · cases answered
    · rename_i room
      cases answered
      exact ⟨rfl, by simpa using room⟩

theorem answer_refused
    (answered : writer.answer options key fingerprint = .refused) :
    writer.executor.canRun options.toExecutionBudgets (writer.owner, key) =
      false := by
  unfold answer at answered
  split at answered
  · cases answered
  · split at answered
    · rename_i full
      simpa using full
    · cases answered

theorem Remembers.suppressed (remembers : Remembers writer)
    {pending : Option Nat} (answered : writer.answer options key fingerprint =
      .suppressed pending) :
    ∃ admission, writer.lastAdmission key = some admission ∧
      admission.fingerprint = fingerprint ∧
      (pending = some admission.id ∨
        pending = none ∧
          ∃ value,
            (admission.id, .own (.ok value)) ∈ writer.executor.settled) := by
  obtain ⟨queue, value, given, stored⟩ := answer_suppressed answered
  obtain ⟨admission, found, same, alive⟩ :=
    remembers.remembered key value stored
  refine ⟨admission, found, same.trans given.symm, ?_⟩
  rw [queue]
  by_cases waits : admission ∈ writer.callbacks
  · exact Or.inl (remembers.waiting key admission waits found)
  · rcases alive with member | done
    · exact absurd member waits
    · refine Or.inr ⟨?_, done⟩
      cases entry : writer.queues.get key with
      | none => rfl
      | some id =>
        obtain ⟨other, member, -, last⟩ := remembers.queued key id entry
        rw [found] at last
        cases last
        exact absurd member waits

omit [DecidableEq F] [JsNumber R] in
theorem Remembers.ask (remembers : Remembers writer) {answer : Answer}
    (callbacks : after.callbacks = writer.callbacks)
    (admissions : after.admissions = writer.admissions)
    (queues : after.queues = writer.queues) (asks : after.asks = writer.asks ++
      [{ key
         fingerprint
         answer }])
    (settled : after.executor.settled = writer.executor.settled)
    (fingerprints : ∀ other,
      after.fingerprints.get other = writer.fingerprints.get other)
    (own : answer = .refused ∨
      ∃ admission, writer.lastAdmission key = some admission ∧
        admission.fingerprint = fingerprint) : Remembers after := by
  have last : ∀ other,
      after.lastAdmission other = writer.lastAdmission other := by
    intro other
    unfold lastAdmission
    rw [admissions]
  have framed : Remembers { after with asks := writer.asks } := by
    refine remembers.frame callbacks admissions queues rfl ?_ ?_
    · intro entry member
      rw [settled]
      exact member
    · intro other found stored
      rw [← fingerprints]
      exact stored
  constructor
  · exact framed.callbacks
  · exact framed.queued
  · exact framed.waiting
  · exact framed.remembered
  · intro other ask found
    unfold lastAsk at found
    rw [asks] at found
    rw [last]
    by_cases same : key = other
    · rw [latest_append_self same] at found
      cases found
      rw [← same]
      exact own
    · rw [latest_append_of_ne same] at found
      exact remembers.asked other ask found

omit [DecidableEq F] [JsNumber R] in
theorem Remembers.admitted (remembers : Remembers writer) {fingerprint : F}
    (callbacks : after.callbacks = writer.callbacks ++
      [{ id := writer.executor.nextId
         key
         fingerprint := some fingerprint }])
    (admissions : after.admissions = writer.admissions ++
      [{ id := writer.executor.nextId
         key
         fingerprint := some fingerprint }]) (queues : after.queues =
      writer.queues.set key writer.executor.nextId)
    (asks : after.asks = writer.asks ++
      [{ key
         fingerprint := some fingerprint
         answer := .queued writer.executor.nextId }])
    (settled : after.executor.settled = writer.executor.settled)
    (fingerprints : ∀ other found,
      after.fingerprints.get other = some found →
      (other = key ∧ found = fingerprint) ∨
        (other ≠ key ∧ writer.fingerprints.get other = some found)) :
    Remembers after := by
  have own : after.lastAdmission key =
      some
        { id := writer.executor.nextId
          key
          fingerprint := some fingerprint } := by
    unfold lastAdmission
    rw [admissions]
    exact latest_append_self rfl
  have others : ∀ other, other ≠ key →
      after.lastAdmission other = writer.lastAdmission other := by
    intro other different
    unfold lastAdmission
    rw [admissions]
    exact latest_append_of_ne (Ne.symm different)
  have fresh : ∀ other admission,
      writer.lastAdmission other = some admission → other ≠ key →
      admission ∈ after.callbacks → admission ∈ writer.callbacks := by
    intro other admission found different member
    rw [callbacks] at member
    rcases mem_append.mp member with before | latest
    · exact before
    · have keyed := (mem_of_latest found).2
      rw [mem_singleton.mp latest] at keyed
      exact absurd keyed.symm different
  constructor
  · rw [callbacks, admissions]
    exact remembers.callbacks.append (List.Sublist.refl _)
  · intro other id stored
    rw [queues] at stored
    rw [callbacks]
    by_cases same : other = key
    · subst same
      rw [OrderedMap.get_set_self] at stored
      cases stored
      exact ⟨_, mem_append_right _ (mem_singleton_self _), rfl, own⟩
    · rw [OrderedMap.get_set_of_ne same] at stored
      obtain ⟨admission, member, named, found⟩ :=
        remembers.queued other id stored
      exact ⟨admission, mem_append_left _ member, named,
        (others other same).trans found⟩
  · intro other admission member found
    rw [queues]
    by_cases same : other = key
    · subst same
      rw [own] at found
      cases found
      exact OrderedMap.get_set_self
    · rw [others other same] at found
      rw [OrderedMap.get_set_of_ne same]
      exact remembers.waiting other admission
        (fresh other admission found same member) found
  · intro other found stored
    rcases fingerprints other found stored with ⟨same, value⟩ | ⟨different, held⟩
    · subst same
      rw [value]
      refine ⟨_, own, rfl, Or.inl ?_⟩
      rw [callbacks]
      exact mem_append_right _ (mem_singleton_self _)
    · obtain ⟨admission, last, same, alive⟩ :=
        remembers.remembered other found held
      refine ⟨admission, (others other different).trans last, same, ?_⟩
      rw [callbacks, settled]
      exact alive.imp (mem_append_left _) id
  · intro other ask found
    unfold lastAsk at found
    rw [asks] at found
    by_cases same : key = other
    · rw [latest_append_self same] at found
      cases found
      rw [← same]
      exact Or.inr ⟨_, own, rfl⟩
    · rw [latest_append_of_ne same] at found
      rw [others other (Ne.symm same)]
      exact remembers.asked other ask found

structure Keeps (options : WriterOptions R)
    (writer : ChangeWriter K R V E F) : Prop where
  admits : Admits options writer
  remembers : Remembers writer

theorem Keeps.enqueue (keeps : Keeps options writer) (key : K)
    (fingerprint : F) (now : R) :
    Keeps options (writer.enqueue options key (some fingerprint) now) := by
  have touched : ∀ other,
      (Reads.LruCache.touch key writer.fingerprints).get other =
        writer.fingerprints.get other := fun other =>
    Reads.LruCache.get_touch
  cases answered : writer.answer options key (some fingerprint) with
  | suppressed pending =>
    simp only [ChangeWriter.enqueue, answered]
    constructor
    · exact
        { logged := keeps.admits.logged
          sorted := keeps.admits.sorted
          below := keeps.admits.below
          own := keeps.admits.own
          only := keeps.admits.only }
    · obtain ⟨admission, found, same, -⟩ :=
        keeps.remembers.suppressed answered
      exact keeps.remembers.ask rfl rfl rfl rfl rfl touched
        (Or.inr ⟨admission, found, same⟩)
  | refused =>
    have full := answer_refused answered
    simp only [ChangeWriter.enqueue, answered]
    rw [Executor.run_refused full]
    have admits := keeps.admits
    constructor
    · have logged := admits.logged.run (writer.owner, key) now
      rw [Executor.run_refused full] at logged
      exact
        { logged
          sorted := admits.sorted
          below := admits.below
          own := admits.own
          only := admits.only }
    · exact keeps.remembers.ask rfl rfl rfl rfl rfl touched (Or.inl rfl)
  | queued id =>
    obtain ⟨latest, room⟩ := answer_queued answered
    subst latest
    simp only [ChangeWriter.enqueue, answered]
    constructor
    · exact keeps.admits.admitted room (some fingerprint) now rfl rfl rfl rfl
    · refine keeps.remembers.admitted rfl rfl rfl rfl ?_ ?_
      · exact (Executor.run_frame options.toExecutionBudgets writer.executor
          (writer.owner, key) now).2
      · intro other found stored
        simp only [Option.elim_some] at stored
        by_cases same : other = key
        · subst same
          exact Or.inl ⟨rfl, Reads.LruCache.get_of_get_set_self stored⟩
        · rcases Reads.LruCache.get_of_get_set stored with own | before
          · exact absurd own.1 same
          · simp only [Option.isSome_some, if_true] at before
            rw [touched] at before
            exact Or.inr ⟨same, before⟩

/-! ## Callbacks -/

omit [DecidableEq F] in
theorem Admits.one_admission (admits : Admits options writer)
    {first second : AdmittedWrite K F} (left : first ∈ writer.admissions)
    (right : second ∈ writer.admissions) (same : first.id = second.id) :
    first = second :=
  List.inj_on_of_nodup_map (admits.sorted.imp fun lower => Nat.ne_of_lt lower)
    left right same

variable {admission : AdmittedWrite K F} {outcome : Outcome V E}

section

omit [JsNumber R]

theorem handled_fingerprints {fingerprint : F}
    (stored : (writer.handled admission outcome).fingerprints.get key =
      some fingerprint) : writer.fingerprints.get key = some fingerprint := by
  unfold handled at stored
  simp only at stored
  split at stored
  · exact stored
  · cases given : admission.fingerprint with
    | none =>
      rw [given] at stored
      exact stored
    | some value =>
      rw [given] at stored
      exact retry_fingerprints stored

theorem handled_forgets {fingerprint : F} (failed : succeeded outcome = false)
    (given : admission.fingerprint = some fingerprint) :
    (writer.handled admission outcome).fingerprints.get admission.key ≠
      some fingerprint := by
  unfold handled
  simp only [failed, Bool.false_eq_true, if_false, given, Option.elim_some]
  exact retry_forgets admission.key fingerprint

theorem handled_frame (writer : ChangeWriter K R V E F)
    (admission : AdmittedWrite K F) (outcome : Outcome V E) :
    (writer.handled admission outcome).owner = writer.owner ∧
      (writer.handled admission outcome).executor = writer.executor ∧
      (writer.handled admission outcome).admissions = writer.admissions ∧
      (writer.handled admission outcome).asks = writer.asks ∧
      (writer.handled admission outcome).events = writer.events := by
  unfold handled
  simp only
  split
  · exact ⟨rfl, rfl, rfl, rfl, rfl⟩
  · cases admission.fingerprint with
    | none | some => exact ⟨rfl, rfl, rfl, rfl, rfl⟩

end

theorem Remembers.handled (remembers : Remembers writer)
    (admits : Admits options writer) (member : admission ∈ writer.callbacks)
    (settled : (admission.id, outcome) ∈ writer.executor.settled) :
    Remembers (writer.handled admission outcome) := by
  obtain ⟨-, executor, admissions, asks, -⟩ :=
    writer.handled_frame admission outcome
  have callbacks : (writer.handled admission outcome).callbacks =
      writer.callbacks.filter fun other => other.id != admission.id := rfl
  have queues : (writer.handled admission outcome).queues =
      if writer.queues.get admission.key = some admission.id then
        writer.queues.delete admission.key
      else writer.queues := rfl
  have last : ∀ key, (writer.handled admission outcome).lastAdmission key =
      writer.lastAdmission key := by
    intro key
    unfold lastAdmission
    rw [admissions]
  have one : ∀ other ∈ writer.callbacks, other.id = admission.id →
      other = admission := by
    intro other inside same
    exact admits.one_admission (remembers.callbacks.subset inside)
      (remembers.callbacks.subset member) same
  constructor
  · rw [callbacks, admissions]
    exact List.filter_sublist.trans remembers.callbacks
  · intro key id stored
    rw [queues] at stored
    have before : writer.queues.get key = some id := by
      split at stored
      · exact OrderedMap.get_of_get_delete stored
      · exact stored
    obtain ⟨other, waits, named, found⟩ := remembers.queued key id before
    refine ⟨other, ?_, named, (last key).trans found⟩
    rw [callbacks, mem_filter]
    refine ⟨waits, bne_iff_ne.mpr ?_⟩
    intro same
    have this_one := one other waits same
    have keyed := (mem_of_latest found).2
    rw [this_one] at keyed named
    rw [← keyed, ← named] at before
    rw [if_pos before, ← keyed, OrderedMap.get_delete_self] at stored
    cases stored
  · intro key other inside found
    rw [callbacks, mem_filter] at inside
    rw [last] at found
    have stored := remembers.waiting key other inside.1 found
    rw [queues]
    split
    · rename_i queued
      have different : key ≠ admission.key := by
        intro same
        rw [same, queued] at stored
        exact bne_iff_ne.mp inside.2 (Option.some.inj stored).symm
      rw [OrderedMap.get_delete_of_ne different]
      exact stored
    · exact stored
  · intro key fingerprint stored
    obtain ⟨other, found, same, alive⟩ :=
      remembers.remembered key fingerprint (handled_fingerprints stored)
    refine ⟨other, (last key).trans found, same, ?_⟩
    rw [callbacks, executor]
    rcases alive with waits | done
    · by_cases named : other.id = admission.id
      · have this_one := one other waits named
        subst this_one
        cases success : succeeded outcome with
        | false =>
          have keyed := (mem_of_latest found).2
          rw [← keyed] at stored
          exact absurd stored (handled_forgets success same)
        | true =>
          right
          cases outcome with
          | expired => cases success
          | own result =>
            cases result with
            | error => cases success
            | ok value => exact ⟨value, settled⟩
      · left
        exact mem_filter.mpr ⟨waits, bne_iff_ne.mpr named⟩
    · exact Or.inr done
  · intro key ask found
    unfold lastAsk at found
    rw [asks] at found
    rw [last]
    exact remembers.asked key ask found

theorem Keeps.handle (keeps : Keeps options writer)
    (taken : writer.handle id = some after) : Keeps options after := by
  unfold ChangeWriter.handle at taken
  split at taken
  · rename_i admission named outcome known settled
    cases taken
    have member := List.mem_of_find?_eq_some known
    have same : admission.id = id := by
      simpa using List.find?_some known
    have told : named = id := by
      simpa using List.find?_some settled
    have entry := List.mem_of_find?_eq_some settled
    rw [told, ← same] at entry
    constructor
    · obtain ⟨owner, executor, admissions, -, events⟩ :=
        writer.handled_frame admission outcome
      constructor
      · rw [executor, events]
        exact keeps.admits.logged
      · rw [admissions]
        exact keeps.admits.sorted
      · rw [admissions, executor]
        exact keeps.admits.below
      · rw [owner, executor, admissions]
        exact keeps.admits.own
      · rw [owner, executor, admissions]
        exact keeps.admits.only
    · exact keeps.remembers.handled keeps.admits member entry
  · cases taken

/-! ## Whole runs -/

def fingerprinted (_ : ChangeWriter K R V E F) :
    WriterLabel K R V E F → Prop
  | .enqueue _ fingerprint _ => fingerprint.isSome = true
  | _ => True

omit [DecidableEq F] in
theorem Keeps.forget (keeps : Keeps options writer)
    {fingerprints : OrderedMap K F}
    (fewer : ∀ key fingerprint, fingerprints.get key = some fingerprint →
      writer.fingerprints.get key = some fingerprint) :
    Keeps options { writer with fingerprints } := by
  constructor
  · exact
      { logged := keeps.admits.logged
        sorted := keeps.admits.sorted
        below := keeps.admits.below
        own := keeps.admits.own
        only := keeps.admits.only }
  · exact keeps.remembers.frame rfl rfl rfl rfl (fun _ member => member) fewer

omit [DecidableEq F] in
theorem Keeps.execute (keeps : Keeps options writer)
    {label : ExecutorLabel (Nat × K) R V E}
    (taken : writer.execute options label = some after) :
    Keeps options after := by
  unfold ChangeWriter.execute at taken
  split at taken
  · rename_i foreign
    obtain ⟨executor, moved, same⟩ := Option.map_eq_some_iff.mp taken
    cases same
    constructor
    · apply keeps.admits.execute _ moved
      intro key now own
      rw [own] at foreign
      simp [ChangeWriter.foreign] at foreign
    · exact keeps.remembers.frame rfl rfl rfl rfl
        (Executor.step_settled moved) (fun _ _ stored => stored)
  · cases taken

theorem Keeps.step (keeps : Keeps options writer)
    {label : WriterLabel K R V E F} {after : ChangeWriter K R V E F}
    (given : fingerprinted writer label)
    (taken : ChangeWriter.step options writer label = some after) :
    Keeps options after := by
  cases label with
  | enqueue key fingerprint now =>
    cases taken
    obtain ⟨value, same⟩ := Option.isSome_iff_exists.mp given
    subst same
    exact keeps.enqueue key value now
  | handle id => exact keeps.handle taken
  | retry key fingerprint =>
    cases taken
    exact keeps.forget fun _ _ stored => retry_fingerprints stored
  | forgetFingerprint | invalidate =>
    cases taken
    exact keeps.forget fun _ _ stored => OrderedMap.get_of_get_delete stored
  | clear =>
    cases taken
    apply keeps.forget
    intro key fingerprint stored
    cases stored
  | execute label => exact keeps.execute taken

structure Needed (options : WriterOptions R)
    (writer : ChangeWriter K R V E F) : Prop where
  /-- The writes of a key run one after another, as they were admitted. -/
  serial : ∀ key, ∃ (done : List (Nat × Except E V)) (running : Option Nat),
    eventsOf (writer.owner, key) writer.events =
      runs (writer.owner, key) done ++
        running.toList.map (WriteEvent.began (writer.owner, key)) ∧
    (done.map Prod.fst ++ running.toList).Sublist
      ((writer.admissionsOf key).map AdmittedWrite.id)
  /-- A write is left out only if the last one that was admitted had the same
  fingerprint; the promise is that one's, or that one has succeeded. -/
  suppressed : ∀ key fingerprint pending,
    writer.answer options key (some fingerprint) = .suppressed pending →
    ∃ admission, writer.lastAdmission key = some admission ∧
      admission.fingerprint = some fingerprint ∧
      (pending = some admission.id ∨
        pending = none ∧ ∃ value,
          .ended (writer.owner, key) admission.id (.ok value) ∈ writer.events)
  /-- A promise resolves only if its write has succeeded. -/
  resolves : ∀ admission ∈ writer.admissions, ∀ value,
    (admission.id, .own (.ok value)) ∈ writer.executor.settled →
    .ended (writer.owner, admission.key) admission.id (.ok value) ∈
      writer.events
  /-- With every write settled and successful, the last one that was written
  has the fingerprint that was enqueued last. -/
  lastWritten : ∀ key ask, writer.lastAsk key = some ask →
    ask.answer ≠ .refused →
    (∀ admission ∈ writer.admissionsOf key, ∃ value,
      (admission.id, .own (.ok value)) ∈ writer.executor.settled) →
    ∃ before, ∃ admission ∈ writer.admissionsOf key, ∃ value,
      eventsOf (writer.owner, key) writer.events =
        before ++ [.ended (writer.owner, key) admission.id (.ok value)] ∧
      admission.fingerprint = ask.fingerprint

section

omit [DecidableEq F]

variable (admits : Admits options writer)

include admits

theorem Admits.admitted_of_taken
    (taken : id ∈ writer.executor.dispatchedOf (writer.owner, key)) :
    ∃ admission ∈ writer.admissionsOf key, admission.id = id := by
  obtain ⟨admission, member, named, keyed⟩ :=
    admits.own key id (mem_append_left _ taken)
  refine ⟨admission, mem_filter.mpr ⟨member, ?_⟩, named⟩
  exact decide_eq_true keyed

theorem Admits.done_of_result (member : admission ∈ writer.admissions)
    {result : Except E V}
    (known : (admission.id, result) ∈ writer.executor.results)
    {done : List (Nat × Except E V)} {running : Option Nat}
    (serial : Executor.Serial writer.executor writer.events
      (writer.owner, admission.key) done running) :
    (admission.id, result) ∈ done := by
  obtain ⟨other, taken⟩ := admits.logged.resultTaken _ known
  have task := mem_append_left
    (writer.executor.pendingIds other) taken
  have keyed := admits.only admission member other task
  rw [keyed] at task
  exact serial.complete _ known task

theorem Admits.resolves (member : admission ∈ writer.admissions) {value : V}
    (settled : (admission.id, .own (.ok value)) ∈ writer.executor.settled) :
    .ended (writer.owner, admission.key) admission.id (.ok value) ∈
      writer.events := by
  obtain ⟨done, running, serial⟩ :=
    admits.logged.serial (writer.owner, admission.key)
  have known := admits.logged.honest.own _ _ settled
  have ran := admits.done_of_result member known serial
  have logged : WriteEvent.ended (writer.owner, admission.key) admission.id
      (.ok value) ∈ eventsOf (writer.owner, admission.key) writer.events := by
    rw [serial.log]
    apply mem_append_left
    refine List.mem_flatMap.mpr ⟨_, ran, ?_⟩
    exact List.mem_cons_of_mem _ (mem_singleton_self _)
  exact (mem_filter.mp logged).1

theorem Admits.serial (key : K) :
    ∃ (done : List (Nat × Except E V)) (running : Option Nat),
      eventsOf (writer.owner, key) writer.events =
        runs (writer.owner, key) done ++
          running.toList.map (WriteEvent.began (writer.owner, key)) ∧
      (done.map Prod.fst ++ running.toList).Sublist
        ((writer.admissionsOf key).map AdmittedWrite.id) := by
  obtain ⟨done, running, serial⟩ := admits.logged.serial (writer.owner, key)
  refine ⟨done, running, serial.log, ?_⟩
  have sorted : ((writer.admissionsOf key).map
      AdmittedWrite.id).Pairwise (· < ·) :=
    admits.sorted.sublist (List.filter_sublist.map _)
  have inside : done.map Prod.fst ++ running.toList ⊆
      (writer.admissionsOf key).map AdmittedWrite.id := by
    intro id member
    obtain ⟨admission, admitted, named⟩ :=
      admits.admitted_of_taken (serial.taken id member)
    rw [← named]
    exact mem_map_of_mem admitted
  have distinct : (done.map Prod.fst ++ running.toList).Nodup :=
    serial.ordered.imp fun lower => Nat.ne_of_lt lower
  exact List.sublist_of_subperm_of_pairwise
    (List.subperm_of_subset distinct inside) serial.ordered sorted

theorem Admits.lastWritten (last : writer.lastAdmission key = some admission)
    (all : ∀ other ∈ writer.admissionsOf key, ∃ value,
      (other.id, .own (.ok value)) ∈ writer.executor.settled) :
    ∃ before value, eventsOf (writer.owner, key) writer.events =
      before ++ [.ended (writer.owner, key) admission.id (.ok value)] := by
  obtain ⟨member, keyed⟩ := mem_of_latest last
  subst keyed
  have own : admission ∈ writer.admissionsOf admission.key :=
    mem_filter.mpr ⟨member, decide_eq_true rfl⟩
  obtain ⟨done, running, serial⟩ :=
    admits.logged.serial (writer.owner, admission.key)
  obtain ⟨value, settled⟩ := all admission own
  have known := admits.logged.honest.own _ _ settled
  have ran := admits.done_of_result member known serial
  -- What still ran would not have settled.
  have quiet : running = none := by
    cases running with
    | none => rfl
    | some id =>
      obtain ⟨flight, flew, -, named, -⟩ := (serial.running_iff id).mp rfl
      obtain ⟨other, admitted, same⟩ := admits.admitted_of_taken
        (serial.taken id (mem_append_right _ (mem_singleton_self id)))
      obtain ⟨result, done⟩ := all other admitted
      have apart := (List.nodup_append.mp (List.nodup_append.mp
        admits.logged.sound.toKept.nodup).1).2.2
      have flying : flight.task.id ∈ writer.executor.flying.map Task.id :=
        mem_map_of_mem (mem_map_of_mem flew)
      have ended : other.id ∈ writer.executor.settledIds :=
        mem_map_of_mem done
      rw [same, ← named] at ended
      exact absurd rfl (apart _ ended _ flying)
  subst quiet
  rcases List.eq_nil_or_concat done with none | ⟨front, final, split⟩
  · rw [none] at ran
    cases ran
  · rw [List.concat_eq_append] at split
    subst split
    have ordered := serial.ordered
    rw [Option.toList_none, append_nil, map_append,
      List.pairwise_append] at ordered
    have final_taken := serial.taken final.1 (mem_append_left _
      (mem_map_of_mem (mem_append_right _ (mem_singleton_self final))))
    obtain ⟨other, admitted, named⟩ := admits.admitted_of_taken final_taken
    have upper : final.1 ≤ admission.id := by
      have sorted : ((writer.admissionsOf admission.key).map
          AdmittedWrite.id).Pairwise (· < ·) :=
        admits.sorted.sublist (List.filter_sublist.map _)
      obtain ⟨earlier, shape⟩ := List.getLast?_eq_some_iff.mp last
      have listed : writer.admissionsOf admission.key =
          earlier ++ [admission] := shape
      rw [listed] at sorted admitted
      rw [map_append, List.pairwise_append] at sorted
      rw [← named]
      rcases mem_append.mp admitted with before | this_one
      · exact Nat.le_of_lt (sorted.2.2 other.id (mem_map_of_mem before)
          admission.id (mem_singleton_self _))
      · rw [mem_singleton.mp this_one]
    have same : (admission.id, Except.ok value) = final := by
      rcases mem_append.mp ran with before | this_one
      · have lower := ordered.2.2 admission.id (mem_map_of_mem before)
          final.1 (mem_singleton_self _)
        omega
      · exact mem_singleton.mp this_one
    refine ⟨runs (writer.owner, admission.key) front ++
      [.began (writer.owner, admission.key) admission.id], value, ?_⟩
    have log := serial.log
    rw [← same, Executor.runs_concat, Option.toList_none, List.map_nil,
      append_nil] at log
    rw [log]
    simp

end

/-- After any steps, no needed write was dropped. -/
theorem needed_of_steps {owner : Nat}
    (steps : System.Steps (ChangeWriter.step options) fingerprinted
      (new owner : ChangeWriter K R V E F) writer) :
    Needed options writer := by
  have keeps : Keeps options writer := by
    apply System.Steps.invariant steps
      ⟨admits_new owner, remembers_new owner⟩
    intro state label next keeps given taken
    exact keeps.step given taken
  obtain ⟨admits, remembers⟩ := keeps
  constructor
  · exact admits.serial
  · intro key fingerprint pending answered
    obtain ⟨admission, last, same, promise⟩ := remembers.suppressed answered
    refine ⟨admission, last, same, ?_⟩
    obtain ⟨member, keyed⟩ := mem_of_latest last
    rcases promise with queue | ⟨none, value, settled⟩
    · exact Or.inl queue
    · rw [← keyed]
      exact Or.inr ⟨none, value, admits.resolves member settled⟩
  · intro admission member value settled
    exact admits.resolves member settled
  · intro key ask asked accepted all
    rcases remembers.asked key ask asked with refused | ⟨admission, last, same⟩
    · exact absurd refused accepted
    · obtain ⟨before, value, log⟩ := admits.lastWritten last all
      obtain ⟨member, keyed⟩ := mem_of_latest last
      exact ⟨before, admission,
        mem_filter.mpr ⟨member, decide_eq_true keyed⟩, value, log, same⟩

/-- A write is left out while one with its fingerprint runs; that one fails, and
the same write is then admitted behind another. -/
theorem needed_of_failed_write :
    ∃ (options : WriterOptions ℚ) (writer : ChangeWriter Nat ℚ Nat Nat Nat),
      Needed options writer ∧
        writer.asks.map Ask.answer =
          [.queued 0, .suppressed (some 0), .queued 1, .queued 2,
            .suppressed none] ∧
        writer.executor.settled.length = 3 := by
  let options : WriterOptions ℚ :=
    { ExecutionBudgets.oneSlot 4 2 5 (by decide) (by decide) with
      maxFingerprints := 1
      maxFingerprints_pos := by decide }
  have decided :
      (System.run (ChangeWriter.step options)
        (fun _ label =>
          match label with
          | .enqueue _ fingerprint _ => fingerprint.isSome
          | _ => true)
        (ChangeWriter.new 3 : ChangeWriter Nat ℚ Nat Nat Nat)
        [.enqueue 0 (some 1) 0, .execute (.start 0 0),
          .enqueue 0 (some 1) 1, .execute (.finish 0 (.error 7)),
          .execute (.complete 0), .handle 0, .enqueue 0 (some 2) 2,
          .enqueue 0 (some 1) 2, .execute (.start 1 3),
          .execute (.finish 1 (.ok 4)), .execute (.complete 1), .handle 1,
          .execute (.start 2 3), .execute (.finish 2 (.ok 5)),
          .execute (.complete 2), .handle 2, .enqueue 0 (some 1) 4]).any
        (fun writer =>
          writer.asks.map Ask.answer =
              [.queued 0, .suppressed (some 0), .queued 1, .queued 2,
                .suppressed none] &&
            writer.executor.settled.length = 3) = true := by
    decide +kernel
  obtain ⟨writer, steps, ended⟩ := System.exists_of_run decided
  simp only [Bool.and_eq_true, decide_eq_true_eq] at ended
  refine ⟨options, writer, ?_, ended.1, ended.2⟩
  refine needed_of_steps (steps.mono ?_)
  intro state label given
  cases label with
  | enqueue key fingerprint now => exact given
  | handle | retry | forgetFingerprint | invalidate | clear | execute => trivial

end ChangeWriter

end Eki.Work
