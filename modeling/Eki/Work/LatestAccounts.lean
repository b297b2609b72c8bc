import Eki.Work.LatestPending
import Eki.Work.RingProgress

/-!
# The accounts of the scheduler

Every value that was scheduled is held once or has one fate.  A worker is
attached to its key as long as a promise is open, and no two keys share one.  A
step touches the worker of one key, so one lemma says what it has to keep in
balance.
-/

namespace Eki.Work

open Insertion Transition
open OrderedMap (collect get_delete_of_ne get_delete_self)

variable {K T R E : Type} [DecidableEq K] [JsNumber R]

namespace LatestPending

variable {options : ExecutionBudgets R}
  {scheduler before after : LatestPending K T R E} {key : K}
  {worker id : Nat} {state : WorkerState T R}

def Superseded (history : List (K × T)) (seq : Nat) : Prop :=
  ∃ newer key older value, seq < newer ∧
    history[seq]? = some (key, older) ∧ history[newer]? = some (key, value)

def Known (history : List (K × T)) (key : K) (task : PendingTask T R) :
    Prop :=
  history[task.seq]? = some (key, task.value)

structure Attached (scheduler : LatestPending K T R E) (key : K)
    (worker id : Nat) (state : WorkerState T R) : Prop where
  stored : scheduler.workers.get key = some worker
  object : scheduler.objects.get worker = some state
  closure : scheduler.closures.get id =
    some
      { key
        worker }
  promise : state.promise = some id
  started : state.started = true ↔ scheduler.executor.Begun id
  lives : ∃ bound, scheduler.executor.Lives bound key id
  submitted : Known scheduler.history key state.submitted
  next : ∀ task, state.next = some task → Known scheduler.history key task

def heldOf (scheduler : LatestPending K T R E) (key : K) : List Nat :=
  OrderedMap.itemsOf (heldAt scheduler.objects) (scheduler.workers.get key)

def processingSeqs (scheduler : LatestPending K T R E) : List Nat :=
  scheduler.processing.collect fun task => [task.seq]

structure Orderly (options : ExecutionBudgets R)
    (scheduler : LatestPending K T R E) : Prop where
  sound : Executor.Sound options.latest scheduler.executor
  attached : ∀ key worker, scheduler.workers.get key = some worker →
    ∃ id state, Attached scheduler key worker id state
  closed : ∀ id closure, scheduler.closures.get id = some closure →
    ∃ state, Attached scheduler closure.key closure.worker id state
  distinct : ∀ first second worker,
    scheduler.workers.get first = some worker →
    scheduler.workers.get second = some worker → first = second
  below : ∀ key worker, scheduler.workers.get key = some worker →
    worker < scheduler.nextWorker
  /-- A promise that has not settled has its closures. -/
  accepted : ∀ id, id < scheduler.executor.nextId →
    id ∉ scheduler.executor.settledIds →
    ∃ closure, scheduler.closures.get id = some closure
  running : ∀ id task, scheduler.processing.get id = some task →
    ∃ flight ∈ scheduler.executor.inFlight,
      flight.task.id = id ∧ flight.stage = .running
  account : (scheduler.fates.map Prod.fst ++ scheduler.outstanding).Perm
    (List.range scheduler.history.length)
  newer : ∀ seq, (seq, Fate.coalesced) ∈ scheduler.fates →
    Superseded scheduler.history seq

theorem orderly_new : Orderly options (new : LatestPending K T R E) := by
  constructor
  · exact Executor.sound_new
  · intro key worker stored
    cases stored
  · intro id closure stored
    cases stored
  · intro first second worker stored
    cases stored
  · intro key worker stored
    cases stored
  · intro id lower
    cases lower
  · intro id task stored
    cases stored
  · exact List.Perm.refl _
  · intro seq member
    cases member

/-! ## Growing histories -/

variable {history : List (K × T)}

variable {task : PendingTask T R}

omit [DecidableEq K] [JsNumber R] in
theorem Known.grow (known : Known history key task) (more : List (K × T)) :
    Known (history ++ more) key task := by
  obtain ⟨inside, -⟩ := List.getElem?_eq_some_iff.mp known
  rw [Known, List.getElem?_append_left inside]
  exact known

omit [DecidableEq K] in
theorem Superseded.grow {seq : Nat} (superseded : Superseded history seq)
    (more : List (K × T)) : Superseded (history ++ more) seq := by
  obtain ⟨newer, key, older, value, later, first, second⟩ := superseded
  obtain ⟨early, -⟩ := List.getElem?_eq_some_iff.mp first
  obtain ⟨late, -⟩ := List.getElem?_eq_some_iff.mp second
  refine ⟨newer, key, older, value, later, ?_, ?_⟩
  · rw [List.getElem?_append_left early]
    exact first
  · rw [List.getElem?_append_left late]
    exact second

omit [DecidableEq K] [JsNumber R] in
theorem Known.superseded (known : Known history key task) (value : T) :
    Superseded (history ++ [(key, value)]) task.seq := by
  obtain ⟨inside, -⟩ := List.getElem?_eq_some_iff.mp known
  refine ⟨history.length, key, task.value, value, inside, ?_, ?_⟩
  · exact known.grow _
  · rw [List.getElem?_append_right (Nat.le_refl _), Nat.sub_self]
    rfl

/-! ## The executor goes on -/

/-- What steps of the executor leave as it was, up to the promise of one
key. -/
structure Advances (options : ExecutionBudgets R)
    (first last : Executor K R Unit Empty) (own : Nat → Prop) : Prop where
  sound : Executor.Sound options.latest last
  lives : ∀ bound key id, first.Lives bound key id → last.Lives bound key id
  settled : ∀ id ∈ first.settledIds, id ∈ last.settledIds
  begun : ∀ id, ¬ own id → (last.Begun id ↔ first.Begun id)
  /-- When a task lands, those that wait come nearer. -/
  nearer : ∀ other task bound key id, first.Aboard other task →
    first.NextWithin (bound + 1) key id →
    last.Aboard other task ∨ last.Lives bound key id

theorem Advances.refl {executor : Executor K R Unit Empty}
    (sound : Executor.Sound options.latest executor) (own : Nat → Prop) :
    Advances options executor executor own := by
  constructor
  · exact sound
  · intro bound key id lives
    exact lives
  · intro id settled
    exact settled
  · intro id _
    exact Iff.rfl
  · intro other task bound key id aboard _
    exact Or.inl aboard

variable {first last : Executor K R Unit Empty}

variable {own : Nat → Prop}

theorem Advances.trans {middle : Executor K R Unit Empty}
    (front : Advances options first middle own)
    (back : Advances options middle last own) :
    Advances options first last own := by
  constructor
  · exact back.sound
  · intro bound key id lives
    exact back.lives bound key id (front.lives bound key id lives)
  · intro id settled
    exact back.settled id (front.settled id settled)
  · intro id other
    rw [back.begun id other, front.begun id other]
  · intro other task bound key id aboard next
    rcases front.nearer other task bound key id aboard next with
      stays | lives
    · rcases front.lives (bound + 1) key id (Or.inr (Or.inr next)) with
        settled | taken | waits
      · exact Or.inr (back.lives bound key id (Or.inl settled))
      · exact Or.inr (back.lives bound key id (Or.inr (Or.inl taken)))
      · exact back.nearer other task bound key id stays waits
    · exact Or.inr (back.lives bound key id lives)

variable {label : ExecutorLabel K R Unit Empty} {other : K}

section

variable (sound : Executor.Sound options.latest first)
  (taken : Executor.step options.latest first label = some last)

include sound taken

theorem nearer_of_step {task bound : Nat} (aboard : first.Aboard other task)
    (next : first.NextWithin (bound + 1) key id) :
    last.Aboard other task ∨ last.Lives bound key id := by
  rcases aboard.step taken with stays | ⟨completes, -⟩
  · exact Or.inl stays
  · subst completes
    exact Or.inr (next.complete sound.toKept taken)

theorem advances_of_step (starts : ∀ id now, label = .start id now → own id) :
    Advances options first last own := by
  constructor
  · exact sound.step taken
  · intro bound key id lives
    exact lives.step sound.toKept taken
  · intro id settled
    obtain ⟨entry, member, same⟩ := List.mem_map.mp settled
    exact List.mem_map.mpr
      ⟨entry, Executor.step_settled taken entry member, same⟩
  · intro id other
    rw [sound.toKept.begun_step taken]
    constructor
    · rintro (begun | ⟨⟨now, started⟩, -⟩)
      · exact begun
      · exact absurd (starts id now started) other
    · exact Or.inl
  · intro other task bound key id aboard next
    exact nearer_of_step sound taken aboard next

end

/-! ## One worker changes -/

structure Apart (key : K) (before after : LatestPending K T R E) : Prop where
  workers : ∀ other, other ≠ key →
    after.workers.get other = before.workers.get other
  objects : ∀ other worker, other ≠ key →
    before.workers.get other = some worker →
    after.objects.get worker = before.objects.get worker
  closures : ∀ id closure, closure.key ≠ key →
    (after.closures.get id = some closure ↔
      before.closures.get id = some closure)
  history : ∃ more, after.history = before.history ++ more

/-- What a step leaves at the key that it touches: no worker, or one that no
other key has. -/
def Own (key : K) (before after : LatestPending K T R E) : Prop :=
  after.workers.get key = none ∧
      (∀ id closure, after.closures.get id = some closure →
        closure.key ≠ key) ∨
    ∃ worker id state, Attached after key worker id state ∧
      worker < after.nextWorker ∧
      (∀ other, other ≠ key → before.workers.get other ≠ some worker) ∧
      ∀ other closure, after.closures.get other = some closure →
        closure.key = key → other = id

structure Touches (options : ExecutionBudgets R) (key : K)
    (before after : LatestPending K T R E) : Prop extends
    Apart key before after where
  executor : Advances options before.executor after.executor fun id =>
    ∃ closure, before.closures.get id = some closure ∧ closure.key = key
  own : Own key before after
  nextWorker : before.nextWorker ≤ after.nextWorker
  accepted : ∀ id, id < after.executor.nextId →
    id ∉ after.executor.settledIds →
    ∃ closure, after.closures.get id = some closure
  running : ∀ id task, after.processing.get id = some task →
    ∃ flight ∈ after.executor.inFlight,
      flight.task.id = id ∧ flight.stage = .running
  balance : ∃ fresh, List.range after.history.length =
      List.range before.history.length ++ fresh ∧
    (after.fates.map Prod.fst ++ after.heldOf key ++ after.processingSeqs).Perm
      (before.fates.map Prod.fst ++ before.heldOf key ++
        before.processingSeqs ++ fresh)
  newer : ∀ seq, (seq, Fate.coalesced) ∈ after.fates →
    (seq, Fate.coalesced) ∈ before.fates ∨ Superseded after.history seq

omit [JsNumber R] in
theorem outstanding_perm (scheduler : LatestPending K T R E) (key : K) :
    scheduler.outstanding.Perm
      (scheduler.heldOf key ++
        ((scheduler.workers.delete key).collect (heldAt scheduler.objects) ++
          scheduler.processingSeqs)) := by
  rw [outstanding, ← List.append_assoc]
  exact (OrderedMap.collect_get _ _ _).append_right _

omit [JsNumber R] in
theorem Apart.rest_perm (apart : Apart key before after) :
    ((after.workers.delete key).collect (heldAt after.objects)).Perm
      ((before.workers.delete key).collect (heldAt before.objects)) := by
  have entries : (after.workers.delete key).entries.Perm
      (before.workers.delete key).entries := by
    apply OrderedMap.perm_of_get_eq
    intro other
    by_cases same : other = key
    · rw [same, get_delete_self, get_delete_self]
    · rw [get_delete_of_ne same, get_delete_of_ne same]
      exact apart.workers other same
  have held : (before.workers.delete key).collect (heldAt after.objects) =
      (before.workers.delete key).collect (heldAt before.objects) := by
    rw [collect, collect]
    apply List.flatMap_congr
    rintro ⟨other, worker⟩ member
    have stored := OrderedMap.mem_entries_iff.mp member
    have different : other ≠ key := by
      rintro rfl
      rw [get_delete_self] at stored
      cases stored
    rw [get_delete_of_ne different] at stored
    rw [heldAt, heldAt, apart.objects other worker different stored]
  rw [← held]
  exact entries.flatMap_right _

theorem Touches.attached (touches : Touches options key before after)
    (different : other ≠ key)
    (attached : Attached before other worker id state) :
    Attached after other worker id state := by
  obtain ⟨more, history⟩ := touches.history
  constructor
  · rw [touches.workers other different]
    exact attached.stored
  · rw [touches.objects other worker different attached.stored]
    exact attached.object
  · exact (touches.closures id _ different).mpr attached.closure
  · exact attached.promise
  · rw [attached.started, touches.executor.begun]
    rintro ⟨closure, stored, same⟩
    rw [attached.closure] at stored
    cases stored
    exact different same
  · obtain ⟨bound, lives⟩ := attached.lives
    exact ⟨bound, touches.executor.lives bound other id lives⟩
  · rw [history]
    exact attached.submitted.grow more
  · intro task next
    rw [history]
    exact (attached.next task next).grow more

theorem Orderly.touch (orderly : Orderly options before) (key : K)
    (touches : Touches options key before after) : Orderly options after := by
  constructor
  · exact touches.executor.sound
  · intro other worker stored
    by_cases same : other = key
    · subst same
      rcases touches.own with ⟨absent, -⟩ | ⟨own, id, state, attached, -⟩
      · rw [absent] at stored
        cases stored
      · rw [attached.stored] at stored
        cases stored
        exact ⟨id, state, attached⟩
    · rw [touches.workers other same] at stored
      obtain ⟨id, state, attached⟩ := orderly.attached other worker stored
      exact ⟨id, state, touches.attached same attached⟩
  · intro id closure stored
    by_cases same : closure.key = key
    · rcases touches.own with ⟨-, none⟩ |
        ⟨own, promise, state, attached, -, -, only⟩
      · exact absurd same (none id closure stored)
      · have one := only id closure stored same
        subst one
        rw [attached.closure] at stored
        cases stored
        exact ⟨state, attached⟩
    · obtain ⟨state, attached⟩ :=
        orderly.closed id closure ((touches.closures id closure same).mp stored)
      exact ⟨state, touches.attached same attached⟩
  · intro first second worker left right
    have unshared : ∀ other, other ≠ key →
        after.workers.get key = some worker →
        after.workers.get other ≠ some worker := by
      intro other different stored shared
      rw [touches.workers other different] at shared
      rcases touches.own with ⟨absent, -⟩ | ⟨own, id, state, attached, -, none, -⟩
      · rw [absent] at stored
        cases stored
      · rw [attached.stored] at stored
        cases stored
        exact none other different shared
    by_cases firstOwn : first = key
    · by_cases secondOwn : second = key
      · rw [firstOwn, secondOwn]
      · rw [firstOwn] at left
        exact absurd right (unshared second secondOwn left)
    · by_cases secondOwn : second = key
      · rw [secondOwn] at right
        exact absurd left (unshared first firstOwn right)
      · rw [touches.workers first firstOwn] at left
        rw [touches.workers second secondOwn] at right
        exact orderly.distinct first second worker left right
  · intro other worker stored
    by_cases same : other = key
    · subst same
      rcases touches.own with ⟨absent, -⟩ | ⟨own, id, state, attached, lower, -⟩
      · rw [absent] at stored
        cases stored
      · rw [attached.stored] at stored
        cases stored
        exact lower
    · rw [touches.workers other same] at stored
      exact Nat.lt_of_lt_of_le (orderly.below other worker stored)
        touches.nextWorker
  · exact touches.accepted
  · exact touches.running
  · obtain ⟨fresh, range, balance⟩ := touches.balance
    have now := outstanding_perm after key
    have earlier := outstanding_perm before key
    have others := touches.rest_perm
    have account := orderly.account
    rw [range]
    rw [List.perm_iff_count] at now earlier others account balance ⊢
    intro seq
    have one := now seq
    have two := earlier seq
    have three := others seq
    have four := account seq
    have five := balance seq
    simp only [List.count_append] at one two three four five ⊢
    omega
  · intro seq member
    obtain ⟨more, history⟩ := touches.history
    rcases touches.newer seq member with known | superseded
    · rw [history]
      exact (orderly.newer seq known).grow more
    · exact superseded

end LatestPending

end Eki.Work
