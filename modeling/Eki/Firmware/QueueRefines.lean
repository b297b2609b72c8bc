import Eki.Firmware.TelemetryQueue
import Mathlib.Data.List.InsertIdx

/-!
# The telemetry queue is a bounded list

Every operation on the ring does to the list that it keeps what the operation
of the same name does to a list.  Sequences are numbered by the pushes, and
repeat only after a whole period of them.
-/

namespace Eki.Firmware

open Writes
open Function (update)

variable {Payload : Type}

/-! ## The list -/

structure QueueEntry (Payload : Type) where
  pushedAt : Nat
  sample : Sample Payload

/-- A bounded list, oldest first, with what has been counted since its counters
were cleared.  `first` is the sequence of the first push since. -/
structure QueueModel (Payload : Type) where
  entries : List (QueueEntry Payload) := []
  pushes : Nat := 0
  first : Serial.Number := 1
  maximumCount : Nat := 0
  overflowDrops : Nat := 0
  staleDrops : Nat := 0

namespace QueueModel

variable (model : QueueModel Payload)

/-- The maximum count so far, after another operation. -/
def settle : QueueModel Payload :=
  { model with maximumCount := max model.maximumCount model.entries.length }

def nextSequence : Serial.Number :=
  Serial.advance model.first model.pushes

/-- Append, evicting the oldest when full. -/
def push (capacity : Nat) (sample : Sample Payload) : QueueModel Payload :=
  let full := model.entries.length == capacity
  settle
    { model with
      entries :=
        (if full then model.entries.tail else model.entries) ++
          [{ pushedAt := model.pushes
             sample := { sample with sequence := model.nextSequence } }]
      pushes := model.pushes + 1
      overflowDrops := model.overflowDrops + if full then 1 else 0 }

def newest : Option (Sample Payload) :=
  model.entries.getLast?.map QueueEntry.sample

def hasSequence (sequence : Serial.Number) (entry : QueueEntry Payload) :
    Bool :=
  entry.sample.sequence == sequence

def remove (sequence : Serial.Number) : QueueModel Payload :=
  settle { model with entries := model.entries.eraseP (hasSequence sequence) }

/-- Drop the prefix up to and including a sequence; without it, nothing. -/
def acknowledgeThrough (sequence : Serial.Number) : QueueModel Payload × Nat :=
  let removed :=
    (model.entries.findIdx? (hasSequence sequence)).elim 0 fun index =>
      index + 1
  (settle { model with entries := model.entries.drop removed }, removed)

def dropOlderThan (minimumTimestamp : Int) : QueueModel Payload × Nat :=
  let kept := model.entries.filter fun entry =>
    decide (minimumTimestamp ≤ entry.sample.timestamp)
  let dropped := model.entries.length - kept.length
  (settle
    { model with
      entries := kept
      staleDrops := model.staleDrops + dropped }, dropped)

/-- One checkpoint, with its own sequence. -/
def restoreNewest (capacity : Nat) (sample : Sample Payload) :
    QueueModel Payload × Bool :=
  if sample.sequence = 0 then (model, false)
  else (push { first := sample.sequence } capacity sample, true)

end QueueModel

inductive QueueOperation (Payload : Type) where
  | push (sample : Sample Payload)
  | newest
  | remove (sequence : Serial.Number)
  | acknowledgeThrough (sequence : Serial.Number)
  | dropOlderThan (minimumTimestamp : Int)
  | restoreNewest (sample : Sample Payload) (configurationTag : BitVec 32)

/-- What an operation returns. -/
inductive QueueOutput (Payload : Type) where
  | sequence (sequence : Serial.Number)
  | sample (sample : Option (Sample Payload))
  | done (done : Bool)
  | number (number : Nat)

namespace QueueOperation

variable (layout : QueueLayout Payload)

def perform (history : QueueHistory Payload) :
    QueueOperation Payload → QueueHistory Payload × QueueOutput Payload
  | .push sample =>
    let (history, sequence) := Firmware.push layout sample history
    (history, .sequence sequence)
  | .newest => (history, .sample (Firmware.newest layout history.now))
  | .remove sequence =>
    let (history, done) := Firmware.remove layout sequence history
    (history, .done done)
  | .acknowledgeThrough sequence =>
    let (history, removed) :=
      Firmware.acknowledgeThrough layout sequence history
    (history, .number removed)
  | .dropOlderThan minimumTimestamp =>
    let (history, dropped) :=
      Firmware.dropOlderThan layout minimumTimestamp history
    (history, .number dropped)
  | .restoreNewest sample configurationTag =>
    let (history, done) :=
      Firmware.restoreNewest layout sample configurationTag history
    (history, .done done)

/-- The same operation on the list. -/
def performModel (capacity : Nat) (model : QueueModel Payload) :
    QueueOperation Payload → QueueModel Payload × QueueOutput Payload
  | .push sample => (model.push capacity sample, .sequence model.nextSequence)
  | .newest => (model, .sample model.newest)
  | .remove sequence =>
    (model.remove sequence,
      .done (model.entries.any (QueueModel.hasSequence sequence)))
  | .acknowledgeThrough sequence =>
    let (next, removed) := model.acknowledgeThrough sequence
    (next, .number removed)
  | .dropOlderThan minimumTimestamp =>
    let (next, dropped) := model.dropOlderThan minimumTimestamp
    (next, .number dropped)
  | .restoreNewest sample _ =>
    let (next, done) := model.restoreNewest capacity sample
    (next, .done done)

def performAll (history : QueueHistory Payload) :
    List (QueueOperation Payload) →
    QueueHistory Payload × List (QueueOutput Payload)
  | [] => (history, [])
  | operation :: rest =>
    let (next, output) := operation.perform layout history
    let (last, outputs) := performAll next rest
    (last, output :: outputs)

def performAllModel (capacity : Nat) (model : QueueModel Payload) :
    List (QueueOperation Payload) →
    QueueModel Payload × List (QueueOutput Payload)
  | [] => (model, [])
  | operation :: rest =>
    let (next, output) := operation.performModel capacity model
    let (last, outputs) := performAllModel capacity next rest
    (last, output :: outputs)

end QueueOperation

/-! ## The ring keeps the list -/

structure Keeps (layout : QueueLayout Payload) (memory : QueueMemory Payload)
    (model : QueueModel Payload) : Prop where
  head_lt : memory.head < layout.capacity
  count_le : memory.count ≤ layout.capacity
  samples :
    Ring.contents memory.samples layout.capacity memory.head memory.count =
      model.entries.map QueueEntry.sample
  nextSequence : memory.nextSequence = model.nextSequence
  highWaterMark : memory.highWaterMark = model.maximumCount
  overflowDrops :
    memory.overflowDrops = BitVec.ofNat 32 model.overflowDrops
  staleDrops : memory.staleDrops = BitVec.ofNat 32 model.staleDrops

structure QueueModel.Numbered (model : QueueModel Payload) : Prop where
  first : model.first ≠ 0
  sequences : ∀ entry ∈ model.entries,
    entry.sample.sequence = Serial.advance model.first entry.pushedAt
  earlier : ∀ entry ∈ model.entries, entry.pushedAt < model.pushes
  sorted : model.entries.Pairwise fun older newer =>
    older.pushedAt < newer.pushedAt
  counted : model.entries.length ≤ model.maximumCount

/-- No sample has stayed queued across a whole period of pushes. -/
def QueueModel.Fresh (model : QueueModel Payload) : Prop :=
  ∀ entry ∈ model.entries,
    model.pushes - entry.pushedAt - 1 < Serial.period

/-- What holds of a queue and its list. -/
structure Refines (layout : QueueLayout Payload)
    (memory : QueueMemory Payload) (model : QueueModel Payload) : Prop
    extends Keeps layout memory model where
  nonzero : ∀ entry ∈ model.entries, entry.sample.sequence ≠ 0
  distinct : model.Fresh →
    (model.entries.map fun entry => entry.sample.sequence).Nodup

namespace QueueModel.Numbered

variable {model : QueueModel Payload}

variable (numbered : model.Numbered)

include numbered

theorem nonzero : ∀ entry ∈ model.entries, entry.sample.sequence ≠ 0 := by
  intro entry member
  rw [numbered.sequences entry member]
  exact Serial.advance_ne_zero numbered.first _

/-- Sequences repeat only after a whole period of pushes. -/
theorem distinct (fresh : model.Fresh) :
    (model.entries.map fun entry => entry.sample.sequence).Nodup := by
  rw [List.Nodup, List.pairwise_map]
  apply numbered.sorted.imp_of_mem
  intro older newer left right before
  rw [numbered.sequences older left, numbered.sequences newer right]
  have young := fresh older left
  have last := numbered.earlier newer right
  exact Serial.advance_inj before (by omega)

theorem sublist {entries : List (QueueEntry Payload)}
    (fewer : entries.Sublist model.entries) (staleDrops : Nat) :
    (settle { model with entries, staleDrops }).Numbered where
  first := numbered.first
  sequences := fun entry member =>
    numbered.sequences entry (fewer.subset member)
  earlier := fun entry member => numbered.earlier entry (fewer.subset member)
  sorted := numbered.sorted.sublist fewer
  counted := Nat.le_max_right _ _

theorem push (capacity : Nat) (sample : Sample Payload) :
    (model.push capacity sample).Numbered := by
  have kept : (if model.entries.length == capacity then model.entries.tail
      else model.entries).Sublist model.entries := by
    split
    · exact List.tail_sublist _
    · exact List.Sublist.refl _
  refine ⟨numbered.first, ?_, ?_, ?_, Nat.le_max_right _ _⟩
  · intro entry member
    rcases List.mem_append.mp member with earlier | new
    · exact numbered.sequences entry (kept.subset earlier)
    · cases List.mem_singleton.mp new
      rfl
  · intro entry member
    rcases List.mem_append.mp member with earlier | new
    · exact Nat.lt_succ_of_lt (numbered.earlier entry (kept.subset earlier))
    · cases List.mem_singleton.mp new
      exact Nat.lt_succ_self _
  · apply List.pairwise_append.mpr
    refine ⟨numbered.sorted.sublist kept, List.pairwise_singleton _ _, ?_⟩
    intro older left newer right
    cases List.mem_singleton.mp right
    exact numbered.earlier older (kept.subset left)

end QueueModel.Numbered

namespace Keeps

variable {layout : QueueLayout Payload} {history : QueueHistory Payload}
  {memory : QueueMemory Payload} {model : QueueModel Payload}

theorem count_eq (keeps : Keeps layout memory model) :
    memory.count = model.entries.length := by
  have lengths := congrArg List.length keeps.samples
  rw [Ring.length_contents, List.length_map] at lengths
  exact lengths

/-- Magic number and checksum do not matter. -/
theorem begins (keeps : Keeps layout history.now model) :
    Keeps layout (beginMutation history).now model :=
  ⟨keeps.head_lt, keeps.count_le, keeps.samples, keeps.nextSequence,
    keeps.highWaterMark, keeps.overflowDrops, keeps.staleDrops⟩

theorem finishes (keeps : Keeps layout history.now model) :
    Keeps layout (finishMutation layout history).now model :=
  ⟨keeps.head_lt, keeps.count_le, keeps.samples, keeps.nextSequence,
    keeps.highWaterMark, keeps.overflowDrops, keeps.staleDrops⟩

theorem now_takeSequence (history : QueueHistory Payload) :
    (takeSequence history).now =
      { history.now with
        nextSequence := Serial.next history.now.nextSequence } := by
  unfold takeSequence Serial.next
  by_cases wraps : history.now.nextSequence + 1 = 0
  · rw [if_pos wraps]
    exact congrArg History.now (if_pos wraps)
  · rw [if_neg wraps]
    exact congrArg History.now (if_neg wraps)

theorem makeRoom_of_full (full : history.now.count = layout.capacity) :
    (makeRoom layout history).1.now =
        { history.now with
          head := increment layout history.now.head
          overflowDrops := history.now.overflowDrops + 1 } ∧
      (makeRoom layout history).2 = history.now.head := by
  simp [makeRoom, full]

theorem makeRoom_of_room (room : history.now.count ≠ layout.capacity) :
    (makeRoom layout history).1.now =
        { history.now with
          count := history.now.count + 1
          highWaterMark :=
            max history.now.highWaterMark (history.now.count + 1) } ∧
      (makeRoom layout history).2 =
        Ring.slot layout.capacity history.now.head history.now.count := by
  by_cases higher : history.now.highWaterMark < history.now.count + 1
  · simp [makeRoom, room, higher, physicalIndex, Nat.le_of_lt higher]
  · simp [makeRoom, room, higher, physicalIndex, Nat.le_of_not_lt higher]

theorem push_now (sample : Sample Payload) {next : QueueMemory Payload}
    {place : Nat}
    (made : (makeRoom layout (takeSequence (beginMutation history))).1.now =
      next)
    (at_ : (makeRoom layout (takeSequence (beginMutation history))).2 = place)
    (keeps : Keeps layout
      { next with
        samples :=
          update next.samples place
            { sample with sequence := history.now.nextSequence } } model) :
    Keeps layout (push layout sample history).1.now model := by
  unfold push
  apply finishes
  simp only [History.now_write, made, at_]
  exact keeps

theorem push_full (keeps : Keeps layout history.now model)
    (counted : model.entries.length ≤ model.maximumCount)
    (full : history.now.count = layout.capacity) (sample : Sample Payload) :
    Keeps layout (push layout sample history).1.now
      (model.push layout.capacity sample) := by
  have length := keeps.count_eq
  have isFull : (model.entries.length == layout.capacity) = true := by
    rw [beq_iff_eq, ← length, full]
  have taken : (takeSequence (beginMutation history)).now.count =
      layout.capacity := by
    rw [now_takeSequence]
    exact full
  obtain ⟨made, place⟩ := makeRoom_of_full taken
  rw [now_takeSequence] at made place
  apply push_now sample made place
  unfold QueueModel.push QueueModel.settle
  simp only [isFull, if_true]
  refine ⟨Ring.slot_lt layout.positive _ _, keeps.count_le, ?_, ?_, ?_, ?_,
    keeps.staleDrops⟩
  · have samples := keeps.samples
    have evicted := Ring.contents_evict history.now.samples
      { sample with sequence := history.now.nextSequence } keeps.head_lt
    rw [full] at samples
    rw [samples, ← List.map_tail, keeps.nextSequence] at evicted
    simp only [beginMutation, History.now_write, full, keeps.nextSequence,
      List.map_append]
    exact evicted
  · exact congrArg Serial.next keeps.nextSequence
  · have tail := List.length_tail (l := model.entries)
    have positive := layout.positive
    simp only [beginMutation, History.now_write, keeps.highWaterMark,
      List.length_append, List.length_singleton, tail]
    omega
  · simp only [beginMutation, History.now_write, keeps.overflowDrops]
    exact (BitVec.ofNat_add ..).symm

theorem push_room (keeps : Keeps layout history.now model)
    (room : history.now.count ≠ layout.capacity) (sample : Sample Payload) :
    Keeps layout (push layout sample history).1.now
      (model.push layout.capacity sample) := by
  have length := keeps.count_eq
  have below := Nat.lt_of_le_of_ne keeps.count_le room
  have hasRoom : (model.entries.length == layout.capacity) = false := by
    rw [beq_eq_false_iff_ne, ← length]
    exact room
  have taken : (takeSequence (beginMutation history)).now.count ≠
      layout.capacity := by
    rw [now_takeSequence]
    exact room
  obtain ⟨made, place⟩ := makeRoom_of_room taken
  rw [now_takeSequence] at made place
  apply push_now sample made place
  unfold QueueModel.push QueueModel.settle
  simp only [hasRoom, Bool.false_eq_true, if_false, Nat.add_zero]
  refine ⟨keeps.head_lt, below, ?_, ?_, ?_, keeps.overflowDrops,
    keeps.staleDrops⟩
  · have written := Ring.contents_push history.now.samples
      { sample with sequence := history.now.nextSequence } keeps.head_lt below
    rw [keeps.samples, keeps.nextSequence] at written
    simp only [beginMutation, History.now_write, keeps.nextSequence,
      List.map_append]
    exact written
  · exact congrArg Serial.next keeps.nextSequence
  · simp only [beginMutation, History.now_write, keeps.highWaterMark,
      List.length_append, List.length_singleton, length]

theorem findSequence_eq (keeps : Keeps layout memory model)
    (sequence : Serial.Number) :
    findSequence layout sequence memory =
      model.entries.findIdx? (QueueModel.hasSequence sequence) := by
  have found := Ring.find?_contents memory.samples layout.capacity memory.head
    memory.count fun sample : Sample Payload => sample.sequence == sequence
  unfold findSequence physicalIndex
  rw [found, keeps.samples, List.findIdx?_map]
  rfl

theorem newest_eq (keeps : Keeps layout memory model) :
    newest layout memory = model.newest := by
  have last := Ring.getLast?_contents memory.samples layout.capacity memory.head
    memory.count
  unfold newest QueueModel.newest physicalIndex
  rw [← List.getLast?_map, ← keeps.samples, last]

/-- An empty ring may start anywhere. -/
theorem rewinds (keeps : Keeps layout history.now model) :
    Keeps layout (rewind history).now model := by
  unfold rewind
  split
  · rename_i empty
    have none := keeps.samples
    rw [empty] at none
    refine ⟨layout.positive, keeps.count_le, ?_, keeps.nextSequence,
      keeps.highWaterMark, keeps.overflowDrops, keeps.staleDrops⟩
    simp only [History.now_write, empty]
    exact none
  · exact keeps

theorem now_shift (index remaining : Nat) (history : QueueHistory Payload) :
    ((List.range' index remaining).foldl
        (fun history index => history.write fun memory =>
          { memory with
            samples :=
              update memory.samples (physicalIndex layout memory index)
                (memory.samples (physicalIndex layout memory (index + 1))) })
        history).now =
      { history.now with
        samples :=
          Ring.shift layout.capacity history.now.head index remaining
            history.now.samples } := by
  induction remaining generalizing index history with
  | zero => rfl
  | succ remaining induction =>
    rw [List.range'_succ, List.foldl_cons, induction]
    rfl

theorem erases (keeps : Keeps layout history.now model) {index : Nat}
    (inside : index < model.entries.length) :
    Keeps layout (eraseAt layout index history).now
      { model with entries := model.entries.eraseIdx index } := by
  have length := keeps.count_eq
  have bound := keeps.count_le
  unfold eraseAt
  split
  · rename_i first
    subst first
    apply rewinds
    refine ⟨Ring.slot_lt layout.positive _ _, ?_, ?_, keeps.nextSequence,
      keeps.highWaterMark, keeps.overflowDrops, keeps.staleDrops⟩
    · exact Nat.le_trans (Nat.sub_le _ _) bound
    · have dropped := Ring.contents_drop history.now.samples layout.capacity
        history.now.head history.now.count 1
      rw [keeps.samples, ← List.map_drop] at dropped
      simp only [History.now_write, List.eraseIdx_zero, ← List.drop_one]
      exact dropped
  · apply rewinds
    refine ⟨?_, ?_, ?_, ?_, ?_, ?_, ?_⟩
    · simp only [History.now_write, now_shift]
      exact keeps.head_lt
    · simp only [History.now_write, now_shift]
      exact Nat.le_trans (Nat.sub_le _ _) bound
    · have erased := Ring.contents_shift history.now.samples keeps.head_lt
        (by omega : index < history.now.count) bound
      rw [keeps.samples, List.eraseIdx_map] at erased
      simp only [History.now_write, now_shift]
      exact erased
    · simp only [History.now_write, now_shift]
      exact keeps.nextSequence
    · simp only [History.now_write, now_shift]
      exact keeps.highWaterMark
    · simp only [History.now_write, now_shift]
      exact keeps.overflowDrops
    · simp only [History.now_write, now_shift]
      exact keeps.staleDrops

theorem settles (keeps : Keeps layout memory model)
    (counted : model.entries.length ≤ model.maximumCount) :
    Keeps layout memory model.settle := by
  refine ⟨keeps.head_lt, keeps.count_le, keeps.samples, keeps.nextSequence, ?_,
    keeps.overflowDrops, keeps.staleDrops⟩
  rw [keeps.highWaterMark]
  exact (Nat.max_eq_left counted).symm

section

variable (keeps : Keeps layout history.now model)
  (counted : model.entries.length ≤ model.maximumCount)
  (sequence : Serial.Number)

include keeps counted sequence

theorem removes :
    Keeps layout (remove layout sequence history).1.now
        (model.remove sequence) ∧
      (remove layout sequence history).2 =
        model.entries.any (QueueModel.hasSequence sequence) := by
  have found := keeps.findSequence_eq sequence
  unfold remove QueueModel.remove
  rw [found, List.eraseP_eq_eraseIdx, ← List.findIdx?_isSome]
  cases at_ : model.entries.findIdx? (QueueModel.hasSequence sequence) with
  | none => exact ⟨keeps.settles counted, rfl⟩
  | some index =>
    obtain ⟨inside, _, _⟩ := List.findIdx?_eq_some_iff_getElem.mp at_
    refine ⟨?_, rfl⟩
    apply finishes
    apply settles
    · exact keeps.begins.erases inside
    · rw [List.length_eraseIdx, if_pos inside]
      exact Nat.le_trans (Nat.sub_le _ _) counted

theorem acknowledges :
    Keeps layout (acknowledgeThrough layout sequence history).1.now
        (model.acknowledgeThrough sequence).1 ∧
      (acknowledgeThrough layout sequence history).2 =
        (model.acknowledgeThrough sequence).2 := by
  have found := keeps.findSequence_eq sequence
  have length := keeps.count_eq
  have bound := keeps.count_le
  unfold acknowledgeThrough QueueModel.acknowledgeThrough
  rw [found]
  cases at_ : model.entries.findIdx? (QueueModel.hasSequence sequence) with
  | none => exact ⟨keeps.settles counted, rfl⟩
  | some index =>
    obtain ⟨inside, _, _⟩ := List.findIdx?_eq_some_iff_getElem.mp at_
    refine ⟨?_, rfl⟩
    apply finishes
    apply settles
    · have dropped := Ring.contents_drop history.now.samples layout.capacity
        history.now.head history.now.count (index + 1)
      rw [keeps.samples, ← List.map_drop] at dropped
      refine ⟨?_, ?_, ?_, keeps.nextSequence, keeps.highWaterMark,
        keeps.overflowDrops, keeps.staleDrops⟩
      · have inRange : (if 0 < history.now.count - (index + 1) then
            physicalIndex layout history.now (index + 1) else 0) <
            layout.capacity := by
          split
          · exact Ring.slot_lt layout.positive _ _
          · exact layout.positive
        exact inRange
      · exact Nat.le_trans (Nat.sub_le _ _) bound
      · have retained : Ring.contents history.now.samples layout.capacity
            (if 0 < history.now.count - (index + 1) then
              physicalIndex layout history.now (index + 1) else 0)
            (history.now.count - (index + 1)) =
            (model.entries.drop (index + 1)).map QueueEntry.sample := by
          split
          · exact dropped
          · rename_i none
            have empty : history.now.count - (index + 1) = 0 := by omega
            rw [← dropped, empty]
            rfl
        exact retained
    · simp only [Option.elim_some, List.length_drop]
      omega

end

theorem fold_dropRound (minimumTimestamp : Int) (index remaining : Nat)
    (history : QueueHistory Payload) (retained : Nat) :
    ((List.range' index remaining).foldl (dropRound layout minimumTimestamp)
        (history, retained)).1.now =
        { history.now with
          samples :=
            (Ring.compact layout.capacity history.now.head
              (fun sample : Sample Payload =>
                decide (minimumTimestamp ≤ sample.timestamp))
              index remaining retained history.now.samples).1 } ∧
      ((List.range' index remaining).foldl (dropRound layout minimumTimestamp)
        (history, retained)).2 =
        (Ring.compact layout.capacity history.now.head
          (fun sample : Sample Payload =>
            decide (minimumTimestamp ≤ sample.timestamp))
          index remaining retained history.now.samples).2 := by
  induction remaining generalizing index history retained with
  | zero => exact ⟨rfl, rfl⟩
  | succ remaining induction =>
    rw [List.range'_succ, List.foldl_cons]
    unfold Ring.compact
    by_cases young : minimumTimestamp ≤
        (history.now.samples
          (Ring.slot layout.capacity history.now.head index)).timestamp
    · by_cases same : retained = index
      · subst same
        have round : dropRound layout minimumTimestamp (history, retained)
            retained = (history, retained + 1) := by
          simp [dropRound, physicalIndex, young]
        simp only [round, young, decide_true, if_true]
        exact induction _ _ _
      · have round : dropRound layout minimumTimestamp (history, retained)
            index =
            (history.write fun memory =>
              { memory with
                samples :=
                  update memory.samples
                    (physicalIndex layout memory retained)
                    (history.now.samples
                      (Ring.slot layout.capacity history.now.head index)) },
              retained + 1) := by
          simp [dropRound, physicalIndex, young, same]
        simp only [round, young, same, decide_true, if_true, if_false]
        exact induction _ _ _
    · have round : dropRound layout minimumTimestamp (history, retained)
          index = (history, retained) := by
        simp [dropRound, physicalIndex, young]
      simp only [round, young, decide_false, Bool.false_eq_true, if_false]
      exact induction _ _ _

theorem counts (keeps : Keeps layout history.now model) (dropped : Nat) :
    Keeps layout
      (history.write fun memory =>
        { memory with
          staleDrops := memory.staleDrops + BitVec.ofNat 32 dropped }).now
      { model with staleDrops := model.staleDrops + dropped } := by
  refine ⟨keeps.head_lt, keeps.count_le, keeps.samples, keeps.nextSequence,
    keeps.highWaterMark, keeps.overflowDrops, ?_⟩
  simp only [History.now_write, keeps.staleDrops]
  exact (BitVec.ofNat_add ..).symm

variable (keeps : Keeps layout history.now model)
  (counted : model.entries.length ≤ model.maximumCount)

include keeps counted

theorem drops (minimumTimestamp : Int) :
    Keeps layout (dropOlderThan layout minimumTimestamp history).1.now
        (model.dropOlderThan minimumTimestamp).1 ∧
      (dropOlderThan layout minimumTimestamp history).2 =
        (model.dropOlderThan minimumTimestamp).2 := by
  have length := keeps.count_eq
  have bound := keeps.count_le
  have filtered := Ring.contents_filter
    (fun sample : Sample Payload =>
      decide (minimumTimestamp ≤ sample.timestamp))
    history.now.samples keeps.head_lt bound
  have kept := congrArg List.length filtered
  rw [keeps.samples, List.filter_map] at filtered
  rw [keeps.samples, List.filter_map, Ring.length_contents, List.length_map]
    at kept
  have fewer := List.length_filter_le
    ((fun sample : Sample Payload =>
      decide (minimumTimestamp ≤ sample.timestamp)) ∘ QueueEntry.sample)
    model.entries
  have loop := @fold_dropRound _ layout minimumTimestamp 0 history.now.count
    (beginMutation history) 0
  unfold dropOlderThan QueueModel.dropOlderThan
  have original : (beginMutation history).now.count = history.now.count := rfl
  simp only [List.range_eq_range', original]
  generalize (List.range' 0 history.now.count).foldl
    (dropRound layout minimumTimestamp) (beginMutation history, 0) = state
    at loop
  obtain ⟨next, retained⟩ := state
  obtain ⟨now, number⟩ := loop
  have length_kept : retained = (model.entries.filter
      ((fun sample : Sample Payload =>
        decide (minimumTimestamp ≤ sample.timestamp)) ∘
        QueueEntry.sample)).length := number.trans kept
  have dropped : history.now.count - retained = model.entries.length -
      (model.entries.filter fun entry =>
        decide (minimumTimestamp ≤ entry.sample.timestamp)).length := by
    rw [length, length_kept]
    rfl
  have shrunk : Keeps layout
      (next.write fun memory => { memory with count := retained }).now
      { model with
        entries :=
          model.entries.filter fun entry =>
            decide (minimumTimestamp ≤ entry.sample.timestamp) } := by
    have now : next.now = _ := now
    refine ⟨?_, ?_, ?_, ?_, ?_, ?_, ?_⟩
    · simp only [History.now_write, now]
      exact keeps.head_lt
    · simp only [History.now_write, now]
      omega
    · have retained : retained = _ := number
      simp only [History.now_write, now, retained]
      exact filtered
    · simp only [History.now_write, now]
      exact keeps.nextSequence
    · simp only [History.now_write, now]
      exact keeps.highWaterMark
    · simp only [History.now_write, now]
      exact keeps.overflowDrops
    · simp only [History.now_write, now]
      exact keeps.staleDrops
  refine ⟨?_, dropped⟩
  apply finishes
  rw [dropped]
  exact (shrunk.rewinds.counts _).settles (Nat.le_trans fewer counted)

theorem pushes (sample : Sample Payload) :
    Keeps layout (push layout sample history).1.now
      (model.push layout.capacity sample) := by
  by_cases full : history.now.count = layout.capacity
  · exact keeps.push_full counted full sample
  · exact keeps.push_room full sample

end Keeps

theorem now_clearSamples (layout : QueueLayout Payload) (indices : List Nat)
    (history : QueueHistory Payload) :
    ∃ samples,
      (indices.foldl
        (fun history index => history.write fun memory =>
          { memory with
            samples :=
              update memory.samples index layout.zeroSample })
        history).now = { history.now with samples } := by
  induction indices generalizing history with
  | nil => exact ⟨history.now.samples, rfl⟩
  | cons index indices induction =>
    obtain ⟨samples, now⟩ := induction
      (history.write fun memory =>
        { memory with
          samples := update memory.samples index layout.zeroSample })
    exact ⟨samples, now⟩

theorem keeps_of_reset (layout : QueueLayout Payload) (tag : BitVec 32)
    (history : QueueHistory Payload) (sequence : Serial.Number) :
    Keeps layout { (reset layout tag history).now with
      nextSequence := sequence } { first := sequence } := by
  unfold reset clear finishMutation
  simp only [History.now_write]
  generalize cleared : List.foldl _ _ (List.range layout.capacity) = last
  obtain ⟨samples, now⟩ := now_clearSamples layout (List.range layout.capacity)
    _
  rw [cleared] at now
  simp only [now, History.now_write]
  exact ⟨layout.positive, Nat.zero_le _, rfl, rfl, rfl, rfl, rfl⟩

namespace QueueOperation

variable {layout : QueueLayout Payload} {history : QueueHistory Payload}
  {model : QueueModel Payload}

/-- The step lemma. -/
theorem perform_keeps (keeps : Keeps layout history.now model)
    (numbered : model.Numbered) (operation : QueueOperation Payload) :
    Keeps layout (operation.perform layout history).1.now
        (operation.performModel layout.capacity model).1 ∧
      (operation.perform layout history).2 =
        (operation.performModel layout.capacity model).2 ∧
      (operation.performModel layout.capacity model).1.Numbered := by
  cases operation with
  | push sample =>
    refine ⟨keeps.pushes numbered.counted sample, ?_,
      numbered.push layout.capacity sample⟩
    exact congrArg QueueOutput.sequence keeps.nextSequence
  | newest =>
    exact ⟨keeps, congrArg QueueOutput.sample keeps.newest_eq, numbered⟩
  | remove sequence =>
    obtain ⟨removes, done⟩ := keeps.removes numbered.counted sequence
    refine ⟨removes, congrArg QueueOutput.done done, ?_⟩
    exact numbered.sublist List.eraseP_sublist model.staleDrops
  | acknowledgeThrough sequence =>
    obtain ⟨acknowledges, removed⟩ :=
      keeps.acknowledges numbered.counted sequence
    refine ⟨acknowledges, congrArg QueueOutput.number removed, ?_⟩
    exact numbered.sublist (List.drop_sublist _ _) model.staleDrops
  | dropOlderThan minimumTimestamp =>
    obtain ⟨drops, dropped⟩ := keeps.drops numbered.counted minimumTimestamp
    refine ⟨drops, congrArg QueueOutput.number dropped, ?_⟩
    exact numbered.sublist List.filter_sublist _
  | restoreNewest sample tag =>
    unfold perform performModel Firmware.restoreNewest
      QueueModel.restoreNewest
    by_cases zero : sample.sequence = 0
    · simp only [zero, if_true]
      exact ⟨keeps, trivial, numbered⟩
    · simp only [zero, if_false]
      have empty : (show QueueModel Payload from
          { first := sample.sequence }).Numbered := by
        refine ⟨zero, ?_, ?_, List.Pairwise.nil, Nat.le_refl _⟩
        · rintro entry ⟨⟩
        · rintro entry ⟨⟩
      refine ⟨?_, trivial, empty.push layout.capacity sample⟩
      apply Keeps.pushes _ (Nat.le_refl _)
      exact keeps_of_reset layout tag history sample.sequence

/-- The run lemma. -/
theorem performAll_keeps (keeps : Keeps layout history.now model)
    (numbered : model.Numbered) (operations : List (QueueOperation Payload)) :
    Keeps layout (performAll layout history operations).1.now
        (performAllModel layout.capacity model operations).1 ∧
      (performAll layout history operations).2 =
        (performAllModel layout.capacity model operations).2 ∧
      (performAllModel layout.capacity model operations).1.Numbered := by
  induction operations generalizing history model with
  | nil => exact ⟨keeps, rfl, numbered⟩
  | cons operation rest induction =>
    obtain ⟨next, output, nextNumbered⟩ :=
      perform_keeps keeps numbered operation
    obtain ⟨last, outputs, lastNumbered⟩ := induction next nextNumbered
    refine ⟨last, ?_, lastNumbered⟩
    unfold performAll performAllModel
    simp only [output, outputs]

end QueueOperation

/-- **The telemetry queue refines a bounded list**: after any operations on a
queue that has been reset, the ring keeps the list, and every operation has
returned what it returns on the list. -/
theorem telemetry_queue_refines_list (layout : QueueLayout Payload)
    (tag : BitVec 32) (memory : QueueMemory Payload)
    (operations : List (QueueOperation Payload)) :
    Refines layout
        (QueueOperation.performAll layout (reset layout tag (.start memory))
          operations).1.now
        (QueueOperation.performAllModel layout.capacity { } operations).1 ∧
      (QueueOperation.performAll layout (reset layout tag (.start memory))
          operations).2 =
        (QueueOperation.performAllModel layout.capacity { } operations).2 := by
  have empty : Keeps layout (reset layout tag (.start memory)).now { } := by
    have keeps := keeps_of_reset layout tag (.start memory) 1
    exact ⟨keeps.head_lt, keeps.count_le, keeps.samples, rfl,
      keeps.highWaterMark, keeps.overflowDrops, keeps.staleDrops⟩
  have numbered : (show QueueModel Payload from { }).Numbered := by
    have one : (1 : Serial.Number) ≠ 0 := by decide
    refine ⟨one, ?_, ?_, List.Pairwise.nil, Nat.le_refl _⟩
    · rintro entry ⟨⟩
    · rintro entry ⟨⟩
  obtain ⟨keeps, outputs, numbered⟩ :=
    QueueOperation.performAll_keeps empty numbered operations
  exact ⟨⟨keeps, numbered.nonzero, numbered.distinct⟩, outputs⟩

end Eki.Firmware
