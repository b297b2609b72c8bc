import Eki.Firmware.QueueRefines

/-!
# The telemetry queue survives a reset at any write

Between the first write of an operation and its last the magic number is
cleared, and `initializeOrRecover` takes such memory for no queue.  What it does
accept is the queue before the operation, the queue after it, or an empty one.
-/

namespace Eki.Firmware

open Writes

variable {Payload : Type}

/-- The operations that write memory. -/
inductive QueueMutation (Payload : Type) where
  | initializeOrRecover (configurationTag : BitVec 32)
  | reset (configurationTag : BitVec 32)
  | restoreNewest (sample : Sample Payload) (configurationTag : BitVec 32)
  | push (sample : Sample Payload)
  | remove (sequence : Serial.Number)
  | acknowledgeThrough (sequence : Serial.Number)
  | dropOlderThan (minimumTimestamp : Int)

def QueueMutation.perform (layout : QueueLayout Payload)
    (history : QueueHistory Payload) :
    QueueMutation Payload → QueueHistory Payload
  | .initializeOrRecover configurationTag =>
    (Firmware.initializeOrRecover layout configurationTag history).1
  | .reset configurationTag => Firmware.reset layout configurationTag history
  | .restoreNewest sample configurationTag =>
    (Firmware.restoreNewest layout sample configurationTag history).1
  | .push sample => (Firmware.push layout sample history).1
  | .remove sequence => (Firmware.remove layout sequence history).1
  | .acknowledgeThrough sequence =>
    (Firmware.acknowledgeThrough layout sequence history).1
  | .dropOlderThan minimumTimestamp =>
    (Firmware.dropOlderThan layout minimumTimestamp history).1

/-! ## Marked memory -/

/-- An operation is under way. -/
def Marked (memory : QueueMemory Payload) : Prop :=
  memory.magic = 0

abbrev Guarded (before after : QueueHistory Payload) : Prop :=
  History.Within Marked before after

namespace Guarded

variable {layout : QueueLayout Payload} {before history : QueueHistory Payload}

theorem begins (history : QueueHistory Payload) :
    Guarded history (beginMutation history) :=
  .first rfl

theorem changes (guarded : Guarded before history)
    {change : QueueMemory Payload → QueueMemory Payload}
    (keeps : ∀ memory, (change memory).magic = memory.magic) :
    Guarded before (history.write change) := by
  apply History.Within.write guarded
  unfold Marked
  rw [keeps]
  exact guarded.now

theorem takeSequence (guarded : Guarded before history) :
    Guarded before (takeSequence history) := by
  unfold Firmware.takeSequence
  simp only
  split
  · apply changes
    · exact changes guarded fun _ => rfl
    · intro memory
      rfl
  · exact changes guarded fun _ => rfl

theorem makeRoom (guarded : Guarded before history) :
    Guarded before (makeRoom layout history).1 := by
  unfold Firmware.makeRoom
  split
  · simp only
    apply changes
    · exact changes guarded fun _ => rfl
    · intro memory
      rfl
  · simp only
    split
    · apply changes
      · exact changes guarded fun _ => rfl
      · intro memory
        rfl
    · exact changes guarded fun _ => rfl

theorem rewind (guarded : Guarded before history) :
    Guarded before (rewind history) := by
  unfold Firmware.rewind
  split
  · exact changes guarded fun _ => rfl
  · exact guarded

theorem eraseAt (guarded : Guarded before history) (logicalIndex : Nat) :
    Guarded before (eraseAt layout logicalIndex history) := by
  unfold Firmware.eraseAt
  split
  · apply rewind
    apply changes
    · exact changes guarded fun _ => rfl
    · intro memory
      rfl
  · apply rewind
    apply changes
    · apply History.Within.foldl guarded
      intro history index moved
      exact changes moved fun _ => rfl
    · intro memory
      rfl

variable {state : QueueHistory Payload × Nat}

theorem dropRound (minimumTimestamp : Int) (guarded : Guarded before state.1)
    (index : Nat) :
    Guarded before (dropRound layout minimumTimestamp state index).1 := by
  unfold Firmware.dropRound
  simp only
  split
  · split
    · exact guarded
    · simp only
      exact changes guarded fun _ => rfl
  · exact guarded

theorem dropRounds (minimumTimestamp : Int) (indices : List Nat)
    (guarded : Guarded before state.1) :
    Guarded before
      (indices.foldl (Firmware.dropRound layout minimumTimestamp) state).1 := by
  induction indices generalizing state with
  | nil => exact guarded
  | cons index indices induction =>
    rw [List.foldl_cons]
    exact induction (dropRound minimumTimestamp guarded index)

/-- Two last writes end the operation. -/
theorem finishes (guarded : Guarded before history)
    {memory : QueueMemory Payload}
    (member : memory ∈ (finishMutation layout history).states) :
    memory ∈ before.states ∨ Marked memory ∨
      memory = (finishMutation layout history).now := by
  have checked : Guarded before
      (history.write fun memory =>
        { memory with checksum := calculatedChecksum layout memory }) :=
    changes guarded fun _ => rfl
  unfold finishMutation at member ⊢
  rw [History.states_write] at member
  rcases List.mem_cons.mp member with rfl | earlier
  · exact .inr (.inr rfl)
  · rcases checked.states memory earlier with first | marked
    · exact .inl first
    · exact .inr (.inl marked)

end Guarded

/-! ## What a reset finds -/

inductive Interrupted (before after memory : QueueMemory Payload) : Prop
  | unstarted (magic : BitVec 32) (same : memory = { before with magic })
  | marked (marked : Marked memory)
  | empty (empty : memory.count = 0)
  | done (same : memory = after)

section States

variable {layout : QueueLayout Payload} {history : QueueHistory Payload}
  {memory : QueueMemory Payload}

theorem states_of_push (sample : Sample Payload)
    (member : memory ∈ (push layout sample history).1.states) :
    memory ∈ history.states ∨ Marked memory ∨
      memory = (push layout sample history).1.now := by
  apply Guarded.finishes _ member
  apply Guarded.changes
  · exact (Guarded.begins history).takeSequence.makeRoom
  · intro memory
    rfl

theorem states_of_remove (sequence : Serial.Number)
    (member : memory ∈ (remove layout sequence history).1.states) :
    memory ∈ history.states ∨ Marked memory ∨
      memory = (remove layout sequence history).1.now := by
  unfold remove at member ⊢
  split at member
  · exact .inl member
  · exact ((Guarded.begins history).eraseAt _).finishes member

theorem states_of_acknowledgeThrough (sequence : Serial.Number)
    (member : memory ∈ (acknowledgeThrough layout sequence history).1.states) :
    memory ∈ history.states ∨ Marked memory ∨
      memory = (acknowledgeThrough layout sequence history).1.now := by
  unfold acknowledgeThrough at member ⊢
  split at member
  · exact .inl member
  · apply Guarded.finishes _ member
    apply Guarded.changes
    · exact (Guarded.begins history).changes fun _ => rfl
    · intro memory
      rfl

theorem states_of_dropOlderThan (minimumTimestamp : Int)
    (member : memory ∈ (dropOlderThan layout minimumTimestamp history).1.states) :
    memory ∈ history.states ∨ Marked memory ∨
      memory = (dropOlderThan layout minimumTimestamp history).1.now := by
  apply Guarded.finishes _ member
  apply Guarded.changes
  · apply Guarded.rewind
    apply Guarded.changes
    · exact Guarded.dropRounds minimumTimestamp _ (Guarded.begins history)
    · intro memory
      rfl
  · intro memory
    rfl

/-- The memory while the first three bytes of the magic number go. -/
def unmark (history : QueueHistory Payload) : QueueHistory Payload :=
  ((history.write fun memory =>
    { memory with magic := memory.magic &&& 0xFFFFFF00 }).write fun memory =>
    { memory with magic := memory.magic &&& 0xFFFF0000 }).write fun memory =>
    { memory with magic := memory.magic &&& 0xFF000000 }

theorem states_of_unmark (member : memory ∈ (unmark history).states) :
    memory ∈ history.states ∨
      ∃ magic, memory = { history.now with magic } := by
  unfold unmark at member
  simp only [History.states_write, History.now_write, List.mem_cons] at member
  rcases member with same | same | same | earlier
  · exact .inr ⟨_, same⟩
  · exact .inr ⟨_, same⟩
  · exact .inr ⟨_, same⟩
  · exact .inl earlier

theorem Guarded.clear (history : QueueHistory Payload) :
    Guarded (unmark history) (clear layout history) := by
  have marked : Guarded (unmark history)
      ((unmark history).write fun memory => { memory with magic := 0 }) :=
    .first rfl
  unfold Firmware.clear
  simp only
  apply Guarded.changes
  · apply History.Within.foldl
    · -- The fields between the magic number and the samples.
      iterate 7
        apply Guarded.changes
        rotate_left
        · intro memory
          rfl
      exact marked
    · intro history index guarded
      exact Guarded.changes guarded fun _ => rfl
  · intro memory
    rfl

theorem states_of_reset (tag : BitVec 32)
    (member : memory ∈ (reset layout tag history).states) :
    memory ∈ history.states ∨
      (∃ magic, memory = { history.now with magic }) ∨ Marked memory ∨
      memory = (reset layout tag history).now := by
  have guarded : Guarded (unmark history)
      (((clear layout history).write fun memory =>
        { memory with configurationTag := tag }).write fun memory =>
        { memory with nextSequence := 1 }) := by
    apply Guarded.changes
    · exact (Guarded.clear history).changes fun _ => rfl
    · intro memory
      rfl
  rcases guarded.finishes member with started | marked | done
  · rcases states_of_unmark started with earlier | unmarked
    · exact .inl earlier
    · exact .inr (.inl unmarked)
  · exact .inr (.inr (.inl marked))
  · exact .inr (.inr (.inr done))

theorem count_of_reset (tag : BitVec 32) :
    (reset layout tag history).now.count = 0 :=
  (keeps_of_reset layout tag history 1).count_eq

theorem states_of_restoreNewest (sample : Sample Payload) (tag : BitVec 32)
    (member : memory ∈ (restoreNewest layout sample tag history).1.states) :
    memory ∈ history.states ∨
      Interrupted history.now (restoreNewest layout sample tag history).1.now
        memory := by
  unfold restoreNewest at member ⊢
  split at member
  · exact .inl member
  · rename_i named
    rw [if_neg named]
    simp only at member ⊢
    rcases states_of_push sample member with reset | marked | done
    · rw [History.states_write, List.mem_cons] at reset
      rcases reset with same | reset
      · refine .inr (.empty ?_)
        rw [same]
        exact count_of_reset tag
      · rcases states_of_reset tag reset with
          earlier | ⟨magic, same⟩ | marked | done
        · exact .inl earlier
        · exact .inr (.unstarted magic same)
        · exact .inr (.marked marked)
        · refine .inr (.empty ?_)
          rw [done]
          exact count_of_reset tag
    · exact .inr (.marked marked)
    · exact .inr (.done done)

theorem interrupted_of_reset (tag : BitVec 32)
    (member : memory ∈ (reset layout tag history).states) :
    memory ∈ history.states ∨
      Interrupted history.now (reset layout tag history).now memory := by
  rcases states_of_reset tag member with earlier | ⟨magic, same⟩ | marked | done
  · exact .inl earlier
  · exact .inr (.unstarted magic same)
  · exact .inr (.marked marked)
  · exact .inr (.done done)

/-- Any write of any operation. -/
theorem interrupted (mutation : QueueMutation Payload)
    {before : QueueMemory Payload}
    (member : memory ∈ (mutation.perform layout (.start before)).states) :
    Interrupted before (mutation.perform layout (.start before)).now
      memory := by
  have unstarted {after : QueueMemory Payload}
      (started : memory ∈ (History.start before).states) :
      Interrupted before after memory := by
    rw [History.states_start, List.mem_singleton] at started
    exact .unstarted before.magic started
  have guarded {after : QueueMemory Payload}
      (found : memory ∈ (History.start before).states ∨ Marked memory ∨
        memory = after) : Interrupted before after memory := by
    rcases found with started | marked | done
    · exact unstarted started
    · exact .marked marked
    · exact .done done
  cases mutation with
  | initializeOrRecover tag =>
    unfold QueueMutation.perform initializeOrRecover at member ⊢
    simp only at member ⊢
    split at member
    · exact unstarted member
    · rename_i rejected
      rw [if_neg rejected]
      exact (interrupted_of_reset tag member).elim unstarted id
  | reset tag =>
    exact (interrupted_of_reset tag member).elim unstarted id
  | restoreNewest sample tag =>
    exact (states_of_restoreNewest sample tag member).elim unstarted id
  | push sample => exact guarded (states_of_push sample member)
  | remove sequence => exact guarded (states_of_remove sequence member)
  | acknowledgeThrough sequence =>
    exact guarded (states_of_acknowledgeThrough sequence member)
  | dropOlderThan minimumTimestamp =>
    exact guarded (states_of_dropOlderThan minimumTimestamp member)

end States



/-! ## What the next boot accepts -/

variable {layout : QueueLayout Payload}

/-- A queue that fits the retained memory has a magic number that is not the
mark. -/
theorem expectedMagic_ne_zero
    (fits : layout.sampleSize * layout.capacity ≤ 6 * 1024) :
    expectedMagic layout ≠ 0 := by
  have small : layout.sampleSize ≤ layout.sampleSize * layout.capacity :=
    Nat.le_mul_of_pos_right _ layout.positive
  have counted := layout.bounded
  intro zero
  -- Neither the size nor the capacity reaches bit 30.
  have bit := congrArg (fun word => word.getLsbD 30) zero
  have clear (number : Nat) (short : number < 2 ^ 30) :
      (BitVec.ofNat 32 number).getLsbD 30 = false := by
    rw [BitVec.getLsbD_ofNat, Nat.testBit_lt_two_pow short, Bool.and_false]
  unfold expectedMagic at bit
  rw [BitVec.getLsbD_xor, BitVec.getLsbD_xor, clear _ (by omega),
    clear _ (by omega)] at bit
  exact absurd bit (by decide)

variable {memory : QueueMemory Payload} {tag : BitVec 32}

theorem magic_of_accepts (accepted : accepts layout tag memory = true) :
    memory.magic = expectedMagic layout := by
  unfold accepts integrityIsValid at accepted
  simp only [Bool.and_eq_true, beq_iff_eq] at accepted
  exact accepted.2.1

theorem Interrupted.accepted {before after : QueueMemory Payload}
    (interrupted : Interrupted before after memory)
    (fits : layout.sampleSize * layout.capacity ≤ 6 * 1024)
    (valid : accepts layout before.configurationTag before = true)
    (accepted : accepts layout tag memory = true) :
    memory = before ∨ memory = after ∨ memory.count = 0 := by
  cases interrupted with
  | unstarted magic same =>
    have restored : magic = before.magic := by
      rw [magic_of_accepts valid, ← magic_of_accepts accepted, same]
    left
    rw [same, restored]
  | marked marked =>
    exact absurd ((magic_of_accepts accepted).symm.trans marked)
      (expectedMagic_ne_zero fits)
  | empty empty => exact .inr (.inr empty)
  | done same => exact .inr (.inl same)

/-- After a reset at any write of any operation on a valid queue, the next boot
has the queue from before the operation, the queue after it, or an empty one,
and it has accepted nothing else. -/
theorem queue_is_crash_consistent (layout : QueueLayout Payload)
    (fits : layout.sampleSize * layout.capacity ≤ 6 * 1024)
    (before : QueueMemory Payload)
    (valid : accepts layout before.configurationTag before = true)
    (mutation : QueueMutation Payload) (memory : QueueMemory Payload)
    (found : memory ∈ (mutation.perform layout (.start before)).states)
    (tag : BitVec 32) :
    let recovered := initializeOrRecover layout tag (.start memory)
    let after := (mutation.perform layout (.start before)).now
    (recovered.1.now = before ∨ recovered.1.now = after ∨
      recovered.1.now.count = 0) ∧
    (recovered.2 = true →
      memory = before ∨ memory = after ∨ memory.count = 0) := by
  intro recovered after
  have recover : recovered = initializeOrRecover layout tag (.start memory) :=
    rfl
  unfold initializeOrRecover at recover
  rw [History.now_start] at recover
  by_cases accepted : accepts layout tag memory = true
  · rw [if_pos accepted] at recover
    have whole := (interrupted mutation found).accepted fits valid accepted
    rw [recover]
    exact ⟨whole, fun _ => whole⟩
  · rw [if_neg accepted] at recover
    rw [recover]
    refine ⟨.inr (.inr (count_of_reset tag)), ?_⟩
    intro impossible
    cases impossible

def ringLayout : QueueLayout Unit where
  capacity := 4
  positive := Nat.zero_lt_succ 3
  bounded := Nat.le_of_ble_eq_true rfl
  sampleSize := 16
  sampleBytes sample := littleEndian sample.sequence 16
  zeroSample := { sequence := 0, timestamp := 0, payload := () }

/-- Samples 2 to 5, from slot 1 on, over the one that was dropped. -/
def fullRing : QueueMemory Unit :=
  ((List.range 5).foldl
    (fun history _ => (push ringLayout ringLayout.zeroSample history).1)
    (reset ringLayout 7 (.start
      { magic := 0, configurationTag := 0, nextSequence := 0, overflowDrops := 0,
        staleDrops := 0, head := 0, count := 0, highWaterMark := 0,
        samples := fun _ => ringLayout.zeroSample, checksum := 0 }))).now

/-- Sample 3 is being removed: of the two slots behind it one is shifted. -/
def shiftedRing : QueueMemory Unit :=
  { fullRing with
    magic := 0
    samples := Function.update fullRing.samples 2 (fullRing.samples 3) }

theorem queue_is_crash_consistent_halfway :
    let recovered := initializeOrRecover ringLayout 7 (.start shiftedRing)
    let after :=
      ((QueueMutation.remove 3).perform ringLayout (.start fullRing)).now
    (fullRing.head = 1 ∧ fullRing.count = 4 ∧ after.count = 3) ∧
    (recovered.1.now = fullRing ∨ recovered.1.now = after ∨
      recovered.1.now.count = 0) ∧
    (recovered.2 = true →
      shiftedRing = fullRing ∨ shiftedRing = after ∨ shiftedRing.count = 0) :=
  ⟨by decide +kernel,
    queue_is_crash_consistent ringLayout (by decide) fullRing
      (by decide +kernel) (.remove 3) shiftedRing
      (.tail _ (.tail _ (.tail _ (.tail _ (.head _))))) 7⟩

end Eki.Firmware
