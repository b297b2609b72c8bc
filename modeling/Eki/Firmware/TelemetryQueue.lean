import Eki.Library.Ring
import Eki.Library.Serial
import Eki.Library.Writes

/-!
# The telemetry queue

A ring of fixed capacity in memory that a reset does not clear.  Every operation
is written as its memory writes in program order, between a first one that
clears the magic number and two last ones that set the checksum and the magic
number again.
-/

namespace Eki.Firmware

open Writes
open Function (update)

variable {Payload : Type}

/-- A queued fix. -/
structure Sample (Payload : Type) where
  sequence : Serial.Number
  timestamp : Int
  payload : Payload

/-- The template's parameters and what `sizeof`, `memset` and the checksum know
of a sample. -/
structure QueueLayout (Payload : Type) where
  capacity : Nat
  positive : 0 < capacity
  bounded : capacity ≤ 65535
  sampleSize : Nat
  sampleBytes : Sample Payload → List (BitVec 8)
  zeroSample : Sample Payload

/-- The memory of a queue.  Indices and counts of 16 bits stay within the
capacity. -/
structure QueueMemory (Payload : Type) where
  magic : BitVec 32
  configurationTag : BitVec 32
  nextSequence : Serial.Number
  overflowDrops : BitVec 32
  staleDrops : BitVec 32
  head : Nat
  count : Nat
  highWaterMark : Nat
  samples : Nat → Sample Payload
  checksum : BitVec 32

def fnvOffsetBasis : BitVec 32 := 2166136261

def hashBytes (hash : BitVec 32) (bytes : List (BitVec 8)) : BitVec 32 :=
  bytes.foldl
    (fun hash byte => (hash ^^^ byte.setWidth 32) * 16777619) hash

/-- The bytes of a number in memory, least significant first. -/
def littleEndian {width : Nat} (number : BitVec width) (bytes : Nat) :
    List (BitVec 8) :=
  (List.range bytes).map fun index => number.extractLsb' (8 * index) 8

section Operations

variable (layout : QueueLayout Payload)

def expectedMagic : BitVec 32 :=
  0x454B4903 ^^^ BitVec.ofNat 32 (layout.sampleSize * 256) ^^^
    BitVec.ofNat 32 layout.capacity

def calculatedChecksum (memory : QueueMemory Payload) : BitVec 32 :=
  hashBytes fnvOffsetBasis
    (littleEndian memory.configurationTag 4 ++
      littleEndian memory.nextSequence 4 ++
      littleEndian memory.overflowDrops 4 ++
      littleEndian memory.staleDrops 4 ++
      littleEndian (BitVec.ofNat 16 memory.head) 2 ++
      littleEndian (BitVec.ofNat 16 memory.count) 2 ++
      littleEndian (BitVec.ofNat 16 memory.highWaterMark) 2 ++
      (List.range layout.capacity).flatMap fun index =>
        layout.sampleBytes (memory.samples index))

def integrityIsValid (memory : QueueMemory Payload) : Bool :=
  memory.magic == expectedMagic layout &&
    memory.checksum == calculatedChecksum layout memory

/-- What `initializeOrRecover` takes for a valid queue. -/
def accepts (configurationTag : BitVec 32) (memory : QueueMemory Payload) :
    Bool :=
  memory.magic == expectedMagic layout &&
    memory.configurationTag == configurationTag &&
    decide (memory.head < layout.capacity) &&
    decide (memory.count ≤ layout.capacity) &&
    decide (memory.highWaterMark ≤ layout.capacity) &&
    memory.nextSequence != 0 &&
    integrityIsValid layout memory

def increment (index : Nat) : Nat :=
  (index + 1) % layout.capacity

def physicalIndex (memory : QueueMemory Payload) (logicalIndex : Nat) : Nat :=
  Ring.slot layout.capacity memory.head logicalIndex

abbrev QueueHistory (Payload : Type) := History (QueueMemory Payload)

def beginMutation (history : QueueHistory Payload) : QueueHistory Payload :=
  history.write fun memory => { memory with magic := 0 }

def finishMutation (history : QueueHistory Payload) : QueueHistory Payload :=
  let history := history.write fun memory =>
    { memory with checksum := calculatedChecksum layout memory }
  history.write fun memory => { memory with magic := expectedMagic layout }

/-- `memset` clears the magic number byte by byte, and the fields after it. -/
def clear (history : QueueHistory Payload) : QueueHistory Payload :=
  let history := history.write fun memory =>
    { memory with magic := memory.magic &&& 0xFFFFFF00 }
  let history := history.write fun memory =>
    { memory with magic := memory.magic &&& 0xFFFF0000 }
  let history := history.write fun memory =>
    { memory with magic := memory.magic &&& 0xFF000000 }
  let history := history.write fun memory => { memory with magic := 0 }
  let history := history.write fun memory =>
    { memory with configurationTag := 0 }
  let history := history.write fun memory => { memory with nextSequence := 0 }
  let history := history.write fun memory => { memory with overflowDrops := 0 }
  let history := history.write fun memory => { memory with staleDrops := 0 }
  let history := history.write fun memory => { memory with head := 0 }
  let history := history.write fun memory => { memory with count := 0 }
  let history := history.write fun memory => { memory with highWaterMark := 0 }
  let history :=
    (List.range layout.capacity).foldl
      (fun history index => history.write fun memory =>
        { memory with
          samples := update memory.samples index layout.zeroSample })
      history
  history.write fun memory => { memory with checksum := 0 }

def reset (configurationTag : BitVec 32) (history : QueueHistory Payload) :
    QueueHistory Payload :=
  let history := clear layout history
  let history := history.write fun memory => { memory with configurationTag }
  let history := history.write fun memory => { memory with nextSequence := 1 }
  finishMutation layout history

def initializeOrRecover (configurationTag : BitVec 32)
    (history : QueueHistory Payload) : QueueHistory Payload × Bool :=
  if accepts layout configurationTag history.now then (history, true)
  else (reset layout configurationTag history, false)

/-- Make room for a sample and say where it goes. -/
def makeRoom (history : QueueHistory Payload) : QueueHistory Payload × Nat :=
  if history.now.count = layout.capacity then
    let writeIndex := history.now.head
    let history := history.write fun memory =>
      { memory with head := increment layout memory.head }
    let history := history.write fun memory =>
      { memory with overflowDrops := memory.overflowDrops + 1 }
    (history, writeIndex)
  else
    let writeIndex := physicalIndex layout history.now history.now.count
    let history := history.write fun memory =>
      { memory with count := memory.count + 1 }
    let history :=
      if history.now.highWaterMark < history.now.count then
        history.write fun memory => { memory with highWaterMark := memory.count }
      else history
    (history, writeIndex)

def takeSequence (history : QueueHistory Payload) : QueueHistory Payload :=
  let history := history.write fun memory =>
    { memory with nextSequence := memory.nextSequence + 1 }
  if history.now.nextSequence = 0 then
    history.write fun memory => { memory with nextSequence := 1 }
  else history

def push (sample : Sample Payload) (history : QueueHistory Payload) :
    QueueHistory Payload × Serial.Number :=
  let history := beginMutation history
  let sample := { sample with sequence := history.now.nextSequence }
  let history := takeSequence history
  let (history, writeIndex) := makeRoom layout history
  let history := history.write fun memory =>
    { memory with samples := update memory.samples writeIndex sample }
  (finishMutation layout history, sample.sequence)

def restoreNewest (sample : Sample Payload) (configurationTag : BitVec 32)
    (history : QueueHistory Payload) : QueueHistory Payload × Bool :=
  if sample.sequence = 0 then (history, false)
  else
    let history := reset layout configurationTag history
    let history := history.write fun memory =>
      { memory with nextSequence := sample.sequence }
    ((push layout sample history).1, true)

def newest (memory : QueueMemory Payload) : Option (Sample Payload) :=
  if memory.count = 0 then none
  else some (memory.samples (physicalIndex layout memory (memory.count - 1)))

def findSequence (sequence : Serial.Number) (memory : QueueMemory Payload) :
    Option Nat :=
  (List.range memory.count).find? fun logicalIndex =>
    (memory.samples (physicalIndex layout memory logicalIndex)).sequence ==
      sequence

/-- An empty ring starts over. -/
def rewind (history : QueueHistory Payload) : QueueHistory Payload :=
  if history.now.count = 0 then
    history.write fun memory => { memory with head := 0 }
  else history

def eraseAt (logicalIndex : Nat) (history : QueueHistory Payload) :
    QueueHistory Payload :=
  if logicalIndex = 0 then
    let history := history.write fun memory =>
      { memory with head := increment layout memory.head }
    let history := history.write fun memory =>
      { memory with count := memory.count - 1 }
    rewind history
  else
    let history :=
      (List.range' logicalIndex (history.now.count - 1 - logicalIndex)).foldl
        (fun history index => history.write fun memory =>
          { memory with
            samples :=
              update memory.samples (physicalIndex layout memory index)
                (memory.samples (physicalIndex layout memory (index + 1))) })
        history
    let history := history.write fun memory =>
      { memory with count := memory.count - 1 }
    rewind history

def remove (sequence : Serial.Number) (history : QueueHistory Payload) :
    QueueHistory Payload × Bool :=
  match findSequence layout sequence history.now with
  | none => (history, false)
  | some logicalIndex =>
    (finishMutation layout
      (eraseAt layout logicalIndex (beginMutation history)), true)

def acknowledgeThrough (sequence : Serial.Number)
    (history : QueueHistory Payload) : QueueHistory Payload × Nat :=
  match findSequence layout sequence history.now with
  | none => (history, 0)
  | some logicalIndex =>
    let history := beginMutation history
    let removed := logicalIndex + 1
    let retained := history.now.count - removed
    let nextHead :=
      if 0 < retained then physicalIndex layout history.now removed else 0
    let history := history.write fun memory =>
      { memory with head := nextHead }
    let history := history.write fun memory =>
      { memory with count := retained }
    (finishMutation layout history, removed)

/-- One round of the loop of `dropOlderThan`. -/
def dropRound (minimumTimestamp : Int)
    (state : QueueHistory Payload × Nat) (index : Nat) :
    QueueHistory Payload × Nat :=
  let (history, retained) := state
  let sample := history.now.samples (physicalIndex layout history.now index)
  if minimumTimestamp ≤ sample.timestamp then
    (if retained = index then history
      else history.write fun memory =>
        { memory with
          samples :=
            update memory.samples
              (physicalIndex layout memory retained) sample },
      retained + 1)
  else (history, retained)

def dropOlderThan (minimumTimestamp : Int) (history : QueueHistory Payload) :
    QueueHistory Payload × Nat :=
  let history := beginMutation history
  let originalCount := history.now.count
  let (history, retained) :=
    (List.range originalCount).foldl (dropRound layout minimumTimestamp)
      (history, 0)
  let history := history.write fun memory => { memory with count := retained }
  let history := rewind history
  let dropped := originalCount - retained
  let history := history.write fun memory =>
    { memory with staleDrops := memory.staleDrops + BitVec.ofNat 32 dropped }
  (finishMutation layout history, dropped)

end Operations

end Eki.Firmware
