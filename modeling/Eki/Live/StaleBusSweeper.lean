import Mathlib.Algebra.Order.Field.Rat
import Mathlib.Data.Prod.Lex
import Eki.Library.Insertion
import Eki.Library.Pages
import Eki.Library.Transition

/-!
# The stale bus sweeper

A cycle reads the nodes older than its cutoff page by page, in the order of
their timestamps.  A stale ride is marked offline and any other stale node is
removed, each in a transaction that looks at the node again.  A page with a
failure is read again.
-/

namespace Eki.Sweep

open Insertion Transition

/-- A field of a node.  Two objects are never one and the same. -/
inductive Value where
  | number (value : ℚ)
  | string (value : String)
  | boolean (value : Bool)
  | object
  deriving DecidableEq

/-- `left !== right`, of fields that may be missing. -/
def differs (left right : Option Value) : Bool :=
  left == some .object || left != right

abbrev BusNode := String → Option Value

def identityFields : List String :=
  ["timestamp", "seq", "backendReceivedAt", "busId", "routeId", "driverId",
    "sessionId", "status", "tripState"]

/-- What the sweeper is created with, and the worker it runs under. -/
structure SweepOptions where
  staleMs : ℚ
  staleMs_pos : 0 < staleMs
  pageSize : Nat
  pageSize_pos : 0 < pageSize
  writeConcurrency : Nat
  writeConcurrency_pos : 0 < writeConcurrency
  /-- The generation of the worker's fence, if there is one. -/
  generation : Option ℚ
  /-- `Number(text)`, and `none` for NaN. -/
  numberOf : String → Option ℚ

def isActive (data : BusNode) : Bool :=
  data "status" == some (.string "active") &&
    (data "tripState" == some (.string "pre_departure") ||
      data "tripState" == some (.string "in_service"))

def isOffline (data : BusNode) : Bool :=
  data "deviceState" == some (.string "offline")

def withField (node : BusNode) (name : String) (value : Value) : BusNode :=
  fun field => if field = name then some value else node field

def markedOffline (node : BusNode) (serverNow : ℚ) : BusNode :=
  withField (withField (withField node "deviceState" (.string "offline"))
    "signalState" (.string "lost")) "lifecycleUpdatedAt" (.number serverNow)

/-! ## A transaction -/

/-- What the callback of a transaction returns. -/
inductive Update where
  | aborted
  | commit (after : Option BusNode)

/-- `Number(current?._workerGeneration ?? 0)` -/
def generationOf (options : SweepOptions) (current : Option BusNode) :
    Option ℚ :=
  match current.bind fun node => node "_workerGeneration" with
  | none => some 0
  | some (.number value) => some value
  | some (.string text) => options.numberOf text
  | some (.boolean value) => some (if value then 1 else 0)
  | some .object => none

/-- The fence lets no worker write that has lost its leadership, and none that
comes after a newer one. -/
def fenceRefuses (options : SweepOptions) (leading : Bool)
    (current : Option BusNode) : Bool :=
  options.generation.any fun generation =>
    !leading ||
      (generationOf options current).any fun newer =>
        decide (newer > generation)

def fenced (options : SweepOptions) (node : BusNode) : BusNode :=
  options.generation.elim node fun generation =>
    withField node "_workerGeneration" (.number generation)

/-- The callback, under the fence. -/
def update (options : SweepOptions) (stopped leading : Bool) (serverNow : ℚ)
    (data : BusNode) (current : Option BusNode) : Update :=
  if fenceRefuses options leading current then .aborted
  else if stopped then .aborted
  else
    match current with
    | none => .commit none
    | some node =>
      if identityFields.any fun field =>
          differs (node field) (data field) then .aborted
      else if isActive data then
        if isOffline node then .aborted
        else .commit (some (fenced options (markedOffline node serverNow)))
      else .commit none

/-! ## Cycles -/

variable {K : Type} [LinearOrder K]

/-- What a page holds of a node. -/
abbrev Child (K : Type) := K × BusNode

def timestampOf (data : BusNode) : Option ℚ :=
  match data "timestamp" with
  | some (.number value) => some value
  | _ => none

/-- The order of the index. -/
def position (child : Child K) : ℚ ×ₗ K :=
  toLex ((timestampOf child.2).getD 0, child.1)

def inRange (cursor : Option (ℚ × K)) (cutoff : ℚ) (child : Child K) : Bool :=
  (timestampOf child.2).any fun timestamp =>
    decide (timestamp ≤ cutoff) &&
      cursor.elim (decide (0 ≤ timestamp)) fun cursor =>
        decide (toLex cursor < position child)

/-- `write` does not come to a transaction otherwise. -/
def needsWrite (cutoff : ℚ) (data : BusNode) : Bool :=
  (timestampOf data).any (fun timestamp => decide (timestamp < cutoff)) &&
    !(isActive data && isOffline data)

/-- Where a tick stands. -/
inductive Stage (K : Type) where
  | idle
  | reading
  /-- The page, the transactions that run, those that are to come, and whether
  one has failed. -/
  | writing (children batch waiting : List (Child K)) (failed : Bool)

/-- A sweeper and the nodes.  No step reads the nodes at the start of the
cycle, those when the page was read, the keys that others wrote during the
cycle and those that the fence refused. -/
structure Sweeper (K : Type) where
  tree : OrderedMap K BusNode
  stopped : Bool
  stage : Stage K
  cursor : Option (ℚ × K)
  cutoff : Option ℚ
  nextSweepAt : ℚ
  nextAttemptAt : ℚ
  consecutiveFailures : Nat
  cycles : Nat
  atStart : OrderedMap K BusNode
  atRead : OrderedMap K BusNode
  touched : List K
  refused : List K

/-- What `now` says each time a tick asks. -/
structure Readings where
  attemptWait : ℚ
  sweepWait : ℚ
  attempt : ℚ
  sweep : ℚ
  start : ℚ
  retry : ℚ

inductive SweepLabel (K : Type) where
  | tick (readings : Readings) (leading : Bool)
  /-- The page arrives. -/
  | page
  | pageFails (now : ℚ)
  | batch
  | transact (key : K) (leading : Bool) (serverNow : ℚ)
  /-- A transaction fails; the server may have applied it nevertheless. -/
  | fail (key : K) (applied leading : Bool) (serverNow : ℚ)
  | finish (now : ℚ)
  /-- Others write a node or remove it. -/
  | write (key : K) (node : Option BusNode)
  | stop

namespace Sweeper

def new (tree : OrderedMap K BusNode) : Sweeper K :=
  { tree
    stopped := false
    stage := .idle
    cursor := none
    cutoff := none
    nextSweepAt := 0
    nextAttemptAt := 0
    consecutiveFailures := 0
    cycles := 0
    atStart := tree
    atRead := tree
    touched := []
    refused := [] }

variable (options : SweepOptions) (sweeper : Sweeper K)

def deferRetry (now : ℚ) : Sweeper K :=
  { sweeper with
    consecutiveFailures := sweeper.consecutiveFailures + 1
    nextAttemptAt :=
      now + min 30000
        (1000 * (Nat.pow 2 (min 5 sweeper.consecutiveFailures) : Nat)) }

def isIdle : Bool :=
  match sweeper.stage with
  | .idle => true
  | _ => false

/-- A wait that is too long is given up: the clock was set back. -/
def withoutLongWaits (readings : Readings) : Sweeper K :=
  { sweeper with
    nextAttemptAt :=
      if sweeper.nextAttemptAt - readings.attemptWait > 30000 then 0
      else sweeper.nextAttemptAt
    nextSweepAt :=
      if sweeper.nextSweepAt - readings.sweepWait > options.staleMs then 0
      else sweeper.nextSweepAt }

def tick (readings : Readings) (leading : Bool) : Sweeper K :=
  let waiting := sweeper.withoutLongWaits options readings
  if waiting.stopped || !waiting.isIdle ||
      decide (readings.attempt < waiting.nextAttemptAt) ||
      (waiting.cutoff.isNone &&
        decide (readings.sweep < waiting.nextSweepAt)) then
    waiting
  else if options.generation.isSome && !leading then
    waiting.deferRetry readings.retry
  else
    match waiting.cutoff with
    | some _ => { waiting with stage := .reading }
    | none =>
      { waiting with
        cutoff := some (readings.start - options.staleMs)
        stage := .reading
        atStart := waiting.tree
        touched := []
        refused := [] }

def page : Option (Sweeper K) :=
  match sweeper.stage, sweeper.cutoff with
  | .reading, some cutoff =>
    if sweeper.stopped then some { sweeper with stage := .idle }
    else
      let children :=
        Pages.page position (inRange sweeper.cursor cutoff) options.pageSize
          sweeper.tree.entries
      some
        { sweeper with
          stage := .writing children [] children false
          atRead := sweeper.tree }
  | _, _ => none

def pageFails (now : ℚ) : Option (Sweeper K) :=
  match sweeper.stage with
  | .reading => some { sweeper.deferRetry now with stage := .idle }
  | _ => none

/-- The next transactions of the page. -/
def batch : Option (Sweeper K) :=
  match sweeper.stage, sweeper.cutoff with
  | .writing children [] waiting failed, some cutoff =>
    if sweeper.stopped then none
    else
      some
        { sweeper with
          stage :=
            .writing children
              ((waiting.take options.writeConcurrency).filter fun child =>
                needsWrite cutoff child.2)
              (waiting.drop options.writeConcurrency) failed }
  | _, _ => none

/-- What a transaction makes of the nodes. -/
def applied (key : K) (data : BusNode) (leading : Bool) (serverNow : ℚ) :
    OrderedMap K BusNode :=
  match update options sweeper.stopped leading serverNow data
      (sweeper.tree.get key) with
  | .aborted => sweeper.tree
  | .commit none => sweeper.tree.delete key
  | .commit (some after) => sweeper.tree.set key after

def transact (key : K) (leading : Bool) (serverNow : ℚ) :
    Option (Sweeper K) :=
  match sweeper.stage with
  | .writing children batch waiting failed =>
    (batch.find? fun child => child.1 == key).map fun child =>
      { sweeper with
        tree := sweeper.applied options key child.2 leading serverNow
        stage :=
          .writing children (batch.filter fun other => other.1 != key)
            waiting failed
        refused :=
          if fenceRefuses options leading (sweeper.tree.get key) then
            sweeper.refused ++ [key]
          else sweeper.refused }
  | _ => none

def fail (key : K) (applied leading : Bool) (serverNow : ℚ) :
    Option (Sweeper K) :=
  match sweeper.stage with
  | .writing children batch waiting _ =>
    (batch.find? fun child => child.1 == key).map fun child =>
      { sweeper with
        tree :=
          if applied then
            sweeper.applied options key child.2 leading serverNow
          else sweeper.tree
        stage :=
          .writing children (batch.filter fun other => other.1 != key)
            waiting true }
  | _ => none

/-- The page is done: it is read again, or the next one is, or the cycle
ends. -/
def finish (now : ℚ) : Option (Sweeper K) :=
  match sweeper.stage with
  | .writing children [] waiting failed =>
    let idle : Sweeper K := { sweeper with stage := .idle }
    if sweeper.stopped then some idle
    else if !waiting.isEmpty then none
    else if failed then some (idle.deferRetry now)
    else
      let recovered : Sweeper K :=
        { idle with
          consecutiveFailures := 0
          nextAttemptAt := 0 }
      if children.length = options.pageSize then
        match children.getLast?.bind fun last =>
            (timestampOf last.2).map fun timestamp => (timestamp, last.1) with
        | some cursor => some { recovered with cursor := some cursor }
        | none => some (recovered.deferRetry now)
      else
        some
          { recovered with
            cutoff := none
            cursor := none
            nextSweepAt := now + options.staleMs
            cycles := sweeper.cycles + 1 }
  | _ => none

def write (key : K) (node : Option BusNode) : Sweeper K :=
  { sweeper with
    tree := node.elim (sweeper.tree.delete key) (sweeper.tree.set key)
    touched := sweeper.touched ++ [key] }

def step : System (Sweeper K) (SweepLabel K) :=
  fun sweeper label =>
    match label with
    | .tick readings leading => some (sweeper.tick options readings leading)
    | .page => sweeper.page options
    | .pageFails now => sweeper.pageFails now
    | .batch => sweeper.batch options
    | .transact key leading serverNow =>
      sweeper.transact options key leading serverNow
    | .fail key applied leading serverNow =>
      sweeper.fail options key applied leading serverNow
    | .finish now => sweeper.finish options now
    | .write key node => some (sweeper.write key node)
    | .stop => some { sweeper with stopped := true }

end Sweeper

end Eki.Sweep
