import Eki.Reads.LruCache
import Eki.Work.KeyedExecutor

/-!
# The serialized change writer

Writes of one key are queued behind one another on an executor that several
writers may share.  A write is left out when its fingerprint is the one that
was last enqueued for the key, and a write that fails forgets the fingerprint.
-/

namespace Eki.Work

open Insertion Transition
open Reads (LruCache.touch LruCache.set)

/-- The constructor refuses a cache without room. -/
structure WriterOptions (R : Type) [JsNumber R] extends
    ExecutionBudgets R where
  maxFingerprints : Nat
  maxFingerprints_pos : 0 < maxFingerprints

/-- A write that was admitted; its callbacks know the same. -/
structure AdmittedWrite (K F : Type) where
  id : Nat
  key : K
  fingerprint : Option F

/-- What `enqueue` returns. -/
inductive Answer where
  | refused
  | queued (id : Nat)
  /-- The promise in the queue, or one that is resolved already. -/
  | suppressed (pending : Option Nat)
  deriving DecidableEq

structure Ask (K F : Type) where
  key : K
  fingerprint : Option F
  answer : Answer

/-- A write is called, and its promise settles. -/
inductive WriteEvent (K V E : Type) where
  | began (key : K) (id : Nat)
  | ended (key : K) (id : Nat) (result : Except E V)

def WriteEvent.key {K V E : Type} : WriteEvent K V E → K
  | .began key _ => key
  | .ended key _ _ => key

def Executor.observed {K R V E : Type} (after : Executor K R V E) :
    ExecutorLabel K R V E → List (WriteEvent K V E)
  | .start id _ =>
    match after.flight id with
    | some { task, stage := .running } => [.began task.key id]
    | _ => []
  | .finish id result =>
    match after.flight id with
    | some flight => [.ended flight.task.key id result]
    | none => []
  | _ => []

/-- A writer and its executor, whose keys are those of all the writers on it
by the writer's number.  No step reads the admissions, the asks or the
events. -/
structure ChangeWriter (K R V E F : Type) where
  owner : Nat
  executor : Executor (Nat × K) R V E
  fingerprints : OrderedMap K F
  queues : OrderedMap K Nat
  /-- The callbacks that have not run. -/
  callbacks : List (AdmittedWrite K F)
  admissions : List (AdmittedWrite K F)
  asks : List (Ask K F)
  events : List (WriteEvent (Nat × K) V E)

inductive WriterLabel (K R V E F : Type) where
  | enqueue (key : K) (fingerprint : Option F) (now : R)
  /-- The callback of a promise that has settled. -/
  | handle (id : Nat)
  | retry (key : K) (fingerprint : F)
  | forgetFingerprint (key : K)
  | invalidate (key : K)
  | clear
  /-- The executor goes on; others submit to it as well. -/
  | execute (label : ExecutorLabel (Nat × K) R V E)

namespace ChangeWriter

variable {K R V E F : Type}

def new (owner : Nat) : ChangeWriter K R V E F :=
  { owner
    executor := .new
    fingerprints := .empty
    queues := .empty
    callbacks := []
    admissions := []
    asks := []
    events := [] }

variable [DecidableEq K] [DecidableEq F] [JsNumber R]
  (options : WriterOptions R) (writer : ChangeWriter K R V E F)

def answer (key : K) (fingerprint : Option F) : Answer :=
  if fingerprint.isSome && writer.fingerprints.get key == fingerprint then
    .suppressed (writer.queues.get key)
  else if !writer.executor.canRun options.toExecutionBudgets
      (writer.owner, key) then .refused
  else .queued writer.executor.nextId

def enqueue (key : K) (fingerprint : Option F) (now : R) :
    ChangeWriter K R V E F :=
  let answer := writer.answer options key fingerprint
  let looked :=
    if fingerprint.isSome then LruCache.touch key writer.fingerprints
    else writer.fingerprints
  let asked : ChangeWriter K R V E F :=
    { writer with
      fingerprints := looked
      asks :=
        writer.asks ++
          [{ key
             fingerprint
             answer }] }
  match answer with
  | .suppressed _ => asked
  | .refused =>
    { asked with
      executor :=
        writer.executor.run options.toExecutionBudgets (writer.owner, key)
          now }
  | .queued id =>
    let admission : AdmittedWrite K F :=
      { id
        key
        fingerprint }
    { asked with
      executor :=
        writer.executor.run options.toExecutionBudgets (writer.owner, key)
          now
      fingerprints :=
        fingerprint.elim looked fun fingerprint =>
          LruCache.set options.maxFingerprints key fingerprint looked
      queues := writer.queues.set key id
      callbacks := writer.callbacks ++ [admission]
      admissions := writer.admissions ++ [admission] }

/-- A fingerprint is forgotten if it is this one. -/
def retry (key : K) (fingerprint : F) : ChangeWriter K R V E F :=
  let looked := LruCache.touch key writer.fingerprints
  { writer with
    fingerprints :=
      if writer.fingerprints.get key = some fingerprint then
        looked.delete key
      else looked }

def forgetFingerprint (key : K) : ChangeWriter K R V E F :=
  { writer with fingerprints := writer.fingerprints.delete key }

def invalidate (key : K) : ChangeWriter K R V E F :=
  { writer with fingerprints := writer.fingerprints.delete key }

def clear : ChangeWriter K R V E F :=
  { writer with fingerprints := .empty }

def succeeded : Outcome V E → Bool
  | .own (.ok _) => true
  | _ => false

def handled (admission : AdmittedWrite K F) (outcome : Outcome V E) :
    ChangeWriter K R V E F :=
  let recovered :=
    if succeeded outcome then writer
    else admission.fingerprint.elim writer (writer.retry admission.key)
  { recovered with
    queues :=
      if writer.queues.get admission.key = some admission.id then
        writer.queues.delete admission.key
      else writer.queues
    callbacks :=
      writer.callbacks.filter fun other => other.id != admission.id }

def handle (id : Nat) : Option (ChangeWriter K R V E F) :=
  match writer.callbacks.find? fun admission => admission.id == id,
      writer.executor.settled.find? fun entry => entry.1 == id with
  | some admission, some (_, outcome) => some (writer.handled admission outcome)
  | _, _ => none

/-- Others use keys of their own. -/
def foreign : ExecutorLabel (Nat × K) R V E → Bool
  | .run key _ => key.1 != writer.owner
  | .refreshPending key _ _ => key.1 != writer.owner
  | _ => true

def execute (label : ExecutorLabel (Nat × K) R V E) :
    Option (ChangeWriter K R V E F) :=
  if writer.foreign label then
    (Executor.step options.toExecutionBudgets writer.executor label).map
      fun after =>
        { writer with
          executor := after
          events := writer.events ++ after.observed label }
  else none

def step : System (ChangeWriter K R V E F) (WriterLabel K R V E F) :=
  fun writer label =>
    match label with
    | .enqueue key fingerprint now =>
      some (writer.enqueue options key fingerprint now)
    | .handle id => writer.handle id
    | .retry key fingerprint => some (writer.retry key fingerprint)
    | .forgetFingerprint key => some (writer.forgetFingerprint key)
    | .invalidate key => some (writer.invalidate key)
    | .clear => some writer.clear
    | .execute label => writer.execute options label

end ChangeWriter

end Eki.Work
