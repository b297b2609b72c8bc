import Eki.Library.Transition
import Eki.Library.Windows
import Eki.Telemetry.Motion

/-!
# The rate limiter of a device

Every replica reserves blocks of tokens for a device from one stored window, in
a transaction, and spends them locally.  Each call has a clock reading of its
own.
-/

namespace Eki.Devices

open Transition Windows

def windowMs : Int := 60000

structure RateBucket where
  startedAt : Int
  count : Int
  deriving DecidableEq, Repr

/-- A stored record; a field that is no number is `none`. -/
structure RateRecord where
  startedAt : Option Int
  count : Option Int
  deriving DecidableEq, Repr

/-- A well-formed record is a window. -/
def RateRecord.bucket (record : RateRecord) : Option RateBucket :=
  match record.startedAt, record.count with
  | some startedAt, some count =>
    if isSafeInteger count && decide (count ≥ 0) then
      some { startedAt, count }
    else none
  | _, _ => none

def RateBucket.record (bucket : RateBucket) : RateRecord where
  startedAt := some bucket.startedAt
  count := some bucket.count

def validBucket (value : Option RateRecord) (now : Int) : Option RateBucket :=
  (value.bind RateRecord.bucket).filter fun bucket =>
    decide (bucket.startedAt ≤ now)

structure TokenReservationDecision where
  granted : Nat
  next : RateBucket
  retryAfterMs : Int
  deriving DecidableEq, Repr

/-- The stored window, or a new one. -/
def currentBucket (existing : Option RateRecord) (now : Int) : RateBucket :=
  match validBucket existing now with
  | some valid =>
    if now - valid.startedAt ≥ windowMs then { startedAt := now, count := 0 }
    else valid
  | none => { startedAt := now, count := 0 }

def reserveRateLimitTokens (existing : Option RateRecord) (now : Int)
    (limit requested : Nat) : TokenReservationDecision :=
  let current := currentBucket existing now
  let granted := min requested (max 0 (limit - current.count)).toNat
  { granted
    next :=
      { startedAt := current.startedAt
        count := current.count + granted }
    retryAfterMs :=
      if granted > 0 then 0
      else max 1 (windowMs - (now - current.startedAt)) }

/-- A configuration that the constructor takes. -/
structure RateLimits where
  limit : Nat
  leaseSize : Nat
  limit_pos : 0 < limit
  limit_safe : limit ≤ 9007199254740991
  leaseSize_pos : 0 < leaseSize
  leaseSize_le : leaseSize ≤ limit

structure LocalTokenLease where
  expiresAt : Int
  remaining : Nat
  deriving DecidableEq, Repr

/-- Where a call of `consume` stands; the calls for a device wait for one
another. -/
inductive ConsumePhase where
  | idle
  | allocating (now : Int)
  /-- The transaction is committed; its answer is on the way. -/
  | reserved (now : Int) (decision : TokenReservationDecision)
  deriving DecidableEq, Repr

/-- One replica's limiter, for one device. -/
structure Limiter where
  lease : Option LocalTokenLease := none
  phase : ConsumePhase := .idle
  deriving DecidableEq, Repr

/-- A request let through on the tokens of a window. -/
structure Admission where
  start : Int
  now : Int
  deriving DecidableEq, Repr

/-- A stored window that another one replaced, by a clock reading. -/
structure Replacement where
  bucket : RateBucket
  now : Int
  deriving DecidableEq, Repr

/-- All replicas, the stored record and what has been done so far. -/
structure RateWorld where
  stored : Option RateRecord
  limiters : List Limiter
  ledger : Ledger
  admissions : List Admission
  replacements : List Replacement

/-- A replica has an index; a reading of its clock may be anything. -/
inductive RateLabel where
  /-- A call takes its turn. -/
  | consume (replica : Nat) (now : Int)
  /-- The transaction sees a record of the local cache and gives up. -/
  | abort (replica : Nat) (cached : Option RateRecord)
  /-- The transaction sees the stored record. -/
  | transact (replica : Nat)
  /-- The answer is lost, and the client sends the transaction again. -/
  | resend (replica : Nat)
  | answer (replica : Nat)
  /-- The call fails. -/
  | fail (replica : Nat)
  /-- The lease makes room for another device's. -/
  | evict (replica : Nat)
  | restart (replica : Nat)
  deriving DecidableEq, Repr

namespace Limiter

def usable (limiter : Limiter) (now : Int) : Option LocalTokenLease :=
  limiter.lease.filter fun lease =>
    decide (lease.expiresAt > now) && decide (lease.remaining > 0)

/-- Take a token of the lease, or begin a reservation. -/
def consume (limiter : Limiter) (now : Int) : Limiter × Option Admission :=
  match limiter.usable now with
  | some lease =>
    ({ limiter with
        lease := some { lease with remaining := lease.remaining - 1 } },
      some { start := lease.expiresAt - windowMs, now })
  | none => ({ lease := none, phase := .allocating now }, none)

def answer (limiter : Limiter) (now : Int)
    (decision : TokenReservationDecision) : Limiter × Option Admission :=
  let expiresAt := decision.next.startedAt + windowMs
  if decision.granted = 0 then ({ limiter with phase := .idle }, none)
  else if expiresAt ≤ now then ({ limiter with phase := .idle }, none)
  else
    ({ lease := some { expiresAt, remaining := decision.granted - 1 }
       phase := .idle },
      some { start := decision.next.startedAt, now })

end Limiter

namespace RateWorld

variable (config : RateLimits)

/-- No call is under way and no lease held. -/
def start (replicas : Nat) (stored : Option RateRecord) : RateWorld where
  stored := stored
  limiters := List.replicate replicas { }
  ledger :=
    { windows := ((stored.bind RateRecord.bucket).map
        RateBucket.startedAt).toList
      charges := [] }
  admissions := []
  replacements := []

def setLimiter (world : RateWorld) (replica : Nat) (limiter : Limiter) :
    RateWorld :=
  { world with limiters := world.limiters.set replica limiter }

def letThrough (world : RateWorld) (admission : Option Admission) : RateWorld :=
  { world with admissions := admission.toList ++ world.admissions }

def commit (world : RateWorld) (now : Int)
    (decision : TokenReservationDecision) : RateWorld :=
  let current := currentBucket world.stored now
  let replaced := (world.stored.bind RateRecord.bucket).filter fun bucket =>
    bucket != current
  let opens := (world.stored.bind RateRecord.bucket) != some current
  { world with
    stored := some decision.next.record
    ledger :=
      (if opens then world.ledger.opened current.startedAt
        else world.ledger).charge
        { start := decision.next.startedAt
          time := now
          amount := decision.granted }
    replacements :=
      (replaced.map fun bucket => { bucket, now }).toList ++
        world.replacements }

/-- What the transaction does on the stored record. -/
def transact (world : RateWorld) (replica : Nat) (limiter : Limiter)
    (now : Int) : RateWorld :=
  let decision :=
    reserveRateLimitTokens world.stored now config.limit config.leaseSize
  if decision.granted > 0 then
    (world.commit now decision).setLimiter replica
      { limiter with phase := .reserved now decision }
  else world.setLimiter replica { limiter with phase := .idle }

def step : System RateWorld RateLabel := fun world label =>
  match label with
  | .consume replica now => do
      let limiter ← world.limiters[replica]?
      guard (limiter.phase = .idle)
      let (limiter, admission) := limiter.consume now
      return (world.setLimiter replica limiter).letThrough admission
  | .abort replica cached => do
      let limiter ← world.limiters[replica]?
      match limiter.phase with
      | .allocating now =>
        guard ((reserveRateLimitTokens cached now config.limit
          config.leaseSize).granted = 0)
        return world.setLimiter replica { limiter with phase := .idle }
      | _ => none
  | .transact replica => do
      let limiter ← world.limiters[replica]?
      match limiter.phase with
      | .allocating now => return world.transact config replica limiter now
      | _ => none
  | .resend replica => do
      let limiter ← world.limiters[replica]?
      match limiter.phase with
      | .reserved now _ =>
        return world.setLimiter replica
          { limiter with phase := .allocating now }
      | _ => none
  | .answer replica => do
      let limiter ← world.limiters[replica]?
      match limiter.phase with
      | .reserved now decision =>
        let (limiter, admission) := limiter.answer now decision
        return (world.setLimiter replica limiter).letThrough admission
      | _ => none
  | .fail replica => do
      let limiter ← world.limiters[replica]?
      return world.setLimiter replica { limiter with phase := .idle }
  | .evict replica => do
      let limiter ← world.limiters[replica]?
      return world.setLimiter replica { limiter with lease := none }
  | .restart replica => do
      let _ ← world.limiters[replica]?
      return world.setLimiter replica { }

end RateWorld

end Eki.Devices
