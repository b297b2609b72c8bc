import Mathlib.Algebra.Order.Field.Rat
import Eki.Telemetry.Motion

/-!
# Records of the realtime database

A record is a number, a text or a tree of fields.  Its age is read from fields
of any origin: seconds, milliseconds or an ISO text.  A record that is too deep
or too large has no age.
-/

namespace Eki.Retention

def rtdbRetentionMs : Int := 180 * 24 * 60 * 60 * 1000

def geometryPublicationGraceMs : Int := 24 * 60 * 60 * 1000

/-- `Date.UTC(2000, 0, 1)`. -/
def minTimestamp : Int := 946684800000

mutual

/-- A value as it is read back; an array is an object with its indices. -/
inductive RtdbValue where
  | null
  | bool (value : Bool)
  | number (value : ℚ)
  | text (value : String)
  | object (fields : RtdbFields)
  deriving DecidableEq

inductive RtdbFields where
  | nil
  | cons (key : String) (entry : RtdbValue) (rest : RtdbFields)
  deriving DecidableEq

end

def RtdbFields.get (name : String) : RtdbFields → Option RtdbValue
  | .nil => none
  | .cons key entry rest => if key = name then some entry else rest.get name

/-- `value?.name` -/
def RtdbValue.field (name : String) : RtdbValue → Option RtdbValue
  | .object fields => fields.get name
  | _ => none

/-- What the language and its libraries compute: `Date.parse` and `Number` of a
text, with `none` for NaN, the product of a double and 1000, and the SHA-256
digest of the canonical JSON of a value. -/
structure RetentionTools (F : Type) where
  dateParse : String → Option ℚ
  toNumber : String → Option ℚ
  thousandfold : ℚ → ℚ
  fingerprint : RtdbValue → F

/-- Different values have different digests. -/
def RetentionTools.CollisionFree {F : Type} (tools : RetentionTools F) : Prop :=
  ∀ first second, tools.fingerprint first = tools.fingerprint second →
    first = second

/-- A text that begins like an ISO date and time. -/
def isoDate (value : String) : Bool :=
  decide (11 ≤ value.toList.length) &&
    (value.toList.zip "0000-00-00T".toList).all fun pair =>
      if pair.2 = '0' then pair.1.isDigit else pair.1 == pair.2

namespace RetentionTools

variable {F : Type} (tools : RetentionTools F)

/-- Milliseconds, of a number that may count seconds. -/
def millis (value : ℚ) : Option Int :=
  let millis :=
    if value < 100000000000 then tools.thousandfold value else value
  if millis.den = 1 ∧ isSafeInteger millis.num = true ∧
      minTimestamp ≤ millis.num then
    some millis.num
  else none

def timestamp : RtdbValue → Option Int
  | .text value =>
    if isoDate value then (tools.dateParse value).bind tools.millis else none
  | .number value => tools.millis value
  | _ => none

/-! ## Latest known activity -/

def timeFields : List String :=
  ["timestamp", "createdAt", "updatedAt", "sentAt", "endTime", "completedAt"]

/-- What a walk through a record has counted and found so far. -/
structure Inventory where
  visited : Nat := 0
  newest : Option Int := none

def note (key : String) (entry : RtdbValue) (inventory : Inventory) :
    Inventory :=
  if timeFields.contains key then
    match tools.timestamp entry with
    | none => inventory
    | some time =>
      { inventory with newest := some (max (inventory.newest.getD 0) time) }
  else inventory

mutual

/-- `none` where the record exceeds the bounds of the walk. -/
def visit : RtdbValue → Nat → Inventory → Option Inventory
  | item, depth, inventory =>
    let counted := { inventory with visited := inventory.visited + 1 }
    if counted.visited > 100000 ∨ depth > 32 then none
    else
      match item with
      | .object fields => visitFields fields depth counted
      | _ => some counted

def visitFields : RtdbFields → Nat → Inventory → Option Inventory
  | .nil, _, inventory => some inventory
  | .cons key entry rest, depth, inventory =>
    let noted := tools.note key entry inventory
    match entry with
    | .object fields =>
      (visit (.object fields) (depth + 1) noted).bind fun visited =>
        visitFields rest depth visited
    | _ => visitFields rest depth noted

end

/-- The latest known activity of a record within the bounds. -/
def newestRecordTimestamp (value : RtdbValue) : Option (Option Int) :=
  (tools.visit value 0 {}).map Inventory.newest

def geometryTime (key : String) (value : RtdbValue) : Option Int :=
  ((value.field "createdAt").bind tools.timestamp).or
    ((tools.toNumber key).bind tools.millis)

end RetentionTools

def geometryPublicationIsFresh (createdAt now : Int) : Bool :=
  isSafeInteger createdAt && decide (createdAt ≤ now) &&
    decide (now - createdAt < geometryPublicationGraceMs)

end Eki.Retention
