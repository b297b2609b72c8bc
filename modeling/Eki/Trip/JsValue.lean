import Eki.Trip.JsNumber

/-!
# Stored values

A live node and a document are read back as JavaScript values of any shape.
The functions below are the operators with which the source looks at a value
that it has not validated.
-/

namespace Eki

inductive JsValue (R : Type) where
  | undefined
  | null
  | bool (value : Bool)
  | number (value : R)
  | string (value : String)
  | array (items : List (JsValue R))
  | object (fields : List (String × JsValue R))

/-- The own fields of an object. -/
abbrev JsRecord (R : Type) := List (String × JsValue R)

namespace JsRecord

variable {R : Type}

def get (record : JsRecord R) (field : String) : JsValue R :=
  (record.lookup field).getD .undefined

/-- `{ ...record, ...patch }` -/
def spread (record patch : JsRecord R) : JsRecord R :=
  record.filter (fun entry => (patch.lookup entry.1).isNone) ++ patch

def without (record : JsRecord R) (fields : List String) : JsRecord R :=
  record.filter fun entry => !fields.contains entry.1

def LIVE_ROUTE_CONTEXT_FIELDS : List String :=
  ["activeRouteId", "activeRoutePolyline", "routeVersion", "routeSource",
    "routeDirection", "routeSessionId", "routeGeometryVersion", "routeState",
    "routeMatchHistory", "routeMatchAnchor", "departureRoute",
    "routeComputedAt", "routeTrafficState", "offRouteSampleCount",
    "mapMatchUpdatedAt", "mapMatchSeq", "mapMatchSampledAt",
    "matchConfidence", "distanceToActiveRoute", "matchedLocation",
    "rerouteRequestId", "lastRerouteAttemptAt", "rerouteError",
    "rerouteCompletedAt", "rerouteFailedAt", "rerouteRetry"]

def withoutLiveRouteContext (live : JsRecord R) : JsRecord R :=
  live.without LIVE_ROUTE_CONTEXT_FIELDS

theorem get_spread (record patch : JsRecord R) (field : String) :
    (record.spread patch).get field =
      if (patch.lookup field).isSome then patch.get field
      else record.get field := by
  have lookup : (record.spread patch).lookup field =
      if (patch.lookup field).isSome then patch.lookup field
      else record.lookup field := by
    unfold spread
    induction record with
    | nil =>
      cases found : patch.lookup field <;> simp [found]
    | cons entry rest induction =>
      obtain ⟨name, value⟩ := entry
      by_cases same : field = name
      · subst same
        cases found : patch.lookup field with
        | none => simp [found]
        | some patched =>
          rw [found] at induction
          simpa [found] using induction
      · have apart : (field == name) = false := by simpa using same
        rw [List.lookup_cons, apart]
        cases hidden : patch.lookup name with
        | none => simpa [hidden, List.lookup_cons, apart] using induction
        | some patched => simpa [hidden] using induction
  unfold get
  rw [lookup]
  split <;> rfl

end JsRecord

namespace JsValue

variable {R : Type}

/-- The fields of an object; nothing else has fields that matter here. -/
def fields : JsValue R → JsRecord R
  | .object fields => fields
  | _ => []

/-- `value?.field` -/
def field (value : JsValue R) (name : String) : JsValue R :=
  JsRecord.get value.fields name

/-- `value ?? other` -/
def orElse (value other : JsValue R) : JsValue R :=
  match value with
  | .undefined | .null => other
  | _ => value

/-- `typeof value === "number"` -/
def isNumber : JsValue R → Bool
  | .number _ => true
  | _ => false

/-- `typeof value === "string"` -/
def isString : JsValue R → Bool
  | .string _ => true
  | _ => false

/-- `String(value) === word`, for a word without commas that is the text of
no number, boolean, object or missing value. -/
def spells (word : String) : JsValue R → Bool
  | .string text => text == word
  | .array [item] => item.spells word
  | _ => false

/-- `value === text` -/
def isText (text : String) : JsValue R → Bool
  | .string value => value == text
  | _ => false

variable [JsNumber R]

/-- `Boolean(value)` -/
def truthy : JsValue R → Bool
  | .undefined | .null => false
  | .bool value => value
  | .number value => value == value && !(value == 0)
  | .string value => value != ""
  | .array _ | .object _ => true

/-- `===`; an array or object is another one at every read. -/
def strictEq : JsValue R → JsValue R → Bool
  | .undefined, .undefined => true
  | .null, .null => true
  | .bool value, .bool other => value == other
  | .number value, .number other => value == other
  | .string value, .string other => value == other
  | _, _ => false

/-- `Number.isFinite(value)` -/
def isFinite : JsValue R → Bool
  | .number value => JsNumber.isFinite value
  | _ => false

/-- `Number.isInteger(value)` -/
def isInteger : JsValue R → Bool
  | .number value =>
    JsNumber.isFinite value && JsNumber.floor value == value
  | _ => false

theorem strictEq_string {value : JsValue R} {text : String} :
    value.strictEq (.string text) = true ↔ value = .string text := by
  cases value <;> simp [strictEq]

end JsValue

end Eki
