import Eki.Library.Json
import Eki.Routing.RouteSaves
import Mathlib.Data.List.Dedup
import Mathlib.Data.List.DropRight

/-!
# Editor and server agree on a route

The editor validates a route before it sends it, and the server validates the
request again, with its own checks in its own order.
-/

namespace Eki.RouteEditor

open Utf16

/-! ## Texts -/

/-- White space and line ends in JavaScript. -/
def isSpace (unit : BitVec 16) : Bool :=
  [0x09, 0x0a, 0x0b, 0x0c, 0x0d, 0x20, 0xa0, 0x1680, 0x2028, 0x2029, 0x202f,
    0x205f, 0x3000, 0xfeff].contains unit.toNat ||
    (0x2000 ≤ unit.toNat && unit.toNat ≤ 0x200a)

def trim (text : Utf16) : Utf16 :=
  (text.dropWhile isSpace).rdropWhile isSpace

def isDigit (unit : BitVec 16) : Bool :=
  48 ≤ unit.toNat && unit.toNat ≤ 57

def isLower (unit : BitVec 16) : Bool :=
  97 ≤ unit.toNat && unit.toNat ≤ 122

def isUpper (unit : BitVec 16) : Bool :=
  65 ≤ unit.toNat && unit.toNat ≤ 90

/-- `[A-Za-z0-9_-]` -/
def isIdUnit (unit : BitVec 16) : Bool :=
  isUpper unit || isLower unit || isDigit unit || unit == 95 || unit == 45

/-- `[0-9a-fA-F]` -/
def isHexUnit (unit : BitVec 16) : Bool :=
  isDigit unit || (65 ≤ unit.toNat && unit.toNat ≤ 70) ||
    (97 ≤ unit.toNat && unit.toNat ≤ 102)

/-- `SAFE_ID`, and `SAFE_DOCUMENT_ID` of the server -/
def safeId (text : Utf16) : Bool :=
  text.all isIdUnit && decide (1 ≤ text.length) && decide (text.length ≤ 128)

def safeColor : Utf16 → Bool
  | 35 :: digits => digits.all isHexUnit && digits.length == 6
  | _ => false

/-- `RESERVED_DOCUMENT_ID`; a point stands for no line end. -/
def reservedDocumentId (text : Utf16) : Bool :=
  decide (4 ≤ text.length) && [95, 95].isPrefixOf text &&
    [95, 95].isSuffixOf text && text.all fun unit =>
      !([0x0a, 0x0d, 0x2028, 0x2029].contains unit.toNat)

structure Language where
  /-- `Number(text)`, where it is finite -/
  number : Utf16 → Option ℚ
  numberText : ℚ → Utf16
  integers : ∀ n : Nat, (n : Int) ≤ maxSafeInteger →
    numberText n = ascii n.repr
  /-- `text.normalize("NFKD")` -/
  decompose : Utf16 → Utf16
  toLowerCase : Utf16 → Utf16
  /-- `Date.now()` -/
  now : Utf16

/-! ## The editor -/

/-- A coordinate of unknown type; a number is none where it is not finite. -/
inductive Coordinate where
  | number (value : Option ℚ)
  | text (text : Utf16)
  | other

structure RouteStopPayloadInput where
  id : Utf16
  name : Utf16
  lat : Coordinate
  lng : Coordinate

structure RouteStopPayload where
  id : Utf16
  name : Utf16
  shortName : Utf16
  lat : Option ℚ
  lng : Option ℚ

structure RouteSavePayloadInput where
  mode : RouteSaveMode
  routeId : Utf16
  name : Utf16
  color : Utf16
  stops : List RouteStopPayloadInput

structure RouteSaveBody where
  mode : RouteSaveMode
  name : Utf16
  color : Utf16
  stops : List RouteStopPayload

structure RouteSavePayload where
  routeId : Utf16
  body : RouteSaveBody

def routeSaveMaxBodyBytes : Nat := 64 * 1024

def stopShortName (name : Utf16) : Utf16 :=
  (trim (name.takeWhile (· != 44))).take 32

/-- `.replace(/[^a-z0-9]+/g, "-")`; inside of such a run no more is written. -/
def hyphenate (inside : Bool) : Utf16 → Utf16
  | [] => []
  | unit :: rest =>
    if isLower unit || isDigit unit then unit :: hyphenate false rest
    else if inside then hyphenate true rest
    else 45 :: hyphenate true rest

def RouteSaveMode.text : RouteSaveMode → Utf16
  | .create => ascii "create"
  | .edit => ascii "edit"

/-- A coordinate that is no number is `null` in a text. -/
def coordinateJson : Option ℚ → Json ℚ .value
  | some value => .number value
  | none => .null

def RouteStopPayload.json (stop : RouteStopPayload) : Json ℚ .value :=
  .object (.field (ascii "id") (.string stop.id)
    (.field (ascii "name") (.string stop.name)
      (.field (ascii "shortName") (.string stop.shortName)
        (.field (ascii "lat") (coordinateJson stop.lat)
          (.field (ascii "lng") (coordinateJson stop.lng) .noField)))))

def stopsJson : List RouteStopPayload → Json ℚ .items
  | [] => .noItem
  | stop :: rest => .item stop.json (stopsJson rest)

def RouteSaveBody.fields (body : RouteSaveBody) (others : Json ℚ .fields) :
    Json ℚ .fields :=
  .field (ascii "mode") (.string (RouteSaveMode.text body.mode))
    (.field (ascii "name") (.string body.name)
      (.field (ascii "color") (.string body.color)
        (.field (ascii "stops") (.array (stopsJson body.stops)) others)))

/-- The body of the request: `saveRoute` adds the operation. -/
def RouteSavePayload.request (payload : RouteSavePayload) (saveId : Utf16)
    (expectedVersion : Nat) : Json ℚ .value :=
  .object (payload.body.fields
    (.field (ascii "expectedVersion") (.number expectedVersion)
      (.field (ascii "saveId") (.string saveId) .noField)))

namespace Language

variable (language : Language)

def stringify (json : Json ℚ .value) : Utf16 :=
  json.stringify language.numberText true

def operationFieldsBytes : Nat :=
  (language.stringify (.object
    (.field (ascii "saveId") (.string (List.replicate 128 120))
      (.field (ascii "expectedVersion")
        (.number maxSafeInteger) .noField)))).length

def routeIdFromName (name : Utf16) : Utf16 :=
  let plain := (language.decompose name).filter fun unit =>
    !(0x300 ≤ unit.toNat && unit.toNat ≤ 0x36f)
  let hyphened := hyphenate false (language.toLowerCase plain)
  let slug :=
    ((hyphened.dropWhile (· == 45)).rdropWhile (· == 45)).take 100
  ascii "route-" ++ if slug ≠ [] then slug else language.now

def coordinate : Coordinate → Option ℚ
  | .number value => value
  | .text text => if trim text ≠ [] then language.number text else none
  | .other => none

def normalizeRouteStopPayload (stop : RouteStopPayloadInput) :
    RouteStopPayload :=
  let name := (trim stop.name).take 100
  { id := trim stop.id
    name := name
    shortName := stopShortName name
    lat := language.coordinate stop.lat
    lng := language.coordinate stop.lng }

/-- The value is finite and at most the bound from zero. -/
def within (bound : ℚ) (value : Option ℚ) : Bool :=
  value.any fun value => decide (-bound ≤ value) && decide (value ≤ bound)

def validStop (stop : RouteStopPayload) : Bool :=
  safeId stop.id && decide (stop.name ≠ []) &&
    decide (stop.name.length ≤ 100) && decide (stop.shortName ≠ []) &&
      within 90 stop.lat && within 180 stop.lng

def prepareRouteSavePayload (input : RouteSavePayloadInput) :
    Except String RouteSavePayload :=
  let name := trim input.name
  if name = [] then .error "Enter a display name for the route."
  else if input.stops.length < 2 then
    .error "Add at least 2 stops before saving the route."
  else
    let given := trim input.routeId
    let routeId := if given ≠ [] then given else language.routeIdFromName name
    if !safeId routeId || reservedDocumentId routeId then
      .error ("Route ID may contain only letters, numbers, hyphens, and " ++
        "underscores (max 128 characters), and cannot both start and end " ++
        "with two underscores.")
    else if 100 < name.length then
      .error "Route name must be 100 characters or fewer."
    else if !safeColor input.color then
      .error "Choose a valid route colour."
    else if 100 < input.stops.length then
      .error "A route can have at most 100 stops."
    else
      let stops := input.stops.map language.normalizeRouteStopPayload
      let stopIds := (stops.map fun stop => stop.id).dedup
      if stopIds.length ≠ stops.length then
        .error "Each stop must be added only once."
      else if stops.any fun stop => !validStop stop then
        .error "Each stop needs a name and valid map coordinates."
      else
        let body : RouteSaveBody :=
          { mode := input.mode
            name := name
            color := input.color
            stops := stops }
        if utf8Length (language.stringify (.object (body.fields .noField))) +
            language.operationFieldsBytes > routeSaveMaxBodyBytes then
          .error ("Route is too large to save; shorten stop names or " ++
            "remove stops.")
        else
          .ok
            { routeId := routeId
              body := body }

end Language

/-! ## The server -/

def routeSaveBodyLimitBytes : Nat := 64 * 1024

def maxRouteStops : Nat := 100

structure ValidatedStop where
  id : Utf16
  name : Utf16
  shortName : Utf16
  lat : ℚ
  lng : ℚ

def textOf : Option (Json ℚ .value) → Utf16
  | some (.string text) => text
  | _ => []

/-- The number of a value; those of a request are finite, and what is too
large for a number is in no range. -/
def numberOf : Option (Json ℚ .value) → Option ℚ
  | some (.number value) => some value
  | _ => none

def isObject : Json ℚ .value → Bool
  | .object _ => true
  | .array _ => true
  | _ => false

/-- `isValidLatLng` -/
def validLatLng (value : Json ℚ .value) : Option (ℚ × ℚ) :=
  match numberOf (value.get (ascii "lat")),
    numberOf (value.get (ascii "lng")) with
  | some lat, some lng =>
    if -90 ≤ lat ∧ lat ≤ 90 ∧ -180 ≤ lng ∧ lng ≤ 180 then some (lat, lng)
    else none
  | _, _ => none

def validateStop (ids : List Utf16) (stop : Json ℚ .value) :
    Option ValidatedStop :=
  if !isObject stop then none
  else
    let id := trim (textOf (stop.get (ascii "id")))
    let name := trim (textOf (stop.get (ascii "name")))
    let shortName := trim (textOf (stop.get (ascii "shortName")))
    if !safeId id || ids.contains id || name = [] || 100 < name.length ||
        shortName = [] || 32 < shortName.length then
      none
    else
      (validLatLng stop).map fun (lat, lng) =>
        { id := id
          name := name
          shortName := shortName
          lat := lat
          lng := lng }

def validateEntries (ids : List Utf16) :
    {shape : Json.Shape} → Json ℚ shape → Option (List ValidatedStop)
  | _, .item entry rest =>
    (validateStop ids entry).bind fun stop =>
      (validateEntries (ids ++ [stop.id]) rest).map (stop :: ·)
  | _, _ => some []

def validateStops : Option (Json ℚ .value) → Option (List ValidatedStop)
  | some (.array items) =>
    if items.length < 2 ∨ maxRouteStops < items.length then none
    else validateEntries [] items
  | _ => none

def isSafeDocumentId (text : Utf16) : Bool :=
  safeId text && !reservedDocumentId text

def modeOf (text : Utf16) : Option RouteSaveMode :=
  if text = ascii "create" then some .create
  else if text = ascii "edit" then some .edit
  else none

/-- `Number.isSafeInteger`, and not negative -/
def versionOf (value : Option ℚ) : Option Nat :=
  (value.filter fun value => decide
    (value.den = 1 ∧ 0 ≤ value ∧ value ≤ (maxSafeInteger : ℚ))).map
      fun value => value.num.toNat

/-- A save as the server goes on with it. -/
structure ValidatedSave where
  routeId : Utf16
  name : Utf16
  color : Utf16
  mode : RouteSaveMode
  saveId : Utf16
  expectedVersion : Nat
  stops : List ValidatedStop

/-- What `saveRoute` checks before anything else. -/
def validateSave (routeId : Utf16) (body : Json ℚ .value) :
    Except RouteApiError ValidatedSave :=
  let name := trim (textOf (body.get (ascii "name")))
  let color := textOf (body.get (ascii "color"))
  let saveId := textOf (body.get (ascii "saveId"))
  let invalid : RouteApiError :=
    { status := 400
      payload :=
        { error :=
            "Invalid route data, operation ID, or expected version."
          code := "INVALID_ROUTE_DATA"
          phase := .validation } }
  match modeOf (textOf (body.get (ascii "mode"))),
    versionOf (numberOf (body.get (ascii "expectedVersion"))),
    validateStops (body.get (ascii "stops")) with
  | some mode, some expectedVersion, some stops =>
    if !isSafeDocumentId routeId || name = [] || 100 < name.length ||
        !safeColor color || !isSafeDocumentId saveId ||
        (mode = .create && expectedVersion != 0) then
      .error invalid
    else
      .ok
        { routeId := routeId
          name := name
          color := color
          mode := mode
          saveId := saveId
          expectedVersion := expectedVersion
          stops := stops }
  | _, _, _ => .error invalid

/-! ## Trimmed texts -/

theorem trim_of_head {unit : BitVec 16} (solid : isSpace unit = false)
    (rest : Utf16) : trim (unit :: rest) ≠ [] := by
  intro none
  rw [trim, List.dropWhile_cons_of_neg (by simp [solid]),
    List.rdropWhile_eq_nil_iff] at none
  simp [solid] at none

theorem head_of_trim {text rest : Utf16} {unit : BitVec 16}
    (trimmed : trim text = unit :: rest) : isSpace unit = false := by
  unfold trim at trimmed
  have front : unit :: rest <+: text.dropWhile isSpace := by
    rw [← trimmed]
    exact List.rdropWhile_prefix isSpace _
  obtain ⟨after, whole⟩ := front
  have kept : text.dropWhile isSpace ≠ [] := by
    simp [← whole]
  have first := List.head_dropWhile_not isSpace kept
  simpa [← whole] using first

theorem trim_take {text : Utf16} {count : Nat}
    (kept : (trim text).take count ≠ []) :
    trim ((trim text).take count) ≠ [] := by
  cases trimmed : trim text with
  | nil => simp [trimmed] at kept
  | cons unit rest =>
    have solid := head_of_trim trimmed
    cases count with
    | zero => simp at kept
    | succ count => exact trim_of_head solid _

theorem length_trim (text : Utf16) : (trim text).length ≤ text.length :=
  (List.rdropWhile_prefix isSpace _).length_le.trans
    (List.dropWhile_suffix isSpace).length_le

theorem range_of_isIdUnit {unit : BitVec 16} (safe : isIdUnit unit = true) :
    45 ≤ unit.toNat ∧ unit.toNat ≤ 122 := by
  simp only [isIdUnit, isUpper, isLower, isDigit, Bool.or_eq_true,
    Bool.and_eq_true, decide_eq_true_eq, beq_iff_eq] at safe
  rcases safe with (((upper | lower) | digit) | rfl) | rfl
  · omega
  · omega
  · omega
  · decide
  · decide

theorem trim_of_safeId {text : Utf16} (safe : safeId text = true) :
    trim text = text := by
  simp only [safeId, Bool.and_eq_true, List.all_eq_true] at safe
  have solid : ∀ unit ∈ text, isSpace unit = false := by
    intro unit member
    have range := range_of_isIdUnit (safe.1.1 unit member)
    simp [isSpace]
    omega
  unfold trim
  rw [List.dropWhile_eq_self_iff.mpr, List.rdropWhile_eq_self_iff.mpr]
  · intro kept blank
    rw [solid _ (List.getLast_mem kept)] at blank
    cases blank
  · intro kept blank
    rw [solid _ (List.getElem_mem kept)] at blank
    cases blank

/-! ## One stop -/

def RouteStopPayload.stored (stop : RouteStopPayload) : ValidatedStop where
  id := stop.id
  name := trim stop.name
  shortName := trim stop.shortName
  lat := stop.lat.getD 0
  lng := stop.lng.getD 0

theorem validLatLng_json {stop : RouteStopPayload}
    (lat : Language.within 90 stop.lat = true)
    (lng : Language.within 180 stop.lng = true) :
    validLatLng stop.json = some (stop.lat.getD 0, stop.lng.getD 0) := by
  obtain ⟨lat, known, north⟩ := (Option.any_eq_true _ _).mp lat
  obtain ⟨lng, located, east⟩ := (Option.any_eq_true _ _).mp lng
  have there : stop.json.get (ascii "lat") = some (.number lat) := by
    rw [RouteStopPayload.json, known, located]
    rfl
  have across : stop.json.get (ascii "lng") = some (.number lng) := by
    rw [RouteStopPayload.json, known, located]
    rfl
  simp only [Bool.and_eq_true, decide_eq_true_eq] at north east
  simp [validLatLng, there, across, numberOf, known, located, north, east]

theorem texts_json (stop : RouteStopPayload) :
    textOf (stop.json.get (ascii "id")) = stop.id ∧
      textOf (stop.json.get (ascii "name")) = stop.name ∧
      textOf (stop.json.get (ascii "shortName")) = stop.shortName :=
  ⟨rfl, rfl, rfl⟩

/-- What the server asks of a stop. -/
structure Admissible (stop : RouteStopPayload) : Prop where
  safe : safeId stop.id = true
  named : trim stop.name ≠ []
  brief : (trim stop.name).length ≤ 100
  known : trim stop.shortName ≠ []
  short : (trim stop.shortName).length ≤ 32
  lat : Language.within 90 stop.lat = true
  lng : Language.within 180 stop.lng = true

theorem admissible_of_validStop {language : Language}
    {input : RouteStopPayloadInput}
    (valid : Language.validStop
      (language.normalizeRouteStopPayload input) = true) :
    Admissible (language.normalizeRouteStopPayload input) := by
  simp only [Language.validStop, Bool.and_eq_true, decide_eq_true_eq] at valid
  obtain ⟨⟨⟨⟨⟨safe, named⟩, brief⟩, known⟩, lat⟩, lng⟩ := valid
  exact
    { safe
      named := trim_take named
      brief := (length_trim _).trans brief
      known := trim_take known
      short := (length_trim _).trans (List.length_take_le 32 _)
      lat
      lng }

theorem validateStop_json {stop : RouteStopPayload} {ids : List Utf16}
    (admissible : Admissible stop) (fresh : stop.id ∉ ids) :
    validateStop ids stop.json = some stop.stored := by
  have object : isObject stop.json = true := rfl
  have passes : ¬ (!safeId stop.id || ids.contains stop.id ||
      trim stop.name = [] || 100 < (trim stop.name).length ||
      trim stop.shortName = [] || 32 < (trim stop.shortName).length) =
        true := by
    simp [admissible.safe, fresh, admissible.named, admissible.brief,
      admissible.known, admissible.short]
  simp only [validateStop, object, texts_json, trim_of_safeId admissible.safe,
    validLatLng_json admissible.lat admissible.lng]
  rw [if_neg (by decide), if_neg passes]
  rfl

/-! ## All stops -/

theorem length_stopsJson (stops : List RouteStopPayload) :
    (stopsJson stops).length = stops.length := by
  induction stops with
  | nil => rfl
  | cons stop rest hypothesis => simp [stopsJson, Json.length, hypothesis]

/-- The loop of the server goes through, with the ids met so far. -/
theorem validateEntries_json {stops : List RouteStopPayload}
    (admissible : ∀ stop ∈ stops, Admissible stop) (ids : List Utf16)
    (distinct : (ids ++ stops.map fun stop => stop.id).Nodup) :
    validateEntries ids (stopsJson stops) =
      some (stops.map RouteStopPayload.stored) := by
  induction stops generalizing ids with
  | nil => rfl
  | cons stop rest hypothesis =>
    obtain ⟨first, others⟩ := List.forall_mem_cons.mp admissible
    have fresh : stop.id ∉ ids := by
      intro member
      exact (List.nodup_append.mp distinct).2.2 _ member _ (by simp) rfl
    rw [stopsJson, validateEntries, validateStop_json first fresh]
    have next := hypothesis others (ids ++ [stop.id]) (by simpa using distinct)
    change (validateEntries (ids ++ [stop.id]) (stopsJson rest)).map _ = _
    rw [next]
    rfl

/-! ## The size of the request -/

section Size

variable (language : Language)

theorem digits_ascii {version : Nat}
    (safe : (version : Int) ≤ maxSafeInteger) :
    (∀ unit ∈ ascii version.repr, unit.toNat < 0x80) ∧
      (ascii version.repr).length ≤ 16 := by
  rw [ascii, Nat.toList_repr]
  constructor
  · intro unit member
    obtain ⟨digit, known, rfl⟩ := List.mem_map.mp member
    have decimal := Nat.isDigit_of_mem_toDigits (by decide) (by decide) known
    simp only [Char.isDigit, Bool.and_eq_true, decide_eq_true_eq] at decimal
    have low : digit.toNat ≤ 57 := decimal.2
    simp only [BitVec.toNat_ofNat]
    omega
  · rw [List.length_map, Nat.length_toDigits_le_iff (by decide) (by decide)]
    unfold maxSafeInteger at safe
    omega

theorem RouteSaveBody.stringify_fields (body : RouteSaveBody)
    (numberText : ℚ → Utf16) (others : Json ℚ .fields) :
    (body.fields others).stringify numberText true =
      (body.fields .noField).stringify numberText true ++
        others.stringify numberText false := by
  simp [RouteSaveBody.fields, Json.stringify]

/-- What stands behind the fields of the body. -/
def added (version saveId : Utf16) : Utf16 :=
  ascii "\"expectedVersion\"" ++ [58] ++ version ++ [44] ++
    ascii "\"saveId\"" ++ [58, 34] ++ saveId ++ [34, 125]

theorem length_added (version saveId : Utf16) :
    (added version saveId).length = version.length + saveId.length + 31 := by
  simp [added, ascii]
  omega

theorem added_ascii {version saveId : Utf16}
    (digits : ∀ unit ∈ version, unit.toNat < 0x80)
    (plain : Json.Plain saveId) :
    ∀ unit ∈ 44 :: added version saveId, unit.toNat < 0x80 := by
  have save : ∀ unit ∈ saveId, unit.toNat < 0x80 :=
    fun unit member => (plain unit member).2.1
  simp only [added, List.forall_mem_cons, List.forall_mem_append]
  refine ⟨by decide, ⟨⟨⟨⟨⟨⟨?_, ?_⟩, digits⟩, ?_⟩, ?_⟩, ?_⟩, save⟩, ?_⟩
  all_goals simp [ascii]

theorem stringify_request (payload : RouteSavePayload) {saveId : Utf16}
    (plain : Json.Plain saveId) {version : Nat}
    (safe : (version : Int) ≤ maxSafeInteger) :
    language.stringify (payload.request saveId version) =
      [123] ++ (payload.body.fields .noField).stringify language.numberText
        true ++ 44 :: added (ascii version.repr) saveId := by
  have versionKey : Json.quote (ascii "expectedVersion") =
      ascii "\"expectedVersion\"" := by
    decide +kernel
  have saveKey : Json.quote (ascii "saveId") = ascii "\"saveId\"" := by
    decide +kernel
  have number : language.numberText (version : ℚ) = ascii version.repr :=
    language.integers version safe
  rw [RouteSavePayload.request, Language.stringify, Json.stringify,
    RouteSaveBody.stringify_fields]
  simp only [Json.stringify, number, versionKey, saveKey]
  simp [added, Json.quote, Json.quoteUnits_of_plain plain]

theorem operationFieldsBytes_eq : language.operationFieldsBytes = 176 := by
  have largest : language.numberText (maxSafeInteger : ℚ) =
      ascii (Nat.repr 9007199254740991) :=
    language.integers 9007199254740991 (by decide)
  simp only [Language.operationFieldsBytes, Language.stringify,
    Json.stringify, largest]
  decide +kernel

theorem utf8Length_request (payload : RouteSavePayload) {saveId : Utf16}
    (plain : Json.Plain saveId) (short : saveId.length ≤ 128)
    {version : Nat} (safe : (version : Int) ≤ maxSafeInteger) :
    utf8Length (language.stringify (payload.request saveId version)) ≤
      utf8Length (language.stringify
        (.object (payload.body.fields .noField))) +
          language.operationFieldsBytes := by
  obtain ⟨digits, few⟩ := digits_ascii safe
  have tail := utf8Length_of_ascii (added_ascii digits plain)
  have close : utf8Length [125] = 1 := by decide
  have body : language.stringify (.object (payload.body.fields .noField)) =
      [123] ++ (payload.body.fields .noField).stringify language.numberText
        true ++ 125 :: [] := rfl
  rw [stringify_request language payload plain safe, body,
    @utf8Length_append 44 (by decide), @utf8Length_append 125 (by decide),
    tail, close, operationFieldsBytes_eq, List.length_cons, length_added]
  omega

end Size

/-! ## Whole routes -/

/-- What the editor has checked of a payload. -/
structure Prepared (language : Language) (input : RouteSavePayloadInput)
    (payload : RouteSavePayload) : Prop where
  mode : payload.body.mode = input.mode
  safe : isSafeDocumentId payload.routeId = true
  named : trim payload.body.name ≠ []
  brief : payload.body.name.length ≤ 100
  color : safeColor payload.body.color = true
  several : 2 ≤ payload.body.stops.length
  few : payload.body.stops.length ≤ 100
  distinct : (payload.body.stops.map fun stop => stop.id).Nodup
  admissible : ∀ stop ∈ payload.body.stops, Admissible stop
  small : utf8Length (language.stringify
      (.object (payload.body.fields .noField))) +
        language.operationFieldsBytes ≤ routeSaveMaxBodyBytes

theorem ok_of_ite {α : Type} {refused : Prop} [Decidable refused]
    {error : String} {next : Except String α} {value : α}
    (ok : (if refused then .error error else next) = .ok value) :
    ¬ refused ∧ next = .ok value := by
  split at ok
  · cases ok
  · rename_i passes
    exact ⟨passes, ok⟩

theorem prepared_of_ok {language : Language} {input : RouteSavePayloadInput}
    {payload : RouteSavePayload}
    (ok : language.prepareRouteSavePayload input = .ok payload) :
    Prepared language input payload := by
  unfold Language.prepareRouteSavePayload at ok
  dsimp only at ok
  obtain ⟨named, ok⟩ := ok_of_ite ok
  obtain ⟨several, ok⟩ := ok_of_ite ok
  obtain ⟨safe, ok⟩ := ok_of_ite ok
  obtain ⟨brief, ok⟩ := ok_of_ite ok
  obtain ⟨color, ok⟩ := ok_of_ite ok
  obtain ⟨few, ok⟩ := ok_of_ite ok
  obtain ⟨distinct, ok⟩ := ok_of_ite ok
  obtain ⟨valid, ok⟩ := ok_of_ite ok
  obtain ⟨small, ok⟩ := ok_of_ite ok
  cases ok
  refine ⟨rfl, ?_, ?_, Nat.not_lt.mp brief, by simpa using color, ?_, ?_, ?_,
    ?_, Nat.not_lt.mp small⟩
  · simpa [isSafeDocumentId] using safe
  · have whole := @trim_take input.name (trim input.name).length
    simpa [named] using whole
  · rw [List.length_map]
    exact Nat.not_lt.mp several
  · simpa using few
  · rw [← List.dedup_eq_self]
    apply (List.dedup_sublist _).eq_of_length
    simpa using distinct
  · intro stop member
    obtain ⟨given, inside, rfl⟩ := List.mem_map.mp member
    apply admissible_of_validStop
    simp only [List.any_eq_true, not_exists, not_and, Bool.not_eq_true',
      Bool.not_eq_false] at valid
    exact valid _ member

/-- Five groups of hexadecimal digits. -/
def IsUuid (text : Utf16) : Prop :=
  text.length = 36 ∧ ∀ entry ∈ text.zipIdx,
    if entry.2 ∈ [8, 13, 18, 23] then entry.1 = 45
    else isHexUnit entry.1 = true

theorem isIdUnit_of_isHexUnit {unit : BitVec 16}
    (hex : isHexUnit unit = true) : isIdUnit unit = true ∧ unit ≠ 95 := by
  constructor
  · simp only [isHexUnit, isIdUnit, isDigit, isUpper, isLower,
      Bool.or_eq_true, Bool.and_eq_true, decide_eq_true_eq] at hex ⊢
    omega
  · rintro rfl
    exact absurd hex (by decide)

namespace IsUuid

variable {text : Utf16} (uuid : IsUuid text)

include uuid

theorem units : ∀ unit ∈ text, isIdUnit unit = true ∧ unit ≠ 95 := by
  intro unit member
  obtain ⟨index, found⟩ := List.mem_iff_getElem?.mp member
  have checked := uuid.2 (unit, index)
    (List.mk_mem_zipIdx_iff_getElem?.mpr found)
  simp only at checked
  split at checked
  · rw [checked]
    decide
  · exact isIdUnit_of_isHexUnit checked

theorem plain : Json.Plain text := by
  intro unit member
  have allowed := (uuid.units unit member).1
  have range := range_of_isIdUnit allowed
  refine ⟨by omega, by omega, ?_, ?_⟩
  · rintro rfl
    exact absurd allowed (by decide)
  · rintro rfl
    exact absurd allowed (by decide)

theorem safe : isSafeDocumentId text = true := by
  have unreserved : reservedDocumentId text = false := by
    cases text with
    | nil => rfl
    | cons unit rest =>
      have first : ¬ 95#16 = unit := (uuid.units unit (by simp)).2.symm
      simp [reservedDocumentId, first]
  simp only [isSafeDocumentId, safeId, unreserved, uuid.1]
  simpa using fun unit member => (uuid.units unit member).1

end IsUuid

theorem modeOf_text (mode : RouteSaveMode) :
    modeOf (RouteSaveMode.text mode) = some mode := by
  cases mode <;> decide

theorem versionOf_natCast {version : Nat}
    (safe : (version : Int) ≤ maxSafeInteger) :
    versionOf (some (version : ℚ)) = some version := by
  have bound : (version : ℚ) ≤ (maxSafeInteger : ℚ) := by
    exact_mod_cast safe
  have zero : (0 : ℚ) ≤ version := by
    exact_mod_cast Nat.zero_le version
  simp [versionOf, bound, zero]

theorem validateStops_json {stops : List RouteStopPayload}
    (several : 2 ≤ stops.length) (few : stops.length ≤ 100)
    (distinct : (stops.map fun stop => stop.id).Nodup)
    (admissible : ∀ stop ∈ stops, Admissible stop) :
    validateStops (some (.array (stopsJson stops))) =
      some (stops.map RouteStopPayload.stored) := by
  have bounded : ¬ (stops.length < 2 ∨ maxRouteStops < stops.length) := by
    unfold maxRouteStops
    omega
  simp only [validateStops, length_stopsJson]
  rw [if_neg bounded, validateEntries_json admissible [] distinct]

theorem editor_routes_are_accepted {language : Language}
    {input : RouteSavePayloadInput} {payload : RouteSavePayload}
    (ok : language.prepareRouteSavePayload input = .ok payload)
    {saveId : Utf16} (uuid : IsUuid saveId) {version : Nat}
    (safe : (version : Int) ≤ maxSafeInteger)
    (created : input.mode = .create → version = 0) :
    utf8Length (language.stringify (payload.request saveId version)) ≤
        routeSaveBodyLimitBytes ∧
      validateSave payload.routeId (payload.request saveId version) =
        .ok
          { routeId := payload.routeId
            name := trim payload.body.name
            color := payload.body.color
            mode := input.mode
            saveId := saveId
            expectedVersion := version
            stops := payload.body.stops.map RouteStopPayload.stored } ∧
      ∀ stop ∈ payload.body.stops, stop.lat = some stop.stored.lat ∧
        stop.lng = some stop.stored.lng := by
  have prepared := prepared_of_ok ok
  refine ⟨?_, ?_, ?_⟩
  · have size := utf8Length_request language payload uuid.plain
      (by rw [uuid.1]; decide) safe
    exact size.trans prepared.small
  · have name : (payload.request saveId version).get (ascii "name") =
        some (.string payload.body.name) := rfl
    have color : (payload.request saveId version).get (ascii "color") =
        some (.string payload.body.color) := rfl
    have id : (payload.request saveId version).get (ascii "saveId") =
        some (.string saveId) := rfl
    have mode : (payload.request saveId version).get (ascii "mode") =
        some (.string (RouteSaveMode.text payload.body.mode)) := rfl
    have expected : (payload.request saveId version).get
        (ascii "expectedVersion") = some (.number version) := rfl
    have stops : (payload.request saveId version).get (ascii "stops") =
        some (.array (stopsJson payload.body.stops)) := rfl
    have passes : ¬ (!isSafeDocumentId payload.routeId ||
        trim payload.body.name = [] ||
        100 < (trim payload.body.name).length ||
        !safeColor payload.body.color || !isSafeDocumentId saveId ||
        (input.mode = .create && version != 0)) = true := by
      have brief := (length_trim payload.body.name).trans prepared.brief
      simp [prepared.safe, prepared.named, brief, prepared.color, uuid.safe]
      exact created
    simp only [validateSave, name, color, id, mode, expected, stops, textOf,
      numberOf, modeOf_text, versionOf_natCast safe, prepared.mode,
      validateStops_json prepared.several prepared.few prepared.distinct
        prepared.admissible]
    rw [if_neg passes]
  · intro stop member
    have admissible := prepared.admissible stop member
    obtain ⟨lat, known, -⟩ := (Option.any_eq_true _ _).mp admissible.lat
    obtain ⟨lng, located, -⟩ := (Option.any_eq_true _ _).mp admissible.lng
    simp [RouteStopPayload.stored, known, located]

theorem num_natCast (n : Nat) (_ : (n : Int) ≤ maxSafeInteger) :
    ascii (n : ℚ).num.toNat.repr = ascii n.repr :=
  rfl

/-- Texts of numbers that are counts, and no other letters than small ones. -/
def countLanguage : Language where
  number _ := none
  numberText value := ascii value.num.toNat.repr
  integers := num_natCast
  decompose := id
  toLowerCase := id
  now := []

def ringRoute : RouteSavePayloadInput where
  mode := .create
  routeId := []
  name := ascii " ring "
  color := ascii "#10B981"
  stops :=
    [⟨ascii "east", ascii "East gate, ring", .number (some 23),
      .number (some 72)⟩,
      ⟨ascii " west ", ascii "West gate ", .number (some 24),
        .number (some 72)⟩]

theorem editor_routes_are_accepted_ring :
    ∃ payload, countLanguage.prepareRouteSavePayload ringRoute =
        .ok payload ∧
      utf8Length (countLanguage.stringify (payload.request
        (ascii "123e4567-e89b-42d3-a456-426614174000") 0)) ≤
          routeSaveBodyLimitBytes := by
  have accepted : (countLanguage.prepareRouteSavePayload ringRoute).isOk =
      true := by
    decide +kernel
  cases prepared : countLanguage.prepareRouteSavePayload ringRoute with
  | error message =>
    rw [prepared] at accepted
    cases accepted
  | ok payload =>
    have uuid : IsUuid (ascii "123e4567-e89b-42d3-a456-426614174000") := by
      refine ⟨by decide, ?_⟩
      simp [ascii, isHexUnit, isDigit]
    exact ⟨payload, rfl, (@editor_routes_are_accepted _ _ _ prepared _ uuid 0
      (by decide) fun _ => rfl).1⟩

end Eki.RouteEditor
