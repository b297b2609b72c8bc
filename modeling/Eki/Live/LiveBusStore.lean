import Eki.Library.Deltas
import Eki.Library.Transition

/-!
# The live bus store

A browser watches the buses of one route, or the routes of the whole fleet.  It
gets an event for every child that is added, changed or removed, and once the
value of the whole node.  Until the value arrives the store keeps the events
back; from then on it applies them to its cached map and tells its subscribers.
-/

namespace Eki.Live

open Deltas Insertion Transition

/-- A value below a node of buses.  Objects have a `routeId`. -/
inductive RawBus (Data : Type) where
  | record (routeId : Option String) (data : Data)
  | other (data : Data)

def RawBus.routeId {Data : Type} : RawBus Data → Option String
  | .record routeId _ => routeId
  | .other _ => none

abbrev LiveBusSnapshot (Data : Type) := OrderedMap String (RawBus Data)

/-- The node of all routes: what lies under `buses` of each child. -/
abbrev Routes (Data : Type) := OrderedMap String (LiveBusSnapshot Data)

inductive LiveBusChange (Data : Type) where
  | reset (snapshot : Option (LiveBusSnapshot Data))
  | delta (delta : Delta String (RawBus Data))

/-- `key.startsWith("node:")` -/
def isNodeKey (key : String) : Bool :=
  "node:".toList.isPrefixOf key.toList

/-- `key.startsWith("route:")` -/
def isRouteKey (key : String) : Bool :=
  "route:".toList.isPrefixOf key.toList

/-- `key.slice(6)` of the key of a route. -/
def routeIdOf (key : String) : String :=
  String.ofList (key.toList.drop 6)

structure LiveBusStore (Data : Type) where
  cached : Option (LiveBusSnapshot Data) := none
  buffered : List (Delta String (RawBus Data)) := []
  initialized : Bool := false
  /-- What the subscribers of changes were told, first to last. -/
  emitted : List (LiveBusChange Data) := []

variable {Data : Type}

/-- A map without entries is cached as `null`. -/
def nonEmpty (map : LiveBusSnapshot Data) : Option (LiveBusSnapshot Data) :=
  if map.entries.isEmpty then none else some map

/-- `Object.fromEntries(entries)` -/
def fromEntries (entries : List (String × RawBus Data)) :
    LiveBusSnapshot Data :=
  entries.foldl (fun map entry => map.set entry.1 entry.2) OrderedMap.empty

/-- A delta on a cached map that may be `null`. -/
def change (delta : Delta String (RawBus Data))
    (cached : Option (LiveBusSnapshot Data)) : Option (LiveBusSnapshot Data) :=
  match delta with
  | .upsert key value => some ((cached.getD OrderedMap.empty).set key value)
  | .remove key => cached.map fun map => map.delete key

/-- An upsert of what is not an object counts as a removal. -/
def normalized (upserts : Bool) (key : String) (raw : Option (RawBus Data)) :
    Delta String (RawBus Data) :=
  match upserts, raw with
  | true, some (.record routeId data) => .upsert key (.record routeId data)
  | _, _ => .remove key

namespace LiveBusStore

def applyDelta (delta : Delta String (RawBus Data))
    (store : LiveBusStore Data) : LiveBusStore Data :=
  { store with
    cached := (change delta store.cached).bind nonEmpty
    emitted := store.emitted ++ [.delta delta] }

/-- `receiveOne`, of the event of one bus. -/
def receiveOne (upserts : Bool) (key : String) (raw : Option (RawBus Data))
    (store : LiveBusStore Data) : LiveBusStore Data :=
  if !isNodeKey key then store
  else
    let delta := normalized upserts key raw
    if store.initialized then store.applyDelta delta
    else { store with buffered := store.buffered ++ [delta] }

/-- `receive` of a fleet, of the event of one route: cached buses that the
route has lost are removed, those that it has are set. -/
def receiveRoute (upserts : Bool) (routeKey : String)
    (raw : Option (LiveBusSnapshot Data)) (store : LiveBusStore Data) :
    LiveBusStore Data :=
  if !isRouteKey routeKey then store
  else
    let buses := if upserts then raw.getD OrderedMap.empty else OrderedMap.empty
    let cached := (store.cached.getD OrderedMap.empty).entries
    let removed := cached.foldl (fun store entry =>
      if entry.2.routeId == some (routeIdOf routeKey) && !buses.has entry.1 then
        store.receiveOne false entry.1 none
      else store) store
    buses.entries.foldl (fun store entry =>
      store.receiveOne true entry.1 (some entry.2)) removed

/-- The listener of the initial value. -/
def receiveValue (raw : Option (List (String × RawBus Data)))
    (store : LiveBusStore Data) : LiveBusStore Data :=
  let value := raw.map fun entries =>
    fromEntries (entries.filter fun entry => isNodeKey entry.1)
  let replayed := store.buffered.foldl (fun cached delta =>
    change delta cached) value
  let cached := replayed.bind nonEmpty
  { store with
    cached := cached
    buffered := []
    initialized := true
    emitted := store.emitted ++ [.reset cached] }

end LiveBusStore

/-! ## A store and its server -/

/-- `watched` is the key of the only route that is watched, or nothing for the
fleet.  `server` is the state that the events so far tell of, and `earlier` all
such states. -/
structure LiveWorld (Data : Type) where
  watched : Option String
  server : Routes Data := OrderedMap.empty
  earlier : List (Routes Data) := []
  store : LiveBusStore Data := {}

/-- The server goes over to another state, and the events of children are
delivered in some order; or the initial value is. -/
inductive LiveLabel (Data : Type) where
  | change (server : Routes Data) (order : List String)
  | value

namespace LiveWorld

/-- Listeners on a server of which nothing is known yet. -/
def attach (scope : Option String) : LiveWorld Data :=
  { watched := scope.map fun routeId => "route:" ++ routeId }

/-- What a route has, nothing where it is not there. -/
def busesOf (server : Routes Data) (routeKey : String) : LiveBusSnapshot Data :=
  (server.get routeKey).getD OrderedMap.empty

def deliver (watched : Option String) (server : Routes Data)
    (child : String) (store : LiveBusStore Data) : LiveBusStore Data :=
  match watched with
  | some routeKey =>
    let bus := (busesOf server routeKey).get child
    store.receiveOne bus.isSome child bus
  | none =>
    let buses := server.get child
    store.receiveRoute buses.isSome child buses

def rawValue (watched : Option String) (server : Routes Data) :
    Option (List (String × RawBus Data)) :=
  match watched with
  | some routeKey => (server.get routeKey).map (·.entries)
  | none =>
    if server.entries.isEmpty then none
    else some <| (server.entries.filter fun route =>
      isRouteKey route.1).flatMap fun route => route.2.entries

def step : System (LiveWorld Data) (LiveLabel Data) := fun world label =>
  match label with
  | .change server order => some { world with
      server := server
      earlier := server :: world.earlier
      store := order.foldl (fun store child =>
        deliver world.watched server child store) world.store }
  | .value =>
    if world.store.initialized then none
    else some { world with
      store := world.store.receiveValue
        (rawValue world.watched world.server) }

def nodeEntries (watched : Option String) (server : Routes Data)
    (key : String) : Option (RawBus Data) :=
  if !isNodeKey key then none
  else
    match watched with
    | some routeKey => (busesOf server routeKey).get key
    | none => server.entries.findSome? fun route =>
      if isRouteKey route.1 then route.2.get key else none

def SameChild (watched : Option String) (before after : Routes Data)
    (child : String) : Prop :=
  match watched with
  | some routeKey =>
    (busesOf before routeKey).get child = (busesOf after routeKey).get child
  | none => before.get child = after.get child

/-- Buses are objects with the route under which they lie, and each lies under
one route. -/
structure Wellformed (server : Routes Data) : Prop where
  recorded : ∀ routeKey key bus, isRouteKey routeKey = true →
    isNodeKey key = true → (busesOf server routeKey).get key = some bus →
      ∃ data, bus = .record (some (routeIdOf routeKey)) data
  single : ∀ first second key bus other, isRouteKey first = true →
    isRouteKey second = true → isNodeKey key = true →
    (busesOf server first).get key = some bus →
    (busesOf server second).get key = some other → first = second

/-- The events of a change: one for every child that differs, in any order. -/
def Consistent (world : LiveWorld Data) : LiveLabel Data → Prop
  | .change server order =>
    Wellformed server ∧ order.Nodup ∧
      ∀ child, child ∉ order →
        SameChild world.watched world.server server child
  | .value => True

def contents (map : Option (LiveBusSnapshot Data)) (key : String) :
    Option (RawBus Data) :=
  map.bind fun map => map.get key

def follow (copy : Option (LiveBusSnapshot Data)) :
    LiveBusChange Data → Option (LiveBusSnapshot Data)
  | .reset snapshot => snapshot
  | .delta delta => Live.change delta copy

/-- The cached map has what the server has, and so has the copy of a
subscriber. -/
structure Agrees (world : LiveWorld Data) : Prop where
  cached : contents world.store.cached = nodeEntries world.watched world.server
  copied : contents (world.store.emitted.foldl follow none) =
    contents world.store.cached

def NoneLeft (world : LiveWorld Data) : Prop :=
  ∀ server ∈ world.earlier, ∀ key,
    (nodeEntries world.watched server key).isSome = true →
      (nodeEntries world.watched world.server key).isSome = true

end LiveWorld

end Eki.Live
