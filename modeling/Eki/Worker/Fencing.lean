import Eki.Worker.MutualExclusion

/-!
# Fenced writes

A leader writes to two stores.  A Firestore transaction reads the lease with
the rest, so a takeover changes what it read.  A transaction on a node of the
realtime database cannot read the lease; it checks its fence before the write
and the generation stored on the node at the write.  Fleet mirrors are written
plainly, under a lock that only a Firestore transaction gives.  Between any two
of these moments a leader may stall for any time.
-/

namespace Eki.Worker

open Versioned Transition
open Function (update_of_ne)
open Option (map_eq_some_iff)

/-- The fence that asynchronous work carries. -/
structure Token (Owner : Type) where
  ownerId : Owner
  generation : Nat

/-- An object in the realtime database. -/
structure Node (Data : Type) where
  data : Data
  workerGeneration : Option Nat
  deriving DecidableEq

/-- `Number(current?._workerGeneration ?? 0)` -/
def generationOf {Data : Type} (node : Option (Node Data)) : Nat :=
  (node.bind (·.workerGeneration)).getD 0

/-- What the update function of a transaction asks for. -/
inductive Change (Data : Type) where
  | abort
  | remove
  | set (data : Data)

/-- The callback of `workerRtdbTransaction` under a fence, once its assertion
has passed.  No answer means that the transaction is aborted. -/
def fencedUpdate {Data : Type} (generation : Nat)
    (update : Option (Node Data) → Change Data)
    (current : Option (Node Data)) : Option (Option (Node Data)) :=
  if generationOf current > generation then none
  else match update current with
    | .abort => none
    | .remove => some none
    | .set data => some (some ⟨data, some generation⟩)

/-- A writer without a fence keeps the fields it does not know. -/
def plainUpdate {Data : Type} (update : Option (Node Data) → Change Data)
    (current : Option (Node Data)) : Option (Option (Node Data)) :=
  match update current with
  | .abort => none
  | .remove => some none
  | .set data => some (some ⟨data, current.bind (·.workerGeneration)⟩)

/-- What a worker transaction does when it commits. -/
inductive Effect (Docs : Type) where
  | write (change : Docs → Docs)
  | lockFleet

/-- How far a worker transaction got.  `base` is the version of the lease in
its read set. -/
inductive Stage (Owner : Type) where
  | opened
  | read (lease : Snapshot (Lease Owner))
  | admitted (base : Nat)
  | ready (base : Nat)

/-- Work in flight on some process. -/
inductive Operation (Owner Path Data Docs : Type) where
  | transaction (token : Token Owner) (effect : Effect Docs)
      (stage : Stage Owner)
  | update (token : Token Owner) (path : Path)
      (update : Option (Node Data) → Change Data)
      (proposal : Option (Option (Node Data) × Option (Node Data)))
  | reconciling (token : Token Owner)

structure Stores (Owner Path Data Docs : Type) where
  election : Election Owner
  documents : Docs
  fleetLock : Option Nat
  nodes : Path → Option (Node Data)
  mirrors : Path → Option Data
  operations : Nat → Option (Operation Owner Path Data Docs)

inductive Action (Owner Path Data Docs : Type) where
  | elect (event : Event Owner)
  | openTransaction (index : Nat) (ownerId : Owner) (effect : Effect Docs)
  | readLease (index : Nat)
  | check (index : Nat)
  | finish (index : Nat)
  | commit (index : Nat)
  | retry (index : Nat)
  | openUpdate (index : Nat) (ownerId : Owner) (path : Path)
      (update : Option (Node Data) → Change Data)
  /-- The client library evaluates the callback on what it believes the node
  to be. -/
  | evaluate (index : Nat) (believed : Option (Node Data))
  | apply (index : Nat)
  | mirror (index : Nat) (path : Path) (value : Option Data)
  | unlockFleet (index : Nat)
  | lose (index : Nat)
  /-- An operator clears the lock of an executor that has stopped. -/
  | recoverFleet
  | plain (path : Path) (update : Option (Node Data) → Change Data)
  | plainMirror (path : Path) (value : Option Data)
  | plainWrite (change : Docs → Docs)

variable {Owner Path Data Docs : Type} [DecidableEq Owner]
  [DecidableEq Path] [DecidableEq Data]

/-- `WorkerFence.assert` of the fence a token stands for. -/
def Election.asserts (election : Election Owner) (clocks : Clocks Owner)
    (token : Token Owner) : Bool :=
  (election.coordinators token.ownerId).fence.any fun fence =>
    fence.generation == token.generation &&
      decide (fence.passes (clocks.monotonic token.ownerId election.time))

/-- The lease check of `workerTransaction`. -/
def Token.admits (token : Token Owner) (lease : Lease Owner) (now : ℚ) : Bool :=
  decide (lease.ownerId = some token.ownerId) &&
    lease.generation == token.generation &&
    decide (now + workerClockSkewMs < lease.expiresAt)

namespace Stores

def put (stores : Stores Owner Path Data Docs) (index : Nat)
    (operation : Option (Operation Owner Path Data Docs)) :
    Stores Owner Path Data Docs :=
  { stores with
    operations := Function.update stores.operations index operation }

def capture (stores : Stores Owner Path Data Docs) (clocks : Clocks Owner)
    (ownerId : Owner) : Option (Token Owner) :=
  (stores.election.coordinators ownerId).fence.bind fun fence =>
    if fence.passes (clocks.monotonic ownerId stores.election.time) then
      some ⟨ownerId, fence.generation⟩
    else none

def step (clocks : Clocks Owner) (stores : Stores Owner Path Data Docs) :
    Action Owner Path Data Docs → Option (Stores Owner Path Data Docs)
  | .elect event => (stores.election.step clocks event).map fun election =>
    { stores with election := election }
  | .openTransaction index ownerId effect =>
    match stores.operations index with
    | some _ => none
    | none => (stores.capture clocks ownerId).map fun token =>
      stores.put index (some (.transaction token effect .opened))
  | .readLease index =>
    match stores.operations index with
    | some (.transaction token effect .opened) =>
      some <| stores.put index <|
        if stores.election.asserts clocks token then
          some (.transaction token effect (.read stores.election.lease.read))
        else none
    | _ => none
  | .check index =>
    match stores.operations index with
    | some (.transaction token effect (.read lease)) =>
      let now := clocks.wall token.ownerId stores.election.time
      some <| stores.put index <|
        if token.admits lease.value now &&
            stores.election.asserts clocks token then
          some (.transaction token effect (.admitted lease.version))
        else none
    | _ => none
  | .finish index =>
    match stores.operations index with
    | some (.transaction token effect (.admitted base)) =>
      some <| stores.put index <|
        if stores.election.asserts clocks token then
          some (.transaction token effect (.ready base))
        else none
    | _ => none
  | .commit index =>
    match stores.operations index with
    | some (.transaction token effect (.ready base)) =>
      if base = stores.election.lease.version then
        match effect with
        | .write change => some <|
            { stores with documents := change stores.documents }.put index
              none
        | .lockFleet =>
          match stores.fleetLock with
          | some _ => some (stores.put index none)
          | none => some <|
              { stores with fleetLock := some index }.put index
                (some (.reconciling token))
      else none
    | _ => none
  | .retry index =>
    match stores.operations index with
    | some (.transaction token effect _) =>
      some (stores.put index (some (.transaction token effect .opened)))
    | _ => none
  | .openUpdate index ownerId path update =>
    match stores.operations index with
    | some _ => none
    | none => (stores.capture clocks ownerId).map fun token =>
      stores.put index (some (.update token path update none))
  | .evaluate index believed =>
    match stores.operations index with
    | some (.update token path update _) =>
      some <| stores.put index <|
        if stores.election.asserts clocks token then
          (fencedUpdate token.generation update believed).map fun next =>
            .update token path update (some (believed, next))
        else none
    | _ => none
  | .apply index =>
    match stores.operations index with
    | some (.update _ path _ (some (believed, next))) =>
      if stores.nodes path = believed then
        some <| { stores with
          nodes := Function.update stores.nodes path next }.put index none
      else none
    | _ => none
  | .mirror index path value =>
    match stores.operations index with
    | some (.reconciling _) => some { stores with
        mirrors := Function.update stores.mirrors path value }
    | _ => none
  | .unlockFleet index =>
    match stores.operations index with
    | some (.reconciling _) => some <|
        { stores with
          fleetLock :=
            if stores.fleetLock = some index then none
            else stores.fleetLock }.put index none
    | _ => none
  | .lose index => some (stores.put index none)
  | .recoverFleet =>
    match stores.fleetLock with
    | some index => some ({ stores with fleetLock := none }.put index none)
    | none => none
  | .plain path update =>
    (plainUpdate update (stores.nodes path)).map fun next =>
      { stores with nodes := Function.update stores.nodes path next }
  | .plainMirror path value => some { stores with
      mirrors := Function.update stores.mirrors path value }
  | .plainWrite change => some { stores with
      documents := change stores.documents }

end Stores

/-- Both stores under the election and all work in flight. -/
def stores (clocks : Clocks Owner) :
    System (Stores Owner Path Data Docs) (Action Owner Path Data Docs) :=
  Stores.step clocks

/-- Stores in which nobody has led yet. -/
def Stores.first (documents : Docs) (nodes : Path → Option (Node Data))
    (mirrors : Path → Option Data) : Stores Owner Path Data Docs where
  election := {}
  documents := documents
  fleetLock := none
  nodes := nodes
  mirrors := mirrors
  operations := fun _ => none

/-- What work in flight knows of the lease and of its own write. -/
def Operation.Fenced (lease : Cell (Lease Owner)) :
    Operation Owner Path Data Docs → Prop
  | .transaction _ _ .opened => True
  | .transaction _ _ (.read snapshot) =>
    Current lease snapshot.version (· = snapshot.value)
  | .transaction token _ (.admitted base) =>
    Current lease base (·.generation = token.generation)
  | .transaction token _ (.ready base) =>
    Current lease base (·.generation = token.generation)
  | .update token _ change (some (believed, next)) =>
    fencedUpdate token.generation change believed = some next
  | .update _ _ _ none => True
  | .reconciling token => token.generation ≤ lease.value.generation

omit [DecidableEq Path] [DecidableEq Data] in
theorem Operation.Fenced.rewritten {before after : Cell (Lease Owner)}
    {operation : Operation Owner Path Data Docs}
    (fenced : operation.Fenced before)
    (rewritten : Election.Rewritten before after) :
    operation.Fenced after := by
  have le := rewritten.generation_le
  have current {base : Nat} {holds : Lease Owner → Prop}
      (now : Current before base holds) : Current after base holds := by
    cases rewritten with
    | keep same => rwa [same]
    | acquire ownerId at_ document acquired wrote =>
      rw [wrote]
      exact now.write document holds
    | release ownerId owner wrote =>
      rw [wrote]
      exact now.write _ holds
  cases operation with
  | transaction token effect stage =>
    cases stage with
    | opened => trivial
    | read | admitted | ready => exact current fenced
  | update token path change proposal =>
    cases proposal with
    | none => trivial
    | some proposal => exact fenced
  | reconciling token => exact le_trans fenced le

namespace Stores

variable {clocks : Clocks Owner}
  {stores next : Stores Owner Path Data Docs}

structure Fenced (clocks : Clocks Owner)
    (stores : Stores Owner Path Data Docs) : Prop where
  followed : stores.election.Followed clocks
  operations : ∀ index operation,
    stores.operations index = some operation →
      operation.Fenced stores.election.lease
  locked : ∀ index token,
    stores.operations index = some (.reconciling token) →
      stores.fleetLock = some index

omit [DecidableEq Path] [DecidableEq Data] in
theorem fenced_first (documents : Docs) (nodes : Path → Option (Node Data))
    (mirrors : Path → Option Data) :
    Fenced clocks (first documents nodes mirrors) where
  followed := Election.followed_empty clocks
  operations := by
    intro index operation running
    cases running
  locked := by
    intro index token running
    cases running

variable {index : Nat} {operation : Option (Operation Owner Path Data Docs)}

section

omit [DecidableEq Path] [DecidableEq Data]

theorem Fenced.relock (fenced : stores.Fenced clocks)
    (own : ∀ started, operation = some started →
      started.Fenced stores.election.lease) {lock : Option Nat}
    (free : ∀ token, operation = some (.reconciling token) →
      lock = some index) (others : ∀ other token, other ≠ index →
      stores.operations other = some (.reconciling token) →
        lock = some other) :
    ({ stores with fleetLock := lock }.put index operation).Fenced clocks := by
  constructor
  · exact fenced.followed
  · intro other started running
    by_cases same : other = index
    · subst same
      exact own started (by simpa [Stores.put] using running)
    · exact fenced.operations other started
        (by simpa [Stores.put, update_of_ne same] using running)
  · intro other token running
    by_cases same : other = index
    · subst same
      exact free token (by simpa [Stores.put] using running)
    · exact others other token same
        (by simpa [Stores.put, update_of_ne same] using running)

variable {token : Token Owner}

omit [DecidableEq Owner] in
theorem reconciling_of_put {otherIndex : Nat}
    (waits : ∀ token, operation ≠ some (.reconciling token))
    (running : (stores.put index operation).operations otherIndex =
      some (.reconciling token)) :
    stores.operations otherIndex = some (.reconciling token) := by
  by_cases same : otherIndex = index
  · subst same
    exact absurd (by simpa [Stores.put] using running) (waits token)
  · simpa [Stores.put, update_of_ne same] using running

/-- The work in flight stays fenced, and whoever takes the fleet lock has the
generation of the present lease. -/
structure Follows (clocks : Clocks Owner)
    (stores next : Stores Owner Path Data Docs) : Prop where
  fenced : next.Fenced clocks
  reconciling : ∀ index token,
    next.operations index = some (.reconciling token) →
      stores.operations index = some (.reconciling token) ∨
        stores.election.lease.value.generation ≤ token.generation

theorem Fenced.follows (fenced : next.Fenced clocks)
    (same : next.operations = stores.operations) :
    Follows clocks stores next where
  fenced := fenced
  reconciling index token running := .inl (by rwa [← same])

theorem Fenced.put (fenced : stores.Fenced clocks)
    (own : ∀ started, operation = some started →
      started.Fenced stores.election.lease)
    (waits : ∀ token, operation ≠ some (.reconciling token)) :
    Follows clocks stores (stores.put index operation) where
  fenced := fenced.relock own (fun token same => absurd same (waits token))
    fun other token _ running => fenced.locked other token running
  reconciling _ _ running := .inl (reconciling_of_put waits running)

theorem Fenced.drop (fenced : stores.Fenced clocks) (index : Nat) :
    Follows clocks stores (stores.put index none) :=
  fenced.put (fun _ impossible => by cases impossible) (by simp)

theorem Fenced.unlock (fenced : stores.Fenced clocks)
    {lock : Option Nat} (others : ∀ other token, other ≠ index →
      stores.operations other = some (.reconciling token) →
        lock = some other) :
    Follows clocks stores ({ stores with fleetLock := lock }.put index none)
    where
  fenced := fenced.relock (fun _ impossible => by cases impossible) (by simp)
    others
  reconciling _ _ running := .inl (reconciling_of_put (by simp) running)

end

variable {action : Action Owner Path Data Docs}

theorem follows_of_step (fenced : stores.Fenced clocks)
    (taken : stores.step clocks action = some next) :
    Follows clocks stores next := by
  unfold Stores.step at taken
  cases action with
  | elect event =>
    obtain ⟨election, elected, rfl⟩ := map_eq_some_iff.mp taken
    have stepped := Election.stepped_of_step elected
    have rewritten :=
      Election.rewritten_of_stepped fenced.followed stepped
    refine Fenced.follows ?_ rfl
    constructor
    · exact Election.followed_of_stepped fenced.followed stepped
    · intro index operation running
      exact (fenced.operations index operation running).rewritten rewritten
    · exact fenced.locked
  | openTransaction | openUpdate =>
    simp only at taken
    split at taken
    · cases taken
    · obtain ⟨token, -, rfl⟩ := map_eq_some_iff.mp taken
      apply fenced.put
      · rintro started same
        cases same
        trivial
      · simp
  | readLease index =>
    simp only at taken
    split at taken
    · cases taken
      split
      · apply fenced.put
        · rintro started same
          cases same
          exact current_read _
        · simp
      · exact fenced.drop index
    · cases taken
  | check index =>
    simp only at taken
    split at taken
    · rename_i token effect lease running
      have read := fenced.operations index _ running
      cases taken
      split
      · rename_i admitted
        apply fenced.put
        · rintro started same
          cases same
          apply Current.mono read
          rintro value rfl
          simp only [Token.admits, Bool.and_eq_true, beq_iff_eq] at admitted
          exact admitted.1.1.2
        · simp
      · exact fenced.drop index
    · cases taken
  | finish index =>
    simp only at taken
    split at taken
    · rename_i token effect base running
      have admitted := fenced.operations index _ running
      cases taken
      split
      · apply fenced.put
        · rintro started same
          cases same
          exact admitted
        · simp
      · exact fenced.drop index
    · cases taken
  | commit index =>
    simp only at taken
    split at taken
    · rename_i token effect base running
      have ready := fenced.operations index _ running
      split at taken
      · rename_i same
        have generation := ready.of_same same
        cases effect with
        | write change =>
          cases taken
          have dropped := fenced.drop index
          exact ⟨⟨dropped.fenced.followed, dropped.fenced.operations,
            dropped.fenced.locked⟩, dropped.reconciling⟩
        | lockFleet =>
          simp only at taken
          split at taken
          · cases taken
            exact fenced.drop index
          · rename_i free
            cases taken
            constructor
            · apply fenced.relock
              · rintro started same
                cases same
                exact generation.ge
              · exact fun _ _ => rfl
              · intro other holder _ running
                rw [fenced.locked other holder running] at free
                cases free
            · intro other holder running
              by_cases self : other = index
              · subst self
                have started : token = holder := by
                  simpa [Stores.put] using running
                rw [← started]
                exact .inr generation.le
              · left
                simpa [Stores.put, update_of_ne self] using running
      · cases taken
    · cases taken
  | retry index =>
    simp only at taken
    split at taken
    · cases taken
      apply fenced.put
      · rintro started same
        cases same
        trivial
      · simp
    · cases taken
  | evaluate index believed =>
    simp only at taken
    split at taken
    · rename_i token path update proposal running
      cases taken
      split
      · apply fenced.put
        · intro started same
          obtain ⟨next, proposed, rfl⟩ := map_eq_some_iff.mp same
          exact proposed
        · intro other same
          obtain ⟨next, -, impossible⟩ := map_eq_some_iff.mp same
          cases impossible
      · exact fenced.drop index
    · cases taken
  | apply index =>
    simp only at taken
    split at taken
    · split at taken
      · cases taken
        have dropped := fenced.drop index
        exact ⟨⟨dropped.fenced.followed, dropped.fenced.operations,
          dropped.fenced.locked⟩, dropped.reconciling⟩
      · cases taken
    · cases taken
  | mirror index path value =>
    simp only at taken
    split at taken
    · cases taken
      exact Fenced.follows
        ⟨fenced.followed, fenced.operations, fenced.locked⟩ rfl
    · cases taken
  | unlockFleet index =>
    simp only at taken
    split at taken
    · rename_i token running
      cases taken
      have held := fenced.locked index token running
      apply fenced.unlock
      intro other holder different otherRunning
      rw [fenced.locked other holder otherRunning] at held
      exact absurd (Option.some.inj held) different
    · cases taken
  | lose index =>
    cases taken
    exact fenced.drop index
  | recoverFleet =>
    simp only at taken
    split at taken
    · rename_i index held
      cases taken
      apply fenced.unlock
      intro other holder different running
      rw [fenced.locked other holder running] at held
      exact absurd (Option.some.inj held) different
    · cases taken
  | plain path update =>
    obtain ⟨node, -, rfl⟩ := map_eq_some_iff.mp taken
    exact Fenced.follows
      ⟨fenced.followed, fenced.operations, fenced.locked⟩ rfl
  | plainMirror | plainWrite =>
    cases taken
    exact Fenced.follows
      ⟨fenced.followed, fenced.operations, fenced.locked⟩ rfl

/-- What one step may write to one node. -/
inductive Rewrites (before after : Option (Node Data)) : Prop where
  | keep (same : after = before)
  | fenced (generation : Nat) (change : Option (Node Data) → Change Data)
      (wrote : fencedUpdate generation change before = some after)
  | plain (change : Option (Node Data) → Change Data)
      (wrote : plainUpdate change before = some after)

variable {change : Option (Node Data) → Change Data}
  {before after : Option (Node Data)}

omit [DecidableEq Data] in
theorem generationOf_of_fencedUpdate {generation : Nat}
    (wrote : fencedUpdate generation change before = some after) :
    generationOf before ≤ generation ∧
      (after.isSome = true → generationOf after = generation) := by
  unfold fencedUpdate at wrote
  split at wrote
  · cases wrote
  · rename_i current
    refine ⟨Nat.le_of_not_lt current, ?_⟩
    intro exists_
    split at wrote
    · cases wrote
    · cases wrote
      cases exists_
    · cases wrote
      rfl

omit [DecidableEq Data] in
theorem Rewrites.generation_le (rewrites : Rewrites before after)
    (exists_ : after.isSome = true) :
    generationOf before ≤ generationOf after := by
  cases rewrites with
  | keep same => rw [same]
  | fenced generation change wrote =>
    obtain ⟨le, stamped⟩ := generationOf_of_fencedUpdate wrote
    rw [stamped exists_]
    exact le
  | plain change wrote =>
    unfold plainUpdate at wrote
    split at wrote
    · cases wrote
    · cases wrote
      cases exists_
    · cases wrote
      exact le_refl _

variable {path : Path}

/-- A worker write that takes effect was computed from the present node. -/
theorem fencedUpdate_of_apply (fenced : stores.Fenced clocks)
    {proposal : Option (Option (Node Data) × Option (Node Data))}
    (running : stores.operations index =
      some (.update token path change proposal))
    (taken : stores.step clocks (.apply index) = some next) :
    fencedUpdate token.generation change (stores.nodes path) =
        some (next.nodes path) ∧
      ∀ other, other ≠ path → next.nodes other = stores.nodes other := by
  have known := fenced.operations index _ running
  unfold Stores.step at taken
  simp only [running] at taken
  split at taken
  · rename_i believed proposed same
    cases same
    split at taken
    · rename_i unchanged
      cases taken
      constructor
      · rw [unchanged]
        simp only [Stores.put, Function.update_self]
        exact known
      · intro other different
        simp [Stores.put, update_of_ne different]
    · cases taken
  · cases taken

theorem nodes_of_step (taken : stores.step clocks action = some next)
    (notApplied : ∀ index, action ≠ .apply index)
    (notPlain : ∀ path change, action ≠ .plain path change) :
    next.nodes = stores.nodes := by
  unfold Stores.step at taken
  cases action with
  | apply index => exact absurd rfl (notApplied index)
  | plain path change => exact absurd rfl (notPlain path change)
  | _ =>
    simp only at taken
    repeat' split at taken
    all_goals first
      | cases taken <;> rfl
      | obtain ⟨_, -, rfl⟩ := map_eq_some_iff.mp taken
        rfl

theorem rewrites_of_step (fenced : stores.Fenced clocks)
    (taken : stores.step clocks action = some next) (path : Path) :
    Rewrites (stores.nodes path) (next.nodes path) := by
  cases action with
  | apply index =>
    cases running : stores.operations index with
    | none =>
      unfold Stores.step at taken
      simp [running] at taken
    | some operation =>
      cases operation with
      | update token written change proposal =>
        obtain ⟨wrote, others⟩ :=
          fencedUpdate_of_apply fenced running taken
        by_cases same : path = written
        · subst same
          exact .fenced _ change wrote
        · exact .keep (others path same)
      | transaction | reconciling =>
        unfold Stores.step at taken
        simp [running] at taken
  | plain written change =>
    unfold Stores.step at taken
    obtain ⟨node, wrote, rfl⟩ := map_eq_some_iff.mp taken
    by_cases same : path = written
    · subst same
      exact .plain change (by simpa using wrote)
    · exact .keep (update_of_ne same _ _)
  | _ => exact .keep (congrFun (nodes_of_step taken (by simp) (by simp)) path)

/-- What fencing gives from a moment on. -/
structure WritesFenced (clocks : Clocks Owner)
    (stores : Stores Owner Path Data Docs) : Prop where
  /-- A worker transaction commits only while no greater generation has been
  recorded. -/
  commit_current : ∀ later index token effect base next,
    System.Steps (Worker.stores clocks) (fun _ _ => True) stores later →
    later.operations index = some (.transaction token effect (.ready base)) →
    later.step clocks (.commit index) = some next →
      stores.election.lease.value.generation ≤ token.generation
  /-- A worker write never lowers the generation of an existing node. -/
  generation_le : ∀ index token path change proposal next,
    stores.operations index = some (.update token path change proposal) →
    stores.step clocks (.apply index) = some next →
    (next.nodes path).isSome = true →
      generationOf (stores.nodes path) ≤ generationOf (next.nodes path)
  /-- After the write of one leader only the writes of its own or of a greater
  generation take effect while the node exists. -/
  write_current : ∀ index token path change proposal next,
    stores.operations index = some (.update token path change proposal) →
    stores.step clocks (.apply index) = some next →
    ∀ later, System.Steps (Worker.stores clocks)
      (fun stores _ => (stores.nodes path).isSome = true) next later →
    (later.nodes path).isSome = true →
    ∀ otherIndex other otherChange otherProposal last,
      later.operations otherIndex =
        some (.update other path otherChange otherProposal) →
      later.step clocks (.apply otherIndex) = some last →
        token.generation ≤ other.generation
  /-- The same for the mirrors that are written under the fleet lock. -/
  mirror_current : ∀ index token path value next,
    stores.operations index = some (.reconciling token) →
    stores.step clocks (.mirror index path value) = some next →
    ∀ later, System.Steps (Worker.stores clocks) (fun _ _ => True) next later →
    ∀ otherIndex other,
      later.operations otherIndex = some (.reconciling other) →
        token.generation ≤ other.generation

variable
  {allowed : Stores Owner Path Data Docs → Action Owner Path Data Docs → Prop}

theorem fenced_of_steps (fenced : stores.Fenced clocks)
    (run : System.Steps (Worker.stores clocks) allowed stores next) :
    next.Fenced clocks := by
  apply run.invariant fenced
  intro before action after fenced _ taken
  exact (follows_of_step fenced taken).fenced

theorem election_of_step (taken : stores.step clocks action = some next) :
    next.election = stores.election ∨
      ∃ event, stores.election.step clocks event = some next.election := by
  unfold Stores.step at taken
  cases action with
  | elect event =>
    obtain ⟨election, elected, rfl⟩ := map_eq_some_iff.mp taken
    exact .inr ⟨event, elected⟩
  | _ =>
    left
    simp only at taken
    repeat' split at taken
    all_goals first
      | cases taken <;> rfl
      | obtain ⟨_, -, rfl⟩ := map_eq_some_iff.mp taken
        rfl

theorem generation_le_of_steps (fenced : stores.Fenced clocks)
    (run : System.Steps (Worker.stores clocks) allowed stores next) :
    stores.election.lease.value.generation ≤
      next.election.lease.value.generation := by
  induction run with
  | refl => exact le_refl _
  | step before _ taken induction =>
    apply le_trans induction
    have known := fenced_of_steps fenced before
    rcases election_of_step taken with same | ⟨event, elected⟩
    · rw [same]
    · exact (Election.rewritten_of_stepped known.followed
        (Election.stepped_of_step elected)).generation_le

theorem generationOf_le_of_steps (fenced : stores.Fenced clocks)
    (run : System.Steps (Worker.stores clocks)
      (fun stores _ => (stores.nodes path).isSome = true) stores next)
    (exists_ : (next.nodes path).isSome = true) :
    generationOf (stores.nodes path) ≤ generationOf (next.nodes path) := by
  induction run with
  | refl => exact le_refl _
  | step before existed taken induction =>
    have known := fenced_of_steps fenced before
    exact le_trans (induction existed)
      ((rewrites_of_step known taken path).generation_le exists_)

variable {otherIndex : Nat}

theorem reconciling_of_steps (fenced : stores.Fenced clocks)
    (running : stores.operations index = some (.reconciling token))
    (run : System.Steps (Worker.stores clocks) (fun _ _ => True) stores next)
    {other : Token Owner}
    (later : next.operations otherIndex = some (.reconciling other)) :
    token.generation ≤ other.generation := by
  induction run generalizing otherIndex other with
  | refl =>
    have same := fenced.locked otherIndex other later
    rw [fenced.locked index token running] at same
    cases same
    rw [running] at later
    cases later
    exact le_refl _
  | step before _ taken induction =>
    have known := fenced_of_steps fenced before
    rcases (follows_of_step known taken).reconciling _ _ later with already | current
    · exact induction already
    · have held := fenced.operations index _ running
      have grown := generation_le_of_steps fenced before
      exact le_trans held (le_trans grown current)

theorem writes_fenced {documents : Docs} {nodes : Path → Option (Node Data)}
    {mirrors : Path → Option Data}
    (run : System.Steps (Worker.stores clocks) (fun _ _ => True)
      (first documents nodes mirrors) stores) :
    stores.WritesFenced clocks := by
  have fenced := fenced_of_steps (fenced_first documents nodes mirrors) run
  constructor
  · intro later index token effect base next onward running taken
    have known := fenced_of_steps fenced onward
    have ready := known.operations index _ running
    have grown := generation_le_of_steps fenced onward
    unfold Stores.step at taken
    simp only [running] at taken
    split at taken
    · rename_i same
      have generation := ready.of_same same
      omega
    · cases taken
  · intro index token path change proposal next running taken exists_
    exact (rewrites_of_step fenced taken path).generation_le exists_
  · intro index token path change proposal next running taken later onward
      exists_ otherIndex other otherChange otherProposal last otherRunning
      otherTaken
    have afterwards := (follows_of_step fenced taken).fenced
    have known := fenced_of_steps afterwards onward
    obtain ⟨wrote, -⟩ := fencedUpdate_of_apply fenced running taken
    obtain ⟨otherWrote, -⟩ := fencedUpdate_of_apply known otherRunning otherTaken
    have existed := onward.first_of_last exists_
    have stamped := (generationOf_of_fencedUpdate wrote).2 existed
    have grown := generationOf_le_of_steps afterwards onward exists_
    have checked := (generationOf_of_fencedUpdate otherWrote).1
    omega
  · intro index token path value next running taken later onward otherIndex
      other otherRunning
    have same : next.operations = stores.operations := by
      unfold Stores.step at taken
      simp only [running] at taken
      cases taken
      rfl
    rw [← same] at running
    exact reconciling_of_steps (follows_of_step fenced taken).fenced running
      onward otherRunning

/-- A first leader writes a node, stalls in a second write, and a second
leader writes the node. -/
def twoLeaders : List (Action Bool Unit Nat Unit) :=
  (request true ++ take true).map .elect ++
    [.openUpdate 0 true () fun _ => .set 1, .evaluate 0 none, .apply 0,
      .openUpdate 0 true () fun _ => .set 2, .elect (.tick 47000)] ++
    (request false ++ take false).map .elect ++
    [.openUpdate 1 false () fun _ => .set 3,
      .evaluate 1 (some ⟨1, some 1⟩), .apply 1]

theorem writes_fenced_twoLeaders :
    ∃ stores : Stores Bool Unit Nat Unit,
      stores.nodes () = some ⟨3, some 2⟩ ∧ stores.WritesFenced trueClocks := by
  have decided : ((System.run (Worker.stores trueClocks) (fun _ _ => true)
      (first () (fun _ => none) fun _ => none) twoLeaders).any fun stores =>
        decide (stores.nodes () = some ⟨3, some 2⟩)) = true := by
    decide +kernel
  obtain ⟨stores, ran, written⟩ := (Option.any_eq_true _ _).mp decided
  have run : System.Steps (Worker.stores trueClocks) (fun _ _ => True)
      (first () (fun _ => none) fun _ => none) stores :=
    System.steps_of_run ran fun _ _ _ => trivial
  exact ⟨stores, of_decide_eq_true written, writes_fenced run⟩

end Stores

end Eki.Worker
