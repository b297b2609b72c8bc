import Eki.Live.StaleBusSweeper

/-!
# A cycle of the sweeper is complete and safe

A node that was stale at the start and that nobody else wrote is still ahead of
the cursor, on the page that is being written, or handled.  A transaction
changes a node only as its page has read it.
-/

namespace Eki.Sweep

open Insertion Transition
open Option (any_eq_true any_some map_eq_some_iff)
open OrderedMap (get_delete_of_ne get_set_of_ne mem_entries_iff)

variable {K : Type} [LinearOrder K] {options : SweepOptions}
  {sweeper : Sweeper K}

/-- The index finds the node, and it is older than the cutoff. -/
def Stale (cutoff : ℚ) (node : BusNode) : Prop :=
  ∃ timestamp, timestampOf node = some timestamp ∧ 0 ≤ timestamp ∧
    timestamp < cutoff

def Scalar (node : BusNode) : Prop :=
  ∀ field ∈ identityFields, node field ≠ some .object

def SameIdentity (left right : BusNode) : Prop :=
  ∀ field ∈ identityFields, left field = right field

/-- A stale ride is offline, and any other stale node is gone. -/
def Handled (before : BusNode) (after : Option BusNode) : Prop :=
  if isActive before then
    ∃ node, after = some node ∧ isOffline node = true ∧
      SameIdentity node before
  else after = none

/-! ## A transaction -/

theorem differs_eq_false {left right : Option Value}
    (same : differs left right = false) : left = right := by
  simp only [differs, Bool.or_eq_false_iff, bne_eq_false_iff_eq] at same
  exact same.2

theorem differs_self {value : Option Value} (scalar : value ≠ some .object) :
    differs value value = false := by
  simp only [differs, Bool.or_eq_false_iff, bne_self_eq_false, and_true]
  exact beq_eq_false_iff_ne.mpr scalar

theorem sameIdentity_of_any {left right : BusNode}
    (same : (identityFields.any fun field =>
      differs (left field) (right field)) = false) :
    SameIdentity left right := by
  intro field member
  have agree := List.any_eq_false.mp same field member
  exact differs_eq_false (Bool.eq_false_iff.mpr agree)

variable {node : BusNode}

theorem any_differs_self (scalar : Scalar node) :
    (identityFields.any fun field =>
      differs (node field) (node field)) = false := by
  rw [List.any_eq_false]
  intro field member
  rw [differs_self (scalar field member)]
  exact Bool.false_ne_true

theorem SameIdentity.isActive_eq {left right : BusNode}
    (same : SameIdentity left right) : isActive left = isActive right := by
  have status := same "status" (by decide)
  have tripState := same "tripState" (by decide)
  rw [isActive, isActive, status, tripState]

theorem withField_of_ne {name field : String} {value : Value}
    (different : field ≠ name) :
    withField node name value field = node field :=
  if_neg different

theorem fenced_markedOffline (options : SweepOptions) (node : BusNode)
    (serverNow : ℚ) :
    isOffline (fenced options (markedOffline node serverNow)) = true ∧
      SameIdentity (fenced options (markedOffline node serverNow)) node := by
  have unfenced : isOffline (markedOffline node serverNow) = true ∧
      SameIdentity (markedOffline node serverNow) node := by
    constructor
    · rfl
    · intro field member
      have names : field ≠ "lifecycleUpdatedAt" ∧ field ≠ "signalState" ∧
          field ≠ "deviceState" := by
        refine ⟨?_, ?_, ?_⟩
        · rintro rfl
          exact absurd member (by decide)
        · rintro rfl
          exact absurd member (by decide)
        · rintro rfl
          exact absurd member (by decide)
      rw [markedOffline, withField_of_ne names.1, withField_of_ne names.2.1,
        withField_of_ne names.2.2]
  cases generation : options.generation with
  | none =>
    simp only [fenced, generation, Option.elim_none]
    exact unfenced
  | some number =>
    simp only [fenced, generation, Option.elim_some]
    constructor
    · exact unfenced.1
    · intro field member
      have different : field ≠ "_workerGeneration" := by
        rintro rfl
        exact absurd member (by decide)
      rw [withField_of_ne different]
      exact unfenced.2 field member

variable {stopped leading : Bool} {serverNow : ℚ} {data : BusNode}

theorem update_commit {current after : Option BusNode}
    (committed : update options stopped leading serverNow data current =
      .commit after) :
    current = none ∧ after = none ∨
      ∃ node, current = some node ∧ SameIdentity node data ∧
        Handled node after := by
  simp only [update] at committed
  split at committed
  · cases committed
  · split at committed
    · cases committed
    · cases current with
      | none =>
        cases committed
        exact Or.inl ⟨rfl, rfl⟩
      | some node =>
        simp only at committed
        split at committed
        · cases committed
        · rename_i agree
          have same := sameIdentity_of_any (Bool.eq_false_iff.mpr agree)
          right
          refine ⟨node, rfl, same, ?_⟩
          rw [Handled]
          split at committed
          · rename_i active
            rw [if_pos (same.isActive_eq.trans active)]
            split at committed
            · cases committed
            · cases committed
              obtain ⟨offline, identity⟩ :=
                fenced_markedOffline options node serverNow
              exact ⟨_, rfl, offline, identity⟩
          · rename_i inactive
            rw [if_neg (by rw [same.isActive_eq]; exact inactive)]
            cases committed
            rfl

theorem update_aborted (scalar : Scalar node)
    (aborted : update options stopped leading serverNow node (some node) =
      .aborted) :
    fenceRefuses options leading (some node) = true ∨ stopped = true ∨
      Handled node (some node) := by
  simp only [update, any_differs_self scalar, Bool.false_eq_true,
    if_false] at aborted
  split at aborted
  · exact Or.inl ‹_›
  · split at aborted
    · exact Or.inr (Or.inl ‹_›)
    · right
      right
      split at aborted
      · rename_i active
        split at aborted
        · rename_i offline
          rw [Handled, if_pos active]
          exact ⟨node, rfl, offline, fun _ _ => rfl⟩
        · cases aborted
      · cases aborted

theorem update_of_handled {before : BusNode} {current after : Option BusNode}
    (handled : Handled before current)
    (committed : update options stopped leading serverNow data current =
      .commit after) : after = none ∧ current = none := by
  rcases update_commit committed with gone | ⟨node, found, same, settled⟩
  · exact ⟨gone.2, gone.1⟩
  · rw [Handled] at handled
    split at handled
    · rename_i active
      obtain ⟨other, stored, offline, identity⟩ := handled
      rw [found] at stored
      cases stored
      have ride : isActive data = true := by
        rw [← same.isActive_eq, identity.isActive_eq]
        exact active
      simp only [update, found, ride, offline, if_true] at committed
      split at committed
      · cases committed
      · split at committed
        · cases committed
        · split at committed
          · cases committed
          · cases committed
    · rw [found] at handled
      cases handled

/-! ## A page -/

variable {key : K}

theorem inRange_of_stale {cursor : Option (ℚ × K)} {cutoff : ℚ}
    (stale : Stale cutoff node)
    (beyond : ∀ last, cursor = some last → toLex last < position (key, node)) :
    inRange cursor cutoff (key, node) = true := by
  obtain ⟨timestamp, found, nonneg, older⟩ := stale
  simp only [inRange, found, any_some, Bool.and_eq_true, decide_eq_true_eq]
  refine ⟨older.le, ?_⟩
  cases cursor with
  | none => exact decide_eq_true nonneg
  | some last => exact decide_eq_true (beyond last rfl)

omit [LinearOrder K] in
/-- Two nodes at one place of the index have one key. -/
theorem key_of_position {first second : Child K}
    (same : position first = position second) : first.1 = second.1 := by
  have pairs := toLex.injective same
  exact congrArg Prod.snd pairs

/-! ## What a cycle keeps -/

/-- A node is among those to be written, or behind a full page; or the page is
read again. -/
def Ahead (options : SweepOptions) (stage : Stage K) (child : Child K) :
    Prop :=
  ∀ children batch waiting failed,
    stage = .writing children batch waiting failed →
    failed = true ∨ child ∈ batch ++ waiting ∨
      children.length = options.pageSize ∧
        ∀ other ∈ children, position other < position child

/-- A node that is still to be handled. -/
structure Pending (options : SweepOptions) (sweeper : Sweeper K) (key : K)
    (node : BusNode) : Prop where
  unchanged : sweeper.tree.get key = some node
  beyond : ∀ last, sweeper.cursor = some last →
    toLex last < position (key, node)
  ahead : Ahead options sweeper.stage (key, node)

structure PageRead (sweeper : Sweeper K)
    (children batch waiting : List (Child K)) : Prop where
  left : ∀ child ∈ batch ++ waiting, child ∈ children
  read : ∀ child ∈ children, sweeper.atRead.get child.1 = some child.2
  once : ((batch ++ waiting).map Prod.fst).Nodup

/-- The nodes that the cycle has to handle. -/
structure Due (sweeper : Sweeper K) (cutoff : ℚ) (key : K) (node : BusNode) :
    Prop where
  atStart : sweeper.atStart.get key = some node
  stale : Stale cutoff node
  scalar : Scalar node
  untouched : key ∉ sweeper.touched
  unrefused : key ∉ sweeper.refused

variable {after : Sweeper K}

theorem Due.before {cutoff : ℚ} (due : Due after cutoff key node)
    (atStart : after.atStart = sweeper.atStart)
    (touched : ∀ other ∈ sweeper.touched, other ∈ after.touched)
    (refused : ∀ other ∈ sweeper.refused, other ∈ after.refused) :
    Due sweeper cutoff key node := by
  constructor
  · rw [← atStart]
    exact due.atStart
  · exact due.stale
  · exact due.scalar
  · intro written
    exact due.untouched (touched key written)
  · intro fenced
    exact due.unrefused (refused key fenced)

structure Tidy (options : SweepOptions) (sweeper : Sweeper K) : Prop where
  fresh : sweeper.cutoff = none → sweeper.cursor = none ∧ sweeper.stage = .idle
  page : ∀ children batch waiting failed,
    sweeper.stage = .writing children batch waiting failed →
    PageRead sweeper children batch waiting
  progress : ∀ cutoff, sweeper.cutoff = some cutoff → ∀ key node,
    Due sweeper cutoff key node →
    sweeper.stopped = true ∨ Handled node (sweeper.tree.get key) ∨
      Pending options sweeper key node

theorem tidy_new (options : SweepOptions) (tree : OrderedMap K BusNode) :
    Tidy options (.new tree) := by
  constructor
  · intro _
    exact ⟨rfl, rfl⟩
  · intro children batch waiting failed writing
    cases writing
  · intro cutoff started
    cases started

/-- The progress of a node that a step leaves as it was. -/
theorem Tidy.goesOn {cutoff : ℚ} (tidy : Tidy options sweeper)
    (began : sweeper.cutoff = some cutoff) (due : Due after cutoff key node)
    (atStart : after.atStart = sweeper.atStart)
    (touched : ∀ other ∈ sweeper.touched, other ∈ after.touched)
    (refused : ∀ other ∈ sweeper.refused, other ∈ after.refused)
    (stopped : sweeper.stopped = true → after.stopped = true)
    (same : after.tree.get key = sweeper.tree.get key)
    (moves : Pending options sweeper key node →
      Handled node (after.tree.get key) ∨ Pending options after key node) :
    after.stopped = true ∨ Handled node (after.tree.get key) ∨
      Pending options after key node := by
  rcases tidy.progress cutoff began key node
    (due.before atStart touched refused) with stop | handled | pending
  · exact Or.inl (stopped stop)
  · rw [same]
    exact Or.inr (Or.inl handled)
  · exact Or.inr (moves pending)

theorem Tidy.between (tidy : Tidy options sweeper)
    (tree : after.tree = sweeper.tree)
    (stopped : sweeper.stopped = true → after.stopped = true)
    (cursor : after.cursor = sweeper.cursor)
    (cutoff : after.cutoff = sweeper.cutoff)
    (atStart : after.atStart = sweeper.atStart)
    (touched : after.touched = sweeper.touched)
    (refused : after.refused = sweeper.refused)
    (fresh : sweeper.stage = .idle → sweeper.cutoff = none →
      after.stage = .idle) (stage : ∀ children batch waiting failed,
      after.stage = .writing children batch waiting failed →
      sweeper.stage = .writing children batch waiting failed ∧
        after.atRead = sweeper.atRead) : Tidy options after := by
  constructor
  · intro none
    rw [cutoff] at none
    obtain ⟨noCursor, idle⟩ := tidy.fresh none
    rw [cursor]
    exact ⟨noCursor, fresh idle none⟩
  · intro children batch waiting failed writing
    obtain ⟨before, atRead⟩ := stage children batch waiting failed writing
    have page := tidy.page children batch waiting failed before
    exact
      { left := page.left
        read := by
          rw [atRead]
          exact page.read
        once := page.once }
  · intro limit started key node due
    rw [cutoff] at started
    refine tidy.goesOn started due atStart (by rw [touched]; exact fun _ => id)
      (by rw [refused]; exact fun _ => id) stopped (by rw [tree]) ?_
    intro pending
    right
    constructor
    · rw [tree]
      exact pending.unchanged
    · rw [cursor]
      exact pending.beyond
    · intro children batch waiting failed writing
      exact pending.ahead children batch waiting failed
        (stage children batch waiting failed writing).1

theorem Tidy.idle (tidy : Tidy options sweeper)
    (tree : after.tree = sweeper.tree)
    (stopped : after.stopped = sweeper.stopped)
    (cursor : after.cursor = sweeper.cursor)
    (cutoff : after.cutoff = sweeper.cutoff)
    (atStart : after.atStart = sweeper.atStart)
    (touched : after.touched = sweeper.touched)
    (refused : after.refused = sweeper.refused) (stage : after.stage = .idle) :
    Tidy options after := by
  apply tidy.between tree _ cursor cutoff atStart touched refused
  · intro _ _
    exact stage
  · intro children batch waiting failed writing
    rw [stage] at writing
    cases writing
  · intro stop
    rw [stopped]
    exact stop

/-! ## The steps -/

theorem Tidy.tick (tidy : Tidy options sweeper) (readings : Readings)
    (leading : Bool) :
    Tidy options (sweeper.tick options readings leading) := by
  simp only [Sweeper.tick]
  split
  · exact tidy.between rfl (fun stop => stop) rfl rfl rfl rfl rfl
      (fun idle _ => idle) (fun _ _ _ _ writing => ⟨writing, rfl⟩)
  · split
    · exact tidy.between rfl (fun stop => stop) rfl rfl rfl rfl rfl
        (fun idle _ => idle) (fun _ _ _ _ writing => ⟨writing, rfl⟩)
    · split
      · rename_i cutoff started
        refine tidy.between rfl (fun stop => stop) rfl rfl rfl rfl rfl ?_ ?_
        · intro _ none
          cases none.symm.trans started
        · intro children batch waiting failed writing
          cases writing
      · rename_i ended
        -- A cycle starts, and every node is ahead of it.
        constructor
        · intro none
          cases none
        · intro children batch waiting failed writing
          cases writing
        · intro cutoff started key node due
          right
          right
          constructor
          · exact due.atStart
          · intro last found
            have noCursor := (tidy.fresh ended).1
            cases noCursor.symm.trans found
          · intro children batch waiting failed writing
            cases writing

theorem Tidy.pageArrives (tidy : Tidy options sweeper)
    (taken : sweeper.page options = some after) : Tidy options after := by
  simp only [Sweeper.page] at taken
  split at taken
  · rename_i cutoff reading started
    split at taken
    · cases taken
      exact tidy.idle rfl rfl rfl rfl rfl rfl rfl rfl
    · cases taken
      constructor
      · intro none
        rw [started] at none
        cases none
      · intro children batch waiting failed writing
        cases writing
        constructor
        · intro child member
          exact member
        · intro child member
          have entry := (Pages.mem_of_mem_page member).1
          exact mem_entries_iff.mp entry
        · exact Pages.page_nodup sweeper.tree.unique
      · intro limit began key node due
        rw [started] at began
        cases began
        refine tidy.goesOn started due rfl (fun _ => id) (fun _ => id) id rfl ?_
        intro pending
        right
        constructor
        · exact pending.unchanged
        · exact pending.beyond
        · intro children batch waiting failed writing
          cases writing
          right
          have entry := mem_entries_iff.mpr pending.unchanged
          have found := inRange_of_stale due.stale pending.beyond
          have placed := @Pages.mem_page_or_behind _ _ _ position _
            options.pageSize _ _ entry found
          rcases placed with listed | ⟨full, behind⟩
          · exact Or.inl listed
          · by_cases listed : (key, node) ∈ Pages.page position
                (inRange sweeper.cursor cutoff) options.pageSize
                sweeper.tree.entries
            · exact Or.inl listed
            · refine Or.inr ⟨full, ?_⟩
              intro other member
              apply lt_of_le_of_ne (behind other member)
              intro same
              have keyed := key_of_position same
              have stored := mem_entries_iff.mp
                (Pages.mem_of_mem_page member).1
              rw [keyed, pending.unchanged] at stored
              apply listed
              have whole : other = (key, node) := by
                exact Prod.ext keyed (Option.some.inj stored).symm
              rw [← whole]
              exact member
  · cases taken

theorem Tidy.nextBatch (tidy : Tidy options sweeper)
    (taken : sweeper.batch options = some after) : Tidy options after := by
  simp only [Sweeper.batch] at taken
  split at taken
  · rename_i children waiting failed cutoff writing started
    split at taken
    · cases taken
    · cases taken
      have page := tidy.page children [] waiting failed writing
      have halves := List.take_append_drop options.writeConcurrency waiting
      have fewer : (((waiting.take options.writeConcurrency).filter
          fun child => needsWrite cutoff child.2) ++
            waiting.drop options.writeConcurrency).Sublist waiting := by
        have kept := (@List.filter_sublist _
          (fun child : Child K => needsWrite cutoff child.2)
          (waiting.take options.writeConcurrency)).append
            (List.Sublist.refl (waiting.drop options.writeConcurrency))
        rw [halves] at kept
        exact kept
      constructor
      · intro none
        rw [started] at none
        cases none
      · intro _ _ _ _ now
        cases now
        constructor
        · intro child member
          exact page.left child (fewer.subset member)
        · exact page.read
        · exact page.once.sublist (fewer.map Prod.fst)
      · intro limit began key node due
        rw [started] at began
        cases began
        refine tidy.goesOn started due rfl (fun _ => id) (fun _ => id) id rfl ?_
        intro pending
        rcases pending.ahead children [] waiting failed writing with
          again | listed | behind
        · right
          refine ⟨pending.unchanged, pending.beyond, ?_⟩
          intro _ _ _ _ now
          cases now
          exact Or.inl again
        · rw [List.nil_append, ← halves] at listed
          rcases List.mem_append.mp listed with early | late
          · cases needed : needsWrite cutoff node with
            | true =>
              right
              refine ⟨pending.unchanged, pending.beyond, ?_⟩
              intro _ _ _ _ now
              cases now
              right
              left
              exact List.mem_append_left _
                (List.mem_filter.mpr ⟨early, needed⟩)
            | false =>
              -- A stale node that needs no write is an offline ride.
              left
              obtain ⟨timestamp, found, -, older⟩ := due.stale
              simp only [needsWrite, found, any_some,
                decide_eq_true older, Bool.true_and, Bool.not_eq_false',
                Bool.and_eq_true] at needed
              simp only [pending.unchanged]
              rw [Handled, if_pos needed.1]
              exact ⟨node, rfl, needed.2, fun _ _ => rfl⟩
          · right
            refine ⟨pending.unchanged, pending.beyond, ?_⟩
            intro _ _ _ _ now
            cases now
            exact Or.inr (Or.inl (List.mem_append_right _ late))
        · right
          refine ⟨pending.unchanged, pending.beyond, ?_⟩
          intro _ _ _ _ now
          cases now
          exact Or.inr (Or.inr behind)
  · cases taken

/-! ## A transaction on the page -/

theorem applied_of_ne {other : K} (different : other ≠ key) (data : BusNode)
    (leading : Bool) (serverNow : ℚ) :
    (sweeper.applied options key data leading serverNow).get other =
      sweeper.tree.get other := by
  rw [Sweeper.applied]
  split
  · rfl
  · exact get_delete_of_ne different
  · exact get_set_of_ne different

theorem applied_aborted
    (aborted : update options sweeper.stopped leading serverNow data
      (sweeper.tree.get key) = .aborted) :
    sweeper.applied options key data leading serverNow = sweeper.tree := by
  rw [Sweeper.applied, aborted]

theorem applied_commit {after : Option BusNode}
    (committed : update options sweeper.stopped leading serverNow data
      (sweeper.tree.get key) = .commit after) :
    (sweeper.applied options key data leading serverNow).get key = after := by
  rw [Sweeper.applied, committed]
  cases after with
  | none => exact OrderedMap.get_delete_self
  | some node => exact OrderedMap.get_set_self

theorem applied_of_handled {before : BusNode}
    (handled : Handled before (sweeper.tree.get key)) (target : K)
    (data : BusNode) (leading : Bool) (serverNow : ℚ) :
    Handled before
      ((sweeper.applied options target data leading serverNow).get key) := by
  by_cases same : key = target
  · subst same
    cases tried : update options sweeper.stopped leading serverNow data
        (sweeper.tree.get key) with
    | aborted =>
      rw [applied_aborted tried]
      exact handled
    | commit after =>
      obtain ⟨gone, absent⟩ := update_of_handled handled tried
      rw [applied_commit tried, gone, ← absent]
      exact handled
  · rw [applied_of_ne same]
    exact handled

variable {children : List (Child K)}

theorem Tidy.wrote (tidy : Tidy options sweeper)
    {batch waiting : List (Child K)} {failed : Bool}
    (writing : sweeper.stage = .writing children batch waiting failed)
    {child : Child K} (member : child ∈ batch) (leading : Bool) (serverNow : ℚ)
    {again : Bool} (tree : after.tree =
        sweeper.applied options child.1 child.2 leading serverNow ∨
      after.tree = sweeper.tree ∧ again = true)
    (stage : after.stage = .writing children
      (batch.filter fun other => other.1 != child.1) waiting again)
    (worse : failed = true → again = true) (refused : again = true ∨
      (fenceRefuses options leading (sweeper.tree.get child.1) = true →
        child.1 ∈ after.refused))
    (more : ∀ key ∈ sweeper.refused, key ∈ after.refused)
    (stopped : after.stopped = sweeper.stopped)
    (cursor : after.cursor = sweeper.cursor)
    (cutoff : after.cutoff = sweeper.cutoff)
    (atStart : after.atStart = sweeper.atStart)
    (atRead : after.atRead = sweeper.atRead)
    (touched : after.touched = sweeper.touched) : Tidy options after := by
  have page := tidy.page children batch waiting failed writing
  have fewer : ((batch.filter fun other => other.1 != child.1) ++
      waiting).Sublist (batch ++ waiting) :=
    List.filter_sublist.append (List.Sublist.refl _)
  constructor
  · intro none
    rw [cutoff] at none
    have idle := (tidy.fresh none).2
    rw [writing] at idle
    cases idle
  · intro _ _ _ _ now
    rw [stage] at now
    cases now
    constructor
    · intro other inside
      exact page.left other (fewer.subset inside)
    · rw [atRead]
      exact page.read
    · exact page.once.sublist (fewer.map Prod.fst)
  · intro limit began key node due
    rw [cutoff] at began
    have before : Due sweeper limit key node := by
      apply due.before atStart _ more
      rw [touched]
      exact fun _ inside => inside
    rw [stopped]
    rcases tidy.progress limit began key node before with
      stop | handled | pending
    · exact Or.inl stop
    · right
      left
      rcases tree with written | ⟨same, -⟩
      · rw [written]
        exact applied_of_handled handled child.1 child.2 leading serverNow
      · rw [same]
        exact handled
    · -- What is left of the page is still ahead of the node.
      have remains : after.tree.get key = some node →
          (again = true ∨ key ≠ child.1 ∨
            (children.length = options.pageSize ∧
              ∀ other ∈ children, position other < position (key, node))) →
          Pending options after key node := by
        intro unchanged kept
        refine ⟨unchanged, ?_, ?_⟩
        · rw [cursor]
          exact pending.beyond
        · intro _ _ _ _ now
          rw [stage] at now
          cases now
          rcases kept with retried | different | behind
          · exact Or.inl retried
          · rcases pending.ahead children batch waiting failed writing with
              repeated | listed | behind
            · exact Or.inl (worse repeated)
            · right
              left
              rcases List.mem_append.mp listed with early | late
              · apply List.mem_append_left
                exact List.mem_filter.mpr ⟨early, bne_iff_ne.mpr different⟩
              · exact List.mem_append_right _ late
            · exact Or.inr (Or.inr behind)
          · exact Or.inr (Or.inr behind)
      rcases tree with written | ⟨same, retried⟩
      · by_cases own : key = child.1
        · subst own
          cases tried : update options sweeper.stopped leading serverNow
              child.2 (sweeper.tree.get child.1) with
          | commit result =>
            right
            left
            rw [written, applied_commit tried]
            rcases update_commit tried with ⟨gone, -⟩ | ⟨found, has, -, done⟩
            · cases gone.symm.trans pending.unchanged
            · cases has.symm.trans pending.unchanged
              exact done
          | aborted =>
            have unchanged : after.tree.get child.1 = some node := by
              rw [written, applied_aborted tried]
              exact pending.unchanged
            rcases pending.ahead children batch waiting failed writing with
              repeated | listed | behind
            · exact Or.inr (Or.inr
                (remains unchanged (Or.inl (worse repeated))))
            · have one : (child.1, node) = child := by
                exact List.inj_on_of_nodup_map page.once listed
                  (List.mem_append_left _ member) rfl
              have data : child.2 = node := (congrArg Prod.snd one).symm
              rw [data, pending.unchanged] at tried
              rcases update_aborted due.scalar tried with
                fence | stop | handled
              · rcases refused with retried | listed
                · exact Or.inr (Or.inr (remains unchanged (Or.inl retried)))
                · rw [pending.unchanged] at listed
                  exact absurd (listed fence) due.unrefused
              · exact Or.inl stop
              · right
                left
                rw [unchanged]
                exact handled
            · exact Or.inr (Or.inr
                (remains unchanged (Or.inr (Or.inr behind))))
        · right
          right
          apply remains
          · rw [written, applied_of_ne own]
            exact pending.unchanged
          · exact Or.inr (Or.inl own)
      · right
        right
        apply remains
        · rw [same]
          exact pending.unchanged
        · exact Or.inl retried

theorem child_of_find {batch : List (Child K)} {child : Child K}
    (found : batch.find? (fun child => child.1 == key) = some child) :
    child ∈ batch ∧ child.1 = key :=
  ⟨List.mem_of_find?_eq_some found, by simpa using List.find?_some found⟩

theorem Tidy.transact (tidy : Tidy options sweeper)
    (taken : sweeper.transact options key leading serverNow = some after) :
    Tidy options after := by
  simp only [Sweeper.transact] at taken
  split at taken
  · rename_i children batch waiting failed writing
    obtain ⟨child, found, same⟩ := map_eq_some_iff.mp taken
    obtain ⟨member, rfl⟩ := child_of_find found
    subst same
    refine tidy.wrote writing member leading serverNow (Or.inl rfl) rfl
      (fun same => same) (Or.inr ?_) ?_ rfl rfl rfl rfl rfl rfl
    · intro fence
      simp only [fence, if_true]
      exact List.mem_append_right _ (List.mem_singleton_self _)
    · intro other inside
      simp only
      split
      · exact List.mem_append_left _ inside
      · exact inside
  · cases taken

theorem Tidy.fail (tidy : Tidy options sweeper) {applied : Bool}
    (taken : sweeper.fail options key applied leading serverNow =
      some after) : Tidy options after := by
  simp only [Sweeper.fail] at taken
  split at taken
  · rename_i children batch waiting failed writing
    obtain ⟨child, found, same⟩ := map_eq_some_iff.mp taken
    obtain ⟨member, rfl⟩ := child_of_find found
    subst same
    refine tidy.wrote writing member leading serverNow ?_ rfl (fun _ => rfl)
      (Or.inl rfl) (fun _ inside => inside) rfl rfl rfl rfl rfl rfl
    · cases applied with
      | true => exact Or.inl rfl
      | false => exact Or.inr ⟨rfl, rfl⟩
  · cases taken

/-! ## The end of a page -/

omit [LinearOrder K] in
theorem cursor_of_last {cursor : ℚ × K}
    (found : (children.getLast?.bind fun last =>
      (timestampOf last.2).map fun timestamp => (timestamp, last.1)) =
        some cursor) : ∃ last ∈ children, position last = toLex cursor := by
  obtain ⟨last, final, placed⟩ := Option.bind_eq_some_iff.mp found
  obtain ⟨timestamp, timed, same⟩ := map_eq_some_iff.mp placed
  refine ⟨last, List.mem_of_getLast? final, ?_⟩
  rw [position, timed, ← same]
  rfl

theorem Pending.behind (pending : Pending options sweeper key node)
    (writing : sweeper.stage = .writing children [] [] false) :
    children.length = options.pageSize ∧
      ∀ other ∈ children, position other < position (key, node) := by
  rcases pending.ahead children [] [] false writing with
    failed | listed | behind
  · cases failed
  · cases listed
  · exact behind

theorem Tidy.finish (tidy : Tidy options sweeper) {now : ℚ}
    (taken : sweeper.finish options now = some after) :
    Tidy options after := by
  simp only [Sweeper.finish] at taken
  split at taken
  · rename_i children waiting failed writing
    split at taken
    · cases taken
      exact tidy.idle rfl rfl rfl rfl rfl rfl rfl rfl
    · rename_i running
      split at taken
      · cases taken
      · rename_i done
        have none_left : waiting = [] := by
          simpa using done
        subst none_left
        split at taken
        · cases taken
          exact tidy.idle rfl rfl rfl rfl rfl rfl rfl rfl
        · rename_i clean
          have succeeded : failed = false := by
            simpa using clean
          subst succeeded
          split at taken
          · split at taken
            · rename_i cursor found
              cases taken
              obtain ⟨last, member, placed⟩ := cursor_of_last found
              constructor
              · intro none
                have idle := (tidy.fresh none).2
                cases idle.symm.trans writing
              · intro _ _ _ _ now
                cases now
              · intro limit began key node due
                refine tidy.goesOn began due rfl (fun _ => id) (fun _ => id)
                  id rfl ?_
                intro pending
                refine Or.inr ⟨pending.unchanged, ?_, ?_⟩
                · intro other same
                  cases same
                  rw [← placed]
                  exact (pending.behind writing).2 last member
                · intro _ _ _ _ now
                  cases now
            · cases taken
              exact tidy.idle rfl rfl rfl rfl rfl rfl rfl rfl
          · cases taken
            constructor
            · intro _
              exact ⟨rfl, rfl⟩
            · intro _ _ _ _ now
              cases now
            · intro limit began
              cases began
  · cases taken

theorem Tidy.write (tidy : Tidy options sweeper) (key : K)
    (node : Option BusNode) : Tidy options (sweeper.write key node) := by
  constructor
  · exact tidy.fresh
  · intro children batch waiting failed writing
    have page := tidy.page children batch waiting failed writing
    exact
      { left := page.left
        read := page.read
        once := page.once }
  · intro limit began other before due
    have apart : other ≠ key := by
      intro same
      apply due.untouched
      rw [same]
      exact List.mem_append_right _ (List.mem_singleton_self key)
    have same : (sweeper.write key node).tree.get other =
        sweeper.tree.get other := by
      cases node with
      | none => exact get_delete_of_ne apart
      | some value => exact get_set_of_ne apart
    refine tidy.goesOn began due rfl (fun _ => List.mem_append_left _)
      (fun _ => id) id same ?_
    intro pending
    exact Or.inr
      { unchanged := same.trans pending.unchanged
        beyond := pending.beyond
        ahead := pending.ahead }

theorem Tidy.step (tidy : Tidy options sweeper) {label : SweepLabel K}
    {after : Sweeper K}
    (taken : Sweeper.step options sweeper label = some after) :
    Tidy options after := by
  cases label with
  | tick readings leading =>
    cases taken
    exact tidy.tick readings leading
  | page => exact tidy.pageArrives taken
  | pageFails now =>
    simp only [Sweeper.step, Sweeper.pageFails] at taken
    split at taken
    · cases taken
      exact tidy.idle rfl rfl rfl rfl rfl rfl rfl rfl
    · cases taken
  | batch => exact tidy.nextBatch taken
  | transact key leading serverNow => exact tidy.transact taken
  | fail key applied leading serverNow => exact tidy.fail taken
  | finish now => exact tidy.finish taken
  | write key node =>
    cases taken
    exact tidy.write key node
  | stop =>
    cases taken
    exact tidy.between rfl (fun _ => rfl) rfl rfl rfl rfl rfl
      (fun idle _ => idle) (fun _ _ _ _ writing => ⟨writing, rfl⟩)

/-! ## Whole runs -/

structure Swept (options : SweepOptions) (sweeper : Sweeper K) : Prop where
  /-- When a cycle ends, it has handled every node that was stale at its start,
  that nobody else wrote and that the fence did not refuse. -/
  complete : ∀ label after cutoff,
    Sweeper.step options sweeper label = some after →
    sweeper.cutoff = some cutoff → after.cutoff = none →
    ∀ key node, sweeper.atStart.get key = some node → Stale cutoff node →
    Scalar node → key ∉ sweeper.touched → key ∉ sweeper.refused →
    Handled node (after.tree.get key)
  /-- The sweeper changes a node only if its identity is what it was when the
  page was read. -/
  safe : ∀ label after key, Sweeper.step options sweeper label = some after →
    (∀ node, label ≠ .write key node) →
    after.tree.get key ≠ sweeper.tree.get key →
    ∃ read found, sweeper.atRead.get key = some read ∧
      sweeper.tree.get key = some found ∧ SameIdentity found read

/-- What a step changes of the nodes, and when a cycle ends. -/
structure Does (options : SweepOptions) (sweeper : Sweeper K)
    (label : SweepLabel K) (after : Sweeper K) : Prop where
  tree : after.tree = sweeper.tree ∨
    (∃ key node, label = .write key node ∧
      after.tree = (sweeper.write key node).tree) ∨
    ∃ children batch waiting failed child leading serverNow,
      sweeper.stage = .writing children batch waiting failed ∧
        child ∈ batch ∧ after.tree =
          sweeper.applied options child.1 child.2 leading serverNow
  cutoff : after.cutoff = sweeper.cutoff ∨ sweeper.cutoff = none ∨
    sweeper.stopped ≠ true ∧ after.tree = sweeper.tree ∧
      ∃ children, sweeper.stage = .writing children [] [] false ∧
        children.length ≠ options.pageSize

/-- A step that goes on with the cycle and writes no node. -/
theorem Does.of_eq {label : SweepLabel K} (tree : after.tree = sweeper.tree)
    (cutoff : after.cutoff = sweeper.cutoff) :
    Does options sweeper label after :=
  ⟨.inl tree, .inl cutoff⟩

theorem does_finish {now : ℚ}
    (taken : sweeper.finish options now = some after) :
    Does options sweeper (.finish now) after := by
  simp only [Sweeper.finish] at taken
  split at taken
  · rename_i children waiting failed writing
    split at taken
    · cases taken
      exact .of_eq rfl rfl
    · rename_i running
      split at taken
      · cases taken
      · rename_i done
        have none_left : waiting = [] := by
          simpa using done
        subst none_left
        split at taken
        · cases taken
          exact .of_eq rfl rfl
        · rename_i clean
          have succeeded : failed = false := by
            simpa using clean
          subst succeeded
          split at taken
          · split at taken <;> cases taken <;> exact .of_eq rfl rfl
          · rename_i short
            cases taken
            exact ⟨.inl rfl,
              .inr (.inr ⟨running, rfl, children, writing, short⟩)⟩
  · cases taken

theorem does_of_step {label : SweepLabel K}
    (taken : Sweeper.step options sweeper label = some after) :
    Does options sweeper label after := by
  cases label with
  | tick readings leading =>
    cases taken
    simp only [Sweeper.tick]
    split
    · exact .of_eq rfl rfl
    · split
      · exact .of_eq rfl rfl
      · split
        · exact .of_eq rfl rfl
        · rename_i fresh
          exact ⟨.inl rfl, .inr (.inl fresh)⟩
  | page =>
    simp only [Sweeper.step, Sweeper.page] at taken
    split at taken
    · split at taken <;> cases taken <;> exact .of_eq rfl rfl
    · cases taken
  | pageFails now =>
    simp only [Sweeper.step, Sweeper.pageFails] at taken
    split at taken
    · cases taken
      exact .of_eq rfl rfl
    · cases taken
  | batch =>
    simp only [Sweeper.step, Sweeper.batch] at taken
    split at taken
    · split at taken
      · cases taken
      · cases taken
        exact .of_eq rfl rfl
    · cases taken
  | transact key leading serverNow =>
    simp only [Sweeper.step, Sweeper.transact] at taken
    split at taken
    · rename_i writing
      obtain ⟨child, found, rfl⟩ := map_eq_some_iff.mp taken
      have keyed : child.1 = key := by
        simpa using List.find?_some found
      subst keyed
      exact ⟨.inr (.inr ⟨_, _, _, _, child, leading, serverNow, writing,
        List.mem_of_find?_eq_some found, rfl⟩), .inl rfl⟩
    · cases taken
  | fail key applied leading serverNow =>
    simp only [Sweeper.step, Sweeper.fail] at taken
    split at taken
    · rename_i writing
      obtain ⟨child, found, rfl⟩ := map_eq_some_iff.mp taken
      have keyed : child.1 = key := by
        simpa using List.find?_some found
      subst keyed
      cases applied with
      | false => exact .of_eq rfl rfl
      | true =>
        exact ⟨.inr (.inr ⟨_, _, _, _, child, leading, serverNow, writing,
          List.mem_of_find?_eq_some found, rfl⟩), .inl rfl⟩
    · cases taken
  | finish now => exact does_finish taken
  | write key node =>
    cases taken
    exact ⟨.inr (.inl ⟨key, node, rfl, rfl⟩), .inl rfl⟩
  | stop =>
    cases taken
    exact .of_eq rfl rfl

theorem Tidy.complete (tidy : Tidy options sweeper) {label : SweepLabel K}
    {after : Sweeper K} {cutoff : ℚ}
    (taken : Sweeper.step options sweeper label = some after)
    (began : sweeper.cutoff = some cutoff) (ended : after.cutoff = none)
    {key : K} {node : BusNode} (due : Due sweeper cutoff key node) :
    Handled node (after.tree.get key) := by
  rcases (does_of_step taken).cutoff with
    same | none | ⟨running, same, children, writing, short⟩
  · cases (same.trans began).symm.trans ended
  · cases began.symm.trans none
  · rw [same]
    rcases tidy.progress cutoff began key node due with
      stop | handled | pending
    · exact absurd stop running
    · exact handled
    · exact absurd (pending.behind writing).1 short

theorem applied_changes {batch waiting : List (Child K)}
    (page : PageRead sweeper children batch waiting) {child : Child K}
    (member : child ∈ batch)
    (changed : (sweeper.applied options child.1 child.2 leading serverNow).get
      key ≠ sweeper.tree.get key) :
    ∃ read found, sweeper.atRead.get key = some read ∧
      sweeper.tree.get key = some found ∧ SameIdentity found read := by
  have own : key = child.1 := by
    by_contra different
    exact changed (applied_of_ne different child.2 leading serverNow)
  subst own
  have read := page.read child (page.left child
    (List.mem_append_left _ member))
  cases tried : update options sweeper.stopped leading serverNow child.2
      (sweeper.tree.get child.1) with
  | aborted => exact absurd (by rw [applied_aborted tried]) changed
  | commit after =>
    rcases update_commit tried with ⟨absent, gone⟩ | ⟨found, has, same, -⟩
    · rw [applied_commit tried, gone, absent] at changed
      exact absurd rfl changed
    · exact ⟨child.2, found, read, has, same⟩

theorem Tidy.safe (tidy : Tidy options sweeper) {label : SweepLabel K}
    (taken : Sweeper.step options sweeper label = some after)
    (others : ∀ node, label ≠ .write key node)
    (changed : after.tree.get key ≠ sweeper.tree.get key) :
    ∃ read found, sweeper.atRead.get key = some read ∧
      sweeper.tree.get key = some found ∧ SameIdentity found read := by
  rcases (does_of_step taken).tree with same | ⟨other, node, own, same⟩ |
    ⟨children, batch, waiting, failed, child, leading, serverNow, writing,
      member, same⟩
  · exact absurd (by rw [same]) changed
  · have apart : key ≠ other := by
      rintro rfl
      exact others node own
    rw [same] at changed
    cases node with
    | none => exact absurd (get_delete_of_ne apart) changed
    | some value => exact absurd (get_set_of_ne apart) changed
  · rw [same] at changed
    exact applied_changes (tidy.page children batch waiting failed writing)
      member changed

/-- A sweep is complete and safe, whatever others write and whatever fails. -/
theorem swept_of_steps {tree : OrderedMap K BusNode}
    (steps : System.Steps (Sweeper.step options) (fun _ _ => True)
      (.new tree) sweeper) : Swept options sweeper := by
  have tidy : Tidy options sweeper := by
    apply System.Steps.invariant steps (tidy_new options tree)
    intro state label next tidy _ taken
    exact tidy.step taken
  constructor
  · intro label after cutoff taken began ended key node atStart stale scalar
      untouched unrefused
    exact tidy.complete taken began ended
      { atStart
        stale
        scalar
        untouched
        unrefused }
  · intro label after key taken others changed
    exact tidy.safe taken others changed

/-- Two pages: the first is read again after a failure, and others keep a node
alive while the cycle runs. -/
theorem swept_of_failed_page :
    ∃ (options : SweepOptions) (sweeper : Sweeper Nat),
      Swept options sweeper ∧ sweeper.cycles = 1 ∧ sweeper.touched = [3] ∧
        (sweeper.tree.get 1).any isOffline = true ∧
        sweeper.tree.get 2 = none ∧ (sweeper.tree.get 3).isSome = true := by
  let options : SweepOptions :=
    { staleMs := 1000
      staleMs_pos := by decide +kernel
      pageSize := 2
      pageSize_pos := by decide
      writeConcurrency := 4
      writeConcurrency_pos := by decide
      generation := some 9
      numberOf := fun _ => none }
  let node (timestamp : ℚ) (status : String) : BusNode := fun field =>
    if field = "timestamp" then some (.number timestamp)
    else if field = "status" then some (.string status)
    else if field = "tripState" then some (.string "in_service")
    else none
  let tree : OrderedMap Nat BusNode :=
    ((OrderedMap.empty.set 1 (node 5 "active")).set 2 (node 6 "ended")).set 3
      (node 7 "ended")
  let readings (now : ℚ) : Readings :=
    { attemptWait := now
      sweepWait := now
      attempt := now
      sweep := now
      start := now
      retry := now }
  have decided :
      (System.run (Sweeper.step options) (fun _ _ => true)
        (Sweeper.new tree)
        [.tick (readings 5000) true, .page, .batch, .transact 2 true 5001,
          .fail 1 false true 5001, .finish 5002, .tick (readings 6002) true,
          .page, .batch, .transact 1 true 6003, .write 3 (node 6003 "ended"),
          .transact 3 true 6004, .finish 6005, .tick (readings 6006) true,
          .page, .batch, .finish 6007]).any
        (fun sweeper =>
          sweeper.cycles = 1 && sweeper.touched = [3] &&
            (sweeper.tree.get 1).any isOffline &&
            (sweeper.tree.get 2).isNone && (sweeper.tree.get 3).isSome) =
        true := by
    decide +kernel
  obtain ⟨sweeper, steps, ended⟩ := System.exists_of_run decided
  simp only [Bool.and_eq_true, decide_eq_true_eq,
    Option.isNone_iff_eq_none] at ended
  obtain ⟨⟨⟨⟨cycles, touched⟩, offline⟩, gone⟩, alive⟩ := ended
  refine ⟨options, sweeper, ?_, cycles, touched, offline, gone, alive⟩
  exact swept_of_steps (steps.mono fun _ _ _ => trivial)

/-- A cycle may end with old nodes left as they were, though nobody wrote
them: the fence refuses a node of a newer worker, the query does not find a
negative timestamp, and an object never compares equal. -/
theorem unhandled_after_cycle :
    ∃ (options : SweepOptions) (tree : OrderedMap Nat BusNode)
      (sweeper after : Sweeper Nat) (label : SweepLabel Nat) (cutoff : ℚ),
      System.Steps (Sweeper.step options) (fun _ _ => True) (.new tree)
        sweeper ∧
        Sweeper.step options sweeper label = some after ∧
        sweeper.cutoff = some cutoff ∧ after.cutoff = none ∧
        sweeper.touched = [] ∧
        ∀ key ∈ [1, 2, 3], ∃ node timestamp,
          sweeper.atStart.get key = some node ∧
            timestampOf node = some timestamp ∧ timestamp < cutoff ∧
            ¬ Handled node (after.tree.get key) := by
  let options : SweepOptions :=
    { staleMs := 1000
      staleMs_pos := by decide +kernel
      pageSize := 4
      pageSize_pos := by decide
      writeConcurrency := 4
      writeConcurrency_pos := by decide
      generation := some 9
      numberOf := fun _ => none }
  let node (timestamp : ℚ) (name : String) (value : Value) : BusNode :=
    fun field =>
      if field = "timestamp" then some (.number timestamp)
      else if field = name then some value
      else none
  let tree : OrderedMap Nat BusNode :=
    ((OrderedMap.empty.set 1 (node 5 "_workerGeneration" (.number 10))).set 2
      (node (-5) "seq" (.number 1))).set 3 (node 7 "seq" .object)
  let readings : Readings :=
    { attemptWait := 5000
      sweepWait := 5000
      attempt := 5000
      sweep := 5000
      start := 5000
      retry := 5000 }
  have decided :
      (System.run (Sweeper.step options) (fun _ _ => true)
        (Sweeper.new tree)
        [.tick readings true, .page, .batch, .transact 1 true 5001,
          .transact 3 true 5001]).any
        (fun sweeper =>
          ((Sweeper.step options sweeper (.finish 5002)).any fun after =>
            after.cutoff.isNone && [1, 2, 3].all fun key =>
              (after.tree.get key).isSome) &&
            sweeper.cutoff = some 4000 && sweeper.touched = [] &&
            [1, 2, 3].all fun key =>
              (sweeper.atStart.get key).any fun node =>
                !isActive node && (timestampOf node).any fun timestamp =>
                  decide (timestamp < 4000)) = true := by
    decide +kernel
  obtain ⟨sweeper, steps, ended⟩ := System.exists_of_run decided
  simp only [Bool.and_eq_true, decide_eq_true_eq] at ended
  obtain ⟨⟨⟨finished, began⟩, touched⟩, old⟩ := ended
  obtain ⟨after, taken, left⟩ := (any_eq_true _ _).mp finished
  simp only [Bool.and_eq_true, Option.isNone_iff_eq_none] at left
  refine ⟨options, tree, sweeper, after, .finish 5002, 4000,
    steps.mono (fun _ _ _ => trivial), taken, began, left.1, touched, ?_⟩
  intro key member
  obtain ⟨found, stored, inactive⟩ := (any_eq_true _ _).mp
    (List.all_eq_true.mp old key member)
  simp only [Bool.and_eq_true, Bool.not_eq_true'] at inactive
  obtain ⟨timestamp, timed, older⟩ := (any_eq_true _ _).mp inactive.2
  refine ⟨found, timestamp, stored, timed, of_decide_eq_true older, ?_⟩
  rw [Handled, if_neg (Bool.eq_false_iff.mp inactive.1)]
  intro gone
  have stays := List.all_eq_true.mp left.2 key member
  rw [gone] at stays
  cases stays

end Eki.Sweep
