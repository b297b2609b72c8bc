import Eki.Privacy.Handlers
import Eki.Privacy.SafeDeletion

/-!
# What a deletion leaves behind

A profile that was removed stays away while its request fences new ones off,
and after that only where no account is created for.  Its rate limits stay away
where none was left at the removal and each message finds a profile.
-/

namespace Eki.Privacy

open Transition

namespace Deletions

theorem removed_of_requestRemoved {history : List Event} {run : Nat}
    (lawful : recorded.Lawful history)
    (member : .requestRemoved run ∈ history) :
    ∃ removal, .removed run removal ∈ history := by
  obtain ⟨later, earlier, rfl⟩ := List.append_of_mem member
  have gone : .accountGone run ∈ earlier := justified_of_lawful lawful rfl
  obtain ⟨between, before, rfl⟩ := List.append_of_mem gone
  have dispatched : .dispatched run ∈ before := by
    have lawful := (Journal.Machine.Lawful.earlier lawful).2
    exact justified_of_lawful lawful rfl
  obtain ⟨since, first, rfl⟩ := List.append_of_mem dispatched
  have removed : ∃ removal, .removed run removal ∈ first := by
    have lawful := (Journal.Machine.Lawful.earlier
      (Journal.Machine.Lawful.earlier lawful).2).2
    exact justified_of_lawful lawful rfl
  obtain ⟨removal, there⟩ := removed
  refine ⟨removal, ?_⟩
  simp [there]

end Deletions

namespace Account

/-- Nothing is stored of the account. -/
def isBare (account : Account) : Prop :=
  account.profile = none ∧ account.cooldown = none ∧ account.rateLimits = []

theorem isBare_withoutUser {account : Account} (bare : account.isBare) :
    account.withoutUser.isBare := bare

end Account

namespace AccountRequests

def removesProfile (state : AccountRequests) (replica : Nat) : Bool :=
  (state.deletions.executions replica).any fun execution =>
    execution.current replica state.deletions.stored

def leavesNothing (state : AccountRequests) : RequestLabel → Bool
  | .deletion (.work replica (.remove _)) =>
    !state.removesProfile replica || state.account.rateLimits.isEmpty
  | .commit n allowed _ _ =>
    match state.handlers[n]? with
    | some (.bootstrap (some disabled)) =>
      !state.createsProfile disabled || state.account.user.isSome
    | some (.message token message) =>
      !state.storesMessage token message allowed ||
        state.account.profile.isSome
    | _ => true
  | _ => true

theorem deletions_of_step {state next : AccountRequests}
    {label : RequestLabel} (taken : step state label = some next) :
    next.deletions = state.deletions ∨
      ∃ inner, state.deletions.withAccount inner = some next.deletions := by
  have changed : ∀ account : Account,
      state.deletions.withAccount (.inr account) =
        some (state.deletions.setAccount account) := by
    intro account
    rfl
  cases label with
  | deletion label =>
    obtain ⟨deletions, moved, leads⟩ := Option.map_eq_some_iff.mp taken
    cases leads
    exact .inr ⟨.inl label, moved⟩
  | arrive | readAccount =>
    simp only [step] at taken
    split at taken <;> cases taken
    exact .inl rfl
  | commit n allowed now delivery =>
    obtain ⟨written, found, leads⟩ := Option.map_eq_some_iff.mp taken
    obtain ⟨handler, -, commits⟩ := Option.bind_eq_some_iff.mp found
    cases leads
    cases handler with
    | bootstrap disabled =>
      cases disabled <;> cases commits
      unfold bootstrap
      split
      · exact .inr ⟨_, changed _⟩
      · exact .inl rfl
    | message token message =>
      cases commits
      unfold sendMessage
      split
      · exact .inr ⟨_, changed _⟩
      · exact .inl rfl
    | join sessionId =>
      cases commits
      unfold joinSession
      split
      · exact .inl rfl
      · split
        · exact .inl rfl
        · exact .inl rfl
    | feedback id =>
      cases commits
      unfold submitFeedback
      split
      · exact .inr ⟨_, changed _⟩
      · exact .inl rfl
  | drop | ride =>
    cases taken
    exact .inl rfl
  | accountLost =>
    cases taken
    exact .inr ⟨_, changed _⟩

/-- The profile was removed once and for all. -/
structure Gone (state : AccountRequests) : Prop where
  bare : state.account.isBare
  /-- A new profile is fenced off by the request, or has no account. -/
  fenced : state.deletions.stored.request.isSome ∨ state.account.user = none

structure Clean (state : AccountRequests) : Prop where
  sound : state.deletions.Sound
  /-- Past its deletion an account stays away. -/
  user : ∀ replica execution,
    state.deletions.executions replica = some execution →
    execution.stage.afterVanish = true → state.account.user = none
  gone : ∀ run removal, .removed run removal ∈ state.deletions.history →
    Gone state

variable {state next : AccountRequests} {label : RequestLabel}

theorem clean_start {account : Account}
    (begins : state.deletions = .start account) : Clean state := by
  constructor
  · rw [begins]
    exact Deletions.sound_start account
  · intro replica execution running
    rw [begins] at running
    cases running
  · intro run removal member
    rw [begins] at member
    cases member

theorem Clean.of_account (clean : Clean state)
    (sound : next.deletions.Sound)
    (history : next.deletions.history = state.deletions.history)
    (executions : ∀ replica execution,
      next.deletions.executions replica = some execution →
      state.deletions.executions replica = some execution ∨
        execution.stage.afterVanish = false)
    (request : state.deletions.stored.request.isSome →
      next.deletions.stored.request.isSome)
    (user : state.account.user = none → next.account.user = none)
    (bare : Gone state → next.account.isBare) : Clean next := by
  constructor
  · exact sound
  · intro replica execution running past
    rcases executions replica execution running with old | other
    · exact user (clean.user replica execution old past)
    · rw [other] at past
      cases past
  · intro run removal member
    rw [history] at member
    have gone := clean.gone run removal member
    constructor
    · exact bare gone
    · rcases gone.fenced with fenced | away
      · exact .inl (request fenced)
      · exact .inr (user away)

variable {n now : Nat} {allowed : Bool} {delivery : Http.Delivery}

theorem account_of_commit {written : AccountRequests} {handler : Handler}
    (handles : state.handlers[n]? = some handler)
    (meets : state.leavesNothing (.commit n allowed now delivery) = true)
    (commits : state.commit allowed now handler = some written) :
    written.deletions = state.deletions ∨
      (¬ Gone state ∧
        written.deletions = state.deletions.setAccount written.account ∧
          written.account.user = state.account.user) := by
  simp only [leavesNothing, handles] at meets
  cases handler with
  | bootstrap disabled =>
    cases disabled <;> cases commits
    rename_i disabled
    by_cases creates : state.createsProfile disabled = true
    · right
      rw [bootstrap, if_pos creates]
      refine ⟨?_, rfl, rfl⟩
      intro gone
      have stands : state.account.user.isSome := by
        simpa [creates] using meets
      simp only [createsProfile, Bool.and_eq_true, Bool.not_eq_true',
        Option.isNone_iff_eq_none] at creates
      rcases gone.fenced with fenced | away
      · rw [creates.1.2] at fenced
        cases fenced
      · rw [away] at stands
        cases stands
    · exact .inl (by rw [bootstrap, if_neg creates])
  | message token message =>
    cases commits
    by_cases stores : state.storesMessage token message allowed = true
    · right
      rw [sendMessage, if_pos stores]
      refine ⟨?_, rfl, rfl⟩
      intro gone
      have stands : state.account.profile.isSome := by
        simpa [stores] using meets
      rw [gone.bare.1] at stands
      cases stands
    · exact .inl (by rw [sendMessage, if_neg stores])
  | join sessionId =>
    cases commits
    left
    unfold joinSession
    split
    · rfl
    · split <;> rfl
  | feedback id =>
    cases commits
    by_cases present : (state.account.profile.isSome &&
        !state.feedbacks.contains id && allowed) = true
    · right
      rw [submitFeedback, if_pos present]
      refine ⟨?_, rfl, rfl⟩
      intro gone
      simp only [Bool.and_eq_true] at present
      have stands := present.1.1
      rw [gone.bare.1] at stands
      cases stands
    · exact .inl (by rw [submitFeedback, if_neg present])

theorem Clean.of_same (clean : Clean state)
    (same : next.deletions = state.deletions) : Clean next := by
  have account : next.account = state.account := by
    rw [AccountRequests.account, same]
    rfl
  apply clean.of_account
  · rw [same]
    exact clean.sound
  · rw [same]
  · intro replica execution running
    rw [same] at running
    exact .inl running
  · rw [same]
    exact id
  · rw [account]
    exact id
  · intro gone
    rw [account]
    exact gone.bare

theorem Clean.commit (clean : Clean state) (sound : next.deletions.Sound)
    (meets : state.leavesNothing (.commit n allowed now delivery) = true)
    (taken : step state (.commit n allowed now delivery) = some next) :
    Clean next := by
  obtain ⟨written, found, leads⟩ := Option.map_eq_some_iff.mp taken
  obtain ⟨handler, handles, commits⟩ := Option.bind_eq_some_iff.mp found
  have kept : next.deletions = written.deletions := by rw [← leads]
  rcases account_of_commit handles meets commits with
    same | ⟨present, same, user⟩
  · exact clean.of_same (kept.trans same)
  · have changed := kept.trans same
    apply clean.of_account sound
    · rw [changed]
      rfl
    · intro replica execution running
      rw [changed] at running
      exact .inl running
    · rw [changed]
      exact id
    · intro away
      rw [AccountRequests.account, changed]
      exact user.trans away
    · intro gone
      exact absurd gone present

variable {execution : Execution} {replica : Nat} {outcome : Outcome}

variable {action : Action}

theorem remove_of_removing {stored : Stored} {reads : IdentityReads}
    {current : Option String}
    (removing : execution.stage = .removing reads current)
    (records : outcome.events ≠ [])
    (acted : execution.act replica stored action = some outcome) :
    ∃ delivery, action = .remove delivery := by
  obtain ⟨run, generation, stage⟩ := execution
  cases removing
  cases action with
  | remove delivery => exact ⟨delivery, rfl⟩
  | stop error =>
    cases acted
    exact absurd rfl records
  | _ => cases acted

structure KeepsGone (state : AccountRequests) (outcome : Outcome) : Prop where
  away : state.account.user = none → outcome.stored.account.user = none
  vanished : ∀ after ∈ outcome.execution, after.stage.afterVanish = true →
    outcome.stored.account.user = none
  bare : state.account.isBare → outcome.stored.account.isBare
  fenced : state.deletions.stored.request.isSome →
    outcome.stored.request.isSome ∨ outcome.stored.account.user = none
  removed : ∀ run removal, .removed run removal ∈ outcome.events →
    outcome.stored.account.isBare ∧ outcome.stored.request.isSome

theorem keepsGone_of_account (vanished : execution.stage.afterVanish = true →
      state.account.user = none)
    (account : outcome.stored.account = state.account ∨
      ∃ page, outcome.stored.account = state.account.withoutRateLimits page)
    (request : state.deletions.stored.request.isSome →
      outcome.stored.request.isSome)
    (events : ∀ run removal, .removed run removal ∉ outcome.events)
    (goes : ∀ after ∈ outcome.execution,
      after.stage.afterVanish = true → execution.stage.afterVanish = true) :
    KeepsGone state outcome := by
  have user : outcome.stored.account.user = state.account.user := by
    rcases account with same | ⟨page, without⟩
    · rw [same]
    · rw [without]
      rfl
  constructor
  · exact user.trans
  · intro after member past
    exact user.trans (vanished (goes after member past))
  · intro bare
    rcases account with same | ⟨page, without⟩
    · rw [same]
      exact bare
    · rw [without]
      refine ⟨bare.1, bare.2.1, ?_⟩
      simp [Account.withoutRateLimits, bare.2.2]
  · intro stands
    exact .inl (request stands)
  · intro run removal member
    exact absurd member (events run removal)

theorem afterVanish_of_goesOn {after : Execution}
    (goes : execution.GoesOn after) (past : after.stage.afterVanish = true) :
    execution.stage.afterVanish = true := by
  rcases goes.stage with same | ⟨plain, -⟩
  · rw [← same]
    exact past
  · rw [(Stage.plain_iff.mp plain).2.1] at past
    cases past

theorem keepsGone_of_acts (clean : Clean state)
    (running : state.deletions.executions replica = some execution)
    (meets : state.leavesNothing (.deletion (.work replica action)) = true)
    (acted : execution.act replica state.deletions.stored action =
      some outcome) : KeepsGone state outcome := by
  have vanished := clean.user replica execution running
  cases Execution.acts_of_act acted with
  | rests request account events goes =>
    apply keepsGone_of_account vanished (.inl account)
    · rw [request]
      exact id
    · simp [events]
    · intro after member
      exact afterVanish_of_goesOn (goes after member)
  | claims starting found pending request account events goes =>
    apply keepsGone_of_account vanished (.inl account)
    · simp [request]
    · simp [events]
    · intro after member past
      rcases goes after member with stayed | ⟨-, locking⟩
      · exact afterVanish_of_goesOn stayed past
      · rw [locking] at past
        cases past
  | checks same events identified goes
  | dispatches dispatching same events goes =>
    apply keepsGone_of_account vanished (.inl (by rw [same]; rfl))
    · rw [same]
      exact id
    · simp [events]
    · intro after member past
      rw [goes] at member
      cases member
      cases past
  | writes claimed found owned request generation target executor account
      events goes =>
      apply keepsGone_of_account vanished account
      · simp [request]
      · simp [events]
      · intro after member
        exact afterVanish_of_goesOn (goes after member)
  | removes removing found owned unchanged request account events goes =>
    obtain ⟨delivery, same⟩ := remove_of_removing removing
      (by simp [events]) acted
    subst same
    have empty : state.account.rateLimits = [] := by
      simpa [leavesNothing, removesProfile, running, Execution.current,
        found, owned] using meets
    have user : outcome.stored.account.user = state.account.user := by
      rw [account]
      rfl
    have bare : outcome.stored.account.isBare := by
      rw [account]
      exact ⟨rfl, rfl, empty⟩
    constructor
    · exact user.trans
    · intro after member past
      rcases goes after member with moved | stayed
      · rw [moved] at past
        cases past
      · exact user.trans (vanished (afterVanish_of_goesOn stayed past))
    · intro _
      exact bare
    · simp [request]
    · intro run removal member
      exact ⟨bare, by simp [request]⟩
  | vanishes deleting request account events goes =>
    have user : outcome.stored.account.user = none := by
      rw [account]
      rfl
    constructor
    · intro _
      exact user
    · intro after member past
      exact user
    · rw [account]
      exact Account.isBare_withoutUser
    · intro _
      exact .inr user
    · simp [events]
  | settles gone same events goes =>
    apply keepsGone_of_account vanished (.inl (by rw [same]; rfl))
    · rw [same]
      exact id
    · simp [events]
    · intro after member past
      rw [gone]
      rfl
  | finishes finishing found owned request account events goes =>
    have away := vanished (by rw [finishing]; rfl)
    have user : outcome.stored.account.user = none := by
      rw [account]
      exact away
    constructor
    · intro _
      exact user
    · intro after member past
      exact user
    · rw [account]
      exact id
    · intro _
      exact .inr user
    · simp [events]

theorem Clean.settle (clean : Clean state)
    (sound : (state.deletions.settle replica execution outcome).Sound)
    (keeps : KeepsGone state outcome) :
    Clean
      { state with
        deletions := state.deletions.settle replica execution outcome } := by
  constructor
  · exact sound
  · intro other after stands past
    simp only [Deletions.settle, Function.update_apply] at stands
    split at stands
    · exact keeps.vanished after stands past
    · exact keeps.away (clean.user other after stands past)
  · intro run removal member
    rcases List.mem_append.mp member with new | old
    · obtain ⟨bare, stands⟩ := keeps.removed run removal new
      exact ⟨bare, .inl stands⟩
    · have gone := clean.gone run removal old
      constructor
      · exact keeps.bare gone.bare
      · rcases gone.fenced with fenced | away
        · exact keeps.fenced fenced
        · exact .inr (keeps.away away)

/-- An account that stays bare, with its request, keeps everything gone. -/
theorem Clean.deletion (clean : Clean state) {label : Label}
    {deletions : Deletions}
    (meets : state.leavesNothing (.deletion label) = true)
    (taken : state.deletions.step label = some deletions) :
    Clean { state with deletions } := by
  have moved : state.deletions.withAccount (.inl label) = some deletions :=
    taken
  have sound : deletions.Sound := clean.sound.step moved
  cases Deletions.moves_of_step moved with
  | still request account history runs executions =>
    have away : state.account.user = none →
        deletions.stored.account.user = none := by
      intro away
      rcases account label rfl with same | without
      · rw [same]
        exact away
      · rw [without]
        rfl
    apply clean.of_account
    · exact sound
    · exact history
    · intro replica execution running
      rcases executions replica execution running with old | ⟨starting, -⟩
      · exact .inl old
      · right
        rw [starting]
        rfl
    · rw [request]
      exact id
    · exact away
    · intro gone
      rcases account label rfl with same | without
      · have kept := gone.bare
        rw [AccountRequests.account, ← same] at kept
        exact kept
      · have kept := Account.isBare_withoutUser gone.bare
        rw [AccountRequests.account, ← without] at kept
        exact kept
  | submits identified =>
    apply clean.of_account
    · exact sound
    · rfl
    · intro replica execution running
      exact .inl running
    · intro stands
      obtain ⟨data, found⟩ := Option.isSome_iff_exists.mp stands
      simp [Deletions.submit, Deletions.setRequest, found]
    · exact id
    · intro gone
      exact gone.bare
  | recovers found recovers =>
    apply clean.of_account
    · exact sound
    · rfl
    · intro replica execution running
      exact .inl running
    · intro _
      rfl
    · exact id
    · intro gone
      exact gone.bare
  | works running acted =>
    exact clean.settle sound (keepsGone_of_acts clean running meets acted)

theorem Clean.step (clean : Clean state)
    (meets : state.leavesNothing label = true)
    (taken : AccountRequests.step state label = some next) : Clean next := by
  have sound : next.deletions.Sound := by
    rcases deletions_of_step taken with same | ⟨inner, moved⟩
    · rw [same]
      exact clean.sound
    · exact clean.sound.step moved
  cases label with
  | deletion label =>
    obtain ⟨deletions, moved, leads⟩ := Option.map_eq_some_iff.mp taken
    cases leads
    exact clean.deletion meets moved
  | arrive | readAccount =>
    simp only [AccountRequests.step] at taken
    split at taken <;> cases taken
    exact clean.of_same rfl
  | commit n allowed now delivery => exact clean.commit sound meets taken
  | drop | ride =>
    cases taken
    exact clean.of_same rfl
  | accountLost =>
    cases taken
    apply clean.of_account
    · exact sound
    · rfl
    · intro replica execution running
      exact .inl running
    · exact id
    · intro _
      rfl
    · intro gone
      exact Account.isBare_withoutUser gone.bare

/-- Once the request is removed, nothing is left of the account. -/
theorem deletion_leaves_nothing {first last : AccountRequests}
    {account : Account} {run : Nat}
    (begins : first.deletions = .start account)
    (reached : AccountRequests.step.Steps
      (fun state label => state.leavesNothing label = true) first last)
    (removed : .requestRemoved run ∈ last.deletions.history) :
    last.account.isBare := by
  have clean : Clean last := by
    apply reached.invariant (clean_start begins)
    intro before label after clean meets taken
    exact clean.step meets taken
  obtain ⟨removal, member⟩ :=
    Deletions.removed_of_requestRemoved clean.sound.lawful removed
  exact (clean.gone run removal member).bare

/-! ## A chat message in time, and a bootstrap that comes late -/

def smallRequests : AccountRequests where
  deletions := .start Deletions.smallAccount
  handlers := []
  sessions := fun _ =>
    some
      { chatOpen := true
        boarding := true
        driverId := "driver"
        busId := "bus"
        passenger := true }
  messages := []
  feedbacks := []

def wholeDeletion : List RequestLabel :=
  ((Deletions.smallCleaning ++ Deletions.smallRemoval ++
    Deletions.smallEnd).filterMap Sum.getLeft?).map .deletion

/-- A message is stored and the account deleted after it. -/
def messageFirst : List RequestLabel :=
  [ .arrive (.message {} ⟨"other ride", "hello"⟩),
    .commit 0 true 5 .acknowledged ] ++ wholeDeletion

def bootstrapLast : List RequestLabel :=
  [.arrive (.bootstrap none), .readAccount 0] ++ wholeDeletion ++
    [.commit 0 true 50 .acknowledged]

theorem deletion_leaves_nothing_after_message :
    ∃ last : AccountRequests,
      last.messages ≠ [] ∧ .requestRemoved 0 ∈ last.deletions.history ∧
        last.account.isBare := by
  have decided : (AccountRequests.step.run leavesNothing smallRequests
      messageFirst).any (fun last => !last.messages.isEmpty &&
        last.deletions.history.contains (.requestRemoved 0)) = true := by
    decide +kernel
  obtain ⟨last, steps, ends⟩ := System.exists_of_run decided
  simp only [Bool.and_eq_true, Bool.not_eq_true', List.isEmpty_eq_false_iff,
    List.contains_eq_mem, decide_eq_true_eq] at ends
  refine ⟨last, ends.1, ends.2, ?_⟩
  exact deletion_leaves_nothing rfl steps ends.2

/-- The late bootstrap brings the profile back for good. -/
theorem late_bootstrap_leaves_profile :
    ¬ ∀ (first last : AccountRequests) (account : Account) (run : Nat),
      first.deletions = .start account → first.handlers = [] →
      AccountRequests.step.Steps (fun _ _ => True) first last →
      .requestRemoved run ∈ last.deletions.history →
      last.deletions.stored.request = none → last.handlers = [] →
      last.account.isBare := by
  intro bare
  have decided : (AccountRequests.step.run (fun _ _ => true) smallRequests
      bootstrapLast).any (fun last =>
        last.deletions.history.contains (.requestRemoved 0) &&
          last.deletions.stored.request.isNone && last.handlers.isEmpty &&
          last.account.profile.isSome) = true := by
    decide +kernel
  obtain ⟨last, steps, ends⟩ := System.exists_of_run decided
  simp only [Bool.and_eq_true, List.isEmpty_iff, List.contains_eq_mem,
    decide_eq_true_eq, Option.isNone_iff_eq_none] at ends
  obtain ⟨⟨⟨removed, request⟩, finished⟩, present⟩ := ends
  have any : AccountRequests.step.Steps (fun _ _ => True) smallRequests last :=
    steps.mono fun _ _ _ => trivial
  have gone := bare smallRequests last Deletions.smallAccount 0 rfl rfl any
    removed request finished
  rw [gone.1] at present
  cases present

end AccountRequests

end Eki.Privacy
