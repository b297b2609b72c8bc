import Eki.Feedback.Changes
import Eki.Feedback.OnePolicy

/-!
# The feedback cooldown holds against any client

Clients commit whatever the rules permit, the backend stores what its policy
allows, and an administrator reviews, in any order and with time moving on.
The stamp in a user's cooldown is never older than the user's last feedback,
which is all that keeps two of them a day apart.
-/

namespace Eki.Feedback

open Transition

structure World where
  /-- The server's time at the last commit. -/
  clock : Nat
  surroundings : Surroundings
  collections : Collections

inductive Label where
  | commit (caller : Caller) (time : Nat) (changes : List Write)
  /-- The backend reads its clock at `now` and commits at `time`. -/
  | submit (uid : String) (tokenName : Option String)
    (submission : FeedbackSubmission) (requestId : String)
    (now : Int) (time : Nat)
  | review (caller : Caller) (feedbackId status : String) (time : Nat)
  /-- Profiles, sessions and authorizations change. -/
  | elsewhere (surroundings : Surroundings)

namespace Label

/-- The user for whom a step writes. -/
def author : Label → Option String
  | .commit caller _ _ => some caller.uid
  | .submit uid _ _ _ _ _ => some uid
  | .review caller _ _ _ => some caller.uid
  | .elsewhere _ => none

def byAdmin (surroundings : Surroundings) : Label → Prop
  | .commit caller _ _ => surroundings.isAdmin caller = true
  | .submit _ _ _ _ _ _ => False
  | .review caller _ _ _ => Backend.requireAdmin surroundings caller = true
  | .elsewhere _ => False

/-- The writes that a client put into its commit. -/
def writes : Label → Option (List Write)
  | .commit _ _ changes => some changes
  | _ => none

end Label

namespace World

def committed (world : World) (time : Nat) (collections : Collections) :
    World :=
  { world with clock := time, collections := collections }

def step (tools : Tools) : System World Label
  | world, .commit caller time changes =>
    if world.clock ≤ time then
      (commit world.surroundings caller time world.collections changes).map
        (world.committed time)
    else none
  | world, .submit uid tokenName submission requestId now time =>
    if world.clock ≤ time ∧ now ≤ time then
      match Backend.postFeedback tools world.surroundings world.collections
        uid tokenName submission requestId now time with
      | .ok (.stored after) => some (world.committed time after)
      | _ => none
    else none
  | world, .review caller feedbackId status time =>
    if world.clock ≤ time then
      match Backend.updateFeedbackStatus world.surroundings world.collections
        caller feedbackId status time with
      | .ok (_, after) => some (world.committed time after)
      | .error _ => none
    else none
  | world, .elsewhere surroundings =>
    some { world with surroundings := surroundings }

end World

/-! ## One step -/

variable {tools : Tools}

/-- A step changes the documents of its author, or none. -/
inductive Acts (world : World) (label : Label) (next : World) : Prop where
  | writes (uid : String) (author : label.author = some uid)
    (onward : world.clock ≤ next.clock)
    (change : Change uid next.clock (label.byAdmin world.surroundings)
      world.collections next.collections)
  | rests (clock : next.clock = world.clock)
    (same : next.collections = world.collections)

variable {world next : World} {label : Label}

theorem acts_of_step (taken : World.step tools world label = some next) :
    Acts world label next := by
  cases label with
  | commit caller time changes =>
    simp only [World.step] at taken
    split at taken
    · rename_i onward
      obtain ⟨after, committed, rfl⟩ := Option.map_eq_some_iff.mp taken
      exact .writes caller.uid rfl onward (change_of_commit committed)
    · cases taken
  | submit uid tokenName submission requestId now time =>
    simp only [World.step] at taken
    split at taken
    · rename_i onward
      split at taken
      · rename_i after submitted
        cases taken
        exact .writes uid rfl onward.1 (change_of_submit onward.2 submitted)
      · cases taken
    · cases taken
  | review caller feedbackId status time =>
    simp only [World.step] at taken
    split at taken
    · rename_i onward
      split at taken
      · rename_i changed after reviewed
        cases taken
        exact .writes caller.uid rfl onward (change_of_review reviewed)
      · cases taken
    · cases taken
  | elsewhere surroundings =>
    cases taken
    exact .rests rfl rfl

/-- What one step keeps: nothing is deleted, nobody writes for another user,
only a review changes feedback and only an administrator reviews, and a client
stamps the cooldown along with the feedback. -/
structure StepHonest (world : World) (label : Label) (next : World) :
    Prop where
  kept : ∀ id old, world.collections.feedbacks id = some old →
    ∃ new, next.collections.feedbacks id = some new ∧ Reviewed old new ∧
      (new = old ∨ label.byAdmin world.surroundings)
  cooldown_kept : ∀ uid, (world.collections.cooldowns uid).isSome = true →
    (next.collections.cooldowns uid).isSome = true
  created : ∀ id new, world.collections.feedbacks id = none →
    next.collections.feedbacks id = some new →
      ∃ uid cooldown, label.author = some uid ∧ Written uid next.clock new ∧
        next.collections.cooldowns uid = some cooldown ∧
        Stamped uid next.clock cooldown ∧
        ∀ changes, label.writes = some changes →
          ⟨.cooldown uid, some cooldown⟩ ∈ changes
  stamped : ∀ uid,
    next.collections.cooldowns uid = world.collections.cooldowns uid ∨
      label.author = some uid ∧
        ∃ cooldown, next.collections.cooldowns uid = some cooldown ∧
          Stamped uid next.clock cooldown

variable {uid : String} {time : Nat} {admin : Prop}
  {before after : Collections}

theorem cooldown_isSome_of_change (change : Change uid time admin before after)
    {owner : String} (present : (before.cooldowns owner).isSome = true) :
    (after.cooldowns owner).isSome = true := by
  rcases change.cooldowns owner with same | stamped
  · rw [same]
    exact present
  · obtain ⟨-, -, cooldown, found, -⟩ := stamped
    rw [found]
    rfl

theorem mem_writes_of_stamped {cooldown : Data} {changes : List Write}
    (taken : World.step tools world label = some next)
    (writes : label.writes = some changes)
    (rested : Rested world.collections uid next.clock)
    (found : next.collections.cooldowns uid = some cooldown)
    (stamped : Stamped uid next.clock cooldown) :
    (⟨.cooldown uid, some cooldown⟩ : Write) ∈ changes := by
  cases label with
  | commit caller time written =>
    cases writes
    simp only [World.step] at taken
    split at taken
    · obtain ⟨after, committed, rfl⟩ := Option.map_eq_some_iff.mp taken
      simp only [commit] at committed
      split at committed
      · cases committed
        rcases cooldown_writeAll found with earlier | member
        · have old : time + feedbackCooldownMs ≤ time :=
            rested cooldown time earlier stamped.stamp
          have positive : 0 < feedbackCooldownMs := by decide
          omega
        · exact member
      · cases committed
    · cases taken
  | submit | review | elsewhere => cases writes

theorem step_honest (taken : World.step tools world label = some next) :
    StepHonest world label next := by
  cases acts_of_step taken with
  | rests clock same =>
    apply StepHonest.mk
    · intro id old found
      rw [same]
      exact ⟨old, found, .refl old, .inl rfl⟩
    · intro uid present
      rw [same]
      exact present
    · intro id new absent found
      rw [same, absent] at found
      cases found
    · intro uid
      rw [same]
      exact .inl rfl
  | writes uid author onward change =>
    apply StepHonest.mk
    · exact change.kept
    · exact fun owner => cooldown_isSome_of_change change
    · intro id new absent found
      obtain ⟨written, rested, cooldown, now, stamped⟩ :=
        change.created id new absent found
      refine ⟨uid, cooldown, author, written, now, stamped, ?_⟩
      intro changes writes
      exact mem_writes_of_stamped taken writes rested now stamped
    · intro owner
      rcases change.cooldowns owner with same | stamped
      · exact .inl same
      · obtain ⟨rfl, -, cooldown, found, stamped⟩ := stamped
        exact .inr ⟨author, cooldown, found, stamped⟩

/-! ## Runs -/

/-- The cooldown of the feedback's user was stamped with the feedback or
later. -/
def Tracked (collections : Collections) (feedback : Data) : Prop :=
  ∃ uid time cooldown stamp, Written uid time feedback ∧
    collections.cooldowns uid = some cooldown ∧
    cooldown.field "lastSubmittedAt" = some (.timestamp stamp) ∧ time ≤ stamp

/-- Feedback that a run adds, or that its user's cooldown tracked when the run
began. -/
def Covered (first : World) (id : String) : Prop :=
  ∀ old, first.collections.feedbacks id = some old →
    Tracked first.collections old

/-- What a run keeps. -/
structure Kept (first last : World) : Prop where
  kept : ∀ id old, first.collections.feedbacks id = some old →
    ∃ new, last.collections.feedbacks id = some new ∧ Reviewed old new
  cooldown_kept : ∀ uid, (first.collections.cooldowns uid).isSome = true →
    (last.collections.cooldowns uid).isSome = true
  tracked : ∀ id new, Covered first id →
    last.collections.feedbacks id = some new → Tracked last.collections new
  /-- Of two covered feedbacks of a user at least one of which is new, one was
  written a day before the other. -/
  spaced : ∀ id other new also uid time later, id ≠ other →
    first.collections.feedbacks other = none → Covered first id →
    last.collections.feedbacks id = some new →
    last.collections.feedbacks other = some also →
    Written uid time new → Written uid later also →
      time + feedbackCooldownMs ≤ later ∨ later + feedbackCooldownMs ≤ time

theorem Written.unique {other : String} {later : Nat} {feedback : Data}
    (first : Written uid time feedback)
    (second : Written other later feedback) : uid = other ∧ time = later := by
  have author := first.author.symm.trans second.author
  have timestamp := first.timestamp.symm.trans second.timestamp
  simp only [Option.some.injEq, Value.string.injEq, Value.timestamp.injEq]
    at author timestamp
  exact ⟨author, timestamp⟩

variable {now : Nat}

theorem Tracked.rested {collections : Collections} {feedback : Data}
    (tracked : Tracked collections feedback)
    (written : Written uid time feedback)
    (rested : Rested collections uid now) :
    time + feedbackCooldownMs ≤ now := by
  obtain ⟨owner, earlier, cooldown, stamp, known, found, stamped, order⟩ :=
    tracked
  obtain ⟨rfl, rfl⟩ := known.unique written
  have old := rested cooldown stamp found stamped
  omega

variable {new : Data}

theorem Tracked.change {old : Data} (tracked : Tracked before old)
    (change : Change uid now admin before after)
    (reviewed : Reviewed old new) : Tracked after new := by
  obtain ⟨owner, time, cooldown, stamp, written, found, stamped, order⟩ :=
    tracked
  rcases change.cooldowns owner with same | again
  · exact ⟨owner, time, cooldown, stamp, written.reviewed reviewed,
      same.trans found, stamped, order⟩
  · obtain ⟨rfl, rested, later, now, restamped⟩ := again
    have old := rested cooldown stamp found stamped
    exact ⟨owner, time, later, _, written.reviewed reviewed, now,
      restamped.stamp, by omega⟩

theorem Change.earlier {id : String}
    (change : Change uid now admin before after)
    (found : after.feedbacks id = some new) :
    before.feedbacks id = none ∨
      ∃ old, before.feedbacks id = some old ∧ Reviewed old new := by
  cases earlier : before.feedbacks id with
  | none => exact .inl rfl
  | some old =>
    obtain ⟨same, present, reviewed, -⟩ := change.kept id old earlier
    rw [found] at present
    cases present
    exact .inr ⟨old, rfl, reviewed⟩

theorem Tracked.written {collections : Collections} {old : Data}
    (tracked : Tracked collections old) (reviewed : Reviewed old new)
    (written : Written uid time new) : Written uid time old := by
  obtain ⟨author, stamp, -, -, known, -, -, -⟩ := tracked
  obtain ⟨rfl, rfl⟩ := (known.reviewed reviewed).unique written
  exact known

namespace Kept

theorem refl (world : World) : Kept world world where
  kept _ old found := ⟨old, found, .refl old⟩
  cooldown_kept _ := id
  tracked _ new covered found := covered new found
  spaced _ _ _ _ _ _ _ _ absent _ _ found _ _ := by
    rw [absent] at found
    cases found

theorem step {first world next : World} {label : Label}
    (kept : Kept first world)
    (taken : World.step tools world label = some next) :
    Kept first next := by
  cases acts_of_step taken with
  | rests clock same =>
    apply Kept.mk
    · rw [same]
      exact kept.kept
    · rw [same]
      exact kept.cooldown_kept
    · rw [same]
      exact kept.tracked
    · rw [same]
      exact kept.spaced
  | writes uid author onward change =>
    have tracked : ∀ id new, Covered first id →
        next.collections.feedbacks id = some new →
        Tracked next.collections new := by
      intro id new covered found
      rcases change.earlier found with absent | earlier
      · obtain ⟨written, -, cooldown, now, stamped⟩ :=
          change.created id new absent found
        exact ⟨uid, _, cooldown, _, written, now, stamped.stamp, Nat.le_refl _⟩
      · obtain ⟨old, present, reviewed⟩ := earlier
        exact (kept.tracked id old covered present).change change reviewed
    -- New feedback comes a day after whatever its user has.
    have apart : ∀ id other new also owner time later, Covered first id →
        next.collections.feedbacks id = some new →
        world.collections.feedbacks id ≠ none →
        world.collections.feedbacks other = none →
        next.collections.feedbacks other = some also →
        Written owner time new → Written owner later also →
        time + feedbackCooldownMs ≤ later := by
      intro id other new also owner time later covered found present absent
        added written afterwards
      obtain ⟨fresh, rested, -⟩ := change.created other also absent added
      obtain ⟨rfl, rfl⟩ := fresh.unique afterwards
      rcases change.earlier found with missing | earlier
      · exact absurd missing present
      · obtain ⟨old, stored, reviewed⟩ := earlier
        have known := kept.tracked id old covered stored
        exact known.rested (known.written reviewed written) rested
    apply Kept.mk
    · intro id old found
      obtain ⟨middle, present, reviewed⟩ := kept.kept id old found
      obtain ⟨new, now, again, -⟩ := change.kept id middle present
      exact ⟨new, now, reviewed.trans again⟩
    · intro owner present
      exact cooldown_isSome_of_change change (kept.cooldown_kept owner present)
    · exact tracked
    · intro id other new also owner time later different absent covered found
        added written afterwards
      have fresh : Covered first other := by
        intro old stored
        rw [absent] at stored
        cases stored
      by_cases one : world.collections.feedbacks id = none
      · by_cases two : world.collections.feedbacks other = none
        · refine absurd (change.one id other one two ?_ ?_) different
          · rw [found]
            rfl
          · rw [added]
            rfl
        · right
          exact apart other id also new owner later time fresh added two one
            found afterwards written
      · by_cases two : world.collections.feedbacks other = none
        · left
          exact apart id other new also owner time later covered found one two
            added written afterwards
        · rcases change.earlier found with missing | earlier
          · exact absurd missing one
          · rcases change.earlier added with missing | ago
            · exact absurd missing two
            · obtain ⟨old, stored, reviewed⟩ := earlier
              obtain ⟨past, was, changed⟩ := ago
              exact kept.spaced id other old past owner time later different
                absent covered stored was
                ((kept.tracked id old covered stored).written reviewed written)
                ((kept.tracked other past fresh was).written changed
                  afterwards)

end Kept

/-- Whatever clients commit and whatever the backend stores, two feedbacks of a
user are a day apart, and every step is honest. -/
theorem feedback_cooldown_holds {first last : World}
    (run : System.Steps (World.step tools) (fun _ _ => True) first last) :
    Kept first last ∧
      ∀ label next, World.step tools last label = some next →
        StepHonest last label next := by
  constructor
  · apply System.Steps.invariant run (Kept.refl first)
    intro world label next kept _ taken
    exact kept.step taken
  · intro label next taken
    exact step_honest taken

/-- Nothing has been submitted. -/
def World.start : World where
  clock := 0
  surroundings := (generalAttempt .null).surroundings
  collections := (generalAttempt .null).collections

/-- A passenger writes from the browser, and a day later through the
backend. -/
theorem feedback_cooldown_day_apart : ∃ last,
    (last.collections.feedbacks
      ("c3383a26071dca81cd9bb070ebf6f374" ++
        "912af1f0b0c47476e9936da80bf67582")).isSome = true ∧
    (last.collections.feedbacks
      ("5c815935531d942266eb5fb0c724a0ed" ++
        "ac17d9e8cc1bd9e38c7e9888fd409807")).isSome = true ∧
    Kept World.start last := by
  have decided : (System.run (World.step recordedTools) (fun _ _ => true)
      World.start
      [.commit (generalAttempt .null).caller 1000
          (Browser.changes recordedTools [("role", .string "passenger")]
            "passenger-1" (generalAttempt .null).submission "request-00000001"
            1000),
        .submit "passenger-1" none (generalAttempt .null).submission
          "request-00000002" 86401000 86401000]).any (fun last =>
      (last.collections.feedbacks
        ("c3383a26071dca81cd9bb070ebf6f374" ++
          "912af1f0b0c47476e9936da80bf67582")).isSome &&
      (last.collections.feedbacks
        ("5c815935531d942266eb5fb0c724a0ed" ++
          "ac17d9e8cc1bd9e38c7e9888fd409807")).isSome) = true := by
    decide +kernel
  obtain ⟨last, steps, stored⟩ := System.exists_of_run decided
  rw [Bool.and_eq_true] at stored
  have run : System.Steps (World.step recordedTools) (fun _ _ => True)
      World.start last := steps.mono fun _ _ _ => trivial
  exact ⟨last, stored.1, stored.2, (feedback_cooldown_holds run).1⟩

end Eki.Feedback
