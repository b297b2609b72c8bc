import Eki.Chat.Messages
import Eki.Library.Rolling

/-!
# The rate of a sender over time

A sender attempts messages one after another.  The document that an accepted
one leaves is what the next attempt is checked against.
-/

namespace Eki.Chat

open Documents Rolling Transition

/-- What `sendMessage` writes for an accepted message. -/
def storedRate (uid : String) (nextSentAt : List Int) (commit : Int) :
    ChatRate where
  userId := some uid
  sentAt := some nextSentAt
  lastSentAt := some commit

/-- The stored document and the times of the accepted messages, the last one
first. -/
structure RateRun where
  rate : Option ChatRate
  commits : List Int

def RateRun.initial : RateRun where
  rate := none
  commits := []

/-- An attempt, with the time at which it is committed if it is accepted. -/
structure RateAttempt where
  now : Int
  commit : Int

def RateRun.step (uid : String) : System RateRun RateAttempt :=
  fun run attempt =>
    match evaluateChatRate run.rate attempt.now with
    | .allowed nextSentAt =>
      some
        { rate := some (storedRate uid nextSentAt attempt.commit)
          commits := attempt.commit :: run.commits }
    | .refused _ _ => some run

theorem rate_of_sendMessage {tools : ChatTools} {user : ChatUser}
    {requestId : String} {text : ModeratedChatText} {profile : Bool}
    {now serverTime : Int} {tree next : RideTree} {result : SentMessage}
    (sent : sendMessage tools user requestId text profile now serverTime tree =
      .ok (result, next)) :
    result.duplicate = true ∧ next = tree ∨
      ∃ nextSentAt,
        evaluateChatRate (tree.messageRateLimits.lookup user.uid) now =
            .allowed nextSentAt ∧
          next.messageRateLimits.lookup user.uid =
            some (storedRate user.uid nextSentAt serverTime) := by
  rw [sendMessage] at sent
  split at sent
  · cases sent
  · split at sent
    · split at sent
      · cases sent
      · cases sent
        exact Or.inl ⟨rfl, rfl⟩
    · split at sent
      · cases sent
      · split at sent
        · cases sent
        · rename_i nextSentAt admitted
          cases sent
          refine Or.inr ⟨nextSentAt, ?_, ?_⟩
          · rw [admitMessage] at admitted
            split at admitted
            · cases admitted
            · split at admitted
              · cases admitted
              · split at admitted
                · rename_i allowed
                  cases admitted
                  exact allowed
                · cases admitted
          · exact AList.lookup_insert _

/-- A message is committed after it was checked. -/
def RateAttempt.ordered (attempt : RateAttempt) : Bool :=
  decide (attempt.now ≤ attempt.commit)

/-- The limits hold in every window, and a refusal says how long it lasts. -/
structure WithinLimits (run : RateRun) : Prop where
  hourly : Limited maxMessagesPerHour hourMs run.commits
  burst : Limited maxMessagesPerMinute minuteMs run.commits
  spaced : Spaced minGapMs run.commits
  retry : ∀ now reason wait,
    evaluateChatRate run.rate now = .refused reason wait →
    reason = "hourly" ∨ reason = "burst" →
      0 < wait ∧ ∀ later, now ≤ later →
        ((∃ other, evaluateChatRate run.rate later = .refused reason other) ↔
          later < now + wait)

/-! ## The document of an accepted message -/

/-- The document holds the times that the last check could see, and the last
time. -/
def Stores (uid : String) (run : RateRun) : Prop :=
  match run.commits with
  | [] => run.rate = none
  | last :: earlier =>
    ∃ checked, checked ≤ last ∧
      (recent hourMs checked earlier).length < maxMessagesPerHour ∧
      run.rate =
        some (storedRate uid (recent hourMs checked earlier).reverse last)

section

variable {checked last now : Int} {earlier : List Int}
  (before : checked ≤ last)
  (room : (recent hourMs checked earlier).length < maxMessagesPerHour)
  (spaced : Spaced minGapMs (last :: earlier))

include before room spaced

theorem previousMessages_stored {uid : String} :
    previousMessages
        (some (storedRate uid (recent hourMs checked earlier).reverse last))
        now =
      ((recent hourMs checked (last :: earlier)).reverse, some last) := by
  have kept : recent hourMs checked (last :: earlier) =
      last :: recent hourMs checked earlier := by
    rw [recent, List.filter_cons, if_pos]
    · rfl
    · simp only [decide_eq_true_eq]
      have hour : hourMs = 3600000 := rfl
      omega
  have order : (recent hourMs checked (last :: earlier)).reverse.Pairwise
      (· ≤ ·) := by
    apply List.pairwise_reverse.mpr
    apply List.Pairwise.imp _ (spaced.sublist recent_sublist)
    intro newer older apart
    have gap : minGapMs = 3000 := rfl
    omega
  have few : (recent hourMs checked (last :: earlier)).reverse.length -
      maxMessagesPerHour = 0 := by
    rw [kept, List.length_reverse, List.length_cons]
    omega
  have all : (recent hourMs checked earlier).reverse ++ [last] =
      (recent hourMs checked (last :: earlier)).reverse := by
    rw [kept, List.reverse_cons]
  simp only [previousMessages, storedRate, Option.toList_some]
  rw [all, order.insertionSort_eq, few, List.drop_zero, kept]
  simp

theorem evaluateChatRate_stored {uid : String} :
    evaluateChatRate
        (some (storedRate uid (recent hourMs checked earlier).reverse last))
        now =
      if now - last < minGapMs then
        .refused "cooldown" (min minGapMs (minGapMs - (now - last)))
      else if (recent hourMs now (last :: earlier)).length ≥
          maxMessagesPerHour then
        .refused "hourly"
          (hourMs -
            (now - (recent hourMs now (last :: earlier)).getLast?.getD now))
      else if (recent minuteMs now (last :: earlier)).length ≥
          maxMessagesPerMinute then
        .refused "burst"
          (minuteMs -
            (now - (recent minuteMs now (last :: earlier)).getLast?.getD now))
      else .allowed (recent hourMs now (last :: earlier)).reverse := by
  rw [evaluateChatRate, previousMessages_stored before room spaced]
  simp only
  by_cases cools : now - last < minGapMs
  · rw [if_pos cools, if_pos cools]
  · have gap : minGapMs = 3000 := rfl
    have after : checked ≤ now := by omega
    have hourly :
        (recent hourMs checked (last :: earlier)).reverse.filter
            (fun timestamp => decide (now - timestamp < hourMs)) =
          (recent hourMs now (last :: earlier)).reverse := by
      rw [List.filter_reverse]
      congr 1
      exact recent_recent after (Int.le_refl _)
    have burst :
        (recent hourMs now (last :: earlier)).reverse.filter
            (fun timestamp => decide (now - timestamp < minuteMs)) =
          (recent minuteMs now (last :: earlier)).reverse := by
      rw [List.filter_reverse]
      congr 1
      exact recent_recent (Int.le_refl _) (by decide)
    have oldest : ∀ times : List Int,
        times.reverse.headD now = times.getLast?.getD now := by
      intro times
      rw [List.headD_eq_head?_getD, List.head?_reverse]
    rw [if_neg cools, if_neg cools, hourly, burst, List.length_reverse,
      List.length_reverse, oldest, oldest]

end

/-! ## Runs -/

/-- What every reachable state meets. -/
structure RateKept (uid : String) (run : RateRun) : Prop where
  hourly : Limited maxMessagesPerHour hourMs run.commits
  burst : Limited maxMessagesPerMinute minuteMs run.commits
  spaced : Spaced minGapMs run.commits
  stores : Stores uid run

theorem RateKept.initial (uid : String) : RateKept uid RateRun.initial where
  hourly := Limited.nil
  burst := Limited.nil
  spaced := List.Pairwise.nil
  stores := rfl

variable {uid : String} {run next : RateRun}

/-- An accepted message was checked against all three limits. -/
theorem RateKept.accept (kept : RateKept uid run) {now commit : Int}
    {nextSentAt : List Int} (ordered : now ≤ commit)
    (allowed : evaluateChatRate run.rate now = .allowed nextSentAt) :
    RateKept uid
      { rate := some (storedRate uid nextSentAt commit)
        commits := commit :: run.commits } := by
  have stores := kept.stores
  have spaced := kept.spaced
  cases shape : run.commits with
  | nil =>
    simp only [Stores, shape] at stores
    rw [stores] at allowed
    cases allowed
    refine ⟨?_, ?_, ?_, commit, Int.le_refl _, Nat.succ_pos _, rfl⟩
    · exact Limited.nil.cons (Nat.succ_pos _) (Int.le_refl commit)
    · exact Limited.nil.cons (Nat.succ_pos _) (Int.le_refl commit)
    · exact List.pairwise_singleton _ _
  | cons last earlier =>
    rw [shape] at spaced
    simp only [Stores, shape] at stores
    obtain ⟨checked, before, room, stored⟩ := stores
    rw [stored, evaluateChatRate_stored before room spaced] at allowed
    split at allowed
    · cases allowed
    · rename_i apart
      split at allowed
      · cases allowed
      · rename_i hour
        split at allowed
        · cases allowed
        · rename_i minute
          cases allowed
          refine ⟨?_, ?_, ?_, now, ordered, Nat.not_le.mp hour, rfl⟩
          · have limited := kept.hourly
            rw [shape] at limited
            exact limited.cons (Nat.not_le.mp hour) ordered
          · have limited := kept.burst
            rw [shape] at limited
            exact limited.cons (Nat.not_le.mp minute) ordered
          · apply spaced.cons
            · intro other head
              cases head
              omega
            · decide

theorem RateKept.step (kept : RateKept uid run) {attempt : RateAttempt}
    (ordered : attempt.ordered = true)
    (taken : RateRun.step uid run attempt = some next) :
    RateKept uid next := by
  rw [RateRun.step] at taken
  split at taken
  · rename_i nextSentAt allowed
    cases taken
    exact kept.accept (of_decide_eq_true ordered) allowed
  · cases taken
    exact kept

theorem exists_oldest {limit : Nat} {span now : Int} {times : List Int}
    (limited : Limited limit span times) (some : 0 < limit)
    (past : ∀ time ∈ times, time ≤ now) (spaced : Spaced minGapMs times)
    (full : limit ≤ (recent span now times).length) :
    ∃ oldest, (recent span now times).getLast?.getD now = oldest ∧
      now < oldest + span ∧ ∀ later, now ≤ later →
        (limit ≤ (recent span later times).length ↔ later < oldest + span) := by
  have whole : (recent span now times).length = limit :=
    Nat.le_antisymm (limited.recent_length_le past) full
  cases last : (recent span now times).getLast? with
  | none =>
    rw [List.getLast?_eq_none_iff.mp last, List.length_nil] at whole
    omega
  | some oldest =>
    have lasts : ∀ later, now ≤ later →
        (limit ≤ (recent span later times).length ↔
          later < oldest + span) := by
      intro later after
      exact full_iff spaced (by decide) whole last after
    exact ⟨oldest, rfl, (lasts now (Int.le_refl now)).mp full, lasts⟩

theorem RateKept.retry (kept : RateKept uid run) {now wait : Int}
    {reason : String}
    (refused : evaluateChatRate run.rate now = .refused reason wait)
    (window : reason = "hourly" ∨ reason = "burst") :
    0 < wait ∧ ∀ later, now ≤ later →
      ((∃ other, evaluateChatRate run.rate later = .refused reason other) ↔
        later < now + wait) := by
  have stores := kept.stores
  have spaced := kept.spaced
  have gap : minGapMs = 3000 := rfl
  cases shape : run.commits with
  | nil =>
    simp only [Stores, shape] at stores
    rw [stores] at refused
    cases refused
  | cons last earlier =>
    have hourly := kept.hourly
    have burst := kept.burst
    rw [shape] at spaced hourly burst
    simp only [Stores, shape] at stores
    obtain ⟨checked, before, room, stored⟩ := stores
    rw [stored] at refused ⊢
    simp only [evaluateChatRate_stored before room spaced] at refused ⊢
    split at refused
    · cases refused
      simp at window
    · rename_i apart
      have past := @Spaced.past now last minGapMs earlier spaced (by decide) (by omega)
      split at refused
      · rename_i full
        cases refused
        obtain ⟨oldest, same, early, lasts⟩ :=
          exists_oldest hourly (by decide) past spaced full
        rw [same]
        refine ⟨by omega, ?_⟩
        intro later after
        have still := lasts later after
        rw [if_neg (by omega)]
        constructor
        · rintro ⟨other, refused⟩
          split at refused
          · rename_i full
            have inside := still.mp full
            omega
          · split at refused
            · simp at refused
            · cases refused
        · intro inside
          rw [if_pos (still.mpr (by omega))]
          exact ⟨_, rfl⟩
      · rename_i hour
        split at refused
        · rename_i full
          cases refused
          obtain ⟨oldest, same, early, lasts⟩ :=
            exists_oldest burst (by decide) past spaced full
          rw [same]
          refine ⟨by omega, ?_⟩
          intro later after
          have still := lasts later after
          have fewer : (recent hourMs later (last :: earlier)).length ≤
              (recent hourMs now (last :: earlier)).length := by
            rw [← recent_recent after (Int.le_refl hourMs)]
            exact recent_sublist.length_le
          rw [if_neg (by omega), if_neg (by omega)]
          constructor
          · rintro ⟨other, refused⟩
            split at refused
            · rename_i full
              have inside := still.mp full
              omega
            · cases refused
          · intro inside
            rw [if_pos (still.mpr (by omega))]
            exact ⟨_, rfl⟩
        · cases refused

/-- In every run from no document the limits hold, and refusals are exact. -/
theorem withinLimits_of_steps
    (steps : System.Steps (RateRun.step uid)
      (fun _ attempt => attempt.ordered = true) RateRun.initial run) :
    WithinLimits run := by
  have kept : RateKept uid run := by
    apply steps.invariant (RateKept.initial uid)
    intro before attempt after kept ordered taken
    exact kept.step ordered taken
  constructor
  · exact kept.hourly
  · exact kept.burst
  · exact kept.spaced
  · intro now reason wait refused window
    exact kept.retry refused window

/-- Ten messages in half a minute, and the refusal of an eleventh. -/
theorem withinLimits_of_burst :
    ∃ run,
      System.Steps (RateRun.step "rider")
        (fun _ attempt => attempt.ordered = true) RateRun.initial run ∧
      run.commits.length = 10 ∧
      evaluateChatRate run.rate 31000 = .refused "burst" 29050 ∧
      WithinLimits run := by
  let attempts : List RateAttempt := (List.range 11).map fun index =>
    { now := 3100 * index
      commit := 3100 * index + 50 }
  have decided :
      (System.run (RateRun.step "rider") (fun _ attempt => attempt.ordered)
        RateRun.initial attempts).any
        (fun run => decide (run.commits.length = 10) &&
          decide (evaluateChatRate run.rate 31000 =
            .refused "burst" 29050)) = true := by
    decide +kernel
  obtain ⟨run, steps, holds⟩ := System.exists_of_run decided
  simp only [Bool.and_eq_true, decide_eq_true_eq] at holds
  exact ⟨run, steps, holds.1, holds.2, withinLimits_of_steps steps⟩

end Eki.Chat
