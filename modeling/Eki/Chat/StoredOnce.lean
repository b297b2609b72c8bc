import Eki.Chat.RideHistory

/-!
# Messages are stored once

Sending and clearing only move a message from the chat to the archive: it is
never in both and never lost, and a retry finds it in either.
-/

namespace Eki.Chat

open Documents Transition

/-! ## What a tree retains -/

namespace RideTree

variable {tree : RideTree}

/-- No identifier is in the chat and in the archive. -/
def Apart (tree : RideTree) : Prop :=
  ∀ id, tree.messages.lookup id = none ∨ tree.archivedMessages.lookup id = none

structure Retains (before after : RideTree) : Prop where
  apart : after.Apart
  retained : ∀ id message, before.retained id = some message →
    after.retained id = some message
  archived : ∀ id message,
    before.archivedMessages.lookup id = some message →
      after.archivedMessages.lookup id = some message

theorem Retains.refl (apart : tree.Apart) : tree.Retains tree :=
  ⟨apart, fun _ _ => id, fun _ _ => id⟩

theorem Retains.trans {first second third : RideTree}
    (front : first.Retains second) (back : second.Retains third) :
    first.Retains third := by
  refine ⟨back.apart, ?_, ?_⟩
  · intro id message stored
    exact back.retained id message (front.retained id message stored)
  · intro id message stored
    exact back.archived id message (front.archived id message stored)

theorem retained_of_archived (apart : tree.Apart) {id : String}
    {message : ChatMessage}
    (archived : tree.archivedMessages.lookup id = some message) :
    tree.retained id = some message := by
  unfold retained
  rcases apart id with chat | archive
  · rw [chat, archived]
    rfl
  · rw [archive] at archived
    cases archived

theorem retains_archive (apart : tree.Apart)
    {message : Sigma fun _ : String => ChatMessage}
    (stored : tree.retained message.1 = some message.2) :
    tree.Retains (tree.archive message) ∧
      (tree.archive message).archivedMessages.lookup message.1 =
        some message.2 := by
  have archived : (tree.archive message).archivedMessages.lookup message.1 =
      some message.2 := AList.lookup_insert _
  have gone : (tree.archive message).messages.lookup message.1 = none :=
    AList.lookup_erase _ _
  have others (id : String) (other : id ≠ message.1) :
      (tree.archive message).messages.lookup id = tree.messages.lookup id ∧
        (tree.archive message).archivedMessages.lookup id =
          tree.archivedMessages.lookup id :=
    ⟨AList.lookup_erase_ne other, AList.lookup_insert_ne other⟩
  refine ⟨⟨?_, ?_, ?_⟩, archived⟩
  · intro id
    by_cases same : id = message.1
    · rw [same]
      exact .inl gone
    · rw [(others id same).1, (others id same).2]
      exact apart id
  · intro id found before
    by_cases same : id = message.1
    · rw [same] at before ⊢
      unfold retained
      rw [gone, archived, ← stored, before]
      rfl
    · unfold retained
      rw [(others id same).1, (others id same).2]
      exact before
  · intro id found before
    by_cases same : id = message.1
    · have both := retained_of_archived apart before
      rw [same] at both ⊢
      rw [archived, ← stored, both]
    · rw [(others id same).2]
      exact before

theorem retains_foldl_archive
    {snapshot : List (Sigma fun _ : String => ChatMessage)}
    (apart : tree.Apart)
    (stored : ∀ message ∈ snapshot, tree.retained message.1 = some message.2) :
    tree.Retains (snapshot.foldl archive tree) ∧
      ∀ message ∈ snapshot,
        (snapshot.foldl archive tree).archivedMessages.lookup message.1 =
          some message.2 := by
  induction snapshot generalizing tree with
  | nil =>
    refine ⟨.refl apart, ?_⟩
    rintro message ⟨⟩
  | cons message rest induction =>
    obtain ⟨first, archived⟩ :=
      retains_archive apart (stored message (List.mem_cons_self ..))
    obtain ⟨later, all⟩ := induction first.apart fun other member =>
      first.retained _ _ (stored other (List.mem_cons_of_mem _ member))
    rw [List.foldl_cons]
    refine ⟨first.trans later, ?_⟩
    intro other member
    rcases List.mem_cons.mp member with same | member
    · rw [same]
      exact later.archived _ _ archived
    · exact all other member

theorem retains_store (apart : tree.Apart) {user : ChatUser} {id : String}
    {nextSentAt : List Int} {message : ChatMessage}
    (absent : tree.retained id = none) :
    tree.Retains (tree.store user id nextSentAt message) ∧
      (tree.store user id nextSentAt message).retained id = some message := by
  have parts : tree.messages.lookup id = none ∧
      tree.archivedMessages.lookup id = none := by
    unfold retained at absent
    cases chat : tree.messages.lookup id with
    | none =>
      rw [chat] at absent
      exact ⟨rfl, absent⟩
    | some stored =>
      rw [chat] at absent
      cases absent
  have added : (tree.store user id nextSentAt message).messages.lookup id =
      some message := AList.lookup_insert _
  have others (other : String) (different : other ≠ id) :
      (tree.store user id nextSentAt message).messages.lookup other =
        tree.messages.lookup other :=
    AList.lookup_insert_ne different
  have archive : (tree.store user id nextSentAt message).archivedMessages =
      tree.archivedMessages := rfl
  refine ⟨⟨?_, ?_, ?_⟩, ?_⟩
  · intro other
    by_cases same : other = id
    · rw [same]
      exact .inr parts.2
    · rw [others other same]
      exact apart other
  · intro other found before
    by_cases same : other = id
    · rw [same, absent] at before
      cases before
    · unfold retained
      rw [others other same, archive]
      exact before
  · intro other found before
    exact before
  · unfold retained
    rw [added]
    rfl

end RideTree

/-! ## What an attempt does -/

def Attempt.wrote (tools : ChatTools) (attempt : Attempt)
    (message : ChatMessage) : Prop :=
  message.senderId = attempt.user.uid ∧
    message.requestHash =
      requestHash tools attempt.user.uid attempt.requestId attempt.text

def Attempt.permitted (attempt : Attempt) : Bool :=
  privilegedSender attempt.user attempt.before.session || attempt.profile

/-- The same message of the same user, under the same request. -/
def Attempt.repeats (later earlier : Attempt) : Prop :=
  later.user.uid = earlier.user.uid ∧ later.requestId = earlier.requestId ∧
    later.text.normalized = earlier.text.normalized

instance (later earlier : Attempt) : Decidable (later.repeats earlier) :=
  inferInstanceAs (Decidable (_ ∧ _ ∧ _))

section Sending

variable {tools : ChatTools} {user : ChatUser} {requestId : String}
  {text : ModeratedChatText} {profile : Bool} {now serverTime : Int}
  {tree : RideTree}

theorem retains_sendMessage (apart : tree.Apart) {sent : SentMessage}
    {after : RideTree}
    (success : sendMessage tools user requestId text profile now serverTime
      tree = .ok (sent, after)) :
    tree.Retains after ∧ sent.id = messageId tools user.uid requestId ∧
      ∃ message, after.retained sent.id = some message ∧
        message.senderId = user.uid ∧
        message.requestHash = requestHash tools user.uid requestId text := by
  unfold sendMessage at success
  simp only at success
  split at success
  · cases success
  · split at success
    · rename_i previous stored
      split at success
      · cases success
      · rename_i same
        cases success
        rw [Bool.or_eq_true, not_or, bne_iff_ne, bne_iff_ne, not_not,
          not_not] at same
        exact ⟨.refl apart, rfl, previous, stored, same⟩
    · rename_i absent
      split at success
      · cases success
      · rename_i session found
        split at success
        · cases success
        · cases success
          obtain ⟨retains, stored⟩ := RideTree.retains_store apart absent
          exact ⟨retains, rfl, _, stored, rfl, rfl⟩

theorem sendMessage_of_retained {message : ChatMessage}
    (stored : tree.retained (messageId tools user.uid requestId) =
      some message)
    (sender : message.senderId = user.uid)
    (hash : message.requestHash = requestHash tools user.uid requestId text) :
    sendMessage tools user requestId text profile now serverTime tree =
      if privilegedSender user tree.session || profile then
        .ok
          ({ id := messageId tools user.uid requestId
             duplicate := true }, tree)
      else
        .error
          { status := 403
            message := "An active passenger profile is required." } := by
  unfold sendMessage
  simp only [stored, sender, hash, bne_self_eq_false, Bool.or_self,
    Bool.false_eq_true, if_false]
  cases privilegedSender user tree.session <;> cases profile <;> rfl

end Sending

/-! ## Runs -/

namespace RideWorld

structure StoredOnce (tools : ChatTools) (succeeds : Attempt → Bool)
    (world : RideWorld) : Prop where
  apart : world.tree.Apart
  kept : ∀ attempt ∈ world.attempts, ∀ sent, attempt.outcome = .ok sent →
    ∃ message,
      world.tree.retained
          (messageId tools attempt.user.uid attempt.requestId) =
        some message ∧ attempt.wrote tools message
  retried : world.attempts.Pairwise fun later earlier =>
    later.repeats earlier → (∃ sent, earlier.outcome = .ok sent) →
      later.after = later.before ∧
        (succeeds later = true → later.outcome = .ok
          { id := messageId tools later.user.uid later.requestId
            duplicate := true })
  cleared : ∀ message ∈ world.cleared,
    world.tree.archivedMessages.lookup message.1 = some message.2

structure ChatSound (tools : ChatTools) (world : RideWorld) : Prop
    extends StoredOnce tools Attempt.permitted world where
  snapshots : ∀ clear snapshot, world.clears clear = some snapshot →
    ∀ message ∈ snapshot, world.tree.retained message.1 = some message.2

namespace ChatSound

variable {tools : ChatTools} {world next : RideWorld}

theorem start (session : ChatSession)
    (completedTrips : Collection CompletedTrip) :
    (RideWorld.start { session := some session } completedTrips).ChatSound
      tools := by
  refine ⟨⟨fun _ => .inl rfl, ?_, List.Pairwise.nil, ?_⟩, ?_⟩
  · rintro attempt ⟨⟩
  · rintro message ⟨⟩
  · rintro clear snapshot ⟨⟩

section

variable (sound : world.ChatSound tools)

include sound

theorem evolves (retains : world.tree.Retains next.tree)
    (attempts : next.attempts = world.attempts)
    (cleared : next.cleared = world.cleared)
    (clears : ∀ clear snapshot, next.clears clear = some snapshot →
      world.clears clear = some snapshot) : next.ChatSound tools := by
  refine ⟨⟨retains.apart, ?_, ?_, ?_⟩, ?_⟩
  · intro attempt member sent success
    rw [attempts] at member
    obtain ⟨message, stored, wrote⟩ := sound.kept attempt member sent success
    exact ⟨message, retains.retained _ _ stored, wrote⟩
  · rw [attempts]
    exact sound.retried
  · intro message member
    rw [cleared] at member
    exact retains.archived _ _ (sound.cleared message member)
  · intro clear snapshot reading message member
    exact retains.retained _ _
      (sound.snapshots clear snapshot (clears clear snapshot reading) message
        member)

theorem stays (tree : next.tree = world.tree)
    (attempts : next.attempts = world.attempts)
    (cleared : next.cleared = world.cleared)
    (clears : next.clears = world.clears) : next.ChatSound tools := by
  apply sound.evolves _ attempts cleared
  · intro clear snapshot reading
    rw [clears] at reading
    exact reading
  · rw [tree]
    exact .refl sound.apart

theorem sends (user : ChatUser) (requestId : String) (text : ModeratedChatText)
    (profile : Bool) (now serverTime : Int) :
    (world.attempted user requestId text profile
      (sendMessage tools user requestId text profile now serverTime
        world.tree)).ChatSound tools := by
  have retains : world.tree.Retains
      (world.attempted user requestId text profile
        (sendMessage tools user requestId text profile now serverTime
          world.tree)).tree := by
    unfold attempted
    cases result : sendMessage tools user requestId text profile now serverTime
        world.tree with
    | error error => exact .refl sound.apart
    | ok sent => exact (retains_sendMessage sound.apart result).1
  refine ⟨⟨retains.apart, ?_, ?_, ?_⟩, ?_⟩
  · intro attempt member sent success
    rcases List.mem_cons.mp member with same | earlier
    · subst same
      unfold attempted
      cases result : sendMessage tools user requestId text profile now
          serverTime world.tree with
      | error error =>
        rw [result] at success
        cases success
      | ok outcome =>
        obtain ⟨retains, named, message, stored, wrote⟩ :=
          retains_sendMessage sound.apart result
        rw [named] at stored
        exact ⟨message, stored, wrote⟩
    · obtain ⟨message, stored, wrote⟩ :=
        sound.kept attempt earlier sent success
      exact ⟨message, retains.retained _ _ stored, wrote⟩
  · refine List.pairwise_cons.mpr ⟨?_, sound.retried⟩
    rintro earlier member ⟨sender, request, contents⟩ ⟨sent, success⟩
    obtain ⟨message, stored, author, hash⟩ :=
      sound.kept earlier member sent success
    rw [← sender, ← request] at stored
    have same : requestHash tools earlier.user.uid earlier.requestId
        earlier.text = requestHash tools user.uid requestId text := by
      unfold requestHash
      rw [← sender, ← request, ← contents]
    have retry := @sendMessage_of_retained tools user requestId text profile
      now serverTime world.tree message stored (author.trans sender.symm)
      (hash.trans same)
    rw [retry]
    unfold Attempt.permitted
    simp only
    cases privilegedSender user world.tree.session || profile with
    | false => exact ⟨rfl, fun impossible => absurd impossible (by decide)⟩
    | true => exact ⟨rfl, fun _ => rfl⟩
  · intro message member
    exact retains.archived _ _ (sound.cleared message member)
  · intro clear snapshot reading message member
    exact retains.retained _ _
      (sound.snapshots clear snapshot reading message member)

theorem reading (clear : Nat)
    (snapshot : Option (List (Sigma fun _ : String => ChatMessage)))
    (stored : ∀ messages, snapshot = some messages → ∀ message ∈ messages,
      world.tree.retained message.1 = some message.2) :
    ({ world with
      clears := Function.update world.clears clear snapshot } :
        RideWorld).ChatSound tools := by
  refine ⟨⟨sound.apart, sound.kept, sound.retried, sound.cleared⟩, ?_⟩
  intro other pending found message member
  simp only at found
  by_cases same : other = clear
  · rw [same, Function.update_self] at found
    exact stored pending found message member
  · rw [Function.update_of_ne same] at found
    exact sound.snapshots other pending found message member

theorem clearing {clear : Nat}
    {snapshot : List (Sigma fun _ : String => ChatMessage)}
    (reading : world.clears clear = some snapshot) :
    ({ world with
      tree := snapshot.foldl RideTree.archive world.tree
      clears := Function.update world.clears clear none
      cleared := snapshot ++ world.cleared } : RideWorld).ChatSound
        tools := by
  obtain ⟨retains, archived⟩ := RideTree.retains_foldl_archive sound.apart
    (sound.snapshots clear snapshot reading)
  have moved : ({ world with
      tree := snapshot.foldl RideTree.archive world.tree
      cleared := snapshot ++ world.cleared } : RideWorld).ChatSound
        tools := by
    refine ⟨⟨retains.apart, ?_, sound.retried, ?_⟩, ?_⟩
    · intro attempt member sent success
      obtain ⟨message, stored, wrote⟩ :=
        sound.kept attempt member sent success
      exact ⟨message, retains.retained _ _ stored, wrote⟩
    · intro message member
      rcases List.mem_append.mp member with now | before
      · exact archived message now
      · exact retains.archived _ _ (sound.cleared message before)
    · intro other pending found message member
      exact retains.retained _ _
        (sound.snapshots other pending found message member)
  apply moved.reading clear none
  rintro messages ⟨⟩

theorem advances {sessionId : String} {deletion : Nat} {phase : Deletion}
    (taken : world.advanced sessionId deletion phase = some next) :
    next.ChatSound tools := by
  cases phase with
  | found | checked | queried projections | marked kind =>
    cases taken
    exact sound.stays rfl rfl rfl rfl
  | deleting kind rest =>
    simp only [advanced] at taken
    split at taken
    · cases kind <;> cases taken <;> exact sound.stays rfl rfl rfl rfl
    · cases taken
  | projecting projections =>
    simp only [advanced] at taken
    split at taken
    · cases taken
      exact sound.stays rfl rfl rfl rfl
    · cases taken
      exact sound.stays rfl rfl rfl rfl
  | unmarking kind =>
    cases kind <;> cases taken <;> exact sound.stays rfl rfl rfl rfl

end

theorem step {sessionId : String} {label : RideLabel}
    (sound : world.ChatSound tools)
    (keeps : ∀ deletion path, label ≠ .delete deletion path)
    (taken : RideWorld.step tools sessionId world label = some next) :
    next.ChatSound tools := by
  cases label with
  | send user requestId text profile now serverTime =>
    cases taken
    exact sound.sends user requestId text profile now serverTime
  | readMessages clear =>
    simp only [RideWorld.step] at taken
    split at taken
    · cases taken
      apply sound.reading
      rintro messages ⟨⟩ message member
      have found := Collection.mem_matching_iff.mp
        (List.mem_of_mem_take member)
      unfold RideTree.retained
      rw [found.1]
      rfl
    · cases taken
  | clearMessages clear =>
    obtain ⟨snapshot, reading, taken⟩ := Option.bind_eq_some_iff.mp taken
    simp only [Chat.clearMessages] at taken
    split at taken
    · cases taken
      apply sound.reading
      rintro messages ⟨⟩
    · rename_i tree cleared
      cases taken
      split at cleared
      · cases cleared
      · cases cleared
        exact sound.clearing reading
  | stopClearing clear =>
    cases taken
    apply sound.reading
    rintro messages ⟨⟩
  | change session trip =>
    obtain ⟨old, found, taken⟩ := Option.bind_eq_some_iff.mp taken
    obtain ⟨_, _, taken⟩ := Option.bind_eq_some_iff.mp taken
    cases taken
    exact sound.evolves ⟨sound.apart, fun _ _ => id, fun _ _ => id⟩ rfl rfl
      fun _ _ => id
  | dropTrip | stop =>
    cases taken
    exact sound.stays rfl rfl rfl rfl
  | findRide deletion =>
    obtain ⟨session, found, taken⟩ := Option.bind_eq_some_iff.mp taken
    obtain ⟨_, _, taken⟩ := Option.bind_eq_some_iff.mp taken
    cases taken
    exact sound.stays rfl rfl rfl rfl
  | findJob | deleteHistory =>
    simp only [RideWorld.step] at taken
    split at taken
    · cases taken
      exact sound.stays rfl rfl rfl rfl
    · cases taken
  | advance deletion =>
    obtain ⟨phase, found, taken⟩ := Option.bind_eq_some_iff.mp taken
    exact sound.advances taken
  | delete deletion path => exact absurd rfl (keeps deletion path)

end ChatSound

def keepsChat : RideLabel → Bool
  | .delete _ _ => false
  | _ => true

end RideWorld

/-- **A chat message is stored once**, while no history is deleted: it is in the
chat or in the archive and never in both, and a later attempt to send it writes
nothing and succeeds if its sender is privileged or has a passenger profile. -/
theorem messages_are_stored_once (tools : ChatTools) (sessionId : String)
    (session : ChatSession) (completedTrips : Collection CompletedTrip)
    {last : RideWorld}
    (steps : System.Steps (RideWorld.step tools sessionId)
      (fun _ label => RideWorld.keepsChat label = true)
      (.start { session := some session } completedTrips) last) :
    last.StoredOnce tools Attempt.permitted := by
  have sound : last.ChatSound tools := by
    apply steps.invariant
      (RideWorld.ChatSound.start session completedTrips)
    intro world label next holds keeps taken
    apply holds.step _ taken
    intro deletion path same
    rw [same] at keeps
    cases keeps
  exact sound.toStoredOnce

/-- Each message is stored once, and every later attempt succeeds. -/
def MessagesAreStoredOnce (tools : ChatTools) (sessionId : String) : Prop :=
  ∀ (session : ChatSession) (completedTrips : Collection CompletedTrip)
    (last : RideWorld),
    System.Steps (RideWorld.step tools sessionId)
      (fun _ label => RideWorld.keepsChat label = true)
      (.start { session := some session } completedTrips) last →
    last.StoredOnce tools fun _ => true

/-- The digests of one user's first request. -/
def greetingTools : ChatTools where
  stableHash text :=
    if text = "u" ++ nul ++ "request_12345678" then
      "0b7230e3f1e83bf808a45cc1139f349b992d8bf844c81b0a7a7cc3a60f3ba491"
    else if text = "u" ++ nul ++ "request_12345678" ++ nul ++ "Hello" then
      "f915f33afe2e6ba7968a810e6c2a2513f9ebf11e5c3191ca2ebc59194b096aa4"
    else text
  moderateChatText text :=
    some { text, normalized := text, censored := false }

def greeting : ModeratedChatText where
  text := "Hello"
  normalized := "Hello"
  censored := false

def activeSession : ChatSession where
  status := .active

/-- An administrator's message is cleared while it is sent again. -/
def greetingCleared (profile : Bool) : List RideLabel :=
  [.send { uid := "u", isAdmin := true } "request_12345678" greeting true 0 0,
    .readMessages 0, .readMessages 1, .clearMessages 0,
    .send { uid := "u" } "request_12345678" greeting profile 1 1,
    .clearMessages 1]

theorem messages_are_stored_once_cleared :
    ∃ last : RideWorld, last.attempts.length = 2 ∧ last.cleared.length = 2 ∧
      last.StoredOnce greetingTools Attempt.permitted := by
  have decided :
      ((RideWorld.step greetingTools "s").run
        (fun _ label => RideWorld.keepsChat label)
        (.start { session := some activeSession } ∅)
        (greetingCleared true)).any
        (fun last => last.attempts.length == 2 &&
          last.cleared.length == 2) = true := by
    decide +kernel
  obtain ⟨last, steps, ends⟩ := System.exists_of_run decided
  rw [Bool.and_eq_true, beq_iff_eq, beq_iff_eq] at ends
  exact ⟨last, ends.1, ends.2,
    messages_are_stored_once greetingTools "s" _ _ steps⟩

/-- Without authority and profile the retry is refused. -/
theorem retry_without_profile :
    ¬ MessagesAreStoredOnce greetingTools "s" := by
  intro once
  have decided :
      ((RideWorld.step greetingTools "s").run
        (fun _ label => RideWorld.keepsChat label)
        (.start { session := some activeSession } ∅)
        (greetingCleared false)).any
        (fun last => last.attempts.head?.any fun later =>
          last.attempts.tail.any fun earlier =>
            decide (later.repeats earlier) &&
              earlier.outcome.toOption.isSome &&
              later.outcome.toOption.isNone) = true := by
    decide +kernel
  obtain ⟨last, steps, ends⟩ := System.exists_of_run decided
  have retried := (once _ _ last steps).retried
  obtain ⟨later, latest, ends⟩ := (Option.any_eq_true _ _).mp ends
  obtain ⟨rest, attempts⟩ := List.head?_eq_some_iff.mp latest
  rw [attempts] at ends retried
  obtain ⟨earlier, member, ends⟩ := List.any_eq_true.mp ends
  rw [Bool.and_eq_true, Bool.and_eq_true] at ends
  obtain ⟨⟨repeats, success⟩, refused⟩ := ends
  have sent : ∃ sent, earlier.outcome = .ok sent := by
    cases outcome : earlier.outcome with
    | ok sent => exact ⟨sent, rfl⟩
    | error error =>
      rw [outcome] at success
      cases success
  have answered := ((List.pairwise_cons.mp retried).1 earlier member
    (of_decide_eq_true repeats) sent).2 rfl
  rw [answered] at refused
  cases refused

end Eki.Chat
