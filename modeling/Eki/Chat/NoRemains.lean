import Eki.Chat.RideHistory

/-!
# A deleted ride leaves nothing behind

An ended ride takes no messages any more.  Where no clearing commits while the
job of the retention sweep stands either, its documents only become fewer, and
the last job goes when there are none.
-/

namespace Eki.Chat

open Documents Transition
open Option (all_some bind_eq_some_iff)

/-! ## Documents that go -/

namespace RideTree

variable {tree : RideTree}

/-- No document is left. -/
def Empty (tree : RideTree) : Prop :=
  ∀ path, tree.exist path = false

theorem mem_paths {path : DocPath} (there : tree.exist path = true) :
    path ∈ tree.paths := by
  unfold paths
  simp only [List.mem_append, List.mem_map]
  cases path with
  | session =>
    left; left; left; left
    unfold exist at there
    rw [if_pos there]
    exact List.mem_singleton_self _
  | message id =>
    left; left; left; right
    exact ⟨id, AList.mem_keys.mpr (AList.lookup_isSome.mp there), rfl⟩
  | archivedMessage id =>
    left; left; right
    exact ⟨id, AList.mem_keys.mpr (AList.lookup_isSome.mp there), rfl⟩
  | messageRateLimit uid =>
    left; right
    exact ⟨uid, AList.mem_keys.mpr (AList.lookup_isSome.mp there), rfl⟩
  | other path =>
    right
    exact ⟨path, List.contains_iff_mem.mp there, rfl⟩

theorem isSome_of_erase {α : Type} {documents : Collection α}
    {id other : String}
    (there : ((documents.erase id).lookup other).isSome = true) :
    (documents.lookup other).isSome = true ∧ other ≠ id := by
  have different : other ≠ id := by
    intro same
    rw [same, AList.lookup_erase] at there
    cases there
  rw [AList.lookup_erase_ne different] at there
  exact ⟨there, different⟩

/-- A deletion takes one document. -/
theorem exist_delete {path other : DocPath}
    (there : (tree.delete path).exist other = true) :
    tree.exist other = true ∧ other ≠ path := by
  by_cases same : other = path
  · subst same
    cases other with
    | session => cases there
    | message id | archivedMessage id | messageRateLimit id =>
      exact absurd rfl (isSome_of_erase there).2
    | other path =>
      have member := List.contains_iff_mem.mp there
      have kept := (List.mem_filter.mp member).2
      exact absurd rfl (bne_iff_ne.mp kept)
  · refine ⟨?_, same⟩
    cases path <;> cases other
    case message.message | archivedMessage.archivedMessage |
        messageRateLimit.messageRateLimit =>
      exact (isSome_of_erase there).1
    case other.other =>
      have member := List.contains_iff_mem.mp there
      exact List.contains_iff_mem.mpr (List.mem_filter.mp member).1
    all_goals first | exact there | exact absurd rfl same

theorem session_foldl_archive
    (snapshot : List (Sigma fun _ : String => ChatMessage))
    (tree : RideTree) :
    (snapshot.foldl archive tree).session = tree.session := by
  induction snapshot generalizing tree with
  | nil => rfl
  | cons message rest induction => exact induction (tree.archive message)

theorem sendMessage_of_ended {tools : ChatTools} {user : ChatUser}
    {requestId : String} {text : ModeratedChatText} {profile : Bool}
    {now serverTime : Int} (ended : tree.ended = true) {sent : SentMessage}
    {after : RideTree}
    (success : sendMessage tools user requestId text profile now serverTime
      tree = .ok (sent, after)) : after = tree := by
  unfold sendMessage at success
  simp only at success
  split at success
  · cases success
  · split at success
    · split at success
      · cases success
      · cases success
        rfl
    · split at success
      · cases success
      · rename_i session found
        have closed : chatStatus session.status = false := by
          unfold RideTree.ended at ended
          rw [found, all_some] at ended
          cases status : session.status <;> rw [status] at ended <;>
            first | rfl | cases ended
        split at success
        · cases success
        · rename_i nextSentAt admitted
          unfold admitMessage at admitted
          rw [closed] at admitted
          cases admitted

end RideTree

namespace RideWorld

variable {tools : ChatTools} {sessionId : String} {world next : RideWorld}

def sparesRetention (world : RideWorld) : RideLabel → Bool
  | .clearMessages _ =>
    !world.retentionJob || world.manualJob || world.tree.session.isNone
  | _ => true

/-- The ride was deleted only after its end; once no job is left, nor is a
document, nor, after a manual deletion, a completed trip. -/
structure NoRemains (sessionId : String) (world : RideWorld) : Prop where
  early : world.deletedEarly = false
  documents : world.began = true → world.manualJob = false →
    world.retentionJob = false → world.tree.Empty
  trips : world.manualBegan = true → world.manualJob = false →
    world.projections sessionId = []

/-! ## The invariant -/

/-- The completed trips that a deletion still knows of. -/
def Covers (sessionId : String) (world : RideWorld)
    (projections : List String) : Prop :=
  ∀ id ∈ world.projections sessionId, id ∈ projections

def KindCovers (sessionId : String) (world : RideWorld) :
    DeletionKind → Prop
  | .manual projections => Covers sessionId world projections
  | .retention => True

def PhaseSound (sessionId : String) (world : RideWorld) : Deletion → Prop
  | .found | .checked => world.tree.ended = true
  | .queried projections =>
    world.tree.ended = true ∧ Covers sessionId world projections
  | .marked kind => world.began = true ∧ KindCovers sessionId world kind
  | .deleting kind rest =>
    world.began = true ∧ KindCovers sessionId world kind ∧
      ∀ path, world.tree.exist path = true → path ∈ rest
  | .projecting projections =>
    world.began = true ∧ world.tree.Empty ∧ Covers sessionId world projections
  | .unmarking (.manual _) =>
    world.began = true ∧ world.tree.Empty ∧ Covers sessionId world []
  | .unmarking .retention => world.began = true ∧ world.tree.Empty

/-- What a step may do: an ended ride stays ended and gets no completed trip,
and one that is being deleted gets no document. -/
structure Declines (sessionId : String) (world next : RideWorld) : Prop where
  ended : world.tree.ended = true → next.tree.ended = true
  began : world.began = true → next.began = true
  documents : world.began = true → ∀ path, next.tree.exist path = true →
    world.tree.exist path = true
  trips : world.tree.ended = true → ∀ id ∈ next.projections sessionId,
    id ∈ world.projections sessionId

namespace Declines

variable (declines : world.Declines sessionId next)

include declines

theorem covers (ended : world.tree.ended = true) {projections : List String}
    (covers : Covers sessionId world projections) :
    Covers sessionId next projections := by
  intro id member
  exact covers id (declines.trips ended id member)

theorem kindCovers (ended : world.tree.ended = true) {kind : DeletionKind}
    (covers : KindCovers sessionId world kind) :
    KindCovers sessionId next kind := by
  cases kind with
  | manual projections => exact declines.covers ended covers
  | retention => trivial

theorem empty (began : world.began = true) (empty : world.tree.Empty) :
    next.tree.Empty := by
  intro path
  rw [← Bool.not_eq_true]
  intro there
  have before := declines.documents began path there
  rw [empty path] at before
  cases before

theorem phase (ended : world.began = true → world.tree.ended = true)
    {phase : Deletion} (sound : PhaseSound sessionId world phase) :
    PhaseSound sessionId next phase := by
  cases phase with
  | found | checked => exact declines.ended sound
  | queried projections =>
    exact ⟨declines.ended sound.1, declines.covers sound.1 sound.2⟩
  | marked kind =>
    exact ⟨declines.began sound.1, declines.kindCovers (ended sound.1) sound.2⟩
  | deleting kind rest =>
    obtain ⟨began, covers, all⟩ := sound
    refine ⟨declines.began began, declines.kindCovers (ended began) covers, ?_⟩
    intro path there
    exact all path (declines.documents began path there)
  | projecting projections =>
    obtain ⟨began, empty, covers⟩ := sound
    exact ⟨declines.began began, declines.empty began empty,
      declines.covers (ended began) covers⟩
  | unmarking kind =>
    cases kind with
    | manual projections =>
      obtain ⟨began, empty, covers⟩ := sound
      exact ⟨declines.began began, declines.empty began empty,
        declines.covers (ended began) covers⟩
    | retention =>
      exact ⟨declines.began sound.1, declines.empty sound.1 sound.2⟩

end Declines

structure RideSound (sessionId : String) (world : RideWorld) : Prop where
  ended : world.began = true → world.tree.ended = true
  jobs : world.began = true →
    world.manualJob = true ∨ world.retentionJob = true ∨ world.tree.Empty
  manual : world.manualBegan = true →
    world.manualJob = true ∨ Covers sessionId world []
  began : world.manualBegan = true → world.began = true
  marked : world.retentionJob = true → world.began = true
  phases : ∀ deletion phase, world.deletions deletion = some phase →
    PhaseSound sessionId world phase
  early : world.deletedEarly = false

namespace RideSound

theorem toNoRemains (sound : world.RideSound sessionId) :
    world.NoRemains sessionId := by
  refine ⟨sound.early, ?_, ?_⟩
  · intro began manual retention
    rcases sound.jobs began with job | job | empty
    · rw [job] at manual
      cases manual
    · rw [job] at retention
      cases retention
    · exact empty
  · intro began manual
    rcases sound.manual began with job | covers
    · rw [job] at manual
      cases manual
    · exact List.eq_nil_iff_forall_not_mem.mpr fun id member =>
        List.not_mem_nil (covers id member)

theorem start (tree : RideTree) (completedTrips : Collection CompletedTrip) :
    (RideWorld.start tree completedTrips).RideSound sessionId := by
  refine ⟨?_, ?_, ?_, ?_, ?_, ?_, rfl⟩
  · rintro ⟨⟩
  · rintro ⟨⟩
  · rintro ⟨⟩
  · rintro ⟨⟩
  · rintro ⟨⟩
  · rintro deletion phase ⟨⟩

theorem declines (sound : world.RideSound sessionId)
    (declines : world.Declines sessionId next)
    (began : next.began = world.began)
    (manualBegan : next.manualBegan = world.manualBegan)
    (manualJob : next.manualJob = world.manualJob)
    (retentionJob : next.retentionJob = world.retentionJob)
    (deletions : next.deletions = world.deletions)
    (early : next.deletedEarly = world.deletedEarly) :
    next.RideSound sessionId := by
  refine ⟨?_, ?_, ?_, ?_, ?_, ?_, early.trans sound.early⟩
  · rw [began]
    intro began
    exact declines.ended (sound.ended began)
  · rw [began, manualJob, retentionJob]
    intro began
    rcases sound.jobs began with job | job | empty
    · exact .inl job
    · exact .inr (.inl job)
    · exact .inr (.inr (declines.empty began empty))
  · rw [manualBegan, manualJob]
    intro began
    rcases sound.manual began with job | covers
    · exact .inl job
    · exact .inr
        (declines.covers (sound.ended (sound.began began)) covers)
  · rw [manualBegan, began]
    exact sound.began
  · rw [retentionJob, began]
    exact sound.marked
  · rw [deletions]
    intro deletion phase found
    exact declines.phase sound.ended (sound.phases deletion phase found)

theorem setDeletion (sound : world.RideSound sessionId) (deletion : Nat)
    {phase : Option Deletion}
    (phaseSound : ∀ reached, phase = some reached →
      PhaseSound sessionId world reached) :
    (world.setDeletion deletion phase).RideSound sessionId := by
  refine ⟨sound.ended, sound.jobs, sound.manual, sound.began, sound.marked,
    ?_, sound.early⟩
  intro other reached found
  simp only [RideWorld.setDeletion] at found
  by_cases same : other = deletion
  · rw [same, Function.update_self] at found
    exact phaseSound reached found
  · rw [Function.update_of_ne same] at found
    exact sound.phases other reached found

theorem marks (sound : world.RideSound sessionId)
    (ended : world.tree.ended = true) (manual : Bool) :
    ({ world with
      manualJob := manual || world.manualJob
      retentionJob := !manual || world.retentionJob
      began := true
      manualBegan := manual || world.manualBegan } : RideWorld).RideSound
        sessionId := by
  refine ⟨fun _ => ended, ?_, ?_, fun _ => rfl, fun _ => rfl, ?_, sound.early⟩
  · intro began
    cases manual with
    | true => exact .inl rfl
    | false => exact .inr (.inl rfl)
  · intro began
    cases manual with
    | true => exact .inl rfl
    | false => exact sound.manual began
  · intro deletion phase found
    have declines : world.Declines sessionId
        { world with
          manualJob := manual || world.manualJob
          retentionJob := !manual || world.retentionJob
          began := true
          manualBegan := manual || world.manualBegan } :=
      ⟨id, fun _ => rfl, fun _ _ => id, fun _ _ => id⟩
    exact declines.phase sound.ended (sound.phases deletion phase found)

theorem unmarks (sound : world.RideSound sessionId) (manual : Bool)
    (empty : world.tree.Empty)
    (covers : manual = true → Covers sessionId world []) :
    ({ world with
      manualJob := !manual && world.manualJob
      retentionJob := manual && world.retentionJob } : RideWorld).RideSound
        sessionId := by
  have declines : world.Declines sessionId
      { world with
        manualJob := !manual && world.manualJob
        retentionJob := manual && world.retentionJob } :=
    ⟨id, id, fun _ _ => id, fun _ _ => id⟩
  refine ⟨sound.ended, fun _ => .inr (.inr empty), ?_, sound.began, ?_, ?_,
    sound.early⟩
  · intro began
    cases manual with
    | true => exact .inr (covers rfl)
    | false => exact sound.manual began
  · intro marked
    cases manual with
    | true => exact sound.marked marked
    | false => cases marked
  · intro deletion phase found
    exact declines.phase sound.ended (sound.phases deletion phase found)

theorem mem_projections_of_erase {id dropped : String}
    (member : id ∈ ({ world with
      completedTrips := world.completedTrips.erase dropped } :
        RideWorld).projections sessionId) :
    id ∈ world.projections sessionId ∧ id ≠ dropped := by
  unfold RideWorld.projections at member ⊢
  obtain ⟨trip, found, same⟩ := List.mem_map.mp member
  obtain ⟨stored, meets⟩ := List.mem_filter.mp found
  obtain ⟨tripId, document⟩ := trip
  have lookup := Collection.mem_entries_iff.mp stored
  have different : tripId ≠ dropped := by
    intro equal
    rw [equal, AList.lookup_erase] at lookup
    cases lookup
  rw [AList.lookup_erase_ne different] at lookup
  rw [← same]
  exact ⟨List.mem_map.mpr ⟨⟨tripId, document⟩,
    List.mem_filter.mpr ⟨Collection.mem_entries_iff.mpr lookup, meets⟩, rfl⟩,
    different⟩

theorem mem_projections_of_erases {id : String} (dropped : List String)
    {trips : Collection CompletedTrip}
    (member : id ∈ ({ world with
      completedTrips := dropped.foldl (fun trips id => trips.erase id) trips } :
        RideWorld).projections sessionId) :
    id ∈ ({ world with completedTrips := trips } :
        RideWorld).projections sessionId ∧ id ∉ dropped := by
  induction dropped generalizing trips with
  | nil => exact ⟨member, List.not_mem_nil⟩
  | cons first rest induction =>
    obtain ⟨later, apart⟩ := induction member
    obtain ⟨stored, different⟩ := @mem_projections_of_erase sessionId
      { world with completedTrips := trips } id first later
    exact ⟨stored, List.not_mem_cons_of_ne_of_not_mem different apart⟩

theorem drops (sound : world.RideSound sessionId) (dropped : List String) :
    ({ world with
      completedTrips :=
        dropped.foldl (fun trips id => trips.erase id)
          world.completedTrips } : RideWorld).RideSound sessionId := by
  have declines : world.Declines sessionId
      { world with
        completedTrips :=
          dropped.foldl (fun trips id => trips.erase id)
            world.completedTrips } := by
    refine ⟨id, id, fun _ _ => id, ?_⟩
    intro ended id member
    exact (mem_projections_of_erases dropped member).1
  exact sound.declines declines rfl rfl rfl rfl rfl rfl

theorem advances (sound : world.RideSound sessionId) {deletion : Nat}
    {phase : Deletion} (found : world.deletions deletion = some phase)
    (taken : world.advanced sessionId deletion phase = some next) :
    next.RideSound sessionId := by
  have relies := sound.phases deletion phase found
  cases phase with
  | found =>
    cases taken
    apply (sound.marks relies false).setDeletion
    rintro reached ⟨⟩
    exact ⟨rfl, trivial⟩
  | checked =>
    cases taken
    apply sound.setDeletion
    rintro reached ⟨⟩
    exact ⟨relies, fun _ => id⟩
  | queried projections =>
    cases taken
    apply (sound.marks relies.1 true).setDeletion
    rintro reached ⟨⟩
    exact ⟨rfl, relies.2⟩
  | marked kind =>
    cases taken
    apply sound.setDeletion
    rintro reached ⟨⟩
    exact ⟨relies.1, relies.2, fun _ => RideTree.mem_paths⟩
  | deleting kind rest =>
    obtain ⟨began, covers, all⟩ := relies
    simp only [advanced] at taken
    split at taken
    · rename_i none
      have empty : world.tree.Empty := by
        intro path
        rw [← Bool.not_eq_true]
        intro there
        have member := all path there
        rw [List.isEmpty_iff.mp none] at member
        cases member
      cases kind with
      | manual projections =>
        cases taken
        apply sound.setDeletion
        rintro reached ⟨⟩
        exact ⟨began, empty, covers⟩
      | retention =>
        cases taken
        apply sound.setDeletion
        rintro reached ⟨⟩
        exact ⟨began, empty⟩
    · cases taken
  | projecting projections =>
    obtain ⟨began, empty, covers⟩ := relies
    simp only [advanced] at taken
    split at taken
    · rename_i none
      cases taken
      apply sound.setDeletion
      rintro reached ⟨⟩
      rw [List.isEmpty_iff.mp none] at covers
      exact ⟨began, empty, covers⟩
    · cases taken
      apply (sound.drops (projections.take deleteBatchSize)).setDeletion
      rintro reached ⟨⟩
      refine ⟨began, empty, ?_⟩
      intro id member
      obtain ⟨stored, apart⟩ := mem_projections_of_erases _ member
      have known := covers id stored
      rw [← List.take_append_drop deleteBatchSize projections,
        List.mem_append] at known
      exact known.resolve_left apart
  | unmarking kind =>
    cases kind with
    | manual projections =>
      cases taken
      obtain ⟨began, empty, covers⟩ := relies
      apply (sound.unmarks true empty fun _ => covers).setDeletion
      rintro reached ⟨⟩
    | retention =>
      cases taken
      obtain ⟨began, empty⟩ := relies
      apply (sound.unmarks false empty fun impossible =>
        absurd impossible Bool.false_ne_true).setDeletion
      rintro reached ⟨⟩

theorem sends (sound : world.RideSound sessionId) (user : ChatUser)
    (requestId : String) (text : ModeratedChatText) (profile : Bool)
    (now serverTime : Int) :
    (world.attempted user requestId text profile
      (sendMessage tools user requestId text profile now serverTime
        world.tree)).RideSound sessionId := by
  have unchanged (ended : world.tree.ended = true) :
      (world.attempted user requestId text profile
        (sendMessage tools user requestId text profile now serverTime
          world.tree)).tree = world.tree := by
    unfold attempted
    cases result : sendMessage tools user requestId text profile now serverTime
        world.tree with
    | error error => rfl
    | ok sent => exact RideTree.sendMessage_of_ended ended result
  have declines : world.Declines sessionId
      (world.attempted user requestId text profile
        (sendMessage tools user requestId text profile now serverTime
          world.tree)) := by
    refine ⟨?_, id, ?_, fun _ _ => id⟩
    · intro ended
      rw [unchanged ended]
      exact ended
    · intro began path there
      rw [unchanged (sound.ended began)] at there
      exact there
  exact sound.declines declines rfl rfl rfl rfl rfl rfl

theorem clears (sound : world.RideSound sessionId) {clear : Nat}
    {snapshot : List (Sigma fun _ : String => ChatMessage)}
    {tree : RideTree}
    (spares : world.sparesRetention (.clearMessages clear) = true)
    (commits : Chat.clearMessages world.tree world.manualJob snapshot =
      some tree)
    (clears : Nat → Option (List (Sigma fun _ : String => ChatMessage))) :
    ({ world with
      tree := tree
      clears := clears
      cleared := snapshot ++ world.cleared } : RideWorld).RideSound
        sessionId := by
  unfold Chat.clearMessages at commits
  split at commits
  · cases commits
  · rename_i guarded
    cases commits
    rw [Bool.or_eq_true, not_or, Bool.not_eq_true, Bool.not_eq_true] at guarded
    have session := RideTree.session_foldl_archive snapshot world.tree
    have unbegun : world.began ≠ true := by
      intro began
      rcases sound.jobs began with job | job | empty
      · rw [guarded.2] at job
        cases job
      · unfold sparesRetention at spares
        simp only [guarded.1, guarded.2, job] at spares
        cases spares
      · have gone : world.tree.session.isSome = false := empty .session
        rw [← Option.not_isSome, gone] at guarded
        cases guarded.1
    have declines : world.Declines sessionId
        { world with
          tree := snapshot.foldl RideTree.archive world.tree
          clears := clears
          cleared := snapshot ++ world.cleared } := by
      refine ⟨?_, id, fun began => absurd began unbegun, fun _ _ => id⟩
      intro ended
      unfold RideTree.ended
      simp only
      rw [session]
      exact ended
    exact sound.declines declines rfl rfl rfl rfl rfl rfl

theorem changes (sound : world.RideSound sessionId) {old : ChatSession}
    (session : ChatSession) (trip : Option (String × CompletedTrip))
    (found : world.tree.session = some old)
    (stays : old.status.terminal = true →
      session.status.terminal = true ∧ trip.isNone = true) :
    ({ world with
      tree := { world.tree with session := some session }
      completedTrips :=
        trip.elim world.completedTrips fun trip =>
          world.completedTrips.insert trip.1 trip.2 } : RideWorld).RideSound
        sessionId := by
  have declines : world.Declines sessionId
      { world with
        tree := { world.tree with session := some session }
        completedTrips :=
          trip.elim world.completedTrips fun trip =>
            world.completedTrips.insert trip.1 trip.2 } := by
    refine ⟨?_, id, ?_, ?_⟩
    · intro ended
      unfold RideTree.ended at ended ⊢
      rw [found, all_some] at ended
      rw [all_some]
      exact (stays ended).1
    · intro began path there
      cases path with
      | session =>
        unfold RideTree.exist
        rw [found]
        rfl
      | message id | archivedMessage id | messageRateLimit id | other id =>
        exact there
    · intro ended id member
      unfold RideTree.ended at ended
      rw [found, all_some] at ended
      cases trip with
      | none => exact member
      | some trip => cases (stays ended).2
  exact sound.declines declines rfl rfl rfl rfl rfl rfl

theorem deletes (sound : world.RideSound sessionId) {deletion : Nat}
    {kind : DeletionKind} {rest : List DocPath}
    (found : world.deletions deletion = some (.deleting kind rest))
    (path : DocPath) :
    ({ world with
      tree := world.tree.delete path
      deletedEarly := world.deletedEarly ||
        (path == DocPath.session && !world.tree.ended)
      }.setDeletion deletion
        (some (.deleting kind (rest.filter fun other => other != path)))
        ).RideSound sessionId := by
  obtain ⟨began, covers, all⟩ := sound.phases deletion _ found
  have ended := sound.ended began
  have declines : world.Declines sessionId
      { world with
        tree := world.tree.delete path
        deletedEarly := world.deletedEarly ||
          (path == DocPath.session && !world.tree.ended) } := by
    refine ⟨?_, id, ?_, fun _ _ => id⟩
    · intro ended
      cases path with
      | session => rfl
      | message id | archivedMessage id | messageRateLimit id | other id =>
        exact ended
    · intro began other there
      exact (RideTree.exist_delete there).1
  have early : (world.deletedEarly ||
      (path == DocPath.session && !world.tree.ended)) =
        world.deletedEarly := by
    rw [ended]
    simp
  apply (sound.declines declines rfl rfl rfl rfl rfl early).setDeletion
  rintro reached ⟨⟩
  refine ⟨began, declines.kindCovers ended covers, ?_⟩
  intro other there
  obtain ⟨before, different⟩ := RideTree.exist_delete there
  exact List.mem_filter.mpr ⟨all other before, bne_iff_ne.mpr different⟩

theorem step {label : RideLabel} (sound : world.RideSound sessionId)
    (spares : world.sparesRetention label = true)
    (taken : RideWorld.step tools sessionId world label = some next) :
    next.RideSound sessionId := by
  cases label with
  | send user requestId text profile now serverTime =>
    cases taken
    exact sound.sends user requestId text profile now serverTime
  | readMessages clear =>
    simp only [RideWorld.step] at taken
    split at taken
    · cases taken
      exact sound.declines ⟨id, id, fun _ _ => id, fun _ _ => id⟩ rfl rfl rfl
        rfl rfl rfl
    · cases taken
  | clearMessages clear =>
    obtain ⟨snapshot, reading, taken⟩ := bind_eq_some_iff.mp taken
    split at taken
    · cases taken
      exact sound.declines ⟨id, id, fun _ _ => id, fun _ _ => id⟩ rfl rfl rfl
        rfl rfl rfl
    · rename_i tree commits
      cases taken
      exact sound.clears spares commits _
  | stopClearing clear =>
    cases taken
    exact sound.declines ⟨id, id, fun _ _ => id, fun _ _ => id⟩ rfl rfl rfl
      rfl rfl rfl
  | change session trip =>
    obtain ⟨old, found, taken⟩ := bind_eq_some_iff.mp taken
    obtain ⟨_, stays, taken⟩ := bind_eq_some_iff.mp taken
    cases taken
    exact sound.changes session trip found (by simpa using stays)
  | dropTrip trip =>
    cases taken
    exact sound.drops [trip]
  | findRide deletion =>
    obtain ⟨session, found, taken⟩ := bind_eq_some_iff.mp taken
    obtain ⟨_, guarded, taken⟩ := bind_eq_some_iff.mp taken
    have ended : session.status.terminal = true ∧
        world.deletions deletion = none := by simpa using guarded
    cases taken
    apply sound.setDeletion
    rintro reached ⟨⟩
    show world.tree.ended = true
    unfold RideTree.ended
    rw [found, all_some]
    exact ended.1
  | findJob deletion =>
    simp only [RideWorld.step] at taken
    split at taken
    · rename_i allowed
      cases taken
      apply sound.setDeletion
      rintro reached ⟨⟩
      rw [Bool.and_eq_true] at allowed
      exact ⟨sound.marked allowed.1, trivial⟩
    · cases taken
  | deleteHistory deletion =>
    simp only [RideWorld.step] at taken
    split at taken
    · rename_i allowed
      cases taken
      apply sound.setDeletion
      rintro reached ⟨⟩
      rw [Bool.and_eq_true] at allowed
      exact allowed.1
    · cases taken
  | advance deletion =>
    obtain ⟨phase, found, taken⟩ := bind_eq_some_iff.mp taken
    exact sound.advances found taken
  | delete deletion path =>
    simp only [RideWorld.step] at taken
    split at taken
    · rename_i kind rest found
      cases taken
      exact sound.deletes found path
    · cases taken
  | stop deletion =>
    cases taken
    apply sound.setDeletion
    rintro reached ⟨⟩

end RideSound

end RideWorld

/-- **A deleted ride leaves nothing behind** in any run in which no clearing
commits on a ride that the retention sweep is deleting. -/
theorem deletion_leaves_no_remains (tools : ChatTools) (sessionId : String)
    (tree : RideTree) (completedTrips : Collection CompletedTrip)
    {last : RideWorld}
    (steps : System.Steps (RideWorld.step tools sessionId)
      (fun world label => world.sparesRetention label = true)
      (.start tree completedTrips) last) :
    last.NoRemains sessionId := by
  have sound : last.RideSound sessionId := by
    apply steps.invariant (RideWorld.RideSound.start tree completedTrips)
    intro world label next holds spares taken
    exact holds.step spares taken
  exact sound.toNoRemains

/-- No clearing and no deletion is under way. -/
def RideWorld.Finished (world : RideWorld) : Prop :=
  ∀ request, world.clears request = none ∧ world.deletions request = none

/-- No run ends with remains. -/
def DeletionLeavesNoRemains (tools : ChatTools) (sessionId : String) : Prop :=
  ∀ (tree : RideTree) (completedTrips : Collection CompletedTrip)
    (last : RideWorld),
    System.Steps (RideWorld.step tools sessionId) (fun _ _ => True)
      (.start tree completedTrips) last →
    last.Finished → last.NoRemains sessionId

def plainTools : ChatTools where
  stableHash text := text
  moderateChatText text :=
    some { text, normalized := text, censored := false }

def endedTree : RideTree where
  session := some { status := .completed }
  messages := (∅ : Collection ChatMessage).insert "m"
    { text := "Hello"
      sender := "passenger"
      senderName := "Passenger"
      senderId := "u"
      requestHash := "h"
      moderated := false
      moderationVersion := 2
      timestamp := 0 }

def endedTrips : Collection CompletedTrip :=
  (∅ : Collection CompletedTrip).insert "s" { sessionId := some "s" }

/-- A deletion stops half way and another takes it up. -/
def deletedTwice : List RideLabel :=
  [.readMessages 0, .deleteHistory 0, .advance 0, .advance 0, .clearMessages 0,
    .advance 0, .delete 0 .session, .stop 0, .deleteHistory 1, .advance 1,
    .advance 1, .advance 1, .delete 1 (.message "m"), .advance 1, .advance 1,
    .advance 1, .advance 1]

theorem deletion_leaves_no_remains_twice :
    ∃ last : RideWorld, last.manualBegan = true ∧ last.manualJob = false ∧
      last.NoRemains "s" := by
  have decided :
      ((RideWorld.step plainTools "s").run
        (fun world label => world.sparesRetention label)
        (.start endedTree endedTrips) deletedTwice).any
        (fun last => last.manualBegan && !last.manualJob) = true := by
    decide +kernel
  obtain ⟨last, steps, ends⟩ := System.exists_of_run decided
  rw [Bool.and_eq_true, Bool.not_eq_true'] at ends
  exact ⟨last, ends.1, ends.2,
    deletion_leaves_no_remains plainTools "s" _ _ steps⟩

def clearedInRetention : Option RideWorld :=
  (RideWorld.step plainTools "s").run (fun _ _ => true)
    (.start endedTree endedTrips)
    [.readMessages 0, .findRide 0, .advance 0, .advance 0, .clearMessages 0,
      .delete 0 .session, .delete 0 (.message "m"), .advance 0, .advance 0]

/-- A clearing archives a message while the sweep deletes the ride. -/
theorem clearing_during_retention :
    ¬ DeletionLeavesNoRemains plainTools "s" := by
  intro leaves
  have decided : clearedInRetention.any (fun last =>
      last.began && !last.manualJob && !last.retentionJob &&
        last.tree.exist (.archivedMessage "m")) = true := by
    decide +kernel
  obtain ⟨last, executed, ends⟩ := (Option.any_eq_true _ _).mp decided
  have finished : last.Finished := by
    intro request
    have told : clearedInRetention.any (fun last =>
        (last.clears request).isNone && (last.deletions request).isNone) =
          true := by
      cases request with
      | zero => decide +kernel
      | succ request => rfl
    rw [executed] at told
    simpa using told
  rw [Bool.and_eq_true, Bool.and_eq_true, Bool.and_eq_true, Bool.not_eq_true',
    Bool.not_eq_true'] at ends
  obtain ⟨⟨⟨began, manual⟩, retention⟩, archived⟩ := ends
  have empty := (leaves _ _ last
    (System.steps_of_run executed fun _ _ _ => trivial) finished).documents
    began manual retention
  rw [empty] at archived
  cases archived

end Eki.Chat
