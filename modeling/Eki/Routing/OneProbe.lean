import Eki.Routing.ProviderCircuit

/-!
# One probe at a time

The handles that may still complete tell whether the circuit probes, and the
completions that count tell when it opens.
-/

namespace Eki.Reroute

open Transition

variable {R : Type} [ClockNumber R]

namespace Provider

/-! ## What the handles tell about the circuit -/

/-- A probe that may still complete. -/
def Probes (provider : Provider R) (index : Nat) : Prop :=
  ∃ handle, provider.handles[index]? = some handle ∧
    handle.probe = true ∧ handle.finished = false

/-- The failures in a row, the newest first. -/
def streak (outcomes : List Bool) : Nat :=
  (outcomes.takeWhile fun success => !success).length

structure Governed (provider : Provider R) : Prop where
  past : ∀ handle ∈ provider.handles,
    handle.generation ≤ provider.circuit.generation
  opened : 0 < provider.circuit.openUntil ↔ 5 ≤ provider.circuit.failures
  counted : provider.circuit.failures = streak provider.outcomes
  probing_iff : provider.circuit.probing = true ↔ ∃ index, Probes provider index
  one : ∀ first second, Probes provider first → Probes provider second →
    first = second
  /-- A probe that may still complete is of this generation, and the circuit
  is open. -/
  current : ∀ handle ∈ provider.handles, handle.probe = true →
    handle.finished = false →
    handle.generation = provider.circuit.generation ∧
      0 < provider.circuit.openUntil
  /-- While the circuit is open only probes are of this generation. -/
  quiet : 0 < provider.circuit.openUntil → ∀ handle ∈ provider.handles,
    handle.finished = false →
    handle.generation = provider.circuit.generation → handle.probe = true

theorem governed_new : Governed (new : Provider R) := by
  constructor
  · intro handle member
    cases member
  · constructor
    · intro positive
      exact absurd positive ClockNumber.not_zero_lt_zero
    · intro many
      cases many
  · rfl
  · constructor
    · intro probing
      cases probing
    · rintro ⟨index, handle, found, -⟩
      cases found
  · rintro first second ⟨handle, found, -⟩ _
    cases found
  · intro handle member
    cases member
  · intro _ handle member
    cases member

variable {provider : Provider R}

variable {index : Nat}

omit [ClockNumber R] in
theorem Governed.mem_of_probes (probes : Probes provider index) :
    ∃ handle ∈ provider.handles, handle.probe = true ∧
      handle.finished = false := by
  obtain ⟨handle, found, probe, unfinished⟩ := probes
  exact ⟨handle, List.mem_of_getElem? found, probe, unfinished⟩

variable {handle : Handle}

omit [ClockNumber R] in
theorem probes_of_mem (member : handle ∈ provider.handles)
    (probe : handle.probe = true) (unfinished : handle.finished = false) :
    ∃ index, Probes provider index := by
  obtain ⟨index, bound, same⟩ := List.mem_iff_getElem.mp member
  refine ⟨index, handle, ?_, probe, unfinished⟩
  rw [List.getElem?_eq_getElem bound, same]

theorem Governed.acquire (governed : Governed provider) (now : R) :
    Governed (provider.acquire now) := by
  unfold Provider.acquire Circuit.acquire
  cases refused : provider.circuit.probing ||
      decide (now < provider.circuit.openUntil) with
  | true =>
    simp only [if_true, Option.toList_none, List.append_nil]
    constructor
    · exact governed.past
    · exact governed.opened
    · exact governed.counted
    · exact governed.probing_iff
    · exact governed.one
    · exact governed.current
    · exact governed.quiet
  | false =>
    rw [Bool.or_eq_false_iff] at refused
    -- Without a probe on its way, the new handle is the only one that may be.
    have none_yet : ∀ index, ¬ Probes provider index := by
      intro index probes
      have probing := governed.probing_iff.mpr ⟨index, probes⟩
      rw [refused.1] at probing
      cases probing
    have no_old : ∀ handle ∈ provider.handles, handle.probe = true →
        handle.finished = false → False := by
      intro handle member probe unfinished
      obtain ⟨index, probes⟩ := probes_of_mem member probe unfinished
      exact none_yet index probes
    simp only [Bool.false_eq_true, if_false, Option.toList_some]
    have last : ∀ index (handle : Handle),
        (provider.handles ++
          [{ probe := decide (0 < provider.circuit.openUntil)
             generation := provider.circuit.generation
             finished := false }])[index]? = some handle →
        handle.probe = true → handle.finished = false →
        index = provider.handles.length ∧ 0 < provider.circuit.openUntil := by
      intro index handle found probe unfinished
      rw [List.getElem?_append] at found
      split at found
      · exact absurd unfinished fun unfinished =>
          no_old handle (List.mem_of_getElem? found) probe unfinished
      · rename_i beyond
        cases offset : index - provider.handles.length with
        | zero =>
          rw [offset] at found
          cases found
          exact ⟨by omega, of_decide_eq_true probe⟩
        | succ more =>
          rw [offset] at found
          cases found
    constructor
    · intro handle member
      rcases List.mem_append.mp member with before | new
      · exact governed.past handle before
      · rw [List.mem_singleton.mp new]
    · exact governed.opened
    · exact governed.counted
    · simp only [refused.1, Bool.or_false, decide_eq_true_eq]
      constructor
      · intro opened
        exact ⟨provider.handles.length, _, List.getElem?_concat_length,
          decide_eq_true opened, rfl⟩
      · rintro ⟨index, handle, found, probe, unfinished⟩
        exact (last index handle found probe unfinished).2
    · rintro first second ⟨handle, found, probe, unfinished⟩
        ⟨other, found', probe', unfinished'⟩
      rw [(last first handle found probe unfinished).1,
        (last second other found' probe' unfinished').1]
    · intro handle member probe unfinished
      rcases List.mem_append.mp member with before | new
      · exact absurd unfinished fun unfinished =>
          no_old handle before probe unfinished
      · rw [List.mem_singleton.mp new] at probe ⊢
        exact ⟨rfl, of_decide_eq_true probe⟩
    · intro opened handle member unfinished generation
      rcases List.mem_append.mp member with before | new
      · exact governed.quiet opened handle before unfinished generation
      · rw [List.mem_singleton.mp new]
        exact decide_eq_true opened

omit [ClockNumber R] in
theorem of_mem_set {handles : List Handle} {other : Handle}
    (member : other ∈ handles.set index { handle with finished := true })
    (unfinished : other.finished = false) : other ∈ handles := by
  rcases List.mem_or_eq_of_mem_set member with before | new
  · exact before
  · rw [new] at unfinished
    cases unfinished

theorem Governed.late (governed : Governed provider)
    (found : provider.handles[index]? = some handle)
    (late : handle.generation ≠ provider.circuit.generation) :
    Governed
      { provider with
        handles :=
          provider.handles.set index { handle with finished := true } } := by
  have bound : index < provider.handles.length :=
    (List.getElem?_eq_some_iff.mp found).1
  have member := List.mem_of_getElem? found
  have same : ∀ other, Probes
      { provider with
        handles :=
          provider.handles.set index { handle with finished := true } }
      other ↔ Probes provider other := by
    intro other
    unfold Probes
    simp only [List.getElem?_set]
    by_cases here : index = other
    · subst here
      rw [if_pos rfl, if_pos bound, found]
      constructor
      · rintro ⟨handle, new, -, unfinished⟩
        cases new
        cases unfinished
      · rintro ⟨old, known, probe, unfinished⟩
        cases known
        exact absurd (governed.current handle member probe unfinished).1 late
    · rw [if_neg here]
  constructor
  · intro other inside
    rcases List.mem_or_eq_of_mem_set inside with before | new
    · exact governed.past other before
    · rw [new]
      exact governed.past handle member
  · exact governed.opened
  · exact governed.counted
  · simp only [same]
    exact governed.probing_iff
  · intro first second left right
    exact governed.one first second ((same first).mp left)
      ((same second).mp right)
  · intro other inside probe unfinished
    exact governed.current other (of_mem_set inside unfinished) probe
      unfinished
  · intro opened other inside unfinished generation
    exact governed.quiet opened other (of_mem_set inside unfinished)
      unfinished generation

section

variable (governed : Governed provider)
  (found : provider.handles[index]? = some handle)
  (unfinished : handle.finished = false)
  (here : handle.generation = provider.circuit.generation)

include governed found unfinished here

/-- No probe is on its way beside a handle of this generation. -/
theorem Governed.alone {other : Nat} (probes : Probes provider other) :
    other = index := by
  have member := List.mem_of_getElem? found
  obtain ⟨probe, inside, is_a, waits⟩ := Governed.mem_of_probes probes
  have opened := (governed.current probe inside is_a waits).2
  exact governed.one other index probes
    ⟨handle, found, governed.quiet opened handle member unfinished here,
      unfinished⟩

theorem Governed.settle (circuit : Circuit R) (outcomes : List Bool)
    (generation : provider.circuit.generation ≤ circuit.generation)
    (opened : 0 < circuit.openUntil ↔ 5 ≤ circuit.failures)
    (counted : circuit.failures = streak outcomes)
    (probing : circuit.probing = false)
    (quiet : circuit.generation = provider.circuit.generation →
      0 < circuit.openUntil → 0 < provider.circuit.openUntil) :
    Governed
      { circuit
        handles :=
          provider.handles.set index { handle with finished := true }
        outcomes } := by
  have none : ∀ other, ¬ Probes
      { circuit
        handles :=
          provider.handles.set index { handle with finished := true }
        outcomes } other := by
    rintro other ⟨probe, stored, is_a, waits⟩
    simp only [List.getElem?_set] at stored
    split at stored
    · split at stored
      · cases stored
        cases waits
      · cases stored
    · rename_i different
      exact different
        (governed.alone found unfinished here
          ⟨probe, stored, is_a, waits⟩).symm
  have past : ∀ other ∈
      provider.handles.set index { handle with finished := true },
      other.generation ≤ provider.circuit.generation := by
    intro other inside
    rcases List.mem_or_eq_of_mem_set inside with before | new
    · exact governed.past other before
    · rw [new]
      exact Nat.le_of_eq here
  constructor
  · intro other inside
    exact Nat.le_trans (past other inside) generation
  · exact opened
  · exact counted
  · constructor
    · intro probes
      rw [probing] at probes
      cases probes
    · rintro ⟨other, probes⟩
      exact absurd probes (none other)
  · intro first second left _
    exact absurd left (none first)
  · intro other inside probe waits
    obtain ⟨index, probes⟩ := probes_of_mem inside probe waits
    exact absurd probes (none index)
  · intro now_open other inside waits same
    have known := past other inside
    have equal : circuit.generation = provider.circuit.generation :=
      Nat.le_antisymm (same ▸ known) generation
    exact governed.quiet (quiet equal now_open) other
      (of_mem_set inside waits) waits (same.trans equal)

end

theorem streak_failure (outcomes : List Bool) :
    streak (false :: outcomes) = streak outcomes + 1 := rfl

theorem Governed.closed (governed : Governed provider)
    (found : provider.handles[index]? = some handle)
    (unfinished : handle.finished = false)
    (here : handle.generation = provider.circuit.generation)
    (kind : handle.probe = false) : provider.circuit.probing = false ∧
      ¬ 0 < provider.circuit.openUntil := by
  have member := List.mem_of_getElem? found
  have shut : ¬ 0 < provider.circuit.openUntil := by
    intro opened
    have probe := governed.quiet opened handle member unfinished here
    rw [kind] at probe
    cases probe
  refine ⟨?_, shut⟩
  cases flag : provider.circuit.probing with
  | false => rfl
  | true =>
    obtain ⟨other, probes⟩ := governed.probing_iff.mp flag
    obtain ⟨probe, inside, is_a, waits⟩ := Governed.mem_of_probes probes
    exact absurd (governed.current probe inside is_a waits).2 shut

theorem Governed.complete (governed : Governed provider) {index : Nat}
    {handle : Handle} (found : provider.handles[index]? = some handle)
    (unfinished : handle.finished = false)
    (here : handle.generation = provider.circuit.generation)
    (success : Option Bool) (draw : Draw R) :
    Governed
      { circuit := provider.circuit.complete handle.probe success draw
        handles :=
          provider.handles.set index { handle with finished := true }
        outcomes := success.toList ++ provider.outcomes } := by
  have member := List.mem_of_getElem? found
  have counted := governed.counted
  have later : 0 < openingEnd (provider.circuit.openings + 1) draw.now
      draw.random :=
    ClockNumber.openingEnd_pos _ _ _ draw.now_nonneg draw.random_nonneg
  cases success with
  | none =>
    apply governed.settle found unfinished here
    · unfold Circuit.complete
      split <;> exact Nat.le_refl _
    · unfold Circuit.complete
      split <;> exact governed.opened
    · unfold Circuit.complete
      split <;> exact counted
    · unfold Circuit.complete
      split
      · rfl
      · rename_i kind
        have kind := Bool.eq_false_iff.mpr kind
        exact (governed.closed found unfinished here kind).1
    · intro _ opened
      unfold Circuit.complete at opened
      split at opened
      · exact opened
      · exact opened
  | some success =>
    cases success with
    | true =>
      have shut : ¬ (0 : R) < 0 := ClockNumber.not_zero_lt_zero
      apply governed.settle found unfinished here
      · unfold Circuit.complete
        split <;> exact Nat.le_refl _
      · constructor
        · intro opened
          exact absurd opened shut
        · intro many
          cases many
      · rfl
      · unfold Circuit.complete
        simp only
        split
        · rfl
        · rename_i kind
          have kind := Bool.eq_false_iff.mpr kind
          exact (governed.closed found unfinished here kind).1
      · intro _ opened
        exact absurd opened shut
    | false =>
      rcases Bool.eq_false_or_eq_true handle.probe with kind | kind
      · have opened := (governed.current handle member kind unfinished).2
        have many := governed.opened.mp opened
        rw [Circuit.complete_failed, if_pos (.inl kind)]
        apply governed.settle found unfinished here
        · exact Nat.le_succ _
        · constructor
          · intro _
            exact Nat.le_succ_of_le many
          · intro _
            exact later
        · exact congrArg (· + 1) counted
        · simp [kind]
        · intro same
          exact absurd same (Nat.succ_ne_self _)
      · obtain ⟨idle, shut⟩ := governed.closed found unfinished here kind
        rw [Circuit.complete_failed]
        split
        · rename_i many
          apply governed.settle found unfinished here
          · exact Nat.le_succ _
          · constructor
            · intro _
              exact many.resolve_left (by simp [kind])
            · intro _
              exact later
          · exact congrArg (· + 1) counted
          · simp [idle]
          · intro same
            exact absurd same (Nat.succ_ne_self _)
        · rename_i few
          apply governed.settle found unfinished here
          · exact Nat.le_refl _
          · constructor
            · intro opened
              exact absurd opened shut
            · intro many
              exact absurd (.inr many) few
          · exact congrArg (· + 1) counted
          · exact idle
          · intro _ opened
            exact opened

variable {success : Option Bool} {draw : Draw R} {next : Provider R}

theorem Governed.finish (governed : Governed provider)
    (taken : provider.finish index success draw = some next) :
    Governed next := by
  unfold Provider.finish at taken
  split at taken
  · cases taken
  · rename_i handle found
    split at taken
    · cases taken
      exact governed
    · rename_i unfinished
      have unfinished := Bool.eq_false_iff.mpr unfinished
      simp only at taken
      split at taken
      · rename_i late
        cases taken
        exact governed.late found late
      · rename_i here
        cases taken
        exact governed.complete found unfinished (not_not.mp here) success draw

theorem Governed.step {label : ProviderLabel R} {next : Provider R}
    (governed : Governed provider)
    (taken : Provider.step provider label = some next) : Governed next := by
  cases label with
  | acquire now =>
    cases taken
    exact governed.acquire now
  | finish index success draw => exact governed.finish taken

/-! ## Openings -/

def Opens (before after : Provider R) : Prop :=
  after.circuit.generation = before.circuit.generation + 1 ∧
    0 < after.circuit.openUntil

def Counts (provider : Provider R) (index : Nat) (handle : Handle) : Prop :=
  provider.handles[index]? = some handle ∧ handle.finished = false ∧
    handle.generation = provider.circuit.generation

theorem finish_of_not_counts (found : provider.handles[index]? = some handle)
    (counts : ¬ Counts provider index handle)
    (taken : provider.finish index success draw = some next) :
    next.circuit = provider.circuit ∧ next.outcomes = provider.outcomes := by
  unfold Provider.finish at taken
  rw [found] at taken
  simp only at taken
  split at taken
  · cases taken
    exact ⟨rfl, rfl⟩
  · rename_i unfinished
    split at taken
    · cases taken
      exact ⟨rfl, rfl⟩
    · rename_i here
      exact absurd
        ⟨found, Bool.eq_false_iff.mpr unfinished, not_not.mp here⟩ counts

theorem finish_of_counts (counts : Counts provider index handle) :
    provider.finish index success draw =
      some
        { circuit := provider.circuit.complete handle.probe success draw
          handles :=
            provider.handles.set index { handle with finished := true }
          outcomes := success.toList ++ provider.outcomes } := by
  obtain ⟨found, unfinished, here⟩ := counts
  unfold Provider.finish
  rw [found]
  simp only [unfinished, Bool.false_eq_true, if_false, here, ne_eq,
    not_true_eq_false]

/-- What a step leaves of the circuit unless it opens. -/
def Steady (before after : Provider R) : Prop :=
  after.circuit.generation = before.circuit.generation ∧
    (0 < after.circuit.openUntil →
      after.circuit.openUntil = before.circuit.openUntil)

theorem not_opens_of_steady {before after : Provider R}
    (steady : Steady before after) : ¬ Opens before after := by
  intro opens
  have same := steady.1.symm.trans opens.1
  exact absurd same.symm (Nat.succ_ne_self _)

theorem Governed.opens_or_steady (governed : Governed provider)
    (counts : Counts provider index handle)
    (taken : provider.finish index success draw = some next) :
    (Opens provider next ∧ success = some false ∧
        (handle.probe = true ∨ streak next.outcomes = 5)) ∨
      (Steady provider next ∧ ¬ (success = some false ∧
        (handle.probe = true ∨ streak next.outcomes = 5))) := by
  obtain ⟨found, unfinished, here⟩ := counts
  rw [finish_of_counts ⟨found, unfinished, here⟩] at taken
  cases taken
  cases success with
  | none =>
    right
    constructor
    · unfold Steady Circuit.complete
      simp only
      split
      · exact ⟨rfl, fun _ => rfl⟩
      · exact ⟨rfl, fun _ => rfl⟩
    · rintro ⟨failed, -⟩
      cases failed
  | some success =>
    cases success with
    | true =>
      right
      constructor
      · have shut : ¬ (0 : R) < 0 := ClockNumber.not_zero_lt_zero
        unfold Steady Circuit.complete
        simp only
        split
        · exact ⟨rfl, fun opened => absurd opened shut⟩
        · exact ⟨rfl, fun opened => absurd opened shut⟩
      · rintro ⟨failed, -⟩
        cases failed
    | false =>
      have later : 0 < openingEnd (provider.circuit.openings + 1) draw.now
          draw.random :=
        ClockNumber.openingEnd_pos _ _ _ draw.now_nonneg
          draw.random_nonneg
      have counted := governed.counted
      have row : streak ((some false).toList ++ provider.outcomes) =
          provider.circuit.failures + 1 := by
        rw [counted]
        exact streak_failure provider.outcomes
      rcases Bool.eq_false_or_eq_true handle.probe with kind | kind
      · left
        refine ⟨?_, rfl, Or.inl kind⟩
        rw [Circuit.complete_failed, if_pos (.inl kind)]
        exact ⟨rfl, later⟩
      · obtain ⟨-, shut⟩ := governed.closed found unfinished here kind
        have few : ¬ 5 ≤ provider.circuit.failures := fun many =>
          shut (governed.opened.mpr many)
        rw [Circuit.complete_failed]
        split
        · rename_i many
          left
          refine ⟨⟨rfl, later⟩, rfl, Or.inr ?_⟩
          have many := many.resolve_left (by simp [kind])
          simp only [row]
          omega
        · right
          refine ⟨⟨rfl, fun _ => rfl⟩, ?_⟩
          rintro ⟨-, probe | fifth⟩
          · rw [kind] at probe
            cases probe
          · simp only [row] at fifth
            omega

/-! ## Whole runs -/

/-- What the circuit promises between any two calls. -/
structure Fenced (provider : Provider R) : Prop where
  /-- At most one probe is outstanding. -/
  oneProbe : ∀ first second, Probes provider first →
    Probes provider second → first = second
  /-- The flag is up just while a probe is outstanding. -/
  probing_iff : provider.circuit.probing = true ↔
    ∃ index, Probes provider index
  /-- Late and repeated completions change nothing. -/
  late : ∀ index handle success draw next,
    provider.handles[index]? = some handle →
    handle.finished = true ∨ handle.generation < provider.circuit.generation →
    Provider.step provider (.finish index success draw) = some next →
    next.circuit = provider.circuit
  opens_iff : ∀ label next, Provider.step provider label = some next →
    (Opens provider next ↔
      ∃ index handle draw, label = .finish index (some false) draw ∧
        Counts provider index handle ∧
        (handle.probe = true ∨ streak next.outcomes = 5))
  steady : ∀ label next, Provider.step provider label = some next →
    ¬ Opens provider next → Steady provider next

theorem acquire_steady (provider : Provider R) (now : R) :
    Steady provider (provider.acquire now) := by
  unfold Steady
  simp only [Provider.acquire, Circuit.acquire]
  split
  · exact ⟨rfl, fun _ => rfl⟩
  · exact ⟨rfl, fun _ => rfl⟩

theorem Governed.step_opens (governed : Governed provider)
    {label : ProviderLabel R}
    (taken : Provider.step provider label = some next) :
    (Opens provider next ∧
        ∃ index handle draw, label = .finish index (some false) draw ∧
          Counts provider index handle ∧
          (handle.probe = true ∨ streak next.outcomes = 5)) ∨
      (Steady provider next ∧
        ¬ ∃ index handle draw, label = .finish index (some false) draw ∧
          Counts provider index handle ∧
          (handle.probe = true ∨ streak next.outcomes = 5)) := by
  cases label with
  | acquire now =>
    cases taken
    right
    refine ⟨acquire_steady provider now, ?_⟩
    rintro ⟨index, handle, draw, same, -⟩
    cases same
  | finish index success draw =>
    cases found : provider.handles[index]? with
    | none =>
      simp only [Provider.step, Provider.finish, found] at taken
      cases taken
    | some handle =>
      by_cases counts : Counts provider index handle
      · rcases governed.opens_or_steady counts taken with
          ⟨opens, failed, reason⟩ | ⟨steady, other⟩
        · left
          rw [failed]
          exact ⟨opens, index, handle, draw, rfl, counts, reason⟩
        · right
          refine ⟨steady, ?_⟩
          rintro ⟨index', handle', draw', same, counts', reason⟩
          cases same
          have one := counts.1.symm.trans counts'.1
          cases one
          exact other ⟨rfl, reason⟩
      · right
        have same := (finish_of_not_counts found counts taken).1
        constructor
        · unfold Steady
          rw [same]
          exact ⟨rfl, fun _ => rfl⟩
        · rintro ⟨index', handle', draw', same, counts', -⟩
          cases same
          have one := found.symm.trans counts'.1
          cases one
          exact counts counts'

/-- After any calls, in any order, the circuit keeps its promises. -/
theorem probes_fenced_of_steps
    (steps : System.Steps (Provider.step (R := R)) (fun _ _ => True) new
      provider) : Fenced provider := by
  have governed : Governed provider := by
    apply System.Steps.invariant steps governed_new
    intro state label next governed _ taken
    exact governed.step taken
  constructor
  · exact governed.one
  · exact governed.probing_iff
  · intro index handle success draw next found spent taken
    apply (finish_of_not_counts found _ taken).1
    rintro ⟨-, unfinished, here⟩
    rcases spent with finished | earlier
    · rw [finished] at unfinished
      cases unfinished
    · exact absurd here (Nat.ne_of_lt earlier)
  · intro label next taken
    rcases governed.step_opens taken with ⟨opens, reason⟩ | ⟨steady, other⟩
    · exact iff_of_true opens reason
    · exact iff_of_false (not_opens_of_steady steady) other
  · intro label next taken unopened
    rcases governed.step_opens taken with ⟨opens, -⟩ | ⟨steady, -⟩
    · exact absurd opens unopened
    · exact steady

/-- Five failures, a late completion, a probe that fails and one that is
given up. -/
theorem fenced_of_probes :
    ∃ provider : Provider ℚ, Fenced provider ∧
      provider.circuit.generation = 2 ∧ provider.circuit.probing = true ∧
      provider.circuit.rejected = 2 ∧ provider.handles.length = 9 := by
  let early : Draw ℚ :=
    { now := 0
      random := 0
      now_nonneg := by decide
      random_nonneg := by decide }
  have decided :
      (System.run (Provider.step (R := ℚ)) (fun _ _ => true) new
        [.acquire 0, .acquire 0, .acquire 0, .acquire 0, .acquire 0,
          .acquire 0, .finish 0 (some false) early,
          .finish 1 (some false) early, .finish 2 (some false) early,
          .finish 3 (some false) early, .finish 4 (some false) early,
          .finish 4 (some true) early, .finish 5 (some true) early,
          .acquire 1, .acquire 30000, .acquire 30001,
          .finish 6 (some false) early, .acquire 60000, .finish 7 none early,
          .acquire 60000]).any (fun provider =>
            provider.circuit.generation = 2 && provider.circuit.probing &&
              provider.circuit.rejected = 2 &&
              provider.handles.length = 9) = true := by
    decide +kernel
  obtain ⟨provider, steps, ended⟩ := System.exists_of_run decided
  simp only [Bool.and_eq_true, decide_eq_true_eq] at ended
  obtain ⟨⟨⟨generation, probing⟩, rejected⟩, many⟩ := ended
  refine ⟨provider, ?_, generation, probing, rejected, many⟩
  exact probes_fenced_of_steps (steps.mono fun _ _ _ => trivial)

end Provider

end Eki.Reroute
