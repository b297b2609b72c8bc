import Mathlib.Data.List.Basic

/-!
# Rolling windows

Times are listed latest first.  A limit holds in every window of a span when it
is checked, before a time is added, for those that the check can still see.
-/

namespace Rolling

def within (span start : Int) (times : List Int) : List Int :=
  times.filter fun time => decide (start ≤ time) && decide (time < start + span)

/-- The times that a check can still see. -/
def recent (span now : Int) (times : List Int) : List Int :=
  times.filter fun time => decide (now - time < span)

/-- No window of the span holds more times. -/
def Limited (limit : Nat) (span : Int) (times : List Int) : Prop :=
  ∀ start, (within span start times).length ≤ limit

/-- Every time comes at least a gap after the one before it. -/
def Spaced (gap : Int) (times : List Int) : Prop :=
  times.Pairwise fun newer older => older + gap ≤ newer

variable {limit : Nat} {span now time gap : Int} {times : List Int}

theorem Limited.nil : Limited limit span [] := by
  intro start
  exact Nat.zero_le _

theorem Limited.cons (limited : Limited limit span times)
    (checked : (recent span now times).length < limit) (after : now ≤ time) :
    Limited limit span (time :: times) := by
  intro start
  rw [within, List.filter_cons]
  split
  · rename_i inside
    simp only [Bool.and_eq_true, decide_eq_true_eq] at inside
    have seen : (within span start times).length ≤
        (recent span now times).length := by
      apply List.Sublist.length_le
      apply List.monotone_filter_right
      intro other window
      simp only [Bool.and_eq_true, decide_eq_true_eq] at window ⊢
      omega
    rw [within] at seen
    rw [List.length_cons]
    omega
  · exact limited start

theorem Limited.recent_length_le (limited : Limited limit span times)
    (past : ∀ time ∈ times, time ≤ now) :
    (recent span now times).length ≤ limit := by
  have same : recent span now times = within span (now - span + 1) times := by
    apply List.filter_congr
    intro time member
    have before := past time member
    rw [Bool.eq_iff_iff]
    simp only [Bool.and_eq_true, decide_eq_true_eq]
    omega
  rw [same]
  exact limited _

/-- A later check with no longer span sees the same of what an earlier one
saw. -/
theorem recent_recent {earlier wider : Int} (before : earlier ≤ now)
    (shorter : span ≤ wider) :
    recent span now (recent wider earlier times) = recent span now times := by
  rw [recent, recent, List.filter_filter]
  apply List.filter_congr
  intro time member
  rw [Bool.eq_iff_iff]
  simp only [Bool.and_eq_true, decide_eq_true_eq]
  omega

theorem recent_sublist : (recent span now times).Sublist times :=
  List.filter_sublist

theorem Spaced.past (spaced : Spaced gap (time :: times)) (positive : 0 ≤ gap)
    (reached : time ≤ now) : ∀ other ∈ time :: times, other ≤ now := by
  intro other member
  rcases List.mem_cons.mp member with rfl | earlier
  · exact reached
  · have apart := (List.pairwise_cons.mp spaced).1 other earlier
    omega

theorem Spaced.cons (spaced : Spaced gap times)
    (apart : ∀ last ∈ times.head?, last + gap ≤ time) (positive : 0 ≤ gap) :
    Spaced gap (time :: times) := by
  apply List.pairwise_cons.mpr
  refine ⟨?_, spaced⟩
  intro other member
  cases times with
  | nil => cases member
  | cons last earlier =>
    have first := apart last rfl
    have past := spaced.past positive (Int.le_refl last) other member
    omega

theorem full_iff {oldest later : Int} (spaced : Spaced gap times)
    (positive : 0 ≤ gap)
    (full : (recent span now times).length = limit)
    (last : (recent span now times).getLast? = some oldest)
    (after : now ≤ later) :
    limit ≤ (recent span later times).length ↔ later < oldest + span := by
  have narrowed : recent span later times =
      recent span later (recent span now times) :=
    (recent_recent after (Int.le_refl span)).symm
  obtain ⟨front, shape⟩ := List.getLast?_eq_some_iff.mp last
  have order : (recent span now times).Pairwise
      fun newer older => older + gap ≤ newer :=
    spaced.sublist recent_sublist
  rw [shape, List.pairwise_append] at order
  rw [narrowed, ← full, shape]
  constructor
  · intro many
    by_contra gone
    have fewer : (recent span later (front ++ [oldest])).length <
        (front ++ [oldest]).length := by
      rw [recent, List.length_filter_lt_length_iff_exists]
      refine ⟨oldest, by simp, ?_⟩
      simp only [decide_eq_true_eq]
      omega
    omega
  · intro inside
    have all : recent span later (front ++ [oldest]) = front ++ [oldest] := by
      apply List.filter_eq_self.mpr
      intro time member
      simp only [decide_eq_true_eq]
      rcases List.mem_append.mp member with newer | itself
      · have apart := order.2.2 time newer oldest (List.mem_singleton_self _)
        omega
      · rw [List.mem_singleton.mp itself]
        omega
    exact Nat.le_of_eq (congrArg List.length all.symm)

end Rolling
