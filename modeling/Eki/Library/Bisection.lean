
/-!
# Bisection, and the window it finds for a loop

A bisection over the indices keeps an interval: what lies below it satisfies
the condition, and what lies from its end on does not.  A loop may skip the
steps outside a window as long as those steps would have changed nothing.
-/

namespace Bisection

open List (range')

universe u

/-- The loop `while (low < high)`, in at most so many rounds. -/
def search (below : Nat → Bool) : Nat → Nat → Nat → Nat
  | 0, low, _ => low
  | rounds + 1, low, high =>
    if low < high then
      let middle := low + (high - low) / 2
      if below middle then search below rounds (middle + 1) high
      else search below rounds low middle
    else low

variable {below : Nat → Bool} {count : Nat}

structure Divides (below : Nat → Bool) (count index : Nat) : Prop where
  before : ∀ earlier < index, earlier < count → below earlier = true
  after : ∀ later, index ≤ later → later < count → below later = false

/-- The condition holds up to some index and not after it. -/
def Descends (below : Nat → Bool) (count : Nat) : Prop :=
  ∀ earlier later, earlier ≤ later → later < count → below later = true →
    below earlier = true

theorem search_divides_of_interval (descends : Descends below count)
    (rounds low high : Nat) (enough : high - low ≤ rounds)
    (ordered : low ≤ high) (inRange : high ≤ count)
    (before : ∀ earlier < low, below earlier = true)
    (after : ∀ later, high ≤ later → later < count → below later = false) :
    Divides below count (search below rounds low high) := by
  induction rounds generalizing low high with
  | zero =>
    have closed : low = high := by omega
    constructor
    · intro earlier lower inCount
      exact before earlier lower
    · intro later reached inCount
      apply after later _ inCount
      rw [← closed]
      exact reached
  | succ rounds induction =>
    rw [search]
    split
    · rename_i apart
      have middle_lt : low + (high - low) / 2 < high := by omega
      cases decided : below (low + (high - low) / 2) with
      | true =>
        simp only [decided, if_true]
        apply induction
        · omega
        · omega
        · exact inRange
        · intro earlier lower
          apply descends earlier (low + (high - low) / 2) _ _ decided
          · omega
          · omega
        · exact after
      | false =>
        simp only [decided, Bool.false_eq_true, if_false]
        apply induction
        · omega
        · omega
        · omega
        · exact before
        · intro later reached inCount
          cases found : below later with
          | false => rfl
          | true =>
            have middle_below := descends _ later reached inCount found
            rw [decided] at middle_below
            cases middle_below
    · rename_i closed
      constructor
      · intro earlier lower inCount
        exact before earlier lower
      · intro later reached inCount
        apply after later _ inCount
        omega

/-- A search over all the indices ends where the condition does. -/
theorem search_divides (descends : Descends below count) :
    Divides below count (search below count 0 count) := by
  apply search_divides_of_interval descends
  · omega
  · omega
  · omega
  · intro earlier lower
    cases Nat.not_lt_zero earlier lower
  · intro later reached inCount
    omega

variable {β : Type u} {step : β → Nat → β}

theorem foldl_of_idle {indices : List Nat}
    (idle : ∀ index ∈ indices, ∀ state, step state index = state)
    (state : β) : indices.foldl step state = state := by
  induction indices with
  | nil => rfl
  | cons index rest induction =>
    rw [List.foldl_cons, idle index List.mem_cons_self state]
    apply induction
    intro later member
    exact idle later (List.mem_cons_of_mem index member)

/-- A loop over a window of the indices is the loop over all of them when the
steps outside the window change nothing. -/
theorem foldl_window {first stop : Nat} (inRange : stop ≤ count)
    (idle : ∀ index < count, index < first ∨ stop ≤ index →
      ∀ state, step state index = state) (state : β) :
    (range' first (stop - first)).foldl step state =
      (List.range count).foldl step state := by
  by_cases nonempty : first ≤ stop
  · have split : List.range count =
        range' 0 first ++ (range' first (stop - first) ++
          range' stop (count - stop)) := by
      rw [List.range_eq_range']
      have upper : range' first (stop - first) ++
          range' stop (count - stop) = range' first (count - first) := by
        have joined := @List.range'_append_1 first (stop - first)
          (count - stop)
        rw [show first + (stop - first) = stop by omega] at joined
        rw [joined]
        congr 1
        omega
      have whole := @List.range'_append_1 0 first (count - first)
      rw [upper]
      rw [Nat.zero_add] at whole
      rw [whole]
      congr 1
      omega
    rw [split, List.foldl_append, List.foldl_append]
    have lower_idle : ∀ index ∈ range' 0 first,
        ∀ state, step state index = state := by
      intro index member
      have bounds := List.mem_range'_1.mp member
      apply idle index
      · omega
      · exact Or.inl (by omega)
    have upper_idle : ∀ index ∈ range' stop (count - stop),
        ∀ state, step state index = state := by
      intro index member
      have bounds := List.mem_range'_1.mp member
      apply idle index
      · omega
      · exact Or.inr bounds.1
    rw [foldl_of_idle lower_idle, foldl_of_idle upper_idle]
  · have empty : stop - first = 0 := by omega
    rw [empty]
    have all_idle : ∀ index ∈ List.range count,
        ∀ state, step state index = state := by
      intro index member
      have bound := List.mem_range.mp member
      apply idle index bound
      omega
    rw [foldl_of_idle all_idle]
    rfl

end Bisection
