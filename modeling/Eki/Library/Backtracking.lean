import Mathlib.Data.List.Basic

/-!
# Patterns that are matched by backtracking

A pattern lists the ways in which it matches from a place of a text, in the
order in which backtracking tries them: a repetition is greedy, and of two
choices the first one is preferred.  A search replaces the first way of the
leftmost match, and goes on behind it.
-/

namespace Backtracking

universe u v

variable {α : Type u} {β : Type v}

/-- Patterns whose repetitions are of one character each. -/
inductive Pattern (α : Type u) where
  | empty
  | fail
  | plus (accepts : α → Bool)
  | star (accepts : α → Bool)
  | seq (first second : Pattern α)
  | choice (first second : Pattern α)
  | notBehind (accepts : α → Bool)
  | notAhead (accepts : α → Bool)

/-- A place in a text: the character before it, and what is left. -/
structure Cursor (α : Type u) where
  previous : Option α
  rest : List α

/-- The longest repetition is tried first. -/
def repeats (accepts : α → Bool) : List α → List (Cursor α)
  | [] => []
  | character :: rest =>
    if accepts character then repeats accepts rest ++ [⟨some character, rest⟩]
    else []

namespace Pattern

def ways : Pattern α → Cursor α → List (Cursor α)
  | empty, cursor => [cursor]
  | fail, _ => []
  | plus accepts, cursor => repeats accepts cursor.rest
  | star accepts, cursor => repeats accepts cursor.rest ++ [cursor]
  | seq first second, cursor => (first.ways cursor).flatMap second.ways
  | choice first second, cursor => first.ways cursor ++ second.ways cursor
  | notBehind accepts, cursor =>
    if cursor.previous.any accepts then [] else [cursor]
  | notAhead accepts, cursor =>
    if cursor.rest.head?.any accepts then [] else [cursor]

/-- The first of several patterns is preferred. -/
def anyOf (patterns : List (Pattern α)) : Pattern α :=
  patterns.foldr choice fail

end Pattern

/-- What a search leaves of a text, with the places of what it masks. -/
inductive Piece (α : Type u) where
  | kept (character : α)
  | masked (start stop : Nat)
deriving DecidableEq

def searchFrom (pattern : Pattern α) :
    Nat → Nat → Option α → List α → List (Piece α)
  | _, _ + 1, _, [] => []
  | place, 0, previous, [] =>
    if (pattern.ways ⟨previous, []⟩).isEmpty then [] else [.masked place place]
  | place, matched + 1, _, character :: rest =>
    searchFrom pattern (place + 1) matched (some character) rest
  | place, 0, previous, character :: rest =>
    match (pattern.ways ⟨previous, character :: rest⟩).head? with
    | none =>
      .kept character ::
        searchFrom pattern (place + 1) 0 (some character) rest
    | some last =>
      let length := (character :: rest).length - last.rest.length
      .masked place (place + length) ::
        match length with
        | 0 =>
          .kept character ::
            searchFrom pattern (place + 1) 0 (some character) rest
        | matched + 1 =>
          searchFrom pattern (place + 1) matched (some character) rest

def search (pattern : Pattern α) (text : List α) : List (Piece α) :=
  searchFrom pattern 0 0 none text

/-! ## The first way that goes on -/

theorem findSome?_seq (first second : Pattern α) (cursor : Cursor α)
    (goesOn : Cursor α → Option β) :
    ((first.seq second).ways cursor).findSome? goesOn =
      (first.ways cursor).findSome? fun way =>
        (second.ways way).findSome? goesOn := by
  rw [Pattern.ways]
  induction first.ways cursor with
  | nil => rfl
  | cons way ways induction =>
    rw [List.flatMap_cons, List.findSome?_append, induction,
      List.findSome?_cons]
    cases (second.ways way).findSome? goesOn <;> rfl

theorem findSome?_repeats_cons (accepts : α → Bool) (character : α)
    (rest : List α) (goesOn : Cursor α → Option β) :
    (repeats accepts (character :: rest)).findSome? goesOn =
      if accepts character then
        ((repeats accepts rest).findSome? goesOn).or
          (goesOn ⟨some character, rest⟩)
      else none := by
  rw [repeats]
  split
  · rw [List.findSome?_append, List.findSome?_singleton]
  · rfl

theorem findSome?_anyOf (patterns : List (Pattern α)) (cursor : Cursor α)
    (goesOn : Cursor α → Option β) :
    ((Pattern.anyOf patterns).ways cursor).findSome? goesOn =
      patterns.findSome? fun pattern =>
        (pattern.ways cursor).findSome? goesOn := by
  induction patterns with
  | nil => rfl
  | cons pattern patterns induction =>
    rw [List.findSome?_cons, ← induction]
    simp only [Pattern.anyOf, List.foldr_cons, Pattern.ways,
      List.findSome?_append]
    cases (pattern.ways cursor).findSome? goesOn <;> rfl

theorem suffix_of_repeats {accepts : α → Bool} {text : List α}
    {way : Cursor α} (member : way ∈ repeats accepts text) :
    ∃ character, (character :: way.rest) <:+ text := by
  induction text with
  | nil => cases member
  | cons character rest induction =>
    unfold repeats at member
    split at member
    · rcases List.mem_append.mp member with later | last
      · obtain ⟨first, suffix⟩ := induction later
        exact ⟨first, suffix.trans (List.suffix_cons _ _)⟩
      · cases List.mem_singleton.mp last
        exact ⟨character, List.suffix_rfl⟩
    · cases member

/-- The character before a place. -/
def behind (text : List α) : Nat → Option α
  | 0 => none
  | place + 1 => text[place]?

theorem searchFrom_matched (pattern : Pattern α) {text : List α}
    {place matched : Nat} (inside : place + matched ≤ text.length) :
    searchFrom pattern place matched (behind text place) (text.drop place) =
      searchFrom pattern (place + matched) 0 (behind text (place + matched))
        (text.drop (place + matched)) := by
  induction matched generalizing place with
  | zero => rfl
  | succ matched induction =>
    have below : place < text.length := by omega
    have later := @induction (place + 1) (by omega)
    rw [List.drop_eq_getElem_cons below, searchFrom,
      ← List.getElem?_eq_getElem below]
    rw [Nat.add_right_comm, Nat.add_assoc] at later
    exact later

end Backtracking
