import Mathlib.Computability.Language

/-!
# Words of a text

A text is a list of letters and spaces; its words are its longest runs of
letters.  Patterns are languages, put together as a regular expression is.  The
pattern of at most so many words, each with spaces before it, is the texts with
at most so many words.
-/

namespace Words

open scoped Computability

universe u

variable {α : Type u} (space : α → Bool)

/-- The words that begin in a text, which may begin inside a word. -/
def countAfter : Bool → List α → Nat
  | _, [] => 0
  | inside, letter :: rest =>
    if space letter then countAfter false rest
    else (if inside then 0 else 1) + countAfter true rest

def count (text : List α) : Nat := countAfter space false text

/-! ## Counting -/

variable {space}

theorem countAfter_true_le (text : List α) :
    countAfter space true text ≤ countAfter space false text := by
  cases text with
  | nil => exact Nat.le_refl _
  | cons letter rest =>
    simp only [countAfter]
    split
    · exact Nat.le_refl _
    · simp

theorem countAfter_append_le (inside : Bool) (front back : List α) :
    countAfter space inside (front ++ back) ≤
      countAfter space inside front + count space back := by
  induction front generalizing inside with
  | nil =>
    cases inside with
    | true => simpa [countAfter, count] using countAfter_true_le back
    | false => simp [countAfter, count]
  | cons letter rest induction =>
    simp only [List.cons_append, countAfter]
    split
    · exact induction false
    · have later := induction true
      omega

theorem count_append_le (space : α → Bool) (front back : List α) :
    count space (front ++ back) ≤ count space front + count space back :=
  countAfter_append_le false front back

variable {text : List α}

theorem countAfter_of_spaces {inside : Bool}
    (spaces : ∀ letter ∈ text, space letter = true) :
    countAfter space inside text = 0 := by
  induction text generalizing inside with
  | nil => rfl
  | cons letter rest induction =>
    have blank := spaces letter List.mem_cons_self
    simp only [countAfter, blank, if_true]
    exact induction fun other member =>
      spaces other (List.mem_cons_of_mem _ member)

theorem countAfter_true_of_letters
    (letters : ∀ letter ∈ text, space letter = false) :
    countAfter space true text = 0 := by
  induction text with
  | nil => rfl
  | cons letter rest induction =>
    have solid := letters letter List.mem_cons_self
    simp only [countAfter, solid, if_true, Bool.false_eq_true, if_false,
      Nat.zero_add]
    exact induction fun other member =>
      letters other (List.mem_cons_of_mem _ member)

/-! ## Patterns -/

/-- One character of a class. -/
def oneOf (p : α → Bool) : Language α :=
  {text | ∃ letter, p letter = true ∧ text = [letter]}

/-- At most `n` times a pattern. -/
def upTo (n : Nat) (pattern : Language α) : Language α :=
  {text | ∃ k ≤ n, text ∈ pattern ^ k}

theorem mem_kstar_oneOf {p : α → Bool} :
    text ∈ (oneOf p)∗ ↔ ∀ letter ∈ text, p letter = true := by
  rw [Language.mem_kstar]
  constructor
  · intro repeated
    obtain ⟨parts, same, each⟩ := repeated
    subst same
    intro letter member
    obtain ⟨part, among, inside⟩ := List.mem_flatten.mp member
    obtain ⟨other, passes, one⟩ := each part among
    rw [one, List.mem_singleton] at inside
    rw [inside]
    exact passes
  · intro all
    refine ⟨text.map fun letter => [letter], ?_, ?_⟩
    · exact (List.flatMap_singleton' text).symm
    · intro part member
      obtain ⟨letter, among, same⟩ := List.mem_map.mp member
      exact ⟨letter, all letter among, same.symm⟩

variable (space)

def spacedWord : Language α :=
  (oneOf space)∗ * (oneOf (!space ·) * (oneOf (!space ·))∗)

/-- At most `n` words, with spaces around them. -/
def atMost (n : Nat) : Language α :=
  upTo n (spacedWord space) * (oneOf space)∗

/-- Anything, a letter, and anything. -/
def someLetter : Language α :=
  (oneOf fun _ => true)∗ *
    (oneOf (!space ·) * (oneOf fun _ => true)∗)

variable {space}

theorem count_spacedWord (member : text ∈ spacedWord space) :
    count space text ≤ 1 := by
  obtain ⟨front, spaces, word, written, rfl⟩ := Language.mem_mul.mp member
  obtain ⟨head, first, tail, letters, rfl⟩ := Language.mem_mul.mp written
  obtain ⟨letter, solid, rfl⟩ := first
  have none : count space front = 0 :=
    countAfter_of_spaces (mem_kstar_oneOf.mp spaces)
  have rest : countAfter space true tail = 0 := by
    apply countAfter_true_of_letters
    intro other among
    simpa using mem_kstar_oneOf.mp letters other among
  have one : count space ([letter] ++ tail) ≤ 1 := by
    simp only [List.singleton_append, count, countAfter]
    split
    · rename_i blank
      simp [blank] at solid
    · simp [rest]
  have whole := count_append_le space front ([letter] ++ tail)
  omega

theorem count_pow {k : Nat} (member : text ∈ spacedWord space ^ k) :
    count space text ≤ k := by
  induction k generalizing text with
  | zero =>
    rw [pow_zero, Language.mem_one] at member
    subst member
    exact Nat.le_refl _
  | succ k induction =>
    rw [pow_succ] at member
    obtain ⟨front, repeated, back, one, rfl⟩ := Language.mem_mul.mp member
    have first := induction repeated
    have last := count_spacedWord one
    have whole := count_append_le space front back
    omega

def exactly (space : α → Bool) (k : Nat) : Language α :=
  spacedWord space ^ k * (oneOf space)∗

theorem cons_mem_exactly {letter : α} {k : Nat} (blank : space letter = true)
    (member : text ∈ exactly space k) : letter :: text ∈ exactly space k := by
  obtain ⟨words, repeated, spaces, blanks, rfl⟩ := Language.mem_mul.mp member
  cases k with
  | zero =>
    rw [pow_zero, Language.mem_one] at repeated
    subst repeated
    apply Language.mem_mul.mpr
    refine ⟨[], by simp, letter :: spaces, ?_, rfl⟩
    rw [mem_kstar_oneOf] at blanks ⊢
    intro other among
    rcases List.mem_cons.mp among with same | later
    · rw [same]
      exact blank
    · exact blanks other later
  | succ k =>
    rw [pow_succ'] at repeated
    obtain ⟨first, one, later, rest, rfl⟩ := Language.mem_mul.mp repeated
    obtain ⟨front, before, word, written, rfl⟩ := Language.mem_mul.mp one
    apply Language.mem_mul.mpr
    refine ⟨letter :: (front ++ word ++ later), ?_, spaces, blanks, rfl⟩
    rw [pow_succ']
    apply Language.mem_mul.mpr
    refine ⟨letter :: (front ++ word), ?_, later, rest, rfl⟩
    apply Language.mem_mul.mpr
    refine ⟨letter :: front, ?_, word, written, rfl⟩
    rw [mem_kstar_oneOf] at before ⊢
    intro other among
    rcases List.mem_cons.mp among with same | old
    · rw [same]
      exact blank
    · exact before other old

theorem mem_exactly (space : α → Bool) (text : List α) :
    text ∈ exactly space (countAfter space false text) ∧
      text ∈ (oneOf (!space ·))∗ *
        exactly space (countAfter space true text) := by
  induction text with
  | nil =>
    have blank : ([] : List α) ∈ exactly space 0 := by
      apply Language.mem_mul.mpr
      exact ⟨[], by simp, [], mem_kstar_oneOf.mpr (by simp), rfl⟩
    refine ⟨blank, ?_⟩
    apply Language.mem_mul.mpr
    exact ⟨[], mem_kstar_oneOf.mpr (by simp), [], blank, rfl⟩
  | cons letter rest induction =>
    obtain ⟨outside, inside⟩ := induction
    by_cases blank : space letter = true
    · have starts := cons_mem_exactly blank outside
      simp only [countAfter, blank, if_true]
      refine ⟨starts, ?_⟩
      apply Language.mem_mul.mpr
      exact ⟨[], mem_kstar_oneOf.mpr (by simp), letter :: rest, starts, rfl⟩
    · obtain ⟨word, letters, later, continued, rfl⟩ :=
        Language.mem_mul.mp inside
      have solid : (!space letter) = true := by simpa using blank
      simp only [countAfter, blank, Bool.false_eq_true, if_false, if_true,
        Nat.zero_add]
      constructor
      · obtain ⟨words, repeated, spaces, blanks, rfl⟩ :=
          Language.mem_mul.mp continued
        apply Language.mem_mul.mpr
        refine ⟨letter :: (word ++ words), ?_, spaces, blanks, by simp⟩
        rw [Nat.add_comm, pow_succ']
        apply Language.mem_mul.mpr
        refine ⟨letter :: word, ?_, words, repeated, rfl⟩
        apply Language.mem_mul.mpr
        refine ⟨[], mem_kstar_oneOf.mpr (by simp), letter :: word, ?_, rfl⟩
        apply Language.mem_mul.mpr
        exact ⟨[letter], ⟨letter, solid, rfl⟩, word, letters, rfl⟩
      · apply Language.mem_mul.mpr
        refine ⟨letter :: word, ?_, later, continued, rfl⟩
        rw [mem_kstar_oneOf] at letters ⊢
        intro other among
        rcases List.mem_cons.mp among with same | old
        · rw [same]
          exact solid
        · exact letters other old

theorem mem_atMost {n : Nat} :
    text ∈ atMost space n ↔ count space text ≤ n := by
  constructor
  · intro member
    obtain ⟨words, repeated, spaces, blanks, rfl⟩ := Language.mem_mul.mp member
    obtain ⟨k, few, written⟩ := repeated
    have counted := count_pow written
    have none : count space spaces = 0 :=
      countAfter_of_spaces (mem_kstar_oneOf.mp blanks)
    have whole := count_append_le space words spaces
    omega
  · intro few
    obtain ⟨words, repeated, spaces, blanks, same⟩ :=
      Language.mem_mul.mp (mem_exactly space text).1
    apply Language.mem_mul.mpr
    exact ⟨words, ⟨_, few, repeated⟩, spaces, blanks, same⟩

instance (n : Nat) (text : List α) : Decidable (text ∈ atMost space n) :=
  decidable_of_iff _ mem_atMost.symm

theorem mem_someLetter :
    text ∈ someLetter space ↔ text.any (!space ·) = true := by
  rw [List.any_eq_true]
  constructor
  · intro member
    obtain ⟨front, -, back, rest, rfl⟩ := Language.mem_mul.mp member
    obtain ⟨one, chosen, later, -, rfl⟩ := Language.mem_mul.mp rest
    obtain ⟨letter, solid, rfl⟩ := chosen
    exact ⟨letter, by simp, solid⟩
  · intro found
    obtain ⟨letter, member, solid⟩ := found
    obtain ⟨front, back, rfl⟩ := List.append_of_mem member
    apply Language.mem_mul.mpr
    refine ⟨front, mem_kstar_oneOf.mpr (by simp), letter :: back, ?_, rfl⟩
    apply Language.mem_mul.mpr
    exact ⟨[letter], ⟨letter, solid, rfl⟩, back,
      mem_kstar_oneOf.mpr (by simp), rfl⟩

instance (text : List α) : Decidable (text ∈ someLetter space) :=
  decidable_of_iff _ mem_someLetter.symm

end Words
