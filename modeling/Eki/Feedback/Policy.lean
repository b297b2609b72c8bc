import Eki.Library.Words
import Mathlib.Data.List.DropRight
import Mathlib.Algebra.Order.Ring.Unbundled.Rat

/-!
# The feedback policy

The backend judges a comment, a rating and a cooldown with JavaScript's own
text and number functions.  The Firestore rules read the same comment with RE2
patterns, whose white space is a part of JavaScript's.
-/

namespace Eki.Feedback

/-! ## Texts -/

/-- White space and line ends in JavaScript: the class `\s` of its patterns and
what `trim` removes. -/
def jsSpace (letter : Char) : Bool :=
  [0x09, 0x0a, 0x0b, 0x0c, 0x0d, 0x20, 0xa0, 0x1680, 0x2028, 0x2029, 0x202f,
    0x205f, 0x3000, 0xfeff].contains letter.toNat ||
    (0x2000 ≤ letter.toNat && letter.toNat ≤ 0x200a)

/-- The class `\s` of an RE2 pattern. -/
def re2Space (letter : Char) : Bool :=
  [0x09, 0x0a, 0x0c, 0x0d, 0x20].contains letter.toNat

/-- `text.trim()` -/
def trim (text : String) : String :=
  String.ofList ((text.toList.dropWhile jsSpace).rdropWhile jsSpace)

/-- `text.length`: characters beyond the basic plane count twice. -/
def utf16Length (text : String) : Nat :=
  text.toList.foldr (fun letter units =>
    (if letter.toNat < 0x10000 then 1 else 2) + units) 0

/-- `text.match(/\S+/g)?.length ?? 0` -/
def wordCount (text : String) : Nat :=
  Words.count jsSpace text.toList

/-- `/^[A-Za-z0-9_-]{atLeast,128}$/` -/
def matchesId (atLeast : Nat) (text : String) : Bool :=
  text.toList.all (fun letter =>
    letter.isAlphanum || letter.toNat == 0x5f || letter.toNat == 0x2d) &&
    decide (atLeast ≤ text.length) && decide (text.length ≤ 128)

/-- `/^[a-f0-9]{64}$/` -/
def matchesDigest (text : String) : Bool :=
  text.toList.all (fun letter =>
    letter.isDigit || (0x61 ≤ letter.toNat && letter.toNat ≤ 0x66)) &&
    text.length == 64

theorem jsSpace_of_re2Space {letter : Char} (blank : re2Space letter = true) :
    jsSpace letter = true := by
  simp only [re2Space, jsSpace, List.contains_iff_mem, List.mem_cons,
    Bool.or_eq_true] at blank ⊢
  grind

theorem trim_eq_empty_iff {text : String} :
    trim text = "" ↔ ∀ letter ∈ text.toList, jsSpace letter = true := by
  rw [← String.toList_eq_nil_iff]
  simp only [trim, String.toList_ofList, List.rdropWhile_eq_nil_iff]
  constructor
  · intro blank
    by_contra solid
    obtain ⟨letter, member, inside⟩ : ∃ letter ∈ text.toList,
        ¬jsSpace letter = true := by
      simpa using solid
    have kept : text.toList.dropWhile jsSpace ≠ [] := by
      intro none
      exact inside (List.dropWhile_eq_nil_iff.mp none letter member)
    have first := List.head_dropWhile_not jsSpace kept
    rw [blank _ (List.head_mem kept)] at first
    cases first
  · intro blank letter member
    exact blank letter ((List.dropWhile_sublist jsSpace).mem member)

@[simp] theorem trim_trim (text : String) : trim (trim text) = trim text := by
  simp only [trim, String.toList_ofList]
  congr 1
  have front : ((text.toList.dropWhile jsSpace).rdropWhile jsSpace).dropWhile
      jsSpace = (text.toList.dropWhile jsSpace).rdropWhile jsSpace := by
    rw [List.dropWhile_eq_self_iff]
    intro kept blank
    have same := (List.rdropWhile_prefix jsSpace
      (l := text.toList.dropWhile jsSpace)).getElem kept
    rw [same] at blank
    exact List.dropWhile_get_zero_not jsSpace text.toList _ blank
  rw [front, List.rdropWhile_idempotent]

/-- A comment that is left after trimming has a letter for the rules too. -/
theorem letter_of_trim {text : String} (solid : trim text ≠ "") :
    (trim text).toList ∈ Words.someLetter re2Space := by
  rw [Words.mem_someLetter, List.any_eq_true]
  by_contra blank
  apply solid
  rw [← trim_trim, trim_eq_empty_iff]
  intro letter member
  apply jsSpace_of_re2Space
  by_contra inside
  exact blank ⟨letter, member, by simpa using inside⟩

theorem length_le_utf16Length (text : String) :
    text.length ≤ utf16Length text := by
  rw [← String.length_toList, utf16Length]
  induction text.toList with
  | nil => exact Nat.le_refl _
  | cons letter rest induction =>
    simp only [List.length_cons, List.foldr_cons]
    split <;> omega

/-! ## Eligibility and cooldown -/

/-- `FEEDBACK_COOLDOWN_MS`: twenty-four hours. -/
def feedbackCooldownMs : Nat := 24 * 60 * 60 * 1000

def feedbackWordLimit : Nat := 200

def feedbackCommentMax : Nat := 2000

inductive FeedbackKind where
  | ride
  | general
  deriving DecidableEq

/-- A rating as it arrives; `JSON.parse` makes an infinity of a literal that is
too large. -/
inductive Rating where
  | null
  | finite (value : ℚ)
  | notFinite
  deriving DecidableEq

/-- `Number.isInteger(rating)` and from 1 to 5. -/
def Rating.stars : Rating → Bool
  | .finite value =>
    value.den == 1 && decide (1 ≤ value.num) && decide (value.num ≤ 5)
  | _ => false

structure RideContext where
  isSessionPassenger : Bool := false
  sessionCompleted : Bool := false
  busMatches : Bool := false
  driverMatches : Bool := false

inductive Reason where
  | validation
  | state
  | eligibility

inductive FeedbackCheck where
  | allowed
  | cooldown (retryAfterMs : ℚ)
  | refused (reason : Reason) (message : String)

/-- What `evaluateFeedback` finds wrong with the content. -/
def contentFault (kind : FeedbackKind) (comment : String) (rating : Rating) :
    Option String :=
  let long := decide (feedbackWordLimit < wordCount (trim comment)) ||
    decide (feedbackCommentMax < utf16Length comment)
  match kind with
  | .general =>
    if trim comment = "" || long then
      some "Comment is required and must be within limits."
    else none
  | .ride =>
    if long then some "Comment exceeds the word or length limit."
    else if rating ≠ .null && !rating.stars then
      some "Rating must be an integer from 1 to 5."
    else if rating = .null && trim comment = "" then
      some "Rating or comment is required."
    else none

/-- What `evaluateFeedback` finds wrong with the ride. -/
def rideFault (rideContext : RideContext) : Option (Reason × String) :=
  if !rideContext.isSessionPassenger then
    some (.eligibility, "Only passengers of this ride may review it.")
  else if !rideContext.sessionCompleted then
    some (.state, "Ride feedback is available after the ride ends.")
  else if !rideContext.busMatches || !rideContext.driverMatches then
    some (.eligibility, "Ride details do not match the session.")
  else none

/-- A stamp of the last submission that is less than a cooldown old. -/
def coolsDown (lastSubmittedAtMs : Option ℚ) (now : ℚ) : Bool :=
  lastSubmittedAtMs.any fun last => decide (now - last < feedbackCooldownMs)

def evaluateFeedback (kind : FeedbackKind) (comment : String) (rating : Rating)
    (rideContext : RideContext) (lastSubmittedAtMs : Option ℚ) (now : ℚ) :
    FeedbackCheck :=
  match contentFault kind comment rating with
  | some message => .refused .validation message
  | none =>
    if coolsDown lastSubmittedAtMs now then
      let left := feedbackCooldownMs - (now - lastSubmittedAtMs.getD 0)
      .cooldown (min feedbackCooldownMs left)
    else
      match kind with
      | .general => .allowed
      | .ride =>
        match rideFault rideContext with
        | some (reason, message) => .refused reason message
        | none => .allowed

theorem evaluateFeedback_allowed {kind : FeedbackKind} {comment : String}
    {rating : Rating} {rideContext : RideContext} {last : Option ℚ} {now : ℚ} :
    evaluateFeedback kind comment rating rideContext last now = .allowed ↔
      contentFault kind comment rating = none ∧ coolsDown last now = false ∧
        (kind = .ride → rideFault rideContext = none) := by
  unfold evaluateFeedback
  cases contentFault kind comment rating with
  | some message => simp
  | none =>
    cases coolsDown last now with
    | true => simp
    | false =>
      cases kind with
      | general => simp
      | ride => cases rideFault rideContext <;> simp

end Eki.Feedback
