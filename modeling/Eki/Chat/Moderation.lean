import Eki.Library.Backtracking

/-!
# Moderation of a chat message

Each term is matched backwards over the whole text, once for each of its
letters; the policy that this replaced was one regular expression.
-/

namespace Eki.Chat

open Backtracking

def PROFANITY_TERMS : List String :=
  ["fuck", "fucker", "fucking", "shit", "bitch", "ass", "asshole", "cunt",
    "dick", "pussy", "bastard", "mc", "bc", "madarchod", "bhenchod",
    "behenchod", "chutiya", "gandu", "bhosadike", "bhosdi", "harami",
    "kutta", "slut", "whore", "randi", "muth", "bhosada", "मादरचोद",
    "बहनचोद", "भेंचोद", "चूतिया", "गांडू", "रंडी", "हरामी"]

def CHARACTER_VARIANTS : Char → Option String
  | 'a' => some "[a@4áàâäãå]"
  | 'b' => some "[b8]"
  | 'c' => some "[cç(]"
  | 'e' => some "[e3éèêë]"
  | 'g' => some "[g69]"
  | 'i' => some "[i1!|íìîï]"
  | 'k' => some "[k]"
  | 'o' => some "[o0óòôöõ]"
  | 's' => some "[s5$]"
  | 't' => some "[t7+]"
  | 'u' => some "[uüúùûv]"
  | _ => none

def escapeRegex (character : Char) : String :=
  if ".*+?^$\x7b\x7d()|[]\\".toList.contains character then
    "\\" ++ character.toString
  else character.toString

/-- What the language gives; `α` is the type of code points, lone surrogates
among them. -/
structure Language (α : Type) where
  /-- `Array.from(term.normalize("NFKC").toLowerCase())` -/
  characters : String → List Char
  /-- Does the class of this source accept the code point? -/
  test : String → α → Bool
  /-- The text of a code point. -/
  shown : α → String
  /-- `[\p{M}\p{Cf}\p{P}\p{S}\s_]` with the flag `u` -/
  separator : α → Bool
  /-- `[\p{L}\p{N}]` with the flag `u` -/
  word : α → Bool
  /-- The same class with the flags `giu`, where a character that differs in
  its case alone from one of the class is accepted too. -/
  separatorIgnoringCase : α → Bool
  /-- The same for `[\p{L}\p{N}]`. -/
  wordIgnoringCase : α → Bool

variable {α : Type} (language : Language α)

/-- The source of each letter's class. -/
def profanityPattern (term : String) : List String :=
  (language.characters term).map fun character =>
    (CHARACTER_VARIANTS character).getD (escapeRegex character)

/-! ## The matcher -/

/-- The code points that a class accepts. -/
def accepted (source : String) (text : List α) : List Bool :=
  text.map (language.test source)

/-- Each entry is its own index, where no word goes on there. -/
def terminal : Nat → List Bool → List Int
  | i, [] => [(i : Int)]
  | i, word :: rest => (if word then -1 else (i : Int)) :: terminal (i + 1) rest

/-- `repeated`, from the last index to the first. -/
def repeated : List Bool → List Int → List Int
  | accepted :: rest, _ :: following =>
    let later := repeated rest following
    (if accepted then
      if 0 ≤ later.headD (-1) then later.headD (-1) else following.headD (-1)
    else -1) :: later
  | _, _ => [-1]

/-- `separated`, from the last index to the first. -/
def separated : List Bool → List Int → List Int
  | separator :: rest, own :: repeated =>
    let later := separated rest repeated
    (if separator ∧ 0 ≤ later.headD (-1) then later.headD (-1) else own) ::
      later
  | _, _ => [-1]

/-- The stages behind the first one, from the last one on. -/
def laterStages (text : List α) : List String → List Int
  | [] => terminal 0 (text.map language.word)
  | source :: rest =>
    separated (text.map language.separator)
      (repeated (accepted language source text) (laterStages text rest))

/-- The end of a term's match from each index, or `-1`. -/
def endsOf (text : List α) : List String → List Int
  | [] => terminal 0 (text.map language.word)
  | source :: rest =>
    repeated (accepted language source text) (laterStages language text rest)

/-- Every class occurs somewhere. -/
def eligible (text : List α) (pattern : List String) : Bool :=
  pattern.all fun source => (accepted language source text).any id

def termEnds (terms : List String) (text : List α) : List (List Int) :=
  ((terms.map (profanityPattern language)).filter
    (eligible language text)).map (endsOf language text)

/-- The loop over the text, at most so many rounds of it. -/
def mask (ends : List (List Int)) (text : List α) :
    Nat → Nat → Option (List (Piece α))
  | 0, _ => none
  | rounds + 1, i =>
    match text[i]? with
    | none => some []
    | some character =>
      let stop :=
        if i = 0 || !(text[i - 1]?).any language.word then
          (ends.find? fun term => decide (0 ≤ term.getD i (-1))).map
            fun term => (term.getD i (-1)).toNat
        else none
      match stop with
      | some stop => (mask ends text rounds stop).map (.masked i stop :: ·)
      | none => (mask ends text rounds (i + 1)).map (.kept character :: ·)

def censored (terms : List String) (rounds : Nat) (text : List α) :
    Option (List (Piece α)) :=
  mask language (termEnds language terms text) text rounds 0

def output (pieces : List (Piece α)) : String :=
  String.join (pieces.map fun
    | .kept character => language.shown character
    | .masked _ _ => "***")

def censorText (rounds : Nat) (text : List α) : Option String :=
  (censored language PROFANITY_TERMS rounds text).map (output language)

/-! ## The policy -/

def lettersPattern : List String → Pattern α
  | [] => .empty
  | [source] => .plus (language.test source)
  | source :: rest =>
    .seq (.plus (language.test source))
      (.seq (.star language.separatorIgnoringCase) (lettersPattern rest))

/-- `PROFANITY_REGEX` of the frozen policy, which has the flags `giu`. -/
def profanityRegex (terms : List String) : Pattern α :=
  .seq (.notBehind language.wordIgnoringCase)
    (.seq
      (.anyOf (terms.map fun term =>
        lettersPattern language (profanityPattern language term)))
      (.notAhead language.wordIgnoringCase))

/-- The pieces of the policy's output. -/
def legacyCensored (terms : List String) (text : List α) : List (Piece α) :=
  search (profanityRegex language terms) text

def legacyCensorText (text : List α) : String :=
  output language (legacyCensored language PROFANITY_TERMS text)

end Eki.Chat
