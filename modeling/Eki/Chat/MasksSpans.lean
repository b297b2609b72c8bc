import Eki.Chat.Moderation

/-!
# The same spans are masked

The arrays of the matcher hold, at each index, the first way of backtracking
from there; so the linear loop masks what the search of the policy masks.
-/

namespace Eki.Chat

open Backtracking

variable {α : Type} {language : Language α}

/-! ## Arrays of first ways -/

/-- An end is known by the text that is left behind it. -/
def code (size : Nat) : Option (List α) → Int
  | none => -1
  | some rest => ((size - rest.length : Nat) : Int)

/-- The array that holds a result for each suffix of a text. -/
def table (size : Nat) (first : List α → Option (List α)) :
    List α → List Int
  | [] => [code size (first [])]
  | character :: rest =>
    code size (first (character :: rest)) :: table size first rest

variable {size : Nat} {first : List α → Option (List α)}

theorem code_nonneg {found : Option (List α)} :
    0 ≤ code size found ↔ found.isSome = true := by
  cases found with
  | none | some => simp [code]

theorem table_headD (text : List α) :
    (table size first text).headD (-1) = code size (first text) := by
  cases text <;> rfl

def repeatsThen (accepts : α → Bool) (first : List α → Option (List α))
    (text : List α) : Option (List α) :=
  (repeats accepts text).findSome? fun way => first way.rest

theorem repeatsThen_cons (accepts : α → Bool) (character : α)
    (rest : List α) :
    repeatsThen accepts first (character :: rest) =
      if accepts character then
        (repeatsThen accepts first rest).or (first rest)
      else none :=
  findSome?_repeats_cons accepts character rest _

theorem repeated_table (accepts : α → Bool) (text : List α) :
    repeated (text.map accepts) (table size first text) =
      table size (repeatsThen accepts first) text := by
  induction text with
  | nil => rfl
  | cons character rest induction =>
    rw [table, List.map_cons, repeated, table, induction, table_headD,
      table_headD, repeatsThen_cons]
    congr 1
    cases accepts character with
    | false => rfl
    | true =>
      rw [if_pos rfl, if_pos rfl]
      cases found : repeatsThen accepts first rest with
      | none => rfl
      | some last => exact if_pos (code_nonneg.mpr rfl)

theorem separated_table (separator : α → Bool) (ended : first [] = none)
    (text : List α) :
    separated (text.map separator) (table size first text) =
      table size (fun text =>
        (repeatsThen separator first text).or (first text)) text := by
  induction text with
  | nil => simp [separated, table, ended, code, repeatsThen, repeats]
  | cons character rest induction =>
    rw [table, List.map_cons, separated, table, induction, table_headD,
      repeatsThen_cons]
    congr 1
    cases separator character with
    | false => simp
    | true =>
      simp only [true_and, if_true]
      cases found : (repeatsThen separator first rest).or (first rest) with
      | none => rfl
      | some last => exact if_pos (code_nonneg.mpr rfl)

/-- A match does not end where a word goes on. -/
def endsHere (language : Language α) (text : List α) : Option (List α) :=
  if text.head?.any language.word then none else some text

variable {i : Nat} {text : List α}

theorem terminal_table (whole : i + text.length = size) :
    terminal i (text.map language.word) =
      table size (endsHere language) text := by
  induction text generalizing i with
  | nil =>
    cases whole
    simp [terminal, table, endsHere, code]
  | cons character rest induction =>
    have index : size - (character :: rest).length = i := by omega
    have later := induction (i := i + 1) (by
      rw [← whole, List.length_cons]
      omega)
    rw [List.map_cons, terminal, table, later, endsHere, List.head?_cons,
      Option.any_some]
    congr 1
    split
    · rfl
    · rw [code, index]

/-- The first way of the stages behind the first one, with the separators
before them. -/
def laterThen (language : Language α) :
    List String → List α → Option (List α)
  | [] => endsHere language
  | source :: rest => fun text =>
    let own := repeatsThen (language.test source) (laterThen language rest)
    (repeatsThen language.separator own text).or (own text)

/-- The first way of a term. -/
def termThen (language : Language α) : List String → List α → Option (List α)
  | [] => endsHere language
  | source :: rest =>
    repeatsThen (language.test source) (laterThen language rest)

theorem laterStages_table (text : List α) (pattern : List String) :
    laterStages language text pattern =
      table text.length (laterThen language pattern) text := by
  induction pattern with
  | nil => exact terminal_table (Nat.zero_add _)
  | cons source rest induction =>
    rw [laterStages, induction, accepted, repeated_table,
      separated_table language.separator rfl]
    rfl

theorem endsOf_table (text : List α) (pattern : List String) :
    endsOf language text pattern =
      table text.length (termThen language pattern) text := by
  cases pattern with
  | nil => exact terminal_table (Nat.zero_add _)
  | cons source rest =>
    rw [endsOf, laterStages_table, accepted, repeated_table]
    rfl

/-! ## The ways of the policy -/

/-- The language whose classes are those of the policy. -/
def Language.ignoringCase (language : Language α) : Language α where
  __ := language
  separator := language.separatorIgnoringCase
  word := language.wordIgnoringCase

theorem findSome?_letters (pattern : List String) (cursor : Cursor α) :
    ((lettersPattern language pattern).ways cursor).findSome?
        (fun way => endsHere language.ignoringCase way.rest) =
      termThen language.ignoringCase pattern cursor.rest := by
  induction pattern generalizing cursor with
  | nil => rw [lettersPattern, Pattern.ways, List.findSome?_singleton]; rfl
  | cons source pattern induction =>
    cases pattern with
    | nil => rfl
    | cons next rest =>
      simp only [lettersPattern, findSome?_seq, induction]
      simp only [Pattern.ways, List.findSome?_append, List.findSome?_singleton]
      rfl

theorem head?_map_eq_findSome? {β γ : Type} (ways : List β) (view : β → γ) :
    ways.head?.map view = ways.findSome? fun way => some (view way) := by
  cases ways <;> rfl

theorem head?_profanityRegex (terms : List String) (cursor : Cursor α) :
    ((profanityRegex language terms).ways cursor).head?.map Cursor.rest =
      if cursor.previous.any language.wordIgnoringCase then none
      else terms.findSome? fun term =>
        termThen language.ignoringCase (profanityPattern language term)
          cursor.rest := by
  have ahead : ∀ way : Cursor α,
      ((Pattern.notAhead language.wordIgnoringCase).ways way).findSome?
        (fun way => some way.rest) =
        endsHere language.ignoringCase way.rest := by
    intro way
    rw [Pattern.ways, endsHere]
    change _ = if way.rest.head?.any language.wordIgnoringCase then none else _
    split <;> rfl
  rw [head?_map_eq_findSome?, profanityRegex, findSome?_seq, Pattern.ways]
  split
  · rfl
  · simp only [List.findSome?_singleton, findSome?_seq, ahead,
      findSome?_anyOf, List.findSome?_map]
    congr 1
    funext term
    exact findSome?_letters _ cursor

/-! ## What a match takes -/

variable {accepts : α → Bool} {last : List α}

theorem length_of_repeatsThen
    (found : repeatsThen accepts first text = some last)
    (shrinks : ∀ {text last : List α}, first text = some last →
      last.length ≤ text.length) : last.length < text.length := by
  obtain ⟨way, member, goesOn⟩ := List.exists_of_findSome?_eq_some found
  obtain ⟨character, suffix⟩ := suffix_of_repeats member
  have longer := suffix.length_le
  have shorter := shrinks goesOn
  rw [List.length_cons] at longer
  omega

variable {pattern : List String}

theorem length_of_laterThen
    (found : laterThen language pattern text = some last) :
    last.length ≤ text.length := by
  induction pattern generalizing text last with
  | nil =>
    unfold laterThen endsHere at found
    split at found <;> cases found
    exact Nat.le_refl _
  | cons source rest induction =>
    have own : ∀ {text last : List α},
        repeatsThen (language.test source) (laterThen language rest) text =
          some last → last.length ≤ text.length :=
      fun found => Nat.le_of_lt (length_of_repeatsThen found induction)
    rcases Option.or_eq_some_iff.mp found with separated | ⟨-, direct⟩
    · exact Nat.le_of_lt (length_of_repeatsThen separated own)
    · exact own direct

theorem length_of_termThen (letters : pattern ≠ [])
    (found : termThen language pattern text = some last) :
    last.length < text.length := by
  cases pattern with
  | nil => exact absurd rfl letters
  | cons source rest => exact length_of_repeatsThen found length_of_laterThen

/-! ## The terms that are left out -/

theorem repeatsThen_of_absent
    (absent : ∀ character ∈ text, accepts character = false) :
    repeatsThen accepts first text = none := by
  cases text with
  | nil => rfl
  | cons character rest =>
    rw [repeatsThen_cons, absent character List.mem_cons_self]
    rfl

theorem repeatsThen_of_none
    (never : ∀ rest, rest <:+ text → first rest = none) :
    repeatsThen accepts first text = none := by
  refine List.findSome?_eq_none_iff.mpr fun way member => never way.rest ?_
  obtain ⟨character, suffix⟩ := suffix_of_repeats member
  exact (List.suffix_cons _ _).trans suffix

theorem laterThen_of_absent {source : String} (letter : source ∈ pattern)
    (absent : ∀ character ∈ text, language.test source character = false) :
    laterThen language pattern text = none ∧
      termThen language pattern text = none := by
  induction pattern generalizing text with
  | nil => cases letter
  | cons head rest induction =>
    have own : ∀ left, left <:+ text →
        repeatsThen (language.test head) (laterThen language rest) left =
          none := by
      intro left suffix
      rcases List.mem_cons.mp letter with rfl | later
      · exact repeatsThen_of_absent fun character member =>
          absent character (suffix.subset member)
      · refine repeatsThen_of_none fun shorter within => ?_
        exact (induction later fun character member =>
          absent character ((within.trans suffix).subset member)).1
    refine ⟨?_, own text List.suffix_rfl⟩
    simp only [laterThen, repeatsThen_of_none own, own text List.suffix_rfl,
      Option.or_none]

theorem termThen_of_not_eligible
    (absent : eligible language text pattern = false) (i : Nat) :
    termThen language pattern (text.drop i) = none := by
  obtain ⟨source, letter, nowhere⟩ := List.all_eq_false.mp absent
  refine (laterThen_of_absent letter fun character member => ?_).2
  simp only [accepted, List.any_map, Bool.not_eq_true] at nowhere
  have refused := List.any_eq_false.mp nowhere character
    ((List.drop_suffix i text).subset member)
  simpa using refused

/-! ## The loop -/

theorem table_getD (within : i ≤ text.length) :
    (table size first text).getD i (-1) = code size (first (text.drop i)) := by
  induction text generalizing i with
  | nil =>
    cases Nat.le_zero.mp within
    rfl
  | cons character rest induction =>
    cases i with
    | zero => rfl
    | succ i => exact induction (Nat.le_of_succ_le_succ within)

theorem find?_termEnds (terms : List String) (within : i ≤ text.length) :
    (((termEnds language terms text).find? fun term =>
        decide (0 ≤ term.getD i (-1))).map fun term =>
          (term.getD i (-1)).toNat) =
      (terms.findSome? fun term =>
        termThen language (profanityPattern language term)
          (text.drop i)).map fun last => text.length - last.length := by
  unfold termEnds
  induction terms with
  | nil => rfl
  | cons term terms induction =>
    rw [List.findSome?_cons, List.map_cons, List.filter_cons]
    cases possible : eligible language text
        (profanityPattern language term) with
    | false =>
      rw [if_neg (by simp), termThen_of_not_eligible possible, induction]
    | true =>
      rw [if_pos rfl, List.map_cons, List.find?_cons, endsOf_table,
        table_getD within]
      cases found : termThen language (profanityPattern language term)
          (text.drop i) with
      | none => exact induction
      | some last =>
        have ended : decide (0 ≤ code text.length (some last)) = true :=
          decide_eq_true (code_nonneg.mpr rfl)
        rw [ended]
        simp only [Option.map_some, table_getD within, found, code,
          Int.toNat_natCast]

/-- Where the loop goes on from an index. -/
theorem stop_eq_head? (terms : List String) (within : i ≤ text.length) :
    (if (i = 0 || !(text[i - 1]?).any language.ignoringCase.word) = true then
      ((termEnds language.ignoringCase terms text).find? fun term =>
        decide (0 ≤ term.getD i (-1))).map fun term =>
          (term.getD i (-1)).toNat
    else none) =
      (((profanityRegex language terms).ways
        ⟨behind text i, text.drop i⟩).head?.map Cursor.rest).map fun last =>
          text.length - last.length := by
  have free : (i = 0 || !(text[i - 1]?).any language.ignoringCase.word) =
      !(behind text i).any language.ignoringCase.word := by
    cases i <;> simp [behind]
  rw [head?_profanityRegex, free, find?_termEnds terms within]
  change _ = Option.map _
    (if (behind text i).any language.ignoringCase.word then none else _)
  cases (behind text i).any language.ignoringCase.word <;> rfl

variable {terms : List String}

theorem length_of_profanityRegex
    (letters : ∀ term ∈ terms, language.characters term ≠ [])
    {cursor last : Cursor α}
    (found : ((profanityRegex language terms).ways cursor).head? =
      some last) : last.rest.length < cursor.rest.length := by
  have ways := @head?_profanityRegex _ language terms cursor
  rw [found, Option.map_some] at ways
  split at ways
  · cases ways
  · obtain ⟨term, member, goesOn⟩ :=
      List.exists_of_findSome?_eq_some ways.symm
    refine length_of_termThen ?_ goesOn
    simpa [profanityPattern] using letters term member

theorem mask_eq_searchFrom
    (letters : ∀ term ∈ terms, language.characters term ≠ []) (text : List α)
    {rounds : Nat} (within : i ≤ text.length)
    (enough : text.length < i + rounds) :
    mask language.ignoringCase (termEnds language.ignoringCase terms text)
        text rounds i =
      some (searchFrom (profanityRegex language terms) i 0 (behind text i)
        (text.drop i)) := by
  induction rounds generalizing i with
  | zero => omega
  | succ rounds induction =>
    rw [mask]
    simp only [stop_eq_head? terms within]
    rcases Nat.lt_or_eq_of_le within with below | rfl
    · have left := List.drop_eq_getElem_cons below
      rw [List.getElem?_eq_getElem below, left, searchFrom, ← left]
      cases found : ((profanityRegex language terms).ways
          ⟨behind text i, text.drop i⟩).head? with
      | none =>
        simp only [Option.map_none]
        rw [induction below (by omega), behind, List.getElem?_eq_getElem below]
        rfl
      | some last =>
        have shorter := length_of_profanityRegex letters found
        rw [List.length_drop] at shorter
        obtain ⟨matched, taken⟩ : ∃ matched,
            (text.drop i).length - last.rest.length = matched + 1 :=
          ⟨text.length - i - last.rest.length - 1, by
            rw [List.length_drop]
            omega⟩
        have stops : text.length - last.rest.length = i + 1 + matched := by
          rw [List.length_drop] at taken
          omega
        have goesOn := @searchFrom_matched _ (profanityRegex language terms)
          text (i + 1) matched (by omega)
        rw [behind, List.getElem?_eq_getElem below] at goesOn
        simp only [Option.map_some, stops, taken, goesOn]
        rw [induction (by omega) (by omega), Nat.add_right_comm, Nat.add_assoc]
        rfl
    · have ended : ((profanityRegex language terms).ways
          ⟨behind text text.length, []⟩).head? = none := by
        refine Option.eq_none_iff_forall_ne_some.mpr fun last found => ?_
        exact Nat.not_lt_zero _ (length_of_profanityRegex letters found)
      rw [List.getElem?_eq_none (Nat.le_refl _), List.drop_length, searchFrom,
        List.head?_eq_none_iff.mp ended]
      rfl

/-! ## Both flags -/

/-- Both languages give every character of the text the same classes. -/
structure Alike (language other : Language α) (text : List α) : Prop where
  characters : language.characters = other.characters
  test : language.test = other.test
  separator : ∀ character ∈ text,
    language.separator character = other.separator character
  word : ∀ character ∈ text, language.word character = other.word character

variable {other : Language α} (alike : Alike language other text)

include alike

theorem laterStages_alike (pattern : List String) :
    laterStages language text pattern = laterStages other text pattern := by
  induction pattern with
  | nil => exact congrArg _ (List.map_congr_left alike.word)
  | cons source rest induction =>
    rw [laterStages, laterStages, induction, accepted, accepted, alike.test,
      List.map_congr_left alike.separator]

theorem endsOf_alike (pattern : List String) :
    endsOf language text pattern = endsOf other text pattern := by
  cases pattern with
  | nil => exact laterStages_alike alike []
  | cons source rest =>
    rw [endsOf, endsOf, laterStages_alike alike, accepted, accepted, alike.test]

theorem termEnds_alike (terms : List String) :
    termEnds language terms text = termEnds other terms text := by
  have patterns : profanityPattern language = profanityPattern other := by
    funext term
    rw [profanityPattern, profanityPattern, alike.characters]
  have possible : eligible language text = eligible other text := by
    funext pattern
    simp only [eligible, accepted, alike.test]
  rw [termEnds, termEnds, patterns, possible]
  exact List.map_congr_left fun pattern _ => endsOf_alike alike pattern

theorem mask_alike (ends : List (List Int)) (rounds i : Nat) :
    mask language ends text rounds i = mask other ends text rounds i := by
  have before (i : Nat) : (text[i - 1]?).any language.word =
      (text[i - 1]?).any other.word := by
    cases found : text[i - 1]? with
    | none => rfl
    | some character => exact alike.word _ (List.mem_of_getElem? found)
  induction rounds generalizing i with
  | zero => rfl
  | succ rounds induction => simp only [mask, before, induction]

omit alike

theorem censored_of_alike (policy : Language α)
    (letters : ∀ term ∈ terms, policy.characters term ≠ []) {rounds : Nat}
    (enough : text.length < rounds)
    (alike : Alike language policy.ignoringCase text) :
    censored language terms rounds text =
      some (legacyCensored policy terms text) := by
  rw [censored, termEnds_alike alike, mask_alike alike,
    mask_eq_searchFrom letters text (Nat.zero_le _) (by omega)]
  rfl

/-- The language of a policy without the flag `i`. -/
def Language.regardingCase (language : Language α) : Language α where
  __ := language
  separatorIgnoringCase := language.separator
  wordIgnoringCase := language.word

/-- **The matcher masks what the policy masks**, the same spans of the text,
and leaves the rest as it is, if and only if the flag `i` of the policy changes
none of its matches there.  It changes none where no character of the text is
of a class by its case alone. -/
theorem censored_eq_legacy (language : Language α) (terms : List String)
    (letters : ∀ term ∈ terms, language.characters term ≠ [])
    (text : List α) {rounds : Nat} (enough : text.length < rounds) :
    (censored language terms rounds text =
        some (legacyCensored language terms text) ↔
      legacyCensored language.regardingCase terms text =
        legacyCensored language terms text) ∧
    (Alike language language.ignoringCase text →
      censored language terms rounds text =
        some (legacyCensored language terms text)) := by
  have regarded : censored language terms rounds text =
      some (legacyCensored language.regardingCase terms text) :=
    censored_of_alike language.regardingCase letters enough
      ⟨rfl, rfl, fun _ _ => rfl, fun _ _ => rfl⟩
  exact ⟨by rw [regarded, Option.some_inj],
    censored_of_alike language letters enough⟩

/-- The classes of a few letters.  The small iota is a letter; its case is
that of the iota that is a mark, U+0345. -/
def plainLanguage : Language Char where
  characters := String.toList
  test source character := source.toList.contains character
  shown := Char.toString
  separator character := ['.', ' '].contains character
  word character := character.isAlphanum || character == 'ι'
  separatorIgnoringCase character := ['.', ' ', 'ι'].contains character
  wordIgnoringCase character := character.isAlphanum || character == 'ι'

/-- Both letters, a separator and a longer term come into play. -/
theorem censored_eq_legacy_of_evasion :
    legacyCensored plainLanguage ["bc", "mc"] "a 8.cc m".toList =
        [.kept 'a', .kept ' ', .masked 2 6, .kept ' ', .kept 'm'] ∧
      censored plainLanguage ["bc", "mc"] 9 "a 8.cc m".toList =
        some (legacyCensored plainLanguage ["bc", "mc"] "a 8.cc m".toList) :=
  ⟨by decide +kernel, (censored_eq_legacy plainLanguage ["bc", "mc"]
    (by decide +kernel) _ (by decide +kernel)).2
    ⟨rfl, rfl, by simp [plainLanguage, Language.ignoringCase],
      by simp [plainLanguage, Language.ignoringCase]⟩⟩

/-- An iota between the letters of a term hides it from the matcher. -/
theorem iota_evades_censorText :
    censorText plainLanguage 4 "mιc".toList = some "mιc" ∧
      legacyCensorText plainLanguage "mιc".toList = "***" := by
  decide +kernel

end Eki.Chat
