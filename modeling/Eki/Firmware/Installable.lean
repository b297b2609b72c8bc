import Eki.Firmware.Releases

/-!
# Installable releases

The backend bounds the digits of a sequence, but not its value, and the text of
a URL before it is normalised.  A release is installable exactly when its
sequence is a word of 32 bits and its normalised URL has no fragment and no
more characters than the device reads.
-/

namespace Eki.Firmware

open Feedback (trim utf16Length)
open List (all_eq_true cons_append foldl_cons length_cons length_map map_append
  map_cons mem_append mem_cons mem_cons_of_mem mem_cons_self mem_map)
open Bool (and_eq_true or_eq_true)

/-! ## Bytes of an ASCII text -/

variable {c : Char}

theorem utf8EncodeChar_of_lt (ascii : c.toNat < 0x80) :
    (String.utf8EncodeChar c).map UInt8.toNat = [c.toNat] := by
  have small : c.val.toNat ≤ 0x7f := Nat.le_of_lt_succ ascii
  have byte : c.val.toNat % 256 = c.val.toNat := Nat.mod_eq_of_lt (by omega)
  simp only [String.utf8EncodeChar, if_pos small, map_cons, List.map_nil]
  simpa using byte

theorem map_utf8EncodeChar {letters : List Char}
    (ascii : ∀ c ∈ letters, c.toNat < 0x80) :
    (letters.flatMap String.utf8EncodeChar).map UInt8.toNat =
      letters.map Char.toNat := by
  induction letters with
  | nil => rfl
  | cons c rest induction =>
    have later := induction fun other member =>
      ascii other (mem_cons_of_mem c member)
    rw [List.flatMap_cons, map_append, later,
      utf8EncodeChar_of_lt (ascii c mem_cons_self)]
    rfl

theorem cString_eq {text : String}
    (ascii : ∀ c ∈ text.toList, 0 < c.toNat ∧ c.toNat < 0x80) :
    cString text = text.toList.map Char.toNat := by
  unfold cString
  rw [map_utf8EncodeChar fun c member => (ascii c member).2,
    List.takeWhile_eq_self_iff]
  intro byte member
  obtain ⟨c, inside, rfl⟩ := mem_map.mp member
  have positive := (ascii c inside).1
  simpa using Nat.pos_iff_ne_zero.mp positive

/-! ## Versions -/

variable {value : List Nat}

theorem versionScan_of_le {length : Nat}
    (bytes : ∀ byte ∈ value, isVersionByte byte = true)
    (bound : length + value.length ≤ versionMaxLength) :
    versionScan length value = true := by
  induction value generalizing length with
  | nil => rfl
  | cons byte rest induction =>
    rw [length_cons] at bound
    have first := bytes byte mem_cons_self
    unfold versionScan
    rw [if_neg (by omega), first]
    apply induction
    · intro other member
      exact bytes other (mem_cons_of_mem byte member)
    · omega

theorem foldl_decimal_le (digits : List Char) (value : Nat) :
    value ≤ digits.foldl
      (fun value digit => value * 10 + (digit.toNat - 0x30)) value := by
  induction digits generalizing value with
  | nil => exact Nat.le_refl value
  | cons digit rest induction =>
    have later := induction (value * 10 + (digit.toNat - 0x30))
    rw [foldl_cons]
    omega

theorem isDigitByte_of_isDigit (digit : c.isDigit = true) :
    isDigitByte c.toNat = true := by
  simp only [Char.isDigit, and_eq_true, decide_eq_true_eq,
    UInt32.le_iff_toNat_le, ge_iff_le] at digit
  obtain ⟨low, high⟩ := digit
  simp only [isDigitByte, and_eq_true, decide_eq_true_eq]
  exact ⟨low, high⟩

theorem isVersionByte_of_isAlphanum (letter : c.isAlphanum = true) :
    isVersionByte c.toNat = true := by
  have opened : ((decide (c.val ≥ 'A'.val ∧ c.val ≤ 'Z'.val) ||
      decide (c.val ≥ 'a'.val) && decide (c.val ≤ 'z'.val)) ||
        (decide (c.val ≥ '0'.val) && decide (c.val ≤ '9'.val))) = true :=
    letter
  simp only [or_eq_true, and_eq_true, decide_eq_true_eq,
    UInt32.le_iff_toNat_le, ge_iff_le] at opened
  simp only [isVersionByte, isDigitByte, or_eq_true, and_eq_true,
    decide_eq_true_eq, beq_iff_eq]
  rcases opened with (upper | lower) | digit
  · exact .inl (.inl (.inl (.inl (.inr upper))))
  · exact .inl (.inl (.inl (.inl (.inl lower))))
  · exact .inl (.inl (.inl (.inr digit)))

variable {digits : List Char}

theorem parseDigits_append (rest : List Nat) (parsed count : Nat)
    (numeric : ∀ c ∈ digits, c.isDigit = true)
    (ends : ∀ byte, rest.head? = some byte → isDigitByte byte = false)
    (fits : digits.foldl
      (fun value digit => value * 10 + (digit.toNat - 0x30)) parsed ≤
        uint32Max) :
    parseDigits parsed count (digits.map Char.toNat ++ rest) =
      some (digits.foldl
        (fun value digit => value * 10 + (digit.toNat - 0x30)) parsed,
        count + digits.length, rest) := by
  induction digits generalizing parsed count with
  | nil =>
    cases rest with
    | nil => rfl
    | cons byte rest =>
      have stops := ends byte rfl
      simp [parseDigits, stops]
  | cons digit digits induction =>
    have first := isDigitByte_of_isDigit (numeric digit mem_cons_self)
    rw [foldl_cons] at fits ⊢
    have grows := foldl_decimal_le digits
      (parsed * 10 + (digit.toNat - 0x30))
    rw [map_cons, cons_append, parseDigits]
    simp only [first, if_true]
    rw [if_neg (by omega)]
    rw [induction _ _
      (fun c member => numeric c (mem_cons_of_mem _ member)) fits,
      length_cons]
    congr 3
    omega

theorem parseDigits_eq_none (rest : List Nat) {parsed : Nat} (count : Nat)
    (numeric : ∀ c ∈ digits, c.isDigit = true) (small : parsed ≤ uint32Max)
    (exceeds : uint32Max < digits.foldl
      (fun value digit => value * 10 + (digit.toNat - 0x30)) parsed) :
    parseDigits parsed count (digits.map Char.toNat ++ rest) = none := by
  induction digits generalizing parsed count with
  | nil =>
    rw [List.foldl_nil] at exceeds
    omega
  | cons digit digits induction =>
    have first := isDigitByte_of_isDigit (numeric digit mem_cons_self)
    rw [foldl_cons] at exceeds
    rw [map_cons, cons_append, parseDigits]
    simp only [first, if_true]
    split
    · rfl
    · exact induction _
        (fun c member => numeric c (mem_cons_of_mem _ member))
        (by omega) exceeds

/-- What the pattern of a version says. -/
structure SignedVersion (version : String) (digits : List Char) : Prop where
  shape : ∃ first name, version.toList = 's' :: digits ++ '-' :: first :: name ∧
    first.isAlphanum = true ∧ name.length ≤ 18 ∧
    ∀ c ∈ name, (c.isAlphanum || c == '.' || c == '_' || c == '-') = true
  nonempty : digits ≠ []
  leading : digits.head? ≠ some '0'
  numeric : ∀ c ∈ digits, c.isDigit = true
  length_le : digits.length ≤ 10

theorem signedVersion_of_versionSequence {version : String}
    (parsed : versionSequence version = some digits) :
    SignedVersion version digits := by
  unfold versionSequence at parsed
  split at parsed
  · rename_i rest text
    simp only at parsed
    split at parsed
    · rename_i leading others first name run behind
      split at parsed
      · rename_i meets
        obtain ⟨nonzero, short, letter, letters, bounded⟩ := meets
        cases parsed
        have whole : rest.takeWhile Char.isDigit ++
            rest.dropWhile Char.isDigit = rest :=
          List.takeWhile_append_dropWhile
        constructor
        · refine ⟨first, name, ?_, letter, bounded, ?_⟩
          · rw [text, cons_append, ← behind, whole]
          · exact all_eq_true.mp letters
        · rw [run]
          exact List.cons_ne_nil leading others
        · rw [run]
          simpa using nonzero
        · intro c member
          exact List.mem_takeWhile_imp member
        · exact short
      · cases parsed
    · cases parsed
  · cases parsed

theorem isVersionByte_of_letter
    (letter : (c.isAlphanum || c == '.' || c == '_' || c == '-') = true) :
    isVersionByte c.toNat = true := by
  simp only [or_eq_true, beq_iff_eq] at letter
  rcases letter with ((alphanum | rfl) | rfl) | rfl
  · exact isVersionByte_of_isAlphanum alphanum
  · rfl
  · rfl
  · rfl

theorem isVersionByte_lt {byte : Nat} (letter : isVersionByte byte = true) :
    0 < byte ∧ byte < 0x80 := by
  simp only [isVersionByte, isDigitByte, or_eq_true, and_eq_true,
    decide_eq_true_eq, beq_iff_eq] at letter
  omega

namespace SignedVersion

variable {version : String} {digits : List Char}

theorem letters (signed : SignedVersion version digits) :
    ∀ c ∈ version.toList, isVersionByte c.toNat = true := by
  obtain ⟨first, name, text, letter, -, letters⟩ := signed.shape
  intro c member
  rw [text, cons_append, mem_cons, mem_append, mem_cons, mem_cons] at member
  rcases member with rfl | digit | rfl | rfl | other
  · rfl
  · have numeric := isDigitByte_of_isDigit (signed.numeric c digit)
    simp [isVersionByte, numeric]
  · rfl
  · exact isVersionByte_of_isAlphanum letter
  · exact isVersionByte_of_letter (letters c other)

theorem length_le_max (signed : SignedVersion version digits) :
    version.toList.length ≤ versionMaxLength := by
  obtain ⟨first, name, text, -, short, -⟩ := signed.shape
  have digitsShort := signed.length_le
  rw [text]
  simp only [cons_append, length_cons, List.length_append, versionMaxLength]
  omega

theorem cString_eq_map (signed : SignedVersion version digits) :
    cString version = version.toList.map Char.toNat :=
  cString_eq fun c member => isVersionByte_lt (signed.letters c member)

theorem versionIsValid (signed : SignedVersion version digits) :
    versionIsValid (cString version) = true := by
  rw [signed.cString_eq_map]
  unfold Firmware.versionIsValid
  rw [versionScan_of_le]
  · obtain ⟨first, name, text, -⟩ := signed.shape
    simp [text]
  · intro byte member
    obtain ⟨c, inside, rfl⟩ := mem_map.mp member
    exact signed.letters c inside
  · rw [length_map, Nat.zero_add]
    exact signed.length_le_max

variable (signed : SignedVersion version digits)

include signed

theorem decimalValue_pos : 0 < decimalValue digits := by
  have leading := signed.leading
  have numeric := signed.numeric
  cases digits with
  | nil => exact absurd rfl signed.nonempty
  | cons digit rest =>
    have digitByte := isDigitByte_of_isDigit
      (numeric digit mem_cons_self)
    simp only [isDigitByte, and_eq_true, decide_eq_true_eq] at digitByte
    have nonzero : digit.toNat ≠ 0x30 := by
      intro same
      apply leading
      rw [List.head?_cons, ← Char.ofNat_toNat digit, same]
    have grows := foldl_decimal_le rest (0 * 10 + (digit.toNat - 0x30))
    unfold decimalValue
    rw [foldl_cons]
    omega

theorem bytes :
    ∃ first name, cString version =
      0x73 :: (digits.map Char.toNat ++ 0x2d :: first :: name) := by
  obtain ⟨first, name, text, -⟩ := signed.shape
  refine ⟨first.toNat, name.map Char.toNat, ?_⟩
  rw [signed.cString_eq_map, text]
  simp only [cons_append, map_cons, map_append]
  rfl

theorem signedVersionSequence_eq (fits : decimalValue digits ≤ uint32Max) :
    signedVersionSequence (cString version) =
      some (BitVec.ofNat 32 (decimalValue digits)) := by
  have valid := signed.versionIsValid
  have positive := signed.decimalValue_pos
  obtain ⟨first, name, bytes⟩ := signed.bytes
  have read := parseDigits_append (0x2d :: first :: name) 0 0 signed.numeric
    (by
      intro byte head
      cases head
      rfl)
    fits
  have leading : ¬ ((digits.map Char.toNat ++
      0x2d :: first :: name).head? = some 0x30 ∧ 1 < 0 + digits.length) := by
    intro both
    have nonzero := signed.leading
    cases digits with
    | nil => exact absurd rfl signed.nonempty
    | cons digit rest =>
      apply nonzero
      have same : digit.toNat = 0x30 := by simpa using both.1
      rw [List.head?_cons, ← Char.ofNat_toNat digit, same]
  have some_digit : ¬ 0 + digits.length = 0 := by
    rw [Nat.zero_add, List.length_eq_zero_iff]
    exact signed.nonempty
  rw [bytes] at valid ⊢
  unfold Firmware.signedVersionSequence
  simp only [valid, Bool.not_true, Bool.false_eq_true, if_false, read]
  rw [if_neg (by
    intro bad
    rcases bad with none | zero
    · exact some_digit none
    · exact leading zero)]
  exact if_pos positive

theorem signedVersionSequence_eq_none
    (exceeds : uint32Max < decimalValue digits) :
    signedVersionSequence (cString version) = none := by
  have valid := signed.versionIsValid
  obtain ⟨first, name, bytes⟩ := signed.bytes
  have refused := parseDigits_eq_none (0x2d :: first :: name) 0 signed.numeric
    (Nat.zero_le uint32Max) exceeds
  rw [bytes] at valid ⊢
  unfold Firmware.signedVersionSequence
  simp only [valid, Bool.not_true, Bool.false_eq_true, if_false, refused]

end SignedVersion

/-! ## URLs -/

/-- A printable ASCII character other than a space. -/
def UrlCharacter (c : Char) : Prop :=
  0x20 < c.toNat ∧ c.toNat ≤ 0x7e

/-- What the URL standard guarantees of the parts of a parsed HTTPS URL. -/
structure UrlRecord.Serialised (url : UrlRecord) : Prop where
  authority_ne : url.authority ≠ ""
  authority : ∀ c ∈ url.authority.toList,
    UrlCharacter c ∧ c ≠ '/' ∧ c ≠ '?' ∧ c ≠ '#' ∧ c ≠ '@'
  root : ∃ rest, url.path.toList = '/' :: rest
  path : ∀ c ∈ url.path.toList, UrlCharacter c ∧ c ≠ '#'
  query : ∀ query, url.query = some query →
    ∀ c ∈ query.toList, UrlCharacter c ∧ c ≠ '#'

/-- A byte that the device reads behind the authority. -/
def UrlByte (byte : Nat) : Prop :=
  0x20 < byte ∧ byte ≤ 0x7e ∧ byte ≠ 0x23

theorem urlByte_of_urlCharacter (letter : UrlCharacter c) (plain : c ≠ '#') :
    UrlByte c.toNat := by
  refine ⟨letter.1, letter.2, ?_⟩
  intro same
  apply plain
  rw [← Char.ofNat_toNat c, same]

theorem urlScan_outside {index : Nat} {authorityCharacter : Bool}
    (bound : index ≤ urlMaxLength) :
    urlScan index authorityCharacter false value = true ↔
      authorityCharacter = true ∧ index + value.length ≤ urlMaxLength ∧
        ∀ byte ∈ value, UrlByte byte := by
  induction value generalizing index with
  | nil => simp [urlScan, bound]
  | cons byte rest induction =>
    simp only [urlScan, Bool.false_and, Bool.false_eq_true, if_false,
      false_and, or_false, Bool.or_false, length_cons, mem_cons,
      forall_eq_or_imp]
    split
    · constructor
      · intro impossible
        cases impossible
      · omega
    · split
      · rename_i bad
        constructor
        · intro impossible
          cases impossible
        · intro ⟨_, _, good, _⟩
          unfold UrlByte at good
          omega
      · rename_i room good
        rw [induction (by omega)]
        have letter : UrlByte byte := by
          unfold UrlByte
          omega
        have length : index + 1 + rest.length = index + (rest.length + 1) := by
          omega
        rw [length]
        simp only [letter, true_and]

theorem urlScan_authority {index : Nat} {authorityCharacter : Bool}
    {front rest : List Nat} (bound : index ≤ urlMaxLength)
    (letters : ∀ byte ∈ front,
      UrlByte byte ∧ byte ≠ 0x40 ∧ byte ≠ 0x2f ∧ byte ≠ 0x3f) :
    urlScan index authorityCharacter true (front ++ rest) = true ↔
      index + front.length ≤ urlMaxLength ∧
        urlScan (index + front.length) (authorityCharacter || !front.isEmpty)
          true rest = true := by
  induction front generalizing index authorityCharacter with
  | nil => simp [bound]
  | cons byte front induction =>
    obtain ⟨letter, noAt, noSlash, noQuery⟩ :=
      letters byte mem_cons_self
    unfold UrlByte at letter
    have slash : (byte == 0x2f || byte == 0x3f) = false := by
      simp [noSlash, noQuery]
    simp only [cons_append, urlScan, slash, Bool.and_false,
      Bool.false_eq_true, if_false, Bool.or_true, length_cons,
      List.isEmpty_cons, Bool.not_false]
    split
    · constructor
      · intro impossible
        cases impossible
      · omega
    · rw [if_neg (by omega), induction (by omega)
        fun other member => letters other (mem_cons_of_mem _ member)]
      have length : index + 1 + front.length = index + (front.length + 1) := by
        omega
      rw [length, Bool.true_or]

/-- The device accepts exactly the HTTPS URLs that fit and have no fragment. -/
theorem httpsUrlIsValid_iff {front back : List Nat} (nonempty : front ≠ [])
    (letters : ∀ byte ∈ front,
      UrlByte byte ∧ byte ≠ 0x40 ∧ byte ≠ 0x2f ∧ byte ≠ 0x3f) :
    httpsUrlIsValid (httpsPrefix ++ (front ++ 0x2f :: back)) = true ↔
      (httpsPrefix ++ (front ++ 0x2f :: back)).length ≤ urlMaxLength ∧
        ∀ byte ∈ back, UrlByte byte := by
  have isFirst : httpsPrefix.isPrefixOf
      (httpsPrefix ++ (front ++ 0x2f :: back)) = true :=
    List.isPrefixOf_iff_prefix.mpr (List.prefix_append _ _)
  have some_byte : front.isEmpty = false := by
    cases front with
    | nil => exact absurd rfl nonempty
    | cons byte rest => rfl
  unfold httpsUrlIsValid
  rw [isFirst, Bool.true_and, List.drop_left,
    urlScan_authority (by decide) letters]
  simp only [some_byte, Bool.not_false, Bool.or_true, List.length_append,
    length_cons]
  constructor
  · intro ⟨bound, scanned⟩
    simp only [urlScan] at scanned
    split at scanned
    · cases scanned
    · split at scanned
      · cases scanned
      · obtain ⟨-, length, bytes⟩ := (urlScan_outside (by omega)).mp scanned
        exact ⟨by omega, bytes⟩
  · intro ⟨length, bytes⟩
    refine ⟨by omega, ?_⟩
    simp only [urlScan]
    rw [if_neg (by omega), if_neg (by decide)]
    exact (urlScan_outside (by omega)).mpr ⟨rfl, by omega, bytes⟩

namespace UrlRecord

variable {url : UrlRecord}

def behindRoot (url : UrlRecord) : List Char :=
  url.path.toList.tail ++ (url.query.elim "" ("?" ++ ·)).toList ++
    (url.fragment.elim "" ("#" ++ ·)).toList

theorem toList_toText (https : url.scheme = "https")
    (noUser : url.username = "") (noPassword : url.password = "")
    (serialised : url.Serialised) :
    url.toText.toList = "https://".toList ++
      (url.authority.toList ++ '/' :: url.behindRoot) := by
  obtain ⟨rest, root⟩ := serialised.root
  simp [toText, behindRoot, credentials, https, noUser, noPassword, root]

theorem fragment_of_hash (plain : url.hash = "") :
    url.fragment = none ∨ url.fragment = some "" := by
  unfold hash at plain
  cases fragment : url.fragment with
  | none => exact .inl rfl
  | some text =>
    right
    by_cases empty : text = ""
    · rw [empty]
    · rw [fragment] at plain
      simp [Option.filter, empty] at plain

theorem mem_behindRoot (serialised : url.Serialised) (plain : url.hash = "")
    (member : c ∈ url.behindRoot) :
    UrlCharacter c ∧ (c = '#' → url.fragment ≠ none) := by
  obtain ⟨rest, root⟩ := serialised.root
  unfold behindRoot at member
  rw [mem_append, mem_append] at member
  rcases member with (path | query) | fragment
  · have letter := serialised.path c (List.mem_of_mem_tail path)
    exact ⟨letter.1, fun same => absurd same letter.2⟩
  · cases present : url.query with
    | none => simp [present] at query
    | some text =>
      rw [present] at query
      have inside : c = '?' ∨ c ∈ text.toList := by simpa using query
      rcases inside with rfl | inside
      · exact ⟨⟨by decide, by decide⟩, fun impossible => by cases impossible⟩
      · have letter := serialised.query text present c inside
        exact ⟨letter.1, fun same => absurd same letter.2⟩
  · rcases fragment_of_hash plain with none | empty
    · simp [none] at fragment
    · have same : c = '#' := by simpa [empty] using fragment
      rw [same]
      refine ⟨⟨by decide, by decide⟩, ?_⟩
      intro _ impossible
      rw [empty] at impossible
      cases impossible

theorem hash_mem_behindRoot (fragment : url.fragment ≠ none) :
    '#' ∈ url.behindRoot := by
  unfold behindRoot
  cases present : url.fragment with
  | none => exact absurd present fragment
  | some text => simp

/-- The device takes a URL of the backend exactly when it is short enough and
its fragment is not merely empty. -/
theorem httpsUrlIsValid_toText (https : url.scheme = "https")
    (noUser : url.username = "") (noPassword : url.password = "")
    (plain : url.hash = "") (serialised : url.Serialised) :
    httpsUrlIsValid (cString url.toText) = true ↔
      url.toText.length ≤ urlMaxLength ∧ url.fragment = none := by
  have text := toList_toText https noUser noPassword serialised
  have ascii : ∀ c ∈ url.toText.toList, 0 < c.toNat ∧ c.toNat < 0x80 := by
    intro c member
    rw [text, mem_append, mem_append, mem_cons] at member
    rcases member with first | authority | rfl | behind
    · have all : "https://".toList.all (fun c =>
          decide (0 < c.toNat ∧ c.toNat < 0x80)) = true := by
        decide
      exact of_decide_eq_true (all_eq_true.mp all c first)
    · have letter := (serialised.authority c authority).1
      unfold UrlCharacter at letter
      omega
    · decide
    · have letter := (mem_behindRoot serialised plain behind).1
      unfold UrlCharacter at letter
      omega
  have bytes : cString url.toText = httpsPrefix ++
      (url.authority.toList.map Char.toNat ++
        0x2f :: url.behindRoot.map Char.toNat) := by
    rw [cString_eq ascii, text]
    simp only [map_append, map_cons]
    rfl
  have length : (httpsPrefix ++ (url.authority.toList.map Char.toNat ++
      0x2f :: url.behindRoot.map Char.toNat)).length = url.toText.length := by
    rw [← bytes, cString_eq ascii, length_map, String.length_toList]
  rw [bytes, httpsUrlIsValid_iff, length]
  · apply and_congr_right
    intro _
    constructor
    · intro letters
      by_contra fragment
      have sharp := letters _
        (List.mem_map_of_mem (hash_mem_behindRoot fragment))
      exact sharp.2.2 rfl
    · intro none byte member
      obtain ⟨c, inside, rfl⟩ := mem_map.mp member
      obtain ⟨letter, sharp⟩ := mem_behindRoot serialised plain inside
      exact urlByte_of_urlCharacter letter fun same => sharp same none
  · intro empty
    apply serialised.authority_ne
    rw [← String.toList_eq_nil_iff]
    exact List.map_eq_nil_iff.mp empty
  · intro byte member
    obtain ⟨c, inside, rfl⟩ := mem_map.mp member
    obtain ⟨letter, noSlash, noQuery, noHash, noAt⟩ :=
      serialised.authority c inside
    have differs {other : Char} (apart : c ≠ other) :
        c.toNat ≠ other.toNat := by
      intro same
      apply apart
      rw [← Char.ofNat_toNat c, same, Char.ofNat_toNat]
    exact ⟨urlByte_of_urlCharacter letter noHash, differs noAt,
      differs noSlash, differs noQuery⟩

end UrlRecord

/-! ## Digests -/

theorem sha256Scan_of_length {missing : Nat}
    (digits : ∀ byte ∈ value, isHexByte byte = true)
    (length : value.length = missing) : sha256Scan missing value = true := by
  induction value generalizing missing with
  | nil =>
    rw [← length]
    rfl
  | cons byte rest induction =>
    rw [← length, length_cons, sha256Scan,
      digits byte mem_cons_self, Bool.true_and]
    exact induction
      (fun other member => digits other (mem_cons_of_mem byte member))
      rfl

theorem sha256IsValid_of_matches {text : String}
    (digest : matchesSha256 text = true) :
    sha256IsValid (cString text) = true := by
  unfold matchesSha256 at digest
  rw [and_eq_true, all_eq_true, beq_iff_eq] at digest
  obtain ⟨digits, length⟩ := digest
  have ascii : ∀ c ∈ text.toList, 0 < c.toNat ∧ c.toNat < 0x80 := by
    intro c member
    have digit := digits c member
    simp only [isHexByte, isDigitByte, or_eq_true, and_eq_true,
      decide_eq_true_eq] at digit
    omega
  rw [cString_eq ascii]
  apply sha256Scan_of_length
  · intro byte member
    obtain ⟨c, inside, rfl⟩ := mem_map.mp member
    exact digits c inside
  · rw [length_map, String.length_toList]
    exact length

/-! ## Releases -/

section Offers

variable {number : String → Option ℚ} {parse : String → Option UrlRecord}

/-- The sequence of a deployment is a word of 32 bits, and its URL has no
fragment and is not too long once it is normalised. -/
structure ReleaseEnvironment.Fits (number : String → Option ℚ)
    (parse : String → Option UrlRecord) (environment : ReleaseEnvironment) :
    Prop where
  sequence : ∀ sequence,
    safeNumber (environment.sequence.bind number) = some sequence →
      sequence ≤ (uint32Max : Int)
  url : ∀ text url, environment.url = some text →
    parse (trim text) = some url →
      url.toText.length ≤ urlMaxLength ∧ url.fragment = none

/-- Every device of a smaller sequence installs the release, and orders it
against any other release as the backend does. -/
structure FirmwareRelease.Installable (number : String → Option ℚ)
    (parse : String → Option UrlRecord) (release : FirmwareRelease) :
    Prop where
  accepts : ∀ currentSequence : BitVec 32,
    release.offeredTo currentSequence.toNat = true →
      parseFirmwareManifest release currentSequence = true
  parses : (signedVersionSequence (cString release.version)).map BitVec.toNat =
    some release.sequence
  ordered : ∀ environment installed,
    readFirmwareRelease number parse environment = .ready installed →
      release.newerThan installed = release.offeredTo installed.sequence

/-- What `readFirmwareRelease` has checked of a release. -/
structure ReleaseEnvironment.Offers (number : String → Option ℚ)
    (parse : String → Option UrlRecord) (environment : ReleaseEnvironment)
    (release : FirmwareRelease) (text : String) (url : UrlRecord) : Prop where
  signed : ∃ digits, SignedVersion release.version digits ∧
    decimalValue digits = release.sequence
  sequence : safeNumber (environment.sequence.bind number) =
    some (release.sequence : Int)
  given : environment.url = some text
  parsed : parse (trim text) = some url
  https : url.scheme = "https"
  noUser : url.username = ""
  noPassword : url.password = ""
  plain : url.hash = ""
  toText : release.url = url.toText
  digest : matchesSha256 release.sha256 = true
  size_pos : 0 < release.size
  size_le : release.size ≤ maxFirmwareBytes

theorem scheme_of_protocol {url : UrlRecord}
    (https : url.protocol = "https:") : url.scheme = "https" := by
  have letters := congrArg String.toList https
  unfold UrlRecord.protocol at letters
  rw [String.toList_append] at letters
  apply String.toList_injective
  have same : url.scheme.toList ++ ":".toList =
      "https".toList ++ ":".toList := letters
  exact List.append_cancel_right same

theorem releaseUrl_eq_some {value allowedOrigin : Option String}
    {released : String}
    (read : releaseUrl parse value allowedOrigin = some released) :
    ∃ text url, value = some text ∧ parse text = some url ∧
      url.scheme = "https" ∧ url.username = "" ∧ url.password = "" ∧
      url.hash = "" ∧ released = url.toText := by
  unfold releaseUrl at read
  split at read
  · cases read
  · rename_i text
    split at read
    · cases read
    · split at read
      · rename_i parsed approved found foundOrigin
        split at read
        · cases read
        · rename_i meets
          simp only [not_or, not_not] at meets
          obtain ⟨https, user, password, hash, -⟩ := meets
          cases read
          exact ⟨text, parsed, rfl, found, scheme_of_protocol https, user,
            password, hash, rfl⟩
      · cases read

theorem offers_of_ready {environment : ReleaseEnvironment}
    {release : FirmwareRelease}
    (ready : readFirmwareRelease number parse environment = .ready release) :
    ∃ text url, environment.Offers number parse release text url := by
  unfold readFirmwareRelease at ready
  split at ready
  · cases ready
  · simp only at ready
    split at ready
    · rename_i digits sequence released size version numbered url sized
      split at ready
      · cases ready
      · rename_i meets
        simp only [not_or, not_le, not_not, Bool.not_eq_false] at meets
        obtain ⟨positive, same, digest, sizePositive, sizeBound⟩ := meets
        cases ready
        obtain ⟨trimmed, parsed, text, found, https, user, password, hash,
          serialised⟩ := releaseUrl_eq_some url
        obtain ⟨raw, given, rfl⟩ := Option.map_eq_some_iff.mp text
        refine ⟨raw, parsed, ?_⟩
        constructor
        · refine ⟨digits, signedVersion_of_versionSequence version, ?_⟩
          show decimalValue digits = sequence.toNat
          omega
        · rw [numbered, Int.toNat_of_nonneg positive.le]
        · exact given
        · exact found
        · exact https
        · exact user
        · exact password
        · exact hash
        · exact serialised
        · exact digest
        · show 0 < size.toNat
          omega
        · show size.toNat ≤ maxFirmwareBytes
          omega
    · cases ready

namespace ReleaseEnvironment.Offers

variable {environment : ReleaseEnvironment} {release : FirmwareRelease}
  {text : String} {url : UrlRecord}

variable (offers : environment.Offers number parse release text url)

include offers

theorem fits_iff :
    environment.Fits number parse ↔
      release.sequence ≤ uint32Max ∧
        url.toText.length ≤ urlMaxLength ∧ url.fragment = none := by
  constructor
  · intro fits
    refine ⟨?_, fits.url text url offers.given offers.parsed⟩
    have bound := fits.sequence _ offers.sequence
    omega
  · intro ⟨bound, length, fragment⟩
    constructor
    · intro sequence numbered
      rw [offers.sequence] at numbered
      cases numbered
      omega
    · intro other parsed given found
      rw [offers.given] at given
      cases given
      rw [offers.parsed] at found
      cases found
      exact ⟨length, fragment⟩

theorem signedVersionSequence_eq (bound : release.sequence ≤ uint32Max) :
    signedVersionSequence (cString release.version) =
      some (BitVec.ofNat 32 release.sequence) := by
  obtain ⟨digits, signed, same⟩ := offers.signed
  rw [← same] at bound ⊢
  exact signed.signedVersionSequence_eq bound

theorem signedVersionSequence_eq_none
    (exceeds : uint32Max < release.sequence) :
    signedVersionSequence (cString release.version) = none := by
  obtain ⟨digits, signed, same⟩ := offers.signed
  rw [← same] at exceeds
  exact signed.signedVersionSequence_eq_none exceeds

theorem sequence_pos : 0 < release.sequence := by
  obtain ⟨digits, signed, same⟩ := offers.signed
  rw [← same]
  exact signed.decimalValue_pos

theorem parseFirmwareManifest_iff (serialised : url.Serialised)
    {currentSequence : BitVec 32}
    (offered : release.offeredTo currentSequence.toNat = true) :
    parseFirmwareManifest release currentSequence = true ↔
      release.sequence ≤ uint32Max ∧
        url.toText.length ≤ urlMaxLength ∧ url.fragment = none := by
  have urlValid := url.httpsUrlIsValid_toText offers.https offers.noUser
    offers.noPassword offers.plain serialised
  rw [← offers.toText] at urlValid
  have digestValid := sha256IsValid_of_matches offers.digest
  have sizeBound := offers.size_le
  have sizePositive := offers.size_pos
  have older : currentSequence.toNat < release.sequence := by
    simpa [FirmwareRelease.offeredTo] using offered
  unfold parseFirmwareManifest manifestIsValid
  rw [← offers.toText, digestValid]
  by_cases bound : release.sequence ≤ uint32Max
  · have parsed := offers.signedVersionSequence_eq bound
    have newer : currentSequence < BitVec.ofNat 32 release.sequence := by
      rw [BitVec.lt_def, BitVec.toNat_ofNat,
        Nat.mod_eq_of_lt (by unfold uint32Max at bound; omega)]
      exact older
    have sizeWord : release.size ≤ uint32Max :=
      sizeBound.trans (by decide)
    simp only [parsed, bound, sizeWord, newer, decide_true, beq_self_eq_true,
      Bool.true_and, Bool.and_true, and_eq_true, decide_eq_true_eq,
      true_and]
    rw [offers.toText] at urlValid ⊢
    rw [urlValid]
    constructor
    · intro ⟨⟨fits, _⟩, _⟩
      exact fits
    · intro fits
      exact ⟨⟨fits, sizePositive⟩, sizeBound⟩
  · simp [bound]

theorem newerThan_eq (bound : release.sequence ≤ uint32Max)
    {otherEnvironment : ReleaseEnvironment} {installed : FirmwareRelease}
    {otherText : String} {otherUrl : UrlRecord}
    (otherOffers : otherEnvironment.Offers number parse installed otherText
      otherUrl) :
    release.newerThan installed = release.offeredTo installed.sequence := by
  have parsed := offers.signedVersionSequence_eq bound
  unfold FirmwareRelease.newerThan FirmwareRelease.offeredTo
  by_cases otherBound : installed.sequence ≤ uint32Max
  · have otherParsed := otherOffers.signedVersionSequence_eq otherBound
    unfold uint32Max at bound otherBound
    simp only [parsed, otherParsed, BitVec.lt_def, BitVec.toNat_ofNat]
    rw [Nat.mod_eq_of_lt (by omega), Nat.mod_eq_of_lt (by omega)]
  · have unread := otherOffers.signedVersionSequence_eq_none (by omega)
    simp only [parsed, unread]
    rw [eq_comm, decide_eq_false_iff_not]
    omega

end ReleaseEnvironment.Offers

theorem releases_are_installable
    (specified : ∀ text url, parse text = some url → url.scheme = "https" →
      url.Serialised)
    {environment : ReleaseEnvironment} {release : FirmwareRelease}
    (ready : readFirmwareRelease number parse environment = .ready release) :
    release.Installable number parse ↔ environment.Fits number parse := by
  obtain ⟨text, url, offers⟩ := offers_of_ready ready
  have serialised := specified _ url offers.parsed offers.https
  rw [offers.fits_iff]
  constructor
  · intro installable
    have offered : release.offeredTo (0#32).toNat = true := by
      simpa [FirmwareRelease.offeredTo] using offers.sequence_pos
    exact (offers.parseFirmwareManifest_iff serialised offered).mp
      (installable.accepts 0#32 offered)
  · intro fits
    constructor
    · intro currentSequence offered
      exact (offers.parseFirmwareManifest_iff serialised offered).mpr fits
    · have bound := fits.1
      rw [offers.signedVersionSequence_eq bound]
      unfold uint32Max at bound
      rw [Option.map_some, BitVec.toNat_ofNat, Nat.mod_eq_of_lt (by omega)]
    · intro otherEnvironment installed otherReady
      obtain ⟨otherText, otherUrl, otherOffers⟩ := offers_of_ready otherReady
      exact offers.newerThan_eq fits.1 otherOffers

end Offers

/-! ## Two deployments -/

/-- `Number` of digits. -/
def digitsNumber (text : String) : Option ℚ :=
  if text ≠ "" ∧ text.toList.all Char.isDigit = true then
    some (decimalValue text.toList : ℚ)
  else none

def releaseHost : UrlRecord where
  scheme := "https"
  host := "releases.example.edu"
  path := "/"

def releaseImage : UrlRecord :=
  { releaseHost with path := "/12.bin" }

/-- `new URL` on the texts of the deployments below. -/
def releaseParse (text : String) : Option UrlRecord :=
  if text = "https://releases.example.edu" then some releaseHost
  else if text = "https://releases.example.edu/12.bin" then some releaseImage
  else if text = "https://releases.example.edu/12.bin#" then
    some { releaseImage with fragment := some "" }
  else none

theorem serialised_of_releaseParse (text : String) (url : UrlRecord)
    (parsed : releaseParse text = some url) (_https : url.scheme = "https") :
    url.Serialised := by
  have host : releaseHost.authority.toList.all (fun c =>
      decide (0x20 < c.toNat ∧ c.toNat ≤ 0x7e) && c != '/' && c != '?' &&
        c != '#' && c != '@') = true := by decide
  have named : releaseHost.authority ≠ "" := by decide
  have image : releaseImage.path.toList.all (fun c =>
      decide (0x20 < c.toNat ∧ c.toNat ≤ 0x7e) && c != '#') = true := by
    decide
  simp only [all_eq_true, and_eq_true, decide_eq_true_eq,
    bne_iff_ne, and_assoc] at host image
  have serialised (path : String) (fragment : Option String)
      (root : ∃ rest, path.toList = '/' :: rest)
      (letters : ∀ c ∈ path.toList, UrlCharacter c ∧ c ≠ '#') :
      UrlRecord.Serialised
        { releaseHost with path := path, fragment := fragment } := by
    constructor
    · exact named
    · intro c member
      obtain ⟨low, high, apart⟩ := host c member
      exact ⟨⟨low, high⟩, apart⟩
    · exact root
    · exact letters
    · intro query impossible
      cases impossible
  have imageLetters : ∀ c ∈ releaseImage.path.toList,
      UrlCharacter c ∧ c ≠ '#' := by
    intro c member
    obtain ⟨low, high, apart⟩ := image c member
    exact ⟨⟨low, high⟩, apart⟩
  unfold releaseParse at parsed
  split at parsed
  · cases parsed
    apply serialised "/" none ⟨[], rfl⟩
    intro c member
    rw [List.mem_singleton.mp member]
    exact ⟨⟨by decide, by decide⟩, by decide⟩
  · split at parsed
    · cases parsed
      exact serialised "/12.bin" none ⟨"12.bin".toList, rfl⟩ imageLetters
    · split at parsed
      · cases parsed
        exact serialised "/12.bin" (some "") ⟨"12.bin".toList, rfl⟩
          imageLetters
      · cases parsed

def deployment : ReleaseEnvironment where
  version := some "s12-gnss"
  sequence := some "12"
  url := some "https://releases.example.edu/12.bin"
  allowedOrigin := some "https://releases.example.edu"
  sha256 := some (String.ofList (List.replicate 64 'a'))
  size := some "1500000"

def deployedRelease : FirmwareRelease where
  version := "s12-gnss"
  sequence := 12
  url := "https://releases.example.edu/12.bin"
  sha256 := String.ofList (List.replicate 64 'a')
  size := 1500000

theorem releases_are_installable_deployed :
    deployedRelease.Installable digitsNumber releaseParse ↔
      deployment.Fits digitsNumber releaseParse :=
  releases_are_installable serialised_of_releaseParse (by decide +kernel)

/-- A sequence beyond 32 bits, and a URL with an empty fragment. -/
theorem ready_releases_are_refused :
    (readFirmwareRelease digitsNumber releaseParse
        { deployment with
          version := some "s4294967296-gnss"
          sequence := some "4294967296" } =
      .ready { deployedRelease with
        version := "s4294967296-gnss"
        sequence := 4294967296 } ∧
      ¬ FirmwareRelease.Installable digitsNumber releaseParse
        { deployedRelease with
          version := "s4294967296-gnss"
          sequence := 4294967296 }) ∧
    (readFirmwareRelease digitsNumber releaseParse
        { deployment with
          url := some "https://releases.example.edu/12.bin#" } =
      .ready { deployedRelease with
        url := "https://releases.example.edu/12.bin#" } ∧
      ¬ FirmwareRelease.Installable digitsNumber releaseParse
        { deployedRelease with
          url := "https://releases.example.edu/12.bin#" }) := by
  constructor
  · refine ⟨by decide +kernel, ?_⟩
    intro installable
    have accepted := installable.accepts 0#32 (by decide)
    revert accepted
    decide +kernel
  · refine ⟨by decide +kernel, ?_⟩
    intro installable
    have accepted := installable.accepts 0#32 (by decide)
    revert accepted
    decide +kernel

end Eki.Firmware
