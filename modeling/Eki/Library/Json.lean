import Mathlib.Data.List.Basic

/-!
# JSON texts

A string is the list of its UTF-16 code units.  A value, the items of an array
and the fields of an object are one family of types, so that a fact about all
of them is one induction.
-/

/-- A string by its UTF-16 code units. -/
abbrev Utf16 := List (BitVec 16)

namespace Utf16

def ascii (text : String) : Utf16 :=
  text.toList.map fun letter => BitVec.ofNat 16 letter.toNat

def isHigh (unit : BitVec 16) : Bool :=
  0xd800 ≤ unit.toNat && unit.toNat < 0xdc00

def isLow (unit : BitVec 16) : Bool :=
  0xdc00 ≤ unit.toNat && unit.toNat < 0xe000

/-- The bytes of a unit by itself; a lone surrogate is replaced. -/
def width (unit : BitVec 16) : Nat :=
  if unit.toNat < 0x80 then 1 else if unit.toNat < 0x800 then 2 else 3

/-- The bytes of the encoded string. -/
def utf8Length : Utf16 → Nat
  | [] => 0
  | [unit] => width unit
  | unit :: next :: rest =>
    if isHigh unit && isLow next then 4 + utf8Length rest
    else width unit + utf8Length (next :: rest)

theorem utf8Length_append {unit : BitVec 16} (first : isLow unit = false)
    (before rest : Utf16) :
    utf8Length (before ++ unit :: rest) =
      utf8Length before + utf8Length (unit :: rest) := by
  fun_induction utf8Length before with
  | case1 => simp
  | case2 last => simp [utf8Length, first]
  | case3 one next rest pair hypothesis =>
    simp only [List.cons_append, utf8Length, pair, if_true, hypothesis]
    omega
  | case4 one next rest apart hypothesis =>
    simp only [List.cons_append, utf8Length] at hypothesis ⊢
    rw [if_neg apart, hypothesis]
    omega

theorem utf8Length_of_ascii {text : Utf16}
    (ascii : ∀ unit ∈ text, unit.toNat < 0x80) :
    utf8Length text = text.length := by
  induction text with
  | nil => rfl
  | cons unit rest hypothesis =>
    obtain ⟨small, ascii⟩ := List.forall_mem_cons.mp ascii
    have low : isLow unit = false := by
      simp only [isLow, Bool.and_eq_false_imp, decide_eq_true_eq]
      omega
    have split := utf8Length_append low [] rest
    cases rest with
    | nil => simp [utf8Length, width, small]
    | cons next rest =>
      have high : isHigh unit = false := by
        simp only [isHigh, Bool.and_eq_false_imp, decide_eq_true_eq]
        omega
      simp only [utf8Length, high, Bool.false_and, Bool.false_eq_true,
        if_false, width, small, if_true, List.length_cons]
      rw [hypothesis ascii, List.length_cons]
      omega

end Utf16

namespace Json

open Utf16

inductive Shape where
  | value
  | items
  | fields

end Json

inductive Json (N : Type) : Json.Shape → Type where
  | null : Json N .value
  | boolean (holds : Bool) : Json N .value
  | number (n : N) : Json N .value
  | string (text : Utf16) : Json N .value
  | array (items : Json N .items) : Json N .value
  | object (fields : Json N .fields) : Json N .value
  | noItem : Json N .items
  | item (head : Json N .value) (rest : Json N .items) : Json N .items
  | noField : Json N .fields
  | field (key : Utf16) (value : Json N .value) (rest : Json N .fields) :
      Json N .fields

namespace Json

open Utf16

def hexDigit (digit : Nat) : BitVec 16 :=
  BitVec.ofNat 16 (if digit < 10 then 48 + digit else 87 + digit)

/-- The control characters with an escape of two letters. -/
def controls : List (BitVec 16 × BitVec 16) :=
  [(8, 98), (9, 116), (10, 110), (12, 102), (13, 114)]

/-- One unit of a quoted string, which is no part of a surrogate pair. -/
def quoteUnit (unit : BitVec 16) : Utf16 :=
  if unit = 34 ∨ unit = 92 then [92, unit]
  else if 32 ≤ unit.toNat ∧ !isHigh unit ∧ !isLow unit then [unit]
  else
    match controls.lookup unit with
    | some letter => [92, letter]
    | none =>
      [92, 117, hexDigit (unit.toNat / 4096), hexDigit (unit.toNat / 256 % 16),
        hexDigit (unit.toNat / 16 % 16), hexDigit (unit.toNat % 16)]

def quoteUnits : Utf16 → Utf16
  | [] => []
  | [unit] => quoteUnit unit
  | unit :: next :: rest =>
    if isHigh unit && isLow next then unit :: next :: quoteUnits rest
    else quoteUnit unit ++ quoteUnits (next :: rest)

def quote (text : Utf16) : Utf16 :=
  [34] ++ quoteUnits text ++ [34]

variable {N : Type}

/-- The text of a value; a comma stands before an item or a field that is not
the first. -/
def stringify (numberText : N → Utf16) :
    {shape : Shape} → Json N shape → Bool → Utf16
  | _, .null, _ => ascii "null"
  | _, .boolean holds, _ => ascii (if holds then "true" else "false")
  | _, .number n, _ => numberText n
  | _, .string text, _ => quote text
  | _, .array items, _ => [91] ++ items.stringify numberText true ++ [93]
  | _, .object fields, _ =>
    [123] ++ fields.stringify numberText true ++ [125]
  | _, .noItem, _ => []
  | _, .item head rest, first =>
    (if first then [] else [44]) ++ head.stringify numberText true ++
      rest.stringify numberText false
  | _, .noField, _ => []
  | _, .field key value rest, first =>
    (if first then [] else [44]) ++ quote key ++ [58] ++
      value.stringify numberText true ++ rest.stringify numberText false

def get (key : Utf16) : {shape : Shape} → Json N shape → Option (Json N .value)
  | _, .object fields => fields.get key
  | _, .field name value rest =>
    rest.get key <|> if name = key then some value else none
  | _, _ => none

def length : {shape : Shape} → Json N shape → Nat
  | _, .item _ rest => rest.length + 1
  | _, _ => 0

/-- Every unit stands for itself between the quotes. -/
def Plain (text : Utf16) : Prop :=
  ∀ unit ∈ text, 32 ≤ unit.toNat ∧ unit.toNat < 0x80 ∧ unit ≠ 34 ∧ unit ≠ 92

theorem quoteUnit_of_plain {unit : BitVec 16}
    (plain : 32 ≤ unit.toNat ∧ unit.toNat < 0x80 ∧ unit ≠ 34 ∧ unit ≠ 92) :
    quoteUnit unit = [unit] := by
  obtain ⟨low, high, quoted, slash⟩ := plain
  have alone : 32 ≤ unit.toNat ∧ !isHigh unit ∧ !isLow unit := by
    simp only [isHigh, isLow, Bool.not_eq_true', Bool.and_eq_false_imp,
      decide_eq_true_eq, decide_eq_false_iff_not]
    omega
  rw [quoteUnit, if_neg (not_or.mpr ⟨quoted, slash⟩), if_pos alone]

theorem quoteUnits_of_plain {text : Utf16} (plain : Plain text) :
    quoteUnits text = text := by
  fun_induction quoteUnits text with
  | case1 => rfl
  | case2 unit => exact quoteUnit_of_plain (plain unit (by simp))
  | case3 unit next rest pair hypothesis =>
    have plain := (plain unit (by simp)).2.1
    simp only [isHigh, Bool.and_eq_true, decide_eq_true_eq] at pair
    omega
  | case4 unit next rest apart hypothesis =>
    obtain ⟨first, plain⟩ := List.forall_mem_cons.mp plain
    rw [quoteUnit_of_plain first, hypothesis plain]
    rfl

end Json
