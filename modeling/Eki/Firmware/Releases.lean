import Eki.Feedback.Policy
import Eki.Telemetry.Motion
import Mathlib.Data.BitVec

/-!
# Firmware releases

The backend reads one release from six texts of its deployment and offers it to
every device of a smaller sequence.  A device checks the offer once more, with
scanners over the bytes of C strings and with words of 32 bits.

How a text becomes a number or a URL is left to the language: `number` is
`Number(text)`, with `none` for NaN and infinities, and `parse` is
`new URL(text)`.
-/

namespace Eki.Firmware

open Feedback (trim utf16Length)

/-! ## Texts on the device -/

def cString (text : String) : List Nat :=
  ((text.toList.flatMap String.utf8EncodeChar).map UInt8.toNat).takeWhile
    fun byte => byte != 0

def versionMaxLength : Nat := 31

def urlMaxLength : Nat := 512

def sha256HexLength : Nat := 64

def maxSignedImageBytes : Nat := 0x1E0000

def uint32Max : Nat := 0xffffffff

def isDigitByte (byte : Nat) : Bool :=
  decide (0x30 ≤ byte) && decide (byte ≤ 0x39)

def isHexByte (byte : Nat) : Bool :=
  isDigitByte byte || (decide (0x61 ≤ byte) && decide (byte ≤ 0x66)) ||
    (decide (0x41 ≤ byte) && decide (byte ≤ 0x46))

/-- A letter, a digit, a period, an underscore or a hyphen. -/
def isVersionByte (byte : Nat) : Bool :=
  (decide (0x61 ≤ byte) && decide (byte ≤ 0x7a)) ||
    (decide (0x41 ≤ byte) && decide (byte ≤ 0x5a)) || isDigitByte byte ||
    byte == 0x2e || byte == 0x5f || byte == 0x2d

/-- The loop of `sha256IsValid`, with so many characters still to read. -/
def sha256Scan : Nat → List Nat → Bool
  | 0, rest => rest.isEmpty
  | _ + 1, [] => false
  | missing + 1, byte :: rest => isHexByte byte && sha256Scan missing rest

def sha256IsValid (value : List Nat) : Bool :=
  sha256Scan sha256HexLength value

/-- The loop of `versionIsValid`, after so many characters. -/
def versionScan : Nat → List Nat → Bool
  | _, [] => true
  | length, byte :: rest =>
    if versionMaxLength ≤ length then false
    else if !isVersionByte byte then false
    else versionScan (length + 1) rest

def versionIsValid (value : List Nat) : Bool :=
  !value.isEmpty && versionScan 0 value

/-- The digit loop of `signedVersionSequence`: the number, how many digits it
has, and what follows. -/
def parseDigits : Nat → Nat → List Nat → Option (Nat × Nat × List Nat)
  | parsed, digits, [] => some (parsed, digits, [])
  | parsed, digits, byte :: rest =>
    if isDigitByte byte then
      let next := parsed * 10 + (byte - 0x30)
      if next > uint32Max then none else parseDigits next (digits + 1) rest
    else some (parsed, digits, byte :: rest)

def signedVersionSequence (value : List Nat) : Option (BitVec 32) :=
  match value with
  | 0x73 :: rest =>
    if !versionIsValid value then none
    else
      match parseDigits 0 0 rest with
      | some (parsed, digits, 0x2d :: _ :: _) =>
        if digits = 0 ∨ (rest.head? = some 0x30 ∧ 1 < digits) then none
        else if 0 < parsed then some (BitVec.ofNat 32 parsed) else none
      | _ => none
  | _ => none

def httpsPrefix : List Nat :=
  [0x68, 0x74, 0x74, 0x70, 0x73, 0x3a, 0x2f, 0x2f]

/-- The loop of `httpsUrlIsValid` behind the prefix. -/
def urlScan : Nat → Bool → Bool → List Nat → Bool
  | _, authorityCharacter, _, [] => authorityCharacter
  | index, authorityCharacter, inAuthority, byte :: rest =>
    if urlMaxLength ≤ index then false
    else if byte ≤ 0x20 ∨ 0x7e < byte ∨ byte = 0x23 ∨
        (inAuthority = true ∧ byte = 0x40) then false
    else if inAuthority && (byte == 0x2f || byte == 0x3f) then
      urlScan (index + 1) authorityCharacter false rest
    else urlScan (index + 1) (authorityCharacter || inAuthority) inAuthority
      rest

def httpsUrlIsValid (value : List Nat) : Bool :=
  httpsPrefix.isPrefixOf value &&
    urlScan httpsPrefix.length false true (value.drop httpsPrefix.length)

def manifestIsValid (version : List Nat) (sequence : BitVec 32)
    (url sha256 : List Nat) (size : Nat) (currentSequence : BitVec 32) : Bool :=
  signedVersionSequence version == some sequence &&
    decide (currentSequence < sequence) && httpsUrlIsValid url &&
    sha256IsValid sha256 && decide (0 < size) &&
    decide (size ≤ maxSignedImageBytes)

/-! ## Releases of the backend -/

structure FirmwareRelease where
  version : String
  sequence : Nat
  url : String
  sha256 : String
  size : Nat
  deriving DecidableEq

inductive FirmwareReleaseConfiguration where
  | disabled
  | invalid
  | ready (release : FirmwareRelease)
  deriving DecidableEq

/-- The six variables of a deployment. -/
structure ReleaseEnvironment where
  version : Option String := none
  sequence : Option String := none
  url : Option String := none
  allowedOrigin : Option String := none
  sha256 : Option String := none
  size : Option String := none

/-- The record of an absolute URL with a host, its parts as they are
serialised. -/
structure UrlRecord where
  scheme : String
  username : String := ""
  password : String := ""
  host : String
  port : Option Nat := none
  path : String
  query : Option String := none
  fragment : Option String := none
  deriving DecidableEq

namespace UrlRecord

variable (url : UrlRecord)

/-- `url.protocol` -/
def protocol : String := url.scheme ++ ":"

/-- `url.host` -/
def authority : String :=
  url.host ++ (url.port.elim "" fun port => ":" ++ toString port)

/-- `url.origin` of a URL whose scheme has origins. -/
def origin : String := url.scheme ++ "://" ++ url.authority

/-- `url.search`, empty also for an empty query. -/
def search : String :=
  (url.query.filter (· ≠ "")).elim "" ("?" ++ ·)

/-- `url.hash`, empty also for an empty fragment. -/
def hash : String :=
  (url.fragment.filter (· ≠ "")).elim "" ("#" ++ ·)

def credentials : String :=
  if url.username = "" ∧ url.password = "" then ""
  else url.username ++
    (if url.password = "" then "" else ":" ++ url.password) ++ "@"

/-- `url.toString()` -/
def toText : String :=
  url.scheme ++ "://" ++ url.credentials ++ url.authority ++ url.path ++
    url.query.elim "" ("?" ++ ·) ++ url.fragment.elim "" ("#" ++ ·)

end UrlRecord

/-- `/^s([1-9][0-9]{0,9})-[A-Za-z0-9][A-Za-z0-9._-]{0,18}$/` and its group. -/
def versionSequence (version : String) : Option (List Char) :=
  match version.toList with
  | 's' :: rest =>
    let digits := rest.takeWhile Char.isDigit
    match digits, rest.dropWhile Char.isDigit with
    | leading :: _, '-' :: first :: name =>
      if leading ≠ '0' ∧ digits.length ≤ 10 ∧ first.isAlphanum = true ∧
          name.all (fun c => c.isAlphanum || c == '.' || c == '_' ||
            c == '-') = true ∧ name.length ≤ 18 then
        some digits
      else none
    | _, _ => none
  | _ => none

/-- `Number(digits)` of at most ten digits. -/
def decimalValue (digits : List Char) : Nat :=
  digits.foldl (fun value digit => value * 10 + (digit.toNat - 0x30)) 0

/-- `/^[a-f0-9]{64}$/i` -/
def matchesSha256 (text : String) : Bool :=
  text.toList.all (fun c => isHexByte c.toNat) && text.length == 64

/-- `text.toLowerCase()`; letters beyond ASCII never become hexadecimal
digits. -/
def toLowerCase (text : String) : String :=
  String.ofList (text.toList.map Char.toLower)

def safeNumber (value : Option ℚ) : Option Int :=
  (value.filter fun value => value.den == 1 && isSafeInteger value.num).map
    Rat.num

def maxFirmwareBytes : Nat := 0x1E0000

section Reading

variable (number : String → Option ℚ) (parse : String → Option UrlRecord)

def releaseUrl (value allowedOrigin : Option String) : Option String :=
  match value with
  | none => none
  | some value =>
    if value = "" ∨ utf16Length value > 512 then none
    else
      match parse value, parse (allowedOrigin.getD "") with
      | some parsed, some approved =>
        if parsed.protocol ≠ "https:" ∨ parsed.username ≠ "" ∨
            parsed.password ≠ "" ∨ parsed.hash ≠ "" ∨
            approved.protocol ≠ "https:" ∨ approved.username ≠ "" ∨
            approved.password ≠ "" ∨ approved.path ≠ "/" ∨
            approved.search ≠ "" ∨ approved.hash ≠ "" ∨
            parsed.origin ≠ approved.origin then none
        else some parsed.toText
      | _, _ => none

/-- No variable is set, or all are blank. -/
def ReleaseEnvironment.absent (environment : ReleaseEnvironment) : Bool :=
  [environment.version, environment.sequence, environment.url,
    environment.allowedOrigin, environment.sha256, environment.size].all
    fun value => value.all fun text => trim text == ""

def readFirmwareRelease (environment : ReleaseEnvironment) :
    FirmwareReleaseConfiguration :=
  if environment.absent then .disabled
  else
    let version := (environment.version.map trim).getD ""
    let sha256 := (environment.sha256.map fun text =>
      toLowerCase (trim text)).getD ""
    match versionSequence version,
        safeNumber (environment.sequence.bind number),
        releaseUrl parse (environment.url.map trim)
          (environment.allowedOrigin.map trim),
        safeNumber (environment.size.bind number) with
    | some digits, some sequence, some url, some size =>
      if sequence ≤ 0 ∨ (decimalValue digits : Int) ≠ sequence ∨
          matchesSha256 sha256 = false ∨ size ≤ 0 ∨
          size > (maxFirmwareBytes : Int) then .invalid
      else .ready ⟨version, sequence.toNat, url, sha256, size.toNat⟩
    | _, _, _, _ => .invalid

end Reading

/-! ## Offers -/

/-- The offer to a device whose sequence is smaller, as it was sent. -/
def FirmwareRelease.offeredTo (release : FirmwareRelease)
    (currentSequence : Nat) : Bool :=
  decide (currentSequence < release.sequence)

/-- `parseFirmwareManifest` on the fields of an offer: the sequence and the
size must be words of 32 bits. -/
def parseFirmwareManifest (release : FirmwareRelease)
    (currentSequence : BitVec 32) : Bool :=
  decide (release.sequence ≤ uint32Max) && decide (release.size ≤ uint32Max) &&
    manifestIsValid (cString release.version)
      (BitVec.ofNat 32 release.sequence) (cString release.url)
      (cString release.sha256) release.size currentSequence

/-- The device that has one release takes another one for newer. -/
def FirmwareRelease.newerThan (release installed : FirmwareRelease) : Bool :=
  match signedVersionSequence (cString release.version),
      signedVersionSequence (cString installed.version) with
  | some sequence, some currentSequence => decide (currentSequence < sequence)
  | _, _ => false

end Eki.Firmware
