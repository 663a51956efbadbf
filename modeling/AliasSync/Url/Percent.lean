import AliasSync.Text.Digits
import AliasSync.Text.Utf8

/-! Percent encoding: which characters stand for themselves in the parts of a URL, and how the others
are written. -/

namespace AliasSync.Url

open AliasSync.Text (utf8 digit?)

/-- The characters that are always encoded: controls and all outside ASCII. -/
def isControl (c : Char) : Bool := decide (c.toNat < 0x20 ∨ 0x7E < c.toNat)

def inFragmentSet (c : Char) : Bool := isControl c || " \"<>`".toList.contains c

def inQuerySet (c : Char) : Bool := isControl c || " \"#<>".toList.contains c

/-- Queries of special schemes encode the apostrophe as well. -/
def inSpecialQuerySet (c : Char) : Bool := inQuerySet c || c == '\''

def inPathSet (c : Char) : Bool := inFragmentSet c || "#?\x7b\x7d".toList.contains c

def inUserinfoSet (c : Char) : Bool := inPathSet c || "/:;=@[\\]^|".toList.contains c

def hexDigit (n : Nat) : Char := (Nat.digitChar n).toUpper

def percentByte (byte : UInt8) : List Char :=
  ['%', hexDigit (byte.toNat / 16), hexDigit (byte.toNat % 16)]

def percentEncode (encoded : Char → Bool) (text : List Char) : List Char :=
  text.flatMap fun c => if encoded c then (utf8 [c]).flatMap percentByte else [c]

/-- The bytes of a text in which a percent sign with two digits stands for a byte. -/
def percentDecode : List Char → List UInt8
  | '%' :: high :: low :: rest =>
    match digit? 16 high, digit? 16 low with
    | some h, some l => UInt8.ofNat (h * 16 + l) :: percentDecode rest
    | _, _ => utf8 ['%'] ++ percentDecode (high :: low :: rest)
  | c :: rest => utf8 [c] ++ percentDecode rest
  | [] => []

end AliasSync.Url
