import AliasSync.Text.Punycode
import AliasSync.Text.Utf8
import AliasSync.Url.Domain.Direction
import AliasSync.Url.Domain.Joiner
import AliasSync.Url.Domain.MappingTable

/-! Domain names in the form in which they are looked up: unified, and in ASCII. A label beyond ASCII is
written in Punycode behind the mark `xn--`. -/

namespace AliasSync.Url

open AliasSync.Text (composed decode? isInRanges markRanges)

/-- The characters that no domain name may hold. Capital letters are among them, which a unified text has none of. -/
def isForbiddenInDomain (c : Char) : Bool :=
  decide (c.toNat ≤ 0x20) || c == '\x7f' || c.isUpper || "%#/:<>?@[\\]^|".toList.contains c

def isAscii (text : List Char) : Bool := text.all (·.toNat < 0x80)

def unified? (c : Char) : Option (List Nat) :=
  if c.toNat < 0x80 then some [c.toLower.toNat]
  else if isInRanges ignoredRanges c.toNat then some []
  else
    match replacementItems.findSome? (Text.CodeItem.value? c.toNat) with
    | some codes => some codes
    | none => if isInRanges disallowedRanges c.toNat then none else some [c.toNat]

def unifiedText? (text : List Char) : Option (List Char) := do
  let codes ← text.mapM unified?
  pure ((composed codes.flatten).map Char.ofNat)

/-- A label beyond ASCII in its unified form, of at most a thousand characters, which does not begin with
a mark. -/
def isUnifiedLabel (label : List Char) : Bool :=
  !isAscii label && decide (label.length ≤ 1000) && unifiedText? label == some label &&
    joinersFit [] label && !(label.head?.any fun c => isInRanges markRanges c.toNat)

def encodedMark : List Char := ['x', 'n', '-', '-']

structure Label where
  ascii : List Char
  shown : List Char
  deriving DecidableEq, Repr

/-- The label that a unified text spells. What is written in Punycode, in at most two thousand characters,
must be a unified label. -/
def label? (text : List Char) : Option Label :=
  if encodedMark.isPrefixOf text then do
    let encoded := text.drop encodedMark.length
    guard (encoded.length ≤ 2000)
    let shown := (← Text.Punycode.decode? encoded).map Char.ofNat
    guard (isUnifiedLabel shown)
    pure ⟨text, shown⟩
  else if isAscii text then some ⟨text, text⟩
  else do
    guard (isUnifiedLabel text)
    pure ⟨encodedMark ++ Text.Punycode.encode (text.map Char.toNat), text⟩

def domainOfText? (text : List Char) : Option (List Char) := do
  let labels ← ((← unifiedText? text).splitOn '.').mapM label?
  guard (directionsFit (labels.map Label.shown))
  let name := ['.'].intercalate (labels.map Label.ascii)
  guard (!name.any isForbiddenInDomain)
  pure name

def domainName? (bytes : List UInt8) : Option (List Char) := do domainOfText? (← decode? bytes)

end AliasSync.Url
