import AliasSync.Text.Split
import AliasSync.Url.Basic
import AliasSync.Url.Domain
import AliasSync.Url.Percent

/-! Reading URLs that stand on their own. Tabs and line breaks are ignored, as are blanks and controls
at both ends. -/

namespace AliasSync.Url

open AliasSync.Text (cutAtLast)

/-- Schemes with an authority that is always there, and their default ports. -/
def specialSchemes : List (String × Option Nat) :=
  [("http", some 80), ("https", some 443), ("ws", some 80), ("wss", some 443), ("ftp", some 21),
   ("file", none)]

def isSpecial (scheme : String) : Bool := (specialSchemes.map Prod.fst).contains scheme

def defaultPort? (scheme : String) : Option Nat := (specialSchemes.lookup scheme).join

def clean (text : String) : List Char :=
  let edge (c : Char) : Bool := decide (c.toNat ≤ 0x20)
  let trimmed := ((text.toList.dropWhile edge).reverse.dropWhile edge).reverse
  trimmed.filter fun c => c != '\t' && c != '\n' && c != '\r'

def scheme? (text : List Char) : Option (String × List Char) :=
  let isSchemeChar (c : Char) : Bool := c.isAlphanum || c == '+' || c == '-' || c == '.'
  match text, text.dropWhile isSchemeChar with
  | first :: _, ':' :: rest =>
    if first.isAlpha then
      some (String.ofList ((text.takeWhile isSchemeChar).map Char.toLower), rest)
    else none
  | _, _ => none

def isSlash (special : Bool) (c : Char) : Bool := c == '/' || (special && c == '\\')

def endsAuthority (special : Bool) (c : Char) : Bool :=
  isSlash special c || c == '?' || c == '#'

/-- Cuts a text at the first occurrence of a character, which is left out. -/
def cutAtFirst (separator : Char) (text : List Char) : List Char × Option (List Char) :=
  match text.dropWhile (· != separator) with
  | [] => (text, none)
  | _ :: after => (text.takeWhile (· != separator), some after)

/-- The host at the front of an authority, and the rest with the port. A colon in brackets belongs to
the host. -/
def cutHost (inBrackets : Bool) : List Char → List Char × List Char
  | [] => ([], [])
  | c :: rest =>
    if c = ':' ∧ inBrackets = false then ([], c :: rest)
    else
      let (host, after) := cutHost (if c = '[' then true else if c = ']' then false else inBrackets) rest
      (c :: host, after)

def bracketed? (text : List Char) : Option (Except ParseError Host) :=
  match text with
  | '[' :: inner =>
    some (if inner.getLast? = some ']' then
      match ipv6? inner.dropLast with
      | some pieces => .ok (.ipv6 pieces)
      | none => .error .invalidIPv6
    else .error .invalidIPv6)
  | _ => none

def specialHost (text : List Char) : Except ParseError Host :=
  match bracketed? text with
  | some result => result
  | none =>
    match domainName? (percentDecode text) with
    | none => .error .invalidDomainName
    | some [] => .error .emptyHost
    | some name =>
      if endsInNumber name then
        match ipv4? name with
        | some address => .ok (.ipv4 address)
        | none => .error .invalidIPv4
      else .ok (.domain (String.ofList name))

/-- The host of any other scheme, which is taken as it is. -/
def plainHost (text : List Char) : Except ParseError Host :=
  match bracketed? text with
  | some result => result
  | none =>
    if text.any fun c => "\x00\t\n\r #/:<>?@[\\]^|".toList.contains c then
      .error .invalidDomainCharacter
    else .ok (.domain (String.ofList (percentEncode isControl text)))

/-- The port after a host, if one is written and it is not the usual one. -/
def port? (scheme : String) : List Char → Except ParseError (Option Nat)
  | [] => .ok none
  | _ :: digits =>
    if digits.isEmpty then .ok none
    else match Text.number? 10 digits with
      | none => .error .invalidPort
      | some port =>
        if 65535 < port then .error .invalidPort
        else .ok (if defaultPort? scheme = some port then none else some port)

def credentialsOf (text : List Char) : String × String :=
  let (username, password) := cutAtFirst ':' text
  (String.ofList (percentEncode inUserinfoSet username),
    String.ofList (percentEncode inUserinfoSet (password.getD [])))

structure Authority where
  username : String
  password : String
  host : Host
  port : Option Nat

/-- Reads an authority, and gives back what is left behind its port: a backslash, which ends a port
whatever the scheme is. A mark of credentials stands alone only at the end of the text. -/
def readAuthority (scheme : String) (text : List Char) (atEnd : Bool) :
    Except ParseError (Authority × List Char) := do
  let (userinfo, hostAndPort) :=
    match cutAtLast '@' text with
    | none => (none, text)
    | some (userinfo, rest) => (some userinfo, rest)
  if userinfo == some [] && hostAndPort.isEmpty && !atEnd then throw .emptyHost
  let (hostText, portText) := cutHost false hostAndPort
  if isSpecial scheme && hostText.isEmpty then throw .emptyHost
  let host ← if isSpecial scheme then specialHost hostText else plainHost hostText
  if host == .domain "" && !portText.isEmpty then throw .emptyHost
  let port ← port? scheme (portText.takeWhile (· != '\\'))
  let (username, password) := credentialsOf (userinfo.getD [])
  if host == .domain "" && !(username.isEmpty && password.isEmpty) then throw .emptyHost
  pure (⟨username, password, host, port⟩, portText.dropWhile (· != '\\'))

def isDoubleDot (segment : List Char) : Bool :=
  ["..", "%2e.", ".%2e", "%2e%2e"].contains (String.ofList (segment.map Char.toLower))

def isSingleDot (segment : List Char) : Bool :=
  [".", "%2e"].contains (String.ofList (segment.map Char.toLower))

/-- A drive: a letter and a colon, for which a bar may stand. -/
def isDrive (segment : List Char) : Bool :=
  match segment with
  | [letter, mark] => letter.isAlpha && (mark == ':' || mark == '|')
  | _ => false

/-- Goes back by one segment, but not beyond a drive. -/
def goBack (done : List String) : List String :=
  if done.getLast?.any fun segment => isDrive segment.toList then done else done.dropLast

/-- A segment as it is written. At the front of the path of a file, a drive is written with its colon. -/
def segmentText (driveAllowed : Bool) (part : List Char) : String :=
  String.ofList (if driveAllowed && isDrive part then part.take 1 ++ [':'] else percentEncode inPathSet part)

/-- Adds the parts of a path to its segments. One dot stays where it is and two dots go back; at the
end they leave an empty segment. -/
def resolveSegments (ofFile : Bool) (done : List String) : List (List Char) → List String
  | [] => done
  | part :: rest =>
    let last := rest.isEmpty
    if isDoubleDot part then
      resolveSegments ofFile (goBack done ++ if last then [""] else []) rest
    else if isSingleDot part then resolveSegments ofFile (done ++ if last then [""] else []) rest
    else resolveSegments ofFile (done ++ [segmentText (ofFile && done.isEmpty) part]) rest

/-- The segments of a path. Its first slash separates nothing. -/
def segmentsOf (special : Bool) (text : List Char) : List String :=
  match text with
  | [] => if special then [""] else []
  | c :: rest =>
    resolveSegments false [] ((if isSlash special c then rest else text).splitOnP (isSlash special))

def withoutLeadingSlashes (segments : List String) : List String :=
  match segments.dropWhile (· == "") with
  | [] => [""]
  | rest => rest

structure Parts where
  path : List Char
  query : Option (List Char)
  fragment : Option (List Char)

def partsOf (text : List Char) : Parts :=
  let (beforeFragment, fragment) := cutAtFirst '#' text
  let (path, query) := cutAtFirst '?' beforeFragment
  ⟨path, query, fragment⟩

def queryText (special : Bool) (query : List Char) : String :=
  String.ofList (percentEncode (if special then inSpecialQuerySet else inQuerySet) query)

def fragmentText (fragment : List Char) : String :=
  String.ofList (percentEncode inFragmentSet fragment)

def assemble (scheme : String) (authority : Option Authority) (path : Path) (parts : Parts) : Url where
  scheme := scheme
  username := (authority.map Authority.username).getD ""
  password := (authority.map Authority.password).getD ""
  host := authority.map Authority.host
  port := authority.bind Authority.port
  path := path
  query := parts.query.map (queryText (isSpecial scheme))
  fragment := parts.fragment.map fragmentText

def withAuthority (scheme : String) (text : List Char) : Except ParseError Url := do
  let special := isSpecial scheme
  let after := text.dropWhile fun c => !endsAuthority special c
  let (authority, left) ← readAuthority scheme (text.takeWhile fun c => !endsAuthority special c) after.isEmpty
  let parts := partsOf after
  pure (assemble scheme (some authority) (.segments (segmentsOf special (left ++ parts.path))) parts)

/-- A file URL whose path begins behind a slash. A path that begins with a drive needs no host. -/
def fileAt (host : Option Host) (path : List Char) (parts : Parts) : Url :=
  let segments := resolveSegments true [] (path.splitOnP (isSlash true))
  let onDrive := segments.head?.any fun segment => isDrive segment.toList
  let named := if onDrive then none else host
  assemble "file" (named.map fun host => ⟨"", "", host, none⟩) (.segments (withoutLeadingSlashes segments)) parts

def behindSlash : List Char → List Char
  | [] => []
  | c :: rest => if isSlash true c then rest else c :: rest

/-- Reads what follows the two slashes of a file URL. Its host may be missing, the local one is not written,
and a drive is none. -/
def fileWithHost (text : List Char) : Except ParseError Url := do
  let hostText := text.takeWhile fun c => !endsAuthority true c
  let parts := partsOf (text.dropWhile fun c => !endsAuthority true c)
  if isDrive hostText then pure (fileAt none (hostText ++ parts.path) parts)
  else if hostText.isEmpty then pure (fileAt none parts.path parts)
  else
    let host ← specialHost hostText
    if host == .domain "localhost" then pure (fileAt none parts.path parts)
    else pure (fileAt (some host) (behindSlash parts.path) parts)

def fileUrl (text : List Char) : Except ParseError Url :=
  let local_ : Except ParseError Url :=
    let parts := partsOf text
    .ok (fileAt none (behindSlash parts.path) parts)
  match text with
  | first :: second :: rest => if isSlash true first && isSlash true second then fileWithHost rest else local_
  | _ => local_

def otherUrl (scheme : String) (text : List Char) : Except ParseError Url :=
  match text with
  | '/' :: '/' :: rest => withAuthority scheme rest
  | '/' :: _ =>
    let parts := partsOf text
    .ok (assemble scheme none (.segments (segmentsOf false parts.path)) parts)
  | _ =>
    let parts := partsOf text
    .ok (assemble scheme none (.plain (String.ofList (percentEncode isControl parts.path))) parts)

def parse (text : String) : Except ParseError Url :=
  match scheme? (clean text) with
  | none => .error .relativeWithoutBase
  | some (scheme, rest) =>
    if scheme == "file" then fileUrl rest
    else if isSpecial scheme then withAuthority scheme (rest.dropWhile (isSlash true))
    else otherUrl scheme rest

end AliasSync.Url
