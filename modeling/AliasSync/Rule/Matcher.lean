/-! The matchers a rule may call, and which of them speak of host names. -/

namespace AliasSync.Rule

/-- How the value of a host matcher is read: as a name, or as a pattern that stands for names. -/
inductive HostKind where
  | literal
  | pattern
  deriving DecidableEq, Repr

inductive Matcher where
  | clientIP
  | method
  | host
  | hostRegexp
  | path
  | pathRegexp
  | pathPrefix
  | header
  | headerRegexp
  | query
  | queryRegexp
  | headers
  | headersRegexp
  deriving DecidableEq, Repr

namespace Matcher

def all : List Matcher :=
  [clientIP, method, host, hostRegexp, path, pathRegexp, pathPrefix, header, headerRegexp, query,
   queryRegexp, headers, headersRegexp]

def name : Matcher → String
  | clientIP => "ClientIP"
  | method => "Method"
  | host => "Host"
  | hostRegexp => "HostRegexp"
  | path => "Path"
  | pathRegexp => "PathRegexp"
  | pathPrefix => "PathPrefix"
  | header => "Header"
  | headerRegexp => "HeaderRegexp"
  | query => "Query"
  | queryRegexp => "QueryRegexp"
  | headers => "Headers"
  | headersRegexp => "HeadersRegexp"

/-- The characters of a name with the ASCII letters in lower case, the form in which names are
compared. -/
def folded (name : String) : List Char := name.toList.map Char.toLower

def ofName? (name : String) : Option Matcher :=
  all.find? fun matcher => folded matcher.name == folded name

def hostKind? : Matcher → Option HostKind
  | host => some .literal
  | hostRegexp => some .pattern
  | _ => none

theorem mem_all (matcher : Matcher) : matcher ∈ all := by
  cases matcher <;> decide

end Matcher

end AliasSync.Rule
