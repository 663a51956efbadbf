/-! Host names: a name within a domain, cut at the first dot. -/

namespace AliasSync

/-- A fully qualified name, split into the name of the host and the domain it belongs to. -/
structure HostName where
  hostname : String
  domain : String
  deriving DecidableEq, Repr

namespace HostName

def text (name : HostName) : String := name.hostname ++ "." ++ name.domain

/-- Splits a text at its first dot. Both parts must be there. -/
def ofText? (text : String) : Option HostName :=
  let hostname := text.toList.takeWhile (· != '.')
  match text.toList.dropWhile (· != '.') with
  | [] => none
  | _ :: domain =>
    if hostname.isEmpty || domain.isEmpty then none
    else some ⟨String.ofList hostname, String.ofList domain⟩

end HostName

end AliasSync
