import AliasSync.HostName

/-! Host aliases of the DNS resolver, and the changes that can be made to them. -/

namespace AliasSync

/-- A host alias. It has an id once the store holds it. -/
structure HostAlias where
  id : Option String
  hostname : String
  domain : String
  description : String
  deriving DecidableEq, Repr

namespace HostAlias

/-- The identity of an alias: its full name. -/
def key (entry : HostAlias) : String := entry.hostname ++ "." ++ entry.domain

def ofHostName (name : HostName) (description : String) : HostAlias :=
  ⟨none, name.hostname, name.domain, description⟩

end HostAlias

inductive OperationKind where
  | delete
  | create
  deriving DecidableEq, Repr

namespace OperationKind

def label : OperationKind → String
  | delete => "delete"
  | create => "create"

def name : OperationKind → String
  | delete => "DELETE"
  | create => "CREATE"

end OperationKind

/-- One change to the store. There is no update: the name of an alias is all that matters. -/
inductive Operation where
  | create (entry : HostAlias)
  | delete (entry : HostAlias)
  deriving DecidableEq, Repr

namespace Operation

def kind : Operation → OperationKind
  | create _ => .create
  | delete _ => .delete

def entry : Operation → HostAlias
  | create entry => entry
  | delete entry => entry

def key (operation : Operation) : String := operation.entry.key

def text (operation : Operation) : String := operation.kind.name ++ " " ++ operation.key

end Operation

end AliasSync
