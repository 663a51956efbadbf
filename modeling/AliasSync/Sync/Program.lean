import AliasSync.Log
import AliasSync.Router
import AliasSync.Sync.Error
import AliasSync.Sync.Metric

/-! Programs: what a cycle does, as a tree of questions to the world around it. Nothing here says who
answers them, when, or whether an answer ever comes; a run supplies that. -/

namespace AliasSync.Sync

/-- A question to the world, or an order to it. -/
inductive Request where
  | lookup (fqdn : String)
  | aliases (parent : String)
  | routers
  | create (entry : HostAlias) (parent : String)
  | delete (entry : HostAlias)
  | apply
  | generate (pattern : String) (limit : Nat)
  deriving DecidableEq, Repr

namespace Request

abbrev Reply : Request → Type
  | lookup _ => Except StoreError (Option String)
  | aliases _ => Except StoreError (List HostAlias)
  | routers => Except Http.HttpError (List Router)
  | create _ _ => Except StoreError String
  | delete _ => Except StoreError Unit
  | apply => Except StoreError Unit
  | generate _ _ => Except GeneratorError (List String)

def isChange : Request → Bool
  | create _ _ | delete _ | apply => true
  | _ => false

end Request

inductive Note where
  | log (record : Log.Record)
  | metric (metric : Metric)
  deriving DecidableEq, Repr

/-- The two sides of a cycle: the aliases in the store and the routers of the proxy. -/
abbrev Snapshots := List HostAlias × List Router

/-- A computation that reports notes and asks requests. The two snapshots are asked for at the same
time, and the first failure of either is the answer. -/
inductive Program (α : Type) : Type where
  | done (value : α)
  | note (note : Note) (rest : Program α)
  | ask (request : Request) (next : request.Reply → Program α)
  | snapshots (parent : String) (next : Except CycleError Snapshots → Program α)

namespace Program

def bind (program : Program α) (next : α → Program β) : Program β :=
  match program with
  | done value => next value
  | note n rest => note n (rest.bind next)
  | ask request reply => ask request fun answer => (reply answer).bind next
  | snapshots parent reply => snapshots parent fun answer => (reply answer).bind next

instance : Monad Program where
  pure := done
  bind := bind

@[simp] theorem pure_eq (value : α) : (pure value : Program α) = done value := rfl

@[simp] theorem bind_eq (program : Program α) (next : α → Program β) :
    program >>= next = program.bind next := rfl

@[simp] theorem bind_done (program : Program α) : program.bind done = program := by
  induction program with
  | done value => rfl
  | note n rest ih => simp [bind, ih]
  | ask request reply ih => simp [bind, ih]
  | snapshots parent reply ih => simp [bind, ih]

theorem bind_assoc (program : Program α) (first : α → Program β) (second : β → Program γ) :
    (program.bind first).bind second = program.bind fun value => (first value).bind second := by
  induction program with
  | done value => rfl
  | note n rest ih => simp [bind, ih]
  | ask request reply ih => simp [bind, ih]
  | snapshots parent reply ih => simp [bind, ih]

instance : LawfulMonad Program :=
  LawfulMonad.mk' Program (fun program => bind_done program) (fun _ _ => rfl) bind_assoc

def request (r : Request) : Program r.Reply := ask r done

def fetchSnapshots (parent : String) : Program (Except CycleError Snapshots) :=
  snapshots parent done

def log (record : Log.Record) : Program Unit := note (.log record) (done ())

def measure (metric : Metric) : Program Unit := note (.metric metric) (done ())

end Program

end AliasSync.Sync
