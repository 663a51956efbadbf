import AliasSync.Sync.Run

/-! A world held in memory, with scripted faults, waits and outside changes, in which cycles are
rehearsed without a network: an alias store, a proxy and a pattern generator. -/

namespace AliasSync.Rehearsal

open AliasSync.Sync (Request World)

inductive GeneratorEntry where
  | names (names : List String) (uncapped : Bool)
  | failure (cause : GeneratorError)
  deriving Repr

abbrev GeneratorTable := List (String × GeneratorEntry)

/-- The answer for a pattern; one that is not in the table fails. -/
def GeneratorTable.generate (table : GeneratorTable) (pattern : String) (limit : Nat) :
    Except GeneratorError (List String) :=
  match table.lookup pattern with
  | some (.names names uncapped) => .ok (if uncapped then names else names.take limit)
  | some (.failure cause) => .error cause
  | none => .error (.failed pattern "no such pattern")

structure Faults where
  lookup : Bool
  aliases : Bool
  routes : Bool
  apply : Bool
  deriving DecidableEq, Repr

/-- Milliseconds that each kind of request waits. -/
structure Waits where
  lookup : Nat
  aliases : Nat
  routes : Nat
  change : Nat
  apply : Nat
  deriving DecidableEq, Repr

/-- An alias to put into the store, which may have to stay without an id. -/
structure Seed where
  entry : HostAlias
  withoutId : Bool
  deriving DecidableEq, Repr

inductive Change where
  | routers (routers : List Router)
  | seed (seeds : List Seed)
  | clear
  | failKeys (keys : List String)
  | overrideFqdn (fqdn : String)
  | generator (table : GeneratorTable)
  | faults (change : Faults → Faults)

structure Scene where
  overrideFqdn : String
  overrideId : String
  faults : Faults
  waits : Waits
  failKeys : List String
  routers : List Router
  aliases : List HostAlias
  /-- Number of the next id that is given out. -/
  nextId : Nat
  generator : GeneratorTable
  /-- Outside changes still to come, each with its moment. -/
  upcoming : List (Nat × Change)

namespace Scene

def freshId (scene : Scene) : String × Scene :=
  ("uuid-" ++ toString scene.nextId, { scene with nextId := scene.nextId + 1 })

/-- Puts an alias into the store; it gets a fresh id if it has none and is to have one. -/
def plant (scene : Scene) (seed : Seed) : Scene :=
  if seed.entry.id.isNone && !seed.withoutId then
    let (id, scene) := scene.freshId
    { scene with aliases := scene.aliases ++ [{ seed.entry with id := some id }] }
  else { scene with aliases := scene.aliases ++ [seed.entry] }

def change (scene : Scene) : Change → Scene
  | .routers routers => { scene with routers := routers }
  | .seed seeds => seeds.foldl plant scene
  | .clear => { scene with aliases := [] }
  | .failKeys keys => { scene with failKeys := keys }
  | .overrideFqdn fqdn => { scene with overrideFqdn := fqdn }
  | .generator table => { scene with generator := table }
  | .faults change => { scene with faults := change scene.faults }

/-- Lets the outside changes up to a moment happen, in the order of the script. -/
def elapse (now : Nat) (scene : Scene) : Scene :=
  let due := scene.upcoming.takeWhile fun (moment, _) => moment ≤ now
  due.foldl (fun scene (_, change) => scene.change change)
    { scene with upcoming := scene.upcoming.drop due.length }

def wait (scene : Scene) : Request → Nat
  | .lookup _ => scene.waits.lookup
  | .aliases _ => scene.waits.aliases
  | .routers => scene.waits.routes
  | .create _ _ | .delete _ => scene.waits.change
  | .apply => scene.waits.apply
  | .generate _ _ => 0

def statusError (code : Nat) (url : String) : Http.HttpError := .status ⟨code⟩ url ""

def injected (key : String) : StoreError := .rejected key "failed" "injected failure"

def answer (scene : Scene) : (request : Request) → request.Reply × Scene
  | .lookup fqdn =>
    if scene.faults.lookup then (.error (.http (statusError 502 "http://opnsense/lookup")), scene)
    else
      let same := fqdn.toList.map Char.toLower == scene.overrideFqdn.toList.map Char.toLower
      (.ok (if same then some scene.overrideId else none), scene)
  | .aliases _ =>
    if scene.faults.aliases then (.error (.http (statusError 500 "http://opnsense/aliases")), scene)
    else (.ok scene.aliases, scene)
  | .routers =>
    if scene.faults.routes then
      (.error (statusError 503 "http://traefik/api/http/routers"), scene)
    else (.ok scene.routers, scene)
  | .create entry _ =>
    if entry.key ∈ scene.failKeys then (.error (injected entry.key), scene)
    else
      let (id, scene) := scene.freshId
      (.ok id, { scene with aliases := scene.aliases ++ [{ entry with id := some id }] })
  | .delete entry =>
    if entry.key ∈ scene.failKeys then (.error (injected entry.key), scene)
    else match entry.id with
      | none => (.error (.missingId entry.key), scene)
      | some id =>
        (.ok (), { scene with aliases := scene.aliases.filter (·.id != some id) })
  | .apply =>
    if scene.faults.apply then (.error (injected "reconfigure"), scene) else (.ok (), scene)
  | .generate pattern limit => (scene.generator.generate pattern limit, scene)

end Scene

def world : World Scene where
  wait := Scene.wait
  answer := Scene.answer
  elapse _ moment scene := scene.elapse moment

end AliasSync.Rehearsal
