import AliasSync.Launch

/-! The program. It reads its arguments, the environment and the files that its settings name, and prints
what a launch and its run write. Its network answers nothing: whoever embeds the library supplies one. -/

namespace AliasSync.Main

open AliasSync.Text (trim)

def readVariable (key : String) : IO (Option (String × String)) := do
  pure ((← IO.getEnv key).map (key, ·))

def textOf (bytes : ByteArray) : Except FileError String :=
  match Text.decode? bytes.toList with
  | some text => .ok (String.ofList text)
  | none => .error .invalidUtf8

def readPath (path : String) : IO (String × Except FileError String) := do
  match ← (IO.FS.readBinFile path).toBaseIO with
  | .ok bytes => pure (path, textOf bytes)
  | .error (.noFileOrDirectory ..) => pure (path, .error .notFound)
  | .error (.permissionDenied ..) => pure (path, .error .permissionDenied)
  | .error (.inappropriateType (some _) ..) => pure (path, .error .notADirectory)
  | .error (.invalidArgument _ 22 _) => pure (path, .error .invalidPath)
  | .error (.invalidArgument ..) => pure (path, .error .nameTooLong)
  | .error _ => pure (path, .error .isADirectory)

def kindOf : Except FileError String → Except FileError FileKind
  | .ok _ | .error .invalidUtf8 => .ok .regular
  | .error .isADirectory => .ok .other
  | .error cause => .error cause

def filesOf (contents : List (String × Except FileError String)) : Files where
  kind path := kindOf ((contents.lookup path).getD (.error .notFound))
  readText path := (contents.lookup path).getD (.error .notFound)

/-- What lies outside: nobody answers, no program is found, and no time passes. -/
def outside : Deployment.Outside Unit where
  network := .silent
  machine _ := ⟨fun _ => false, none, none, fun _ _ => .unfinished⟩
  wait _ _ := 0
  elapse _ _ := id

def surroundings (arguments : List String) : IO Surroundings := do
  let environmentKeys ← (Config.environmentKeys ++ ["TOS_CONFIG", "RUST_LOG"]).filterMapM readVariable
  let environment : Config.Environment := (environmentKeys.lookup ·)
  let named := match CommandLine.parse arguments with
    | .run asked => [(Config.Source.resolve asked.config environment).path]
    | _ => []
  let contents ← (named ++ environmentKeys.map fun (_, value) => trim value).mapM readPath
  pure ⟨environment, filesOf contents, fun _ => .error "failed to create HTTP listener"⟩

def print (console : Console) : IO Unit := do
  console.output.forM (IO.println ·)
  console.errors.forM (IO.eprintln ·)
  (← IO.getStdout).flush

/-- Goes on with a cycle at every interval. As nobody answers, a cycle leaves nothing to remember. -/
partial def goOn (launch : Launch) : IO Unit := do
  let deployment := launch.deployment
  IO.sleep (UInt32.ofNat deployment.reconciler.interval)
  let run := (deployment.world outside).run none (Sync.reportedCycle deployment.reconciler.syncer) 0
    ((), deployment.exrex)
  print ⟨Launch.shown launch.filter (run.steps.flatMap (Deployment.stepRecords ·.2)), []⟩
  goOn launch

end AliasSync.Main

def main (arguments : List String) : IO UInt32 := do
  let surroundings ← AliasSync.Main.surroundings arguments
  match AliasSync.Launch.prepare surroundings arguments with
  | .error exit =>
    AliasSync.Main.print exit.console
    pure (UInt32.ofNat exit.status)
  | .ok launch =>
    let run := launch.deployment.run AliasSync.Main.outside none launch.once ()
    let exit := launch.conclude run
    AliasSync.Main.print exit.console
    if run.result = some .endless then AliasSync.Main.goOn launch
    pure (UInt32.ofNat exit.status)
