/-! The machine on which pattern generators run: files, the way programs are found, and what becomes of
them. -/

namespace AliasSync

inductive ExitStatus where
  | code (number : Nat)
  | signal (number : Nat) (dumped : Bool)
  deriving DecidableEq, Repr

namespace ExitStatus

def signalName? : Nat → Option String
  | 1 => some "SIGHUP"
  | 2 => some "SIGINT"
  | 3 => some "SIGQUIT"
  | 4 => some "SIGILL"
  | 5 => some "SIGTRAP"
  | 6 => some "SIGABRT"
  | 7 => some "SIGBUS"
  | 8 => some "SIGFPE"
  | 9 => some "SIGKILL"
  | 10 => some "SIGUSR1"
  | 11 => some "SIGSEGV"
  | 12 => some "SIGUSR2"
  | 13 => some "SIGPIPE"
  | 14 => some "SIGALRM"
  | 15 => some "SIGTERM"
  | 16 => some "SIGSTKFLT"
  | 17 => some "SIGCHLD"
  | 18 => some "SIGCONT"
  | 19 => some "SIGSTOP"
  | 20 => some "SIGTSTP"
  | 21 => some "SIGTTIN"
  | 22 => some "SIGTTOU"
  | 23 => some "SIGURG"
  | 24 => some "SIGXCPU"
  | 25 => some "SIGXFSZ"
  | 26 => some "SIGVTALRM"
  | 27 => some "SIGPROF"
  | 28 => some "SIGWINCH"
  | 29 => some "SIGIO"
  | 30 => some "SIGPWR"
  | 31 => some "SIGSYS"
  | _ => none

def isSuccess : ExitStatus → Bool
  | code number => number == 0
  | signal _ _ => false

def text : ExitStatus → String
  | code number => "exit status: " ++ toString number
  | signal number dumped =>
    "signal: " ++ toString number ++ ((signalName? number).map fun name => " (" ++ name ++ ")").getD "" ++
      if dumped then " (core dumped)" else ""

end ExitStatus

inductive ProcessOutcome where
  | notStarted (reason : String)
  | unfinished
  | finished (status : ExitStatus) (stdout stderr : List UInt8)
  deriving DecidableEq, Repr

structure Machine where
  isFile : String → Bool
  searchPath : Option String
  workingDirectory : Option String
  /-- Runs a program with arguments until a deadline. -/
  run : String → List String → ProcessOutcome

end AliasSync
