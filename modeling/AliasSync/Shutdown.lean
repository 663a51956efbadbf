/-! The shutdown signal: everyone who subscribed is told of every trigger since. Only the latest
trigger is kept, so one who is late is told how many were missed and then gets the latest. -/

namespace AliasSync

/-- The signal with its subscribers. Triggers are numbered from zero on. -/
structure Shutdown where
  triggered : Nat
  /-- For every subscriber the number of the next trigger to be received. -/
  positions : List Nat
  deriving DecidableEq, Repr

/-- What a subscriber hears when asking without waiting. -/
inductive Signal where
  | signal
  | empty
  | lagged (missed : Nat)
  deriving DecidableEq, Repr

namespace Shutdown

def start : Shutdown := ⟨0, []⟩

/-- Adds a subscriber, who is told of later triggers only, and gives its number. -/
def subscribe (shutdown : Shutdown) : Nat × Shutdown :=
  (shutdown.positions.length,
    { shutdown with positions := shutdown.positions ++ [shutdown.triggered] })

def trigger (shutdown : Shutdown) : Shutdown :=
  { shutdown with triggered := shutdown.triggered + 1 }

def hear (triggered position : Nat) : Signal × Nat :=
  let pending := triggered - position
  if pending = 0 then (.empty, position)
  else if pending = 1 then (.signal, position + 1)
  else (.lagged (pending - 1), triggered - 1)

/-- Lets a subscriber ask for the next signal. There is no answer for a number not given out. -/
def receive? (shutdown : Shutdown) (subscriber : Nat) : Option (Signal × Shutdown) :=
  shutdown.positions[subscriber]?.map fun position =>
    let (heard, next) := hear shutdown.triggered position
    (heard, { shutdown with positions := shutdown.positions.set subscriber next })

end Shutdown

end AliasSync
