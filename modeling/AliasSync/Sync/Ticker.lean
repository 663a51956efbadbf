/-! The clock that sets the pace of the sync loop. A tick that was missed fires as soon as it is waited
for, and the next one is due a whole period after it fired. Moments count milliseconds. -/

namespace AliasSync.Sync

/-- The last moment that the clock of the system can represent, which counts seconds in 64 bits with
a sign. -/
def lastMoment : Nat := UInt64.size / 2 * 1000 - 1

structure Ticker where
  period : Nat
  deadline : Nat
  period_pos : 0 < period

inductive TickerFault where
  | zeroPeriod
  | unrepresentableDeadline
  deriving DecidableEq, Repr

namespace Ticker

/-- Starts a clock whose first tick is due after one period. -/
def start (now period : Nat) : Except TickerFault Ticker :=
  if positive : 0 < period then
    if now + period ≤ lastMoment then .ok ⟨period, now + period, positive⟩
    else .error .unrepresentableDeadline
  else .error .zeroPeriod

/-- The moment of the next tick for one who waits for it from now on. -/
def nextTick (ticker : Ticker) (now : Nat) : Nat := max ticker.deadline now

def fired (ticker : Ticker) (moment : Nat) : Ticker :=
  { ticker with deadline := moment + ticker.period }

/-- Ticks are at least a period apart. -/
theorem nextTick_fired (ticker : Ticker) (moment now : Nat) :
    moment < (ticker.fired moment).nextTick now := by
  have := ticker.period_pos
  simp only [nextTick, fired]
  omega

/-- After a tick there is less time left until a moment that it did not miss. -/
theorem remaining_fired (ticker : Ticker) {stop moment now : Nat} (inTime : ¬ stop < moment) :
    stop + 1 - (ticker.fired moment).nextTick now < stop + 1 - moment := by
  have := ticker.nextTick_fired moment now
  omega

end Ticker

end AliasSync.Sync
