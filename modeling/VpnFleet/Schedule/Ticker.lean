/-!
# Tickers

A ticker fires at once and then once per period. A tick that is taken at most
five milliseconds late keeps the rhythm; a tick taken later starts it anew.
Times are in milliseconds.
-/

namespace VpnFleet

/-- A ticker with the time of its next tick. -/
structure Ticker where
  period : Nat
  deadline : Nat
deriving DecidableEq, Repr

namespace Ticker

/-- How late a tick may be taken without a new rhythm. -/
def tolerance : Nat :=
  5

/-- A ticker that fires at once. -/
def start (now period : Nat) : Ticker where
  period := period
  deadline := now

/-- A tick is due. -/
def isDue (ticker : Ticker) (now : Nat) : Bool :=
  ticker.deadline ≤ now

/-- Takes a tick that is due. -/
def take (ticker : Ticker) (now : Nat) : Ticker :=
  if ticker.deadline + tolerance < now then { ticker with deadline := now + ticker.period }
  else { ticker with deadline := ticker.deadline + ticker.period }

/-- With a positive period the next tick is later than the one taken. -/
theorem deadline_lt_take (ticker : Ticker) (now : Nat) (hperiod : 0 < ticker.period) :
    ticker.deadline < (ticker.take now).deadline := by
  unfold take
  split
  · show ticker.deadline < now + ticker.period
    omega
  · show ticker.deadline < ticker.deadline + ticker.period
    omega

end Ticker
end VpnFleet
