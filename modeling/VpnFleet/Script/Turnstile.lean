/-!
# Turnstiles

A turnstile holds calls until it is given permits. Each permit lets one call
through: the call that waits longest, or a later one if none waits. A call that
is given up returns the permit it was granted.
-/

namespace VpnFleet

/-- A turnstile; calls stand at it by ticket number. -/
structure Turnstile where
  /-- Permits that no call has taken. -/
  permits : Nat
  /-- The calls that wait, the oldest first. -/
  waiting : List Nat
  /-- The calls that were let through but have not gone on. -/
  granted : List Nat
deriving DecidableEq, Repr

namespace Turnstile

/-- A turnstile that lets nothing through. -/
def closed : Turnstile where
  permits := 0
  waiting := []
  granted := []

/-- A call comes to the turnstile; the flag tells whether it goes on at once. -/
def arrive (turnstile : Turnstile) (ticket : Nat) : Turnstile × Bool :=
  if 0 < turnstile.permits then ({ turnstile with permits := turnstile.permits - 1 }, true)
  else ({ turnstile with waiting := turnstile.waiting ++ [ticket] }, false)

/-- Gives permits; the calls that they let through are returned. -/
def release (turnstile : Turnstile) (permits : Nat) : Turnstile × List Nat :=
  let through := turnstile.waiting.take permits
  ({ permits := turnstile.permits + (permits - through.length)
     waiting := turnstile.waiting.drop permits
     granted := turnstile.granted ++ through },
    through)

/-- The call was let through. -/
def isGranted (turnstile : Turnstile) (ticket : Nat) : Bool :=
  turnstile.granted.contains ticket

/-- A call that was let through goes on. -/
def leave (turnstile : Turnstile) (ticket : Nat) : Turnstile :=
  { turnstile with granted := turnstile.granted.filter (· ≠ ticket) }

/-- A call is given up; a permit that it was granted goes to the next one. -/
def forfeit (turnstile : Turnstile) (ticket : Nat) : Turnstile :=
  if turnstile.isGranted ticket then ((turnstile.leave ticket).release 1).1
  else { turnstile with waiting := turnstile.waiting.filter (· ≠ ticket) }

end Turnstile
end VpnFleet
