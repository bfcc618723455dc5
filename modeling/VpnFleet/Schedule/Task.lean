import VpnFleet.Client.Command
import VpnFleet.Client.Loops
import VpnFleet.Schedule.Ticker

/-!
# Tasks

What runs in the world of a client: commands with what is left of them, the
three background loops, the forwarders of feeds, and the samplers of the
helper. A task runs until it has to wait; a call that is held at a turnstile
is remembered by its ticket.
-/

namespace VpnFleet

/-- A call of a task that is held at a turnstile; only a sweep has more than one slot. -/
structure Hold where
  slot : Nat
  ticket : Nat
deriving DecidableEq, Repr

namespace Operation

/-- The operation waits for the end of the background loops. -/
def isDraining {yield : Yield} : Operation yield → Bool
  | .draining => true
  | _ => false

end Operation

/-- What a task does. -/
inductive Activity where
  /-- A command that has not started. -/
  | command {yield : Yield} (label : String) (command : Command yield)
  | operation {yield : Yield} (label : String) (operation : Operation yield)
  | poller (poller : Poller) (ticker : Ticker)
  | follower (follower : Follower)
  | herald (herald : Herald)
  | forwarder (feed : ActiveFeed)
  | sampler (feed : String)

namespace Activity

/-- The label under which the result is reported. -/
def label? : Activity → Option String
  | command label _ => some label
  | operation label _ => some label
  | _ => none

/-- The activity forwards the samples of this feed. -/
def forwards (feed : ActiveFeed) : Activity → Bool
  | forwarder other => other = feed
  | _ => false

end Activity

/-- A task of the world. -/
structure Task where
  id : Nat
  activity : Activity
  /-- The calls that are held at a turnstile. -/
  held : List Hold
  /-- The client may not be torn down while the task runs. -/
  holdsClient : Bool
  /-- The tasks whose end a teardown waits for. -/
  awaited : List Nat

/-- The result of a labelled task. -/
structure Outcome where
  label : String
  yield : Yield
  value : yield.Value

/-- How a task goes on after a step. -/
inductive Progress where
  /-- It can take another step. -/
  | again
  | parked
  | ended
deriving DecidableEq, Repr

end VpnFleet
