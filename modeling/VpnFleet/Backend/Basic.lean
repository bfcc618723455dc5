import VpnFleet.Helper.Transport
import VpnFleet.Script.Basic

/-!
# Backends

The client runs on one of two backends: a script in memory, or the helper
program. A call is issued first, and may then be held at a turnstile; it is
answered when it goes on. Only a script has turnstiles, so the helper answers
every call at once.
-/

namespace VpnFleet

/-- What answers the calls of the client. -/
inductive Backend where
  | scripted (script : Script)
  | helper (transport : Transport)

namespace Backend

/-- A call is issued; if it is held, its ticket is returned. Whoever closes a feed no longer
receives from it. -/
def issue (backend : Backend) (call : Call) : Backend × Option Nat :=
  match backend, call with
  | .scripted script, .unsubscribe feed =>
    let (script, held) := (script.hangUp feed).issue call
    (.scripted script, held)
  | .scripted script, call =>
    let (script, held) := script.issue call
    (.scripted script, held)
  | .helper transport, .unsubscribe feed => (.helper (transport.hangUp feed), none)
  | .helper transport, _ => (.helper transport, none)

/-- A held call was let through. -/
def isGranted (backend : Backend) (ticket : Nat) : Bool :=
  match backend with
  | .scripted script => script.isGranted ticket
  | .helper _ => false

/-- A call that was let through goes on. -/
def leave (backend : Backend) (ticket : Nat) : Backend :=
  match backend with
  | .scripted script => .scripted (script.leave ticket)
  | .helper transport => .helper transport

/-- A held call is given up. -/
def forfeit (backend : Backend) (ticket : Nat) : Backend :=
  match backend with
  | .scripted script => .scripted (script.forfeit ticket)
  | .helper transport => .helper transport

/-- Answers a call that goes on. -/
def answer (backend : Backend) (call : Call) : Backend × call.Answer :=
  match backend with
  | .scripted script =>
    let (script, answer) := script.answer call
    (.scripted script, answer)
  | .helper transport =>
    let (transport, answer) := transport.answer call
    (.helper transport, answer)

/-- The feed that needs a sampler after an answer. -/
def sampled? (backend : Backend) : (call : Call) → call.Answer → Option String
  | .subscribe, .ok feed =>
    match backend with
    | .scripted _ => none
    | .helper _ => some feed
  | _, _ => none

/-- Receives from a feed. -/
def receive (backend : Backend) (feed : String) : Backend × Received TrafficRecord :=
  match backend with
  | .scripted script =>
    let (script, received) := script.receive feed
    (.scripted script, received)
  | .helper transport =>
    let (transport, received) := transport.receive feed
    (.helper transport, received)

/-- A receiver of the feed would find a sample or the end. -/
def isReadable (backend : Backend) (feed : String) : Bool :=
  match backend with
  | .scripted script => script.isReadable feed
  | .helper transport => transport.isReadable feed

/-- The receiver of a feed goes. -/
def hangUp (backend : Backend) (feed : String) : Backend :=
  match backend with
  | .scripted script => .scripted (script.hangUp feed)
  | .helper transport => .helper (transport.hangUp feed)

/-- A step of the sampler of a feed. -/
def stepSampler (backend : Backend) (feed : String) (now : Nat) : Backend × SamplerTurn :=
  match backend with
  | .scripted script => (.scripted script, .ended)
  | .helper transport =>
    let (transport, turn) := transport.stepSampler feed now
    (.helper transport, turn)

/-- The sampler of a feed can take a step. -/
def samplerDue (backend : Backend) (feed : String) (now : Nat) : Bool :=
  match backend with
  | .scripted _ => true
  | .helper transport => transport.samplerDue feed now

/-- The time of the next tick of a sampler that rests. -/
def nextSample? (backend : Backend) (feed : String) : Option Nat :=
  match backend with
  | .scripted _ => none
  | .helper transport => transport.nextSample? feed

end Backend
end VpnFleet
