import Hostlink.Session
/-!
A plugin at work: the host shakes hands, the plugin prepares its routes with the configuration that
it was sent, and then it serves until the input is over. Whatever goes wrong on the way ends its
work.
-/

namespace Hostlink

/-- A plugin whose configuration is of type `γ`, with the state of its sink. -/
structure Plugin (σ γ : Type) where
  session : Session σ
  /-- What came of the handshake, once it is over. -/
  handshake : Option (Except Fault γ) := none
  /-- How serving ended, once it has. -/
  ending : Option (Except Fault Unit) := none

namespace Plugin

variable {σ γ : Type}

/-- Whether the host has been refused. -/
def isRefused (plugin : Plugin σ γ) : Bool :=
  match plugin.handshake with
  | some (.error _) => true
  | _ => false

/-- Whether the plugin does no more work. -/
def isOver (plugin : Plugin σ γ) : Bool :=
  plugin.isRefused || plugin.ending.isSome

/-- Serve what has arrived; tells the envelopes that were read. -/
def serve (sink : Sink σ) (plugin : Plugin σ γ) : List Envelope × Plugin σ γ :=
  if plugin.isOver then ([], plugin)
  else
    let (ending, envelopes, session) := plugin.session.serve sink
    (envelopes, { plugin with session, ending })

/-- How a plugin prepares its routes with its configuration. -/
abbrev Preparation (γ : Type) := γ → Routes → Except Fault Routes

/-- Work on what has arrived: the handshake first, unless it is over. -/
def work [Json.Decode γ] (sink : Sink σ) (prepare : Preparation γ) (plugin : Plugin σ γ) :
    List Envelope × Plugin σ γ :=
  if plugin.handshake.isSome then plugin.serve sink
  else
    match plugin.session.shakeHands γ sink with
    | (.waiting, session) => ([], { plugin with session })
    | (.refused fault, session) =>
      ([], { plugin with session := session.abandon, handshake := some (.error fault) })
    | (.accepted config, session) =>
      let plugin := { plugin with session, handshake := some (.ok config) }
      match prepare config session.routes with
      | .ok routes => { plugin with session := { session with routes } }.serve sink
      | .error fault => ([], { plugin with ending := some (.error fault) })

/-- The status that a program ends with which runs the plugin. -/
def status (plugin : Plugin σ γ) : UInt32 :=
  match plugin.handshake, plugin.ending with
  | some (.ok _), some (.ok ()) => 0
  | _, _ => 1

/-- Change the session of a plugin. -/
def mapSession (f : Session σ → Session σ) (plugin : Plugin σ γ) : Plugin σ γ :=
  { plugin with session := f plugin.session }

/--
Let time pass from `time` until `stop`. The clock goes from one deadline to the next, and at each of
them the plugin does its work, from which later deadlines may come.
-/
def elapseUntil (work : Plugin σ γ → Plugin σ γ) (time stop : Nat) (plugin : Plugin σ γ) :
    Plugin σ γ :=
  match h : plugin.session.exchange.nextDeadline? time stop with
  | some deadline =>
    have _order := Exchange.of_nextDeadline?_eq_some h
    elapseUntil work deadline stop (work (plugin.mapSession (·.setTime deadline)))
  | none => plugin.mapSession (·.setTime stop)
termination_by stop - time
decreasing_by omega

/-- Let time pass, and do the work that comes up meanwhile. -/
def elapse (work : Plugin σ γ → Plugin σ γ) (plugin : Plugin σ γ) (milliseconds : Nat) :
    Plugin σ γ :=
  let now := plugin.session.surroundings.now
  plugin.elapseUntil work now (now + milliseconds)

end Plugin
end Hostlink
