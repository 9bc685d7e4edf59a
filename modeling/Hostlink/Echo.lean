import Hostlink.Plugin
/-!
A plugin that echoes: `/other` replies with the text of the payload and a suffix, `/message` is
logged and not answered, and `/users/:id` replies with the number in its path. The host may set the
suffix.
-/

namespace Hostlink

/-- The configuration that the host sends. -/
structure Echo.Config where
  suffix : Option String := none
deriving Repr, DecidableEq, Inhabited

open Json in
instance : Decode Echo.Config where
  decode source draft := do
    let found ← readFields "EchoConfig" [.of (Option String) "suffix" .defaulted] source draft
    return ⟨← found.getOption String "suffix"⟩

namespace Echo

/-- What the log events of the plugin come from. -/
def target : String := "plugwire_echo"

/-- The identifier of the channel of a request, as log events show it. -/
def channelText (request : Request) : String :=
  match request.channel with
  | some channel => "Some(" ++ Text.quoted channel.id ++ ")"
  | none => "None"

/-- The log event for a message. -/
def messageEvent (request : Request) : Log.Event where
  severity := .info
  target := target
  fields := [("message", .text "message received"), ("channel", .text (channelText request)),
    ("text", .text (request.payload.getD .null).text)]

/-- Reply with the text of the payload and a suffix. -/
def echo (suffix : String) : Handler :=
  .typed String fun text _ _ => .ok (.text (text ++ suffix))

/-- Log a message. -/
def onMessage : Handler := fun request _ =>
  .log (messageEvent request) (.settle .silence)

/-- Reply with the number in the path. -/
def onUser : Handler := fun _ params =>
  match params.read UInt64 "id" with
  | .ok id => .settle (.reply (.object [("id", .number (.int id.toNat))]))
  | .error fault => .settle (.failure fault.message)

/-- Add the routes of the plugin. -/
def addRoutes (config : Config) (routes : Routes) : Except Fault Routes := do
  let (_, routes) ← routes.register "/other" (echo (config.suffix.getD "!"))
  let (_, routes) ← routes.register "/message" onMessage
  let (_, routes) ← routes.register "/users/:id" onUser
  return routes

/-- The plugin before its first input, with its settings and a source of correlations. -/
def start {σ : Type} (settings : Settings) (correlations : Correlation.Source) (sink : σ) :
    Plugin σ Config :=
  let session := Session.ofSettings settings sink
  let forwarder :=
    if settings.log.forward then
      settings.log.severity?.map fun severity => { severity, place := some () }
    else none
  { session := { session with
      surroundings := { session.surroundings with forwarder, correlations } } }

/-- Work on what has arrived. -/
def work {σ : Type} (sink : Sink σ) (plugin : Plugin σ Config) : Plugin σ Config :=
  (plugin.work sink addRoutes).2

end Echo
end Hostlink
