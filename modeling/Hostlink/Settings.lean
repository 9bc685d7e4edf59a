import Hostlink.Fault
import Hostlink.Severity
import Hostlink.Yaml.Record
/-!
The settings of a plugin, as a YAML document holds them. All sections and all fields but the version
may be left out; anything that is not known is refused.
-/

namespace Hostlink

namespace Text

/-- White space in the sense of the character database, ASCII or not. -/
def isBlank (c : Char) : Bool :=
  let code := c.val
  (0x9 ≤ code && code ≤ 0xd) || code == 0x20 || code == 0x85 || code == 0xa0 || code == 0x1680 ||
    (0x2000 ≤ code && code ≤ 0x200a) || code == 0x2028 || code == 0x2029 || code == 0x202f ||
    code == 0x205f || code == 0x3000

/-- Whether a text holds nothing but white space. -/
def allBlank (s : String) : Bool :=
  s.toList.all isBlank

end Text

open Yaml (Site readRecord)

namespace Settings

/-- How the plugin is known. -/
structure Identity where
  name : String := "plugwire"
deriving Repr, DecidableEq, Inhabited

/-- How the streams are read and written. -/
structure Transport where
  /-- The number of bytes that are read at once, at most. -/
  readChunk : Nat := 8192
  /-- The number of bytes that are written at once, at most. -/
  writeChunk : Nat := 1024
  /-- The greatest length of the body of a frame, in either direction. -/
  maxFrame : Nat := 16 * 1024 * 1024
deriving Repr, DecidableEq, Inhabited

/-- How requests are handled. -/
structure Handling where
  /-- Whether a request without a route is answered with an error. -/
  replyUnroutable : Bool := false
  /-- Whether the metrics can be asked for. -/
  exposeMetrics : Bool := false
  /-- How many milliseconds an answer of the host is waited for. -/
  requestTimeout : Nat := 30000
deriving Repr, DecidableEq, Inhabited

/-- How log events reach the host. -/
structure Log where
  forward : Bool := false
  /-- The severity from which on events are forwarded, as written. -/
  level : String := "info"
deriving Repr, DecidableEq, Inhabited

end Settings

/-- The settings of a plugin. -/
structure Settings where
  version : Nat := 1
  identity : Settings.Identity := {}
  transport : Settings.Transport := {}
  handling : Settings.Handling := {}
  log : Settings.Log := {}
deriving Repr, DecidableEq, Inhabited

namespace Settings

/-- The severity from which on events are forwarded. -/
def Log.severity? (log : Log) : Option Severity :=
  Severity.ofText? log.level

def Identity.fields : List (Yaml.Field Identity) := [
  ⟨"name", fun site => do
    let name ← site.text "a string"
    return fun s => { s with name }⟩]

def Transport.fields : List (Yaml.Field Transport) := [
  ⟨"read_chunk_bytes", fun site => do
    let readChunk ← site.natural (UInt64.size - 1) "usize"
    return fun s => { s with readChunk }⟩,
  ⟨"write_chunk_bytes", fun site => do
    let writeChunk ← site.natural (UInt64.size - 1) "usize"
    return fun s => { s with writeChunk }⟩,
  ⟨"max_frame_bytes", fun site => do
    let maxFrame ← site.natural (UInt64.size - 1) "usize"
    return fun s => { s with maxFrame }⟩]

def Handling.fields : List (Yaml.Field Handling) := [
  ⟨"reply_unroutable", fun site => do
    let replyUnroutable ← site.bool
    return fun s => { s with replyUnroutable }⟩,
  ⟨"expose_metrics", fun site => do
    let exposeMetrics ← site.bool
    return fun s => { s with exposeMetrics }⟩,
  ⟨"request_timeout_ms", fun site => do
    let requestTimeout ← site.natural (UInt64.size - 1) "u64"
    return fun s => { s with requestTimeout }⟩]

def Log.fields : List (Yaml.Field Log) := [
  ⟨"forward_to_host", fun site => do
    let forward ← site.bool
    return fun s => { s with forward }⟩,
  ⟨"forward_level", fun site => do
    let level ← site.text "a string"
    return fun s => { s with level }⟩]

/-- Read a section, of which nothing has to be there. -/
def readSection {σ : Type} (name : String) (fields : List (Yaml.Field σ)) (start : σ)
    (site : Site) : Except Yaml.Fault σ := do
  return (← readRecord name fields start site).1

def fields : List (Yaml.Field Settings) := [
  ⟨"version", fun site => do
    let version ← site.natural (UInt32.size - 1) "u32"
    return fun s => { s with version }⟩,
  ⟨"plugin", fun site => do
    let identity ← readSection "PluginSection" Identity.fields {} site
    return fun s => { s with identity }⟩,
  ⟨"transport", fun site => do
    let transport ← readSection "TransportSection" Transport.fields {} site
    return fun s => { s with transport }⟩,
  ⟨"dispatch", fun site => do
    let handling ← readSection "DispatchSection" Handling.fields {} site
    return fun s => { s with handling }⟩,
  ⟨"log", fun site => do
    let log ← readSection "LogSection" Log.fields {} site
    return fun s => { s with log }⟩]

/-- Read settings; of all fields the version alone has to be there. -/
def ofSite (site : Site) : Except Yaml.Fault Settings := do
  let (settings, seen) ← readRecord "PluginConfig" fields {} site
  if seen.contains "version" then return settings else site.fail (.missingField "version")

/-- A number has to lie between two bounds. -/
def checkRange (name : String) (low high value : Nat) : Except Fault Unit :=
  if low ≤ value ∧ value ≤ high then .ok ()
  else .error <| .config <|
    name ++ " must be between " ++ toString low ++ " and " ++ toString high

/-- Check the values, in the order of the sections. -/
def check (settings : Settings) : Except Fault Unit := do
  if settings.version ≠ 1 then throw .unsupportedVersion
  if Text.allBlank settings.identity.name then throw (.config "plugin.name must not be empty")
  checkRange "transport.read_chunk_bytes" 512 1048576 settings.transport.readChunk
  checkRange "transport.write_chunk_bytes" 1 65536 settings.transport.writeChunk
  checkRange "transport.max_frame_bytes" 1024 4294967295 settings.transport.maxFrame
  checkRange "dispatch.request_timeout_ms" 100 600000 settings.handling.requestTimeout
  if settings.log.severity?.isNone then
    throw <| .config <|
      "log.forward_level must be one of trace|debug|info|warn|error, got " ++
        Text.quoted settings.log.level

/-- The settings that a text holds. -/
def ofText (text : String) : Except Fault Settings := do
  let settings ← (Yaml.readDocument ofSite text).mapError fun e =>
    .config ("invalid yaml: " ++ e.message)
  settings.check
  return settings

/-- Why a file could not be read. -/
inductive FileFault where
  | notFound
  | isDirectory
  | notText
  | other (reason : String)
deriving Repr, DecidableEq, Inhabited

/-- The words for a file that could not be read. -/
def FileFault.message : FileFault → String
  | notFound => "No such file or directory (os error 2)"
  | isDirectory => "Is a directory (os error 21)"
  | notText => "stream did not contain valid UTF-8"
  | other reason => reason

/-- The settings that a file holds, given what reading it gave. -/
def ofFile (path : String) (content : Except FileFault Bytes) : Except Fault Settings :=
  let text : Except FileFault String := do
    match (← content).toString? with
    | some text => return text
    | none => throw .notText
  match text with
  | .ok text => ofText text
  | .error fault => .error (.config ("read config " ++ path ++ " failed: " ++ fault.message))

/-- The name of the variable that names the file of the settings. -/
def variableName : String := "PLUGWIRE_CONFIG"

/-- The file of the settings by the value of the variable; none, if it is unset or empty. -/
def fileName? (value : Option String) : Option String :=
  value.filter (!·.isEmpty)

/-- The settings in a file, given what reading it gave; the usual ones, if there is no file. -/
def ofFile? (file : Option (String × Except FileFault Bytes)) : Except Fault Settings :=
  match file with
  | some (path, content) => ofFile path content
  | none => .ok {}

end Settings
end Hostlink
