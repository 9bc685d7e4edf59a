import Hostlink.Echo
/-!
The echo plugin as a program, which talks to its host over the standard streams. A variable of the
environment may name a file with its settings.
-/

namespace Hostlink.Echo

/-- Why a file could not be read. -/
def fileFault : IO.Error → Settings.FileFault
  | .noFileOrDirectory .. => .notFound
  | .inappropriateType .. => .isDirectory
  | error => .other (toString error)

/-- A file, with what reading it gave. -/
def readFile (name : String) : IO (String × Except Settings.FileFault Bytes) := do
  try
    return (name, .ok (← IO.FS.readBinFile name).toList)
  catch error =>
    return (name, .error (fileFault error))

/-- A source of correlations with a random seed. -/
def seed : IO Correlation.Source := do
  let bytes ← IO.getRandomBytes 16
  return ⟨bytes.toList.foldl (fun state byte => state <<< 8 ||| byte.toBitVec.setWidth 128) 0⟩

/-- Pass on what the plugin has written. -/
def passOn (output : IO.FS.Stream) (plugin : Plugin Bytes.Queue Config) :
    IO (Plugin Bytes.Queue Config) := do
  let written := plugin.session.sink.toList
  unless written.isEmpty do
    output.write ⟨written.toArray⟩
    output.flush
  return plugin.mapSession ({ · with sink := .empty })

/-- Let the plugin work until the input is over. -/
partial def run (input output : IO.FS.Stream) (plugin : Plugin Bytes.Queue Config) :
    IO (Plugin Bytes.Queue Config) := do
  let plugin ← passOn output (work Sink.memory plugin)
  if plugin.isOver then return plugin
  let bytes ← input.read (USize.ofNat plugin.session.intake.chunk)
  run input output <| plugin.mapSession fun session =>
    if bytes.isEmpty then session.endInput else session.arrive (.data bytes.toList)

end Hostlink.Echo

open Hostlink in
/-- Run the echo plugin over the standard streams. -/
def main : IO UInt32 := do
  let file ← (Settings.fileName? (← IO.getEnv Settings.variableName)).mapM Echo.readFile
  match Settings.ofFile? file with
  | .error fault =>
    (← IO.getStderr).putStrLn fault.message
    return 1
  | .ok settings =>
    let plugin := Echo.start settings (← Echo.seed) Bytes.Queue.empty
    return (← Echo.run (← IO.getStdin) (← IO.getStdout) plugin).status
