import Hostlink.Frame
import Hostlink.Metrics.Registry
/-!
The outgoing side: envelopes become frames, and frames are written to a sink in segments. A sink may
take less than it is given, and may fail at any time.
-/

namespace Hostlink

/-- A sink of bytes, by what it does in each of its states. -/
structure Sink (σ : Type) where
  /-- Take bytes; tells how many of them, from the first on, were taken. -/
  write : Bytes → σ → Except String Nat × σ
  flush : σ → Except String Unit × σ
  close : σ → Except String Unit × σ

namespace Sink

variable {σ : Type}

/-- Write bytes until all are taken. A sink that takes none has failed. -/
def writeAll (sink : Sink σ) (bytes : Bytes) (s : σ) : Except String Unit × σ :=
  match bytes with
  | [] => (.ok (), s)
  | b :: rest =>
    match sink.write (b :: rest) s with
    | (.error reason, s) => (.error reason, s)
    | (.ok 0, s) => (.error "write zero", s)
    | (.ok (n + 1), s) => writeAll sink (rest.drop n) s
termination_by bytes.length
decreasing_by simp only [List.length_cons, List.length_drop]; omega

/-- Write segments in order, up to the first failure. -/
def writeSegments (sink : Sink σ) : List Bytes → σ → Except String Unit × σ
  | [], s => (.ok (), s)
  | segment :: rest, s =>
    match sink.writeAll segment s with
    | (.error reason, s) => (.error reason, s)
    | (.ok (), s) => writeSegments sink rest s

/-- A sink that keeps what is written, and never fails. -/
def memory : Sink Bytes.Queue where
  write bytes kept := (.ok bytes.length, kept.push bytes)
  flush kept := (.ok (), kept)
  close kept := (.ok (), kept)

end Sink

namespace Metrics

/-- Count an envelope that was written. -/
def countOut {π : Type} (m : Metrics) (envelope : Envelope π) : Metrics :=
  { m with framesOut := m.framesOut.increment [("kind", envelope.kind)] }

/-- Count a failure of an operation on the sink. -/
def countSinkError (m : Metrics) (operation : String) : Metrics :=
  { m with sinkErrors := m.sinkErrors.increment [("op", operation)] }

end Metrics

/-- How envelopes are written. -/
structure Outlet where
  /-- The greatest length of a body. -/
  limit : Option Nat := none
  /-- The length of a segment. -/
  segment : Nat := Frame.segmentLength
deriving Repr, DecidableEq, Inhabited

namespace Outlet

variable {σ π : Type}

/-- The length of a segment as it counts: at least one. -/
def segmentLength (outlet : Outlet) : Nat :=
  max outlet.segment 1

/-- An operation on the sink failed, for a reason. -/
def sinkFault (operation reason : String) : Fault :=
  .sinkUnavailable (operation ++ " failed: " ++ reason)

/-- Write a frame in segments and flush the sink. An envelope without a frame changes nothing. -/
def send [Json.Encode π] (outlet : Outlet) (sink : Sink σ) (envelope : Envelope π)
    (m : Metrics) (s : σ) : Except Fault Unit × Metrics × σ :=
  match Frame.encode outlet.limit envelope with
  | .error fault => (.error fault, m, s)
  | .ok frame =>
    match sink.writeSegments (frame.segments outlet.segment) s with
    | (.error reason, s) => (.error (sinkFault "write" reason), m.countSinkError "write", s)
    | (.ok (), s) =>
      match sink.flush s with
      | (.error reason, s) => (.error (sinkFault "flush" reason), m.countSinkError "flush", s)
      | (.ok (), s) => (.ok (), m.countOut envelope, s)

/-- Write envelopes in order. One that cannot be written does not stop the others. -/
def sendAll [Json.Encode π] (outlet : Outlet) (sink : Sink σ) :
    List (Envelope π) → Metrics → σ → Metrics × σ
  | [], m, s => (m, s)
  | envelope :: rest, m, s =>
    let (_, m, s) := outlet.send sink envelope m s
    sendAll outlet sink rest m s

/-- Close the sink. -/
def close (sink : Sink σ) (m : Metrics) (s : σ) : Except Fault Unit × Metrics × σ :=
  match sink.close s with
  | (.error reason, s) => (.error (sinkFault "shutdown" reason), m.countSinkError "shutdown", s)
  | (.ok (), s) => (.ok (), m, s)

end Outlet
end Hostlink
