import Hostlink.Metrics.Family
/-!
The metrics of a plugin and their text: one line for each sample, with a line in front of each
family that tells its type.
-/

namespace Hostlink

/-- The metrics of a plugin. -/
structure Metrics where
  /-- Frames that were read, by kind. -/
  framesIn : Metrics.Counter := {}
  /-- Frames that were written, by kind. -/
  framesOut : Metrics.Counter := {}
  malformedFrames : Metrics.Counter := {}
  /-- Faults of the outgoing side, by operation. -/
  sinkErrors : Metrics.Counter := {}
  unroutable : Metrics.Counter := {}
  /-- Requests that were settled by an error or a panic, by reason. -/
  handlerFailures : Metrics.Counter := {}
  /-- The time that requests took, by outcome. -/
  dispatchDuration : Metrics.Histogram := {}
  /-- Responses that nobody waited for. -/
  orphanResponses : Metrics.Counter := {}
deriving Repr, Inhabited

namespace Metrics

/-- A character of the value of a label. -/
def escapeChar : Char → List Char
  | '\\' => ['\\', '\\']
  | '"' => ['\\', '"']
  | '\n' => ['\\', 'n']
  | c => [c]

/-- The text of a label. -/
def labelText (label : String × String) : String :=
  label.1 ++ "=\"" ++ String.ofList (label.2.toList.flatMap escapeChar) ++ "\""

/-- The text of labels, without the braces around them. -/
def labelsText (labels : Labels) : String :=
  ",".intercalate (labels.map labelText)

/-- The line of a sample; without labels it has no braces. -/
def sampleLine (name labels : String) (value : UInt64) : String :=
  (if labels.isEmpty then name else name ++ "\x7b" ++ labels ++ "\x7d") ++ " " ++ toString value

/-- The lines of a counter. -/
def counterLines (name : String) (labels : Labels) (value : UInt64) : List String :=
  [sampleLine name (labelsText labels) value]

/-- The lines of a distribution: its buckets, all of it as one more bucket, sum and count. -/
def distributionLines (name : String) (labels : Labels) (d : Distribution) : List String :=
  let labels := labelsText labels
  let bucket (bound : String) (n : UInt64) : String :=
    let before := if labels.isEmpty then "" else labels ++ ","
    sampleLine (name ++ "_bucket") (before ++ "le=\"" ++ bound ++ "\"") n
  List.zipWith (fun (bound : Nat) n => bucket (toString bound) n) bounds d.buckets ++
    [bucket "+Inf" d.count, sampleLine (name ++ "_sum") labels d.sum,
      sampleLine (name ++ "_count") labels d.count]

/-- Whether some lines come before others in order, or are the same. -/
def comesFirst (a b : List String) : Bool :=
  "\n".intercalate a ≤ "\n".intercalate b

/-- The lines of a family, its series in the order of their lines. -/
def familyLines {α : Type} (kind name : String) (lines : String → Labels → α → List String)
    (family : Family α) : List String :=
  let series := family.series.map fun (labels, value) => lines name labels value
  ("# TYPE " ++ name ++ " " ++ kind) :: (series.mergeSort comesFirst).flatten

/-- The lines of all metrics, and of further samples without labels. -/
def lines (m : Metrics) (extra : List (String × UInt64)) : List String :=
  let counter (name : String) (c : Counter) : List String :=
    familyLines "counter" ("plugwire_" ++ name ++ "_total") counterLines c
  counter "frames_in" m.framesIn ++ counter "frames_out" m.framesOut ++
    counter "malformed_frames" m.malformedFrames ++ counter "sink_errors" m.sinkErrors ++
    counter "unroutable" m.unroutable ++ counter "handler_failures" m.handlerFailures ++
    familyLines "histogram" "plugwire_dispatch_duration_micros" distributionLines
      m.dispatchDuration ++
    counter "orphan_responses" m.orphanResponses ++
    extra.map fun (name, value) => sampleLine name "" value

/-- The text of all metrics, each line with its end. -/
def text (m : Metrics) (extra : List (String × UInt64)) : String :=
  String.join ((m.lines extra).map (· ++ "\n"))

end Metrics
end Hostlink
