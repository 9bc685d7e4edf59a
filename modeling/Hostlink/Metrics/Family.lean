/-!
Families of series: values that are kept apart by their labels. The order in which labels are given
does not matter.
-/

namespace Hostlink

/-- Labels: names with values. -/
abbrev Labels := List (String × String)

namespace Labels

/-- Whether a label comes before another one, or is the same: by name, then by value. -/
def le (a b : String × String) : Bool :=
  if a.1 == b.1 then a.2 ≤ b.2 else a.1 ≤ b.1

/-- Labels in order. -/
def sorted (labels : Labels) : Labels :=
  labels.mergeSort le

end Labels

namespace Metrics

/-- A value for each set of labels that was used. -/
structure Family (α : Type) where
  series : List (Labels × α) := []
deriving Repr, Inhabited

namespace Family

variable {α : Type}

/-- Change the value of sorted labels, or start one. -/
def updateSeries (labels : Labels) (start : α) (change : α → α) :
    List (Labels × α) → List (Labels × α)
  | [] => [(labels, change start)]
  | (key, value) :: rest =>
    if key = labels then (key, change value) :: rest
    else (key, value) :: updateSeries labels start change rest

/-- Change the value of some labels, which is `start` when they are new. -/
def update (family : Family α) (labels : Labels) (start : α) (change : α → α) : Family α :=
  ⟨updateSeries labels.sorted start change family.series⟩

/-- The value of some labels, if they were used. -/
def get? (family : Family α) (labels : Labels) : Option α :=
  family.series.lookup labels.sorted

end Family

/-- Counters, which wrap around at `2 ^ 64`. -/
abbrev Counter := Family UInt64

namespace Counter

/-- Count so many more. -/
def add (counter : Counter) (labels : Labels) (n : UInt64) : Counter :=
  counter.update labels 0 (· + n)

/-- Count one more. -/
def increment (counter : Counter) (labels : Labels) : Counter :=
  counter.add labels 1

/-- The count for some labels. -/
def get (counter : Counter) (labels : Labels) : UInt64 :=
  (counter.get? labels).getD 0

/-- The sum over all labels. -/
def total (counter : Counter) : UInt64 :=
  counter.series.foldl (fun sum s => sum + s.2) 0

end Counter

/-- The bounds of the buckets of a histogram, in microseconds. -/
def bounds : List Nat :=
  [100, 500, 1000, 5000, 10000, 50000, 100000, 500000, 1000000]

/-- How many durations were seen, their sum, and for each bound how many did not exceed it. -/
structure Distribution where
  count : UInt64 := 0
  sum : UInt64 := 0
  buckets : List UInt64 := bounds.map fun _ => 0
deriving Repr, DecidableEq, Inhabited

/-- Take a duration in microseconds in. -/
def Distribution.observe (d : Distribution) (micros : Nat) : Distribution :=
  let micros := min micros (UInt64.size - 1)
  { count := d.count + 1
    sum := d.sum + UInt64.ofNat micros
    buckets := List.zipWith (fun bound n => if micros ≤ bound then n + 1 else n) bounds d.buckets }

/-- Durations in microseconds. -/
abbrev Histogram := Family Distribution

namespace Histogram

/-- Take a duration in microseconds in. -/
def observe (histogram : Histogram) (labels : Labels) (micros : Nat) : Histogram :=
  histogram.update labels {} (·.observe micros)

/-- The number of durations that were seen for some labels. -/
def count (histogram : Histogram) (labels : Labels) : UInt64 :=
  ((histogram.get? labels).map (·.count)).getD 0

end Histogram

end Metrics
end Hostlink
