import FrameSentry.Telemetry

/-! The metrics that the program keeps: their names, their labels and what they mean. -/

namespace FrameSentry.Metrics

def framesTotal : String := "portwatch_frames_total"
def verdictsTotal : String := "portwatch_verdicts_total"
def capturesTotal : String := "portwatch_captures_total"
def eventsConsumedTotal : String := "portwatch_events_consumed_total"
def kernelFramesTotal : String := "portwatch_kernel_frames_total"
def kernelMalformedSamplesTotal : String := "portwatch_kernel_malformed_samples_total"
def buildInfo : String := "portwatch_daemon_build_info"

def outcomeLabel : String := "outcome"
def verdictLabel : String := "verdict"
def resultLabel : String := "result"
def protocolLabel : String := "protocol"

/-- A metric counts, or it shows a level. -/
inductive Kind where
  | counter
  | gauge
deriving DecidableEq, Repr

/-- What a metric is. -/
structure Description where
  kind : Kind
  name : String
  meaning : String
deriving DecidableEq, Repr

/-- Every metric, in the order in which they are announced. -/
def all : List Description :=
  [⟨.counter, framesTotal, "Frames seen by userspace hooks, by classification outcome"⟩,
    ⟨.counter, verdictsTotal, "Enforcement verdicts issued, by verdict"⟩,
    ⟨.counter, capturesTotal, "Capture attempts for matching frames, by result"⟩,
    ⟨.counter, eventsConsumedTotal, "Capture events drained by the consumer, by protocol"⟩,
    ⟨.counter, kernelFramesTotal, "Kernel program counters summed over all CPUs, by outcome"⟩,
    ⟨.counter, kernelMalformedSamplesTotal, "Ring buffer samples shorter than the record header"⟩,
    ⟨.gauge, buildInfo, "Build information (always 1, with version label)"⟩]

/-- What a poll of the kernel's counters publishes: each counter, under the label of its outcome. -/
def kernelFrames (c : Counters) : List MetricUpdate :=
  Outcome.all.map fun o => ⟨kernelFramesTotal, [(outcomeLabel, o.label)], .absolute (c.get o)⟩

end FrameSentry.Metrics
