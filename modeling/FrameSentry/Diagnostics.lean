import FrameSentry.Capture.Queue
import FrameSentry.Frame.Verdict
import FrameSentry.Metrics

/-! Diagnostics: what the hooks report about each frame, and where the reports go. A sink records them as
    they are, tells them as log entries and metrics, or is silent; none of them changes what the hooks do. -/

namespace FrameSentry

/-- One report. -/
inductive Diagnostic where
  | unclassified (classification : Classification) (length : UInt32)
  | noMatch (frame : ClassifiedFrame)
  | matched (frame : ClassifiedFrame) (length : UInt32)
  | verdict (verdict : Verdict)
  | captured (length : UInt32) (captured : Nat)
  | captureFailed (cause : CaptureError)
  | malformedSample (length : Nat)
deriving DecidableEq, Repr

/-- Where reports go. -/
inductive Sink where
  | recording
  | telling
  | silent
deriving DecidableEq, Repr

/-- The result label of a capture that fails. -/
def CaptureError.label : CaptureError → String
  | .bufferFull _ _ => "buffer_full"
  | .copyFailure _ _ => "copy_failed"
  | .closed => "closed"

/-- The fields that name a frame's protocol, addresses and ports. -/
def ClassifiedFrame.fields (f : ClassifiedFrame) : List (String × FieldValue) :=
  [("protocol", .text f.protocol.name), ("src_addr", .text f.source.text), ("dst_addr", .text f.destination.text),
    ("src_port", .number f.sourcePort.toNat), ("dst_port", .number f.destinationPort.toNat)]

namespace Telemetry

/-- One more frame with an outcome. -/
def countFrame (t : Telemetry) (outcome : String) : Telemetry :=
  t.count Metrics.framesTotal [(Metrics.outcomeLabel, outcome)]

/-- One more attempt to capture, with a result. -/
def countCapture (t : Telemetry) (result : String) : Telemetry :=
  t.count Metrics.capturesTotal [(Metrics.resultLabel, result)]

/-- Tells a report as a log entry, a metric, or both. -/
def tell (t : Telemetry) : Diagnostic → Telemetry
  | .unclassified classification length =>
    (t.log .diagnostics .debug "frame not classified"
      [("outcome", .text classification.name), ("length", .number length.toNat)]).countFrame classification.name
  | .noMatch frame =>
    (t.log .diagnostics .trace "frame did not match watched ports"
      [("protocol", .text frame.protocol.name), ("src_port", .number frame.sourcePort.toNat),
        ("dst_port", .number frame.destinationPort.toNat)]).countFrame "no_match"
  | .matched frame length =>
    (t.log .diagnostics .info "watched port matched"
      (frame.fields ++ [("length", .number length.toNat)])).countFrame "matched"
  | .verdict verdict => t.count Metrics.verdictsTotal [(Metrics.verdictLabel, verdict.name)]
  | .captured length captured =>
    (t.log .diagnostics .trace "frame captured"
      [("length", .number length.toNat), ("captured", .number captured)]).countCapture "captured"
  | .captureFailed cause =>
    (t.log .diagnostics .warn "capture dropped" [("error", .text cause.message)]).countCapture cause.label
  | .malformedSample length =>
    (t.log .diagnostics .warn "ring buffer sample shorter than record header"
      [("sample_len", .number length)]).count Metrics.kernelMalformedSamplesTotal []

end Telemetry
end FrameSentry
