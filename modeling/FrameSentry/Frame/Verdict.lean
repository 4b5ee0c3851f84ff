import FrameSentry.Frame.Classification

/-! The decision on a frame. The allow list holds ports: a classified frame that comes from or goes to one
    of them matches, and only a matching frame is accepted. -/

namespace FrameSentry

/-- What becomes of a frame that is judged. -/
inductive Verdict where
  | accept
  | reject
deriving DecidableEq, Repr

namespace Verdict

def name : Verdict → String
  | .accept => "accept"
  | .reject => "reject"

/-- What a socket filter returns: all of the frame, or nothing of it. -/
def filterCode : Verdict → Int
  | .accept => -1
  | .reject => 0

end Verdict

/-- A frame matches a list of ports if its source port or its destination port is on it. -/
def ClassifiedFrame.matchesPorts (frame : ClassifiedFrame) (ports : List UInt16) : Bool :=
  ports.contains frame.sourcePort || ports.contains frame.destinationPort

namespace Classification

/-- The frame, if it is classified and matches. -/
def matched? (c : Classification) (ports : List UInt16) : Option ClassifiedFrame :=
  c.frame?.filter fun frame => frame.matchesPorts ports

/-- Only a frame that matches is accepted. -/
def enforce (c : Classification) (ports : List UInt16) : Verdict :=
  if (c.matched? ports).isSome then .accept else .reject

end Classification
end FrameSentry
