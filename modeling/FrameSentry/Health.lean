/-! Health: of one part, and of several parts together, which is that of the worst part that is enabled. -/

namespace FrameSentry

/-- Whether a part works, works with something lost, or does not work, and why. -/
inductive Health where
  | healthy
  | degraded (reason : String)
  | unhealthy (reason : String)
deriving DecidableEq, Repr

namespace Health

def isHealthy : Health → Bool
  | .healthy => true
  | _ => false

def isUnhealthy : Health → Bool
  | .unhealthy _ => true
  | _ => false

end Health

/-- The health of a named part. A part that is not enabled does not count. -/
structure PartHealth where
  name : String
  enabled : Bool
  status : Health
deriving DecidableEq, Repr

namespace PartHealth

/-- The health of the parts seen so far, without its reason, and the reasons to give. -/
structure Tally where
  worst : Health
  reasons : List String
deriving DecidableEq, Repr

/-- Takes one more part into account. What is lost in a part is told only until a part is found that does
    not work at all. -/
def Tally.add (t : Tally) (p : PartHealth) : Tally :=
  match p.status with
  | .healthy => t
  | .degraded reason =>
    if t.worst.isUnhealthy then t else ⟨.degraded "", t.reasons ++ [s!"{p.name}: {reason}"]⟩
  | .unhealthy reason => ⟨.unhealthy "", t.reasons ++ [s!"{p.name}: {reason}"]⟩

/-- The health of all parts together. -/
def aggregate (parts : List PartHealth) : Health :=
  let t := (parts.filter (·.enabled)).foldl Tally.add ⟨.healthy, []⟩
  let reason := "; ".intercalate t.reasons
  match t.worst with
  | .healthy => .healthy
  | .degraded _ => .degraded reason
  | .unhealthy _ => .unhealthy reason

end PartHealth
end FrameSentry
