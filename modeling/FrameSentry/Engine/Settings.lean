import FrameSentry.Config.Basic
import FrameSentry.Kernel.Ring
import FrameSentry.WatchList

/-! What the engine is set to: its part of the configuration and the port rules. The ports to watch are those
    of the configuration together with those of every rule. From the settings follow the sizes of the two
    kernel maps that are not fixed. -/

namespace FrameSentry

/-- How the engine works: it captures matching frames beside the traffic, or lets only them through. -/
inductive Mode where
  | capture
  | enforce
deriving DecidableEq, Repr

namespace Mode

def text : Mode → String
  | .capture => "capture"
  | .enforce => "enforce"

/-- The mode that a text writes. -/
def parse? (s : String) : Option Mode :=
  if s = "capture" then some .capture else if s = "enforce" then some .enforce else none

/-- The mode that a configuration names. -/
def ofConfig (s : String) : Except Error Mode :=
  match parse? s with
  | some mode => .ok mode
  | none => .error (.invalidValue "engine.mode" s!"unknown mode '{s}', expected capture or enforce")

end Mode

/-- Ports to watch, under a name. -/
structure PortRule where
  id : String
  ports : List UInt16
  description : String
deriving DecidableEq, Repr

/-- What the engine is set to. -/
structure EngineSettings where
  base : EngineSection
  filter : FilterConfig
  capture : CaptureConfig
  rules : List PortRule
deriving DecidableEq, Repr

namespace EngineSettings

/-- The engine's part of a configuration, without rules. -/
def ofConfig (c : Config) : EngineSettings := ⟨c.engine, c.filter, c.capture, []⟩

/-- Adds a rule at the end; it takes the place of the rule of the same name. -/
def addRule (s : EngineSettings) (rule : PortRule) : EngineSettings :=
  { s with rules := s.rules.filter (fun r => r.id != rule.id) ++ [rule] }

/-- Rules change nothing of the capture. -/
theorem addRule_capture (s : EngineSettings) (rules : List PortRule) :
    (rules.foldl addRule s).capture = s.capture := by
  induction rules generalizing s with
  | nil => rfl
  | cons rule rest ih => exact ih _

/-- Removes the rule of a name, and says whether there was one. -/
def removeRule (s : EngineSettings) (id : String) : Bool × EngineSettings :=
  (s.rules.any fun r => r.id == id, { s with rules := s.rules.filter fun r => r.id != id })

def mode (s : EngineSettings) : Except Error Mode := Mode.ofConfig s.base.mode

/-- Every port that is to be watched, as it is configured. -/
def ports (s : EngineSettings) : List UInt16 := s.filter.ports ++ s.rules.flatMap (·.ports)

/-- The watch list. Refused if it has more ports than the configuration allows. -/
def watchList (s : EngineSettings) : Except Error WatchList := do
  let w ← WatchList.ofPorts s.ports
  if s.base.watchListLimit < w.size then
    .error (.invalidValue "filter.ports"
      s!"{w.size} watched ports exceed watch_list_max_entries ({s.base.watchListLimit})")
  else .ok w

/-- The first number that is too large for the size of a kernel map. -/
def mapSizeLimit : Nat := 1 <<< 32

/-- The size of the kernel's map of watched ports. -/
def watchMapSize (s : EngineSettings) : Except Error Nat :=
  if 0 < s.base.watchListLimit && s.base.watchListLimit < mapSizeLimit then .ok s.base.watchListLimit
  else .error (.attach (.map s!"watch_list_max_entries {s.base.watchListLimit} does not fit a kernel map"))

/-- The least power of two from `2 ^ k` on, among the next `fuel` of them, that is not below `n`. -/
def powerOfTwoFrom (n : Nat) : (fuel k : Nat) → Option Nat
  | 0, _ => none
  | fuel + 1, k => if n ≤ 1 <<< k then some (1 <<< k) else powerOfTwoFrom n fuel (k + 1)

theorem powerOfTwoFrom_some {n fuel k p : Nat} (h : powerOfTwoFrom n fuel k = some p) :
    n ≤ p ∧ ∃ j, p = 1 <<< j := by
  induction fuel generalizing k with
  | zero => cases h
  | succ fuel ih =>
    unfold powerOfTwoFrom at h
    split at h
    · cases h
      exact ⟨by assumption, k, rfl⟩
    · exact ih h

/-- The size of the kernel's ring: the least power of two that is no less than what is configured, than a
    page, and than one record. -/
def ringSize (s : EngineSettings) (pageSize : Nat) : Except Error Nat :=
  let need := max (max s.capture.ringBufferSize (max pageSize 1)) (Record.size + Ring.headerSize)
  match powerOfTwoFrom need 32 0 with
  | some n => .ok n
  | none =>
    .error (.attach (.map s!"ring_buffer_size {s.capture.ringBufferSize} does not fit a kernel ring buffer"))

/-- Every ring has room for a whole record. -/
theorem ringSize_room {s : EngineSettings} {pageSize n : Nat} (h : s.ringSize pageSize = .ok n) :
    Ring.cost Record.size < n := by
  unfold ringSize at h
  simp only at h
  split at h <;> cases h
  rename_i hp
  obtain ⟨hn, j, rfl⟩ := powerOfTwoFrom_some hp
  rw [Nat.one_shiftLeft] at hn ⊢
  have hrecord : Record.size + Ring.headerSize ≤ 2 ^ j := Nat.le_trans (Nat.le_max_right _ _) hn
  have hj : 16 < j := Nat.lt_of_not_le fun hj => by
    have := Nat.pow_le_pow_right (n := 2) (by decide) hj
    simp only [Record.size, Record.headerSize, Record.captureLimit, Ring.headerSize] at hrecord
    omega
  have := Nat.pow_le_pow_right (n := 2) (by decide) (Nat.succ_le_of_lt hj)
  exact Nat.lt_of_lt_of_le (by decide) this

/-- The most bytes of a frame that are captured. -/
def maxCapture (s : EngineSettings) : Nat := Record.clampCapture s.capture.maxCapture

end EngineSettings
end FrameSentry
