import BuildMatrix.Number.Power

namespace BuildMatrix

inductive Stage where
  | generate
  | build
  | test
  deriving DecidableEq, Inhabited, Repr

def Stage.name : Stage → String
  | generate => "generate"
  | build => "build"
  | test => "test"

structure StageOutput where
  code : Int
  stdout : String
  stderr : String
  deriving DecidableEq, Inhabited

namespace StageOutput

def success (o : StageOutput) : Bool := o.code == 0

def launchFailureCode : Int := 127

def silent : StageOutput := ⟨0, "", ""⟩

def ofLaunchFailure (message : String) : StageOutput := ⟨launchFailureCode, "", message⟩

end StageOutput

/-- How a process ended, as the 32 bits that the system reports. -/
structure WaitStatus where
  bits : Int32
  deriving DecidableEq, Inhabited

namespace WaitStatus

def field (s : WaitStatus) (shift size : Nat) : Nat :=
  s.bits.toUInt32.toNat / Number.twoTo shift % Number.twoTo size

def exited (code : Nat) : WaitStatus := ⟨Int32.ofNat (code % 256 * 256)⟩

def killed (signal : Nat) : WaitStatus := ⟨Int32.ofNat signal⟩

/-- The code of a process that ended, 128 more than the signal for one that was killed, and 1 for
one that has not ended. -/
def exitCode (s : WaitStatus) : Int :=
  let signal := s.field 0 7
  if signal = 0 then s.field 8 8
  else if signal = 0x7F then 1
  else 128 + signal

end WaitStatus

end BuildMatrix
