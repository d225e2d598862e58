import BuildMatrix.Script.Letters

namespace BuildMatrix.Script

/-- A variable may be known without a value. -/
structure Variable where
  value : Option Letters
  exported : Bool := false
  readOnly : Bool := false
  deriving DecidableEq, Inhabited

abbrev Variables := List (Letters × Variable)

namespace Variables

def get? (vs : Variables) (name : Letters) : Option Letters :=
  (vs.lookup name).bind (·.value)

def erase (vs : Variables) (name : Letters) : Variables := vs.filter fun e ↦ e.1 ≠ name

def put (vs : Variables) (name : Letters) (v : Variable) : Variables :=
  match vs with
  | [] => [(name, v)]
  | e :: rest => if e.1 = name then (name, v) :: rest else e :: put rest name v

def sorted (vs : Variables) : Variables :=
  vs.mergeSort fun a b ↦ !before b.1 a.1

def exported (vs : Variables) : List (Letters × Letters) :=
  vs.filterMap fun (name, v) ↦ if v.exported then v.value.map (name, ·) else none

end Variables

end BuildMatrix.Script
