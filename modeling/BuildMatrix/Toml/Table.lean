import BuildMatrix.Toml.Value

namespace BuildMatrix.Toml

/-- Sets the value of a key in its place, or at the end if it is new. -/
def put (key : String) (v : Value) : List (String × Value) → List (String × Value)
  | [] => [(key, v)]
  | (k, w) :: rest => if k = key then (k, v) :: rest else (k, w) :: put key v rest

def onTable (f : Origin → List (String × Value) → Option Value) : Value → Option Value
  | .table origin entries => f origin entries
  | .tables items =>
    match items.getLast? with
    | some (.table origin entries) =>
      (f origin entries).map fun v ↦ .tables (items.dropLast ++ [v])
    | _ => none
  | _ => none

/-- Whether keys may lead through a value that is there already; dotted keys do not lead into a
table that a header opened. -/
def leadsThrough (step : Origin) : Value → Bool
  | .table .braces _ => false
  | .table .header _ => step ≠ .dotted
  | .table _ _ | .tables _ => true
  | _ => false

/-- Changes the value that a path of keys leads to. Tables that are missing on the way are made,
with the origin `step`. -/
def descend (step : Origin) (f : Value → Option Value) : List String → Value → Option Value
  | [], v => f v
  | key :: path, v =>
    v |> onTable fun origin entries ↦
      match entries.lookup key with
      | none => do
        let sub ← descend step f path (.table step [])
        return .table origin (put key sub entries)
      | some sub =>
        if leadsThrough step sub then do
          let sub ← descend step f path sub
          return .table origin (put key sub entries)
        else none

/-- Adds an entry that no other has the key of. Below a dotted key only tables that dotted keys made
can take it. -/
def addEntry (dotted : Bool) (key : String) (v : Value) : Value → Option Value :=
  onTable fun origin entries ↦
    if (origin == .dotted) != dotted || (entries.lookup key).isSome then none
    else some (.table origin (entries ++ [(key, v)]))

def setKey (path : List String) (v : Value) (t : Value) : Option Value :=
  match path.getLast? with
  | none => none
  | some key => descend .dotted (addEntry (path.length ≠ 1) key v) path.dropLast t

/-- Opens the table of a header, which is new or was implied by longer headers only; it then moves
to the end. -/
def openTable (key : String) : Value → Option Value :=
  onTable fun origin entries ↦
    match entries.lookup key with
    | none => some (.table origin (entries ++ [(key, .table .header [])]))
    | some (.table .implied inner) =>
      some (.table origin (entries.filter (·.1 ≠ key) ++ [(key, .table .header inner)]))
    | some _ => none

def appendTable (key : String) : Value → Option Value :=
  onTable fun origin entries ↦
    match entries.lookup key with
    | none => some (.table origin (entries ++ [(key, .tables [.table .header []])]))
    | some (.tables items) =>
      some (.table origin (put key (.tables (items ++ [.table .header []])) entries))
    | some _ => none

def addHeader (double : Bool) (path : List String) (root : Value) : Option Value :=
  match path.getLast? with
  | none => none
  | some key =>
    descend .implied (if double then appendTable key else openTable key) path.dropLast root

def addUnder (header path : List String) (v : Value) (root : Value) : Option Value :=
  descend .implied (setKey path v) header root

end BuildMatrix.Toml
