namespace BuildMatrix.Text

/-- Whether `n` is in a set of numbers. Numbers fall into runs of the given lengths, which lie in
the set and outside it in turn; `inside` tells where the first of them lies. -/
def inRuns (inside : Bool) : List Nat → Nat → Bool
  | [], _ => inside
  | run :: rest, n => if n < run then inside else inRuns (!inside) rest (n - run)

end BuildMatrix.Text
