namespace BuildMatrix

structure Output where
  stdout : String := ""
  stderr : String := ""
  deriving DecidableEq, Inhabited

namespace Output

def out (s : String) : Output where
  stdout := s

def err (s : String) : Output where
  stderr := s

instance : Append Output := ⟨fun a b ↦ ⟨a.stdout ++ b.stdout, a.stderr ++ b.stderr⟩⟩

def join (parts : List Output) : Output := parts.foldr (· ++ ·) {}

end Output

end BuildMatrix
