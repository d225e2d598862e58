import BuildMatrix.Text.Blank
import BuildMatrix.Text.Column

namespace BuildMatrix.Log

inductive Level where
  | error
  | warn
  | info
  | debug
  | trace
  deriving DecidableEq, Inhabited

namespace Level

def name : Level → String
  | error => "ERROR"
  | warn => "WARN"
  | info => "INFO"
  | debug => "DEBUG"
  | trace => "TRACE"

def rank : Level → Nat
  | error => 1
  | warn => 2
  | info => 3
  | debug => 4
  | trace => 5

end Level

structure Line where
  level : Level
  scope : String
  message : String
  fields : List (String × String) := []
  deriving DecidableEq, Inhabited

/-- Characters that drive a terminal are named in a message instead of sent. -/
def tameChar (c : Char) : List Char :=
  let byte := "\\x".toList ++ [Nat.digitChar (c.toNat / 16), Nat.digitChar (c.toNat % 16)]
  if [0x07, 0x08, 0x0C, 0x1B, 0x7F].contains c.toNat then byte
  else if 0x80 ≤ c.toNat ∧ c.toNat ≤ 0x9F then
    "\\u".toList ++ '\x7b' :: Nat.toDigits 16 c.toNat ++ ['\x7d']
  else [c]

def tame (s : String) : String := String.ofList (s.toList.flatMap tameChar)

namespace Line

def text (l : Line) : String :=
  Text.padLeft 5 l.level.name ++ " " ++ tame l.message ++
    String.join (l.fields.map fun (key, value) ↦ " " ++ key ++ "=" ++ value) ++ "\n"

def fieldNames (l : Line) : List String := "message" :: l.fields.map Prod.fst

end Line

end BuildMatrix.Log
