namespace BuildMatrix.FileTree

inductive Refusal where
  | notFound
  | noDevice
  | badFormat
  | denied
  | occupied
  | notDirectory
  | isDirectory
  | nameTooLong
  | tooManyLinks
  | zeroByte
  | zeroByteGiven
  | notText
  | noAncestor
  deriving DecidableEq, Inhabited

namespace Refusal

def reason : Refusal → String
  | notFound => "No such file or directory"
  | noDevice => "No such device or address"
  | badFormat => "Exec format error"
  | denied => "Permission denied"
  | occupied => "File exists"
  | notDirectory => "Not a directory"
  | isDirectory => "Is a directory"
  | nameTooLong => "File name too long"
  | tooManyLinks => "Too many levels of symbolic links"
  | zeroByte => "file name contained an unexpected NUL byte"
  | zeroByteGiven => "nul byte found in provided data"
  | notText => "stream did not contain valid UTF-8"
  | noAncestor => "failed to create whole tree"

def number? : Refusal → Option Nat
  | notFound => some 2
  | noDevice => some 6
  | badFormat => some 8
  | denied => some 13
  | occupied => some 17
  | notDirectory => some 20
  | isDirectory => some 21
  | nameTooLong => some 36
  | tooManyLinks => some 40
  | zeroByte | zeroByteGiven | notText | noAncestor => none

def message (r : Refusal) : String :=
  match r.number? with
  | some n => r.reason ++ " (os error " ++ toString n ++ ")"
  | none => r.reason

end Refusal

end BuildMatrix.FileTree
