namespace BuildMatrix

inductive Variant where
  | release
  | debug
  | asan
  | msan
  | tsan
  | valgrind
  | valgrindDbg
  deriving DecidableEq, Inhabited, Repr

inductive Optimization where
  | release
  | debug
  deriving DecidableEq, Inhabited

def Optimization.name : Optimization → String
  | release => "Release"
  | debug => "Debug"

structure Profile where
  optimization : Optimization
  flags : String
  deriving DecidableEq, Inhabited

namespace Variant

def all : List Variant := [release, debug, asan, msan, tsan, valgrind, valgrindDbg]

def name : Variant → String
  | release => "Release"
  | debug => "Debug"
  | asan => "Asan"
  | msan => "Msan"
  | tsan => "Tsan"
  | valgrind => "Valgrind"
  | valgrindDbg => "ValgrindDbg"

def slug : Variant → String
  | release => "release"
  | debug => "debug"
  | asan => "asan"
  | msan => "msan"
  | tsan => "tsan"
  | valgrind => "valgrind"
  | valgrindDbg => "valgrind_dbg"

def profile : Variant → Profile
  | release => ⟨.release, "-O3"⟩
  | debug => ⟨.debug, "-ggdb3"⟩
  | asan => ⟨.release, "-O1 -g -fsanitize=address -fno-omit-frame-pointer"⟩
  | msan => ⟨.release, "-fsanitize=memory -fno-omit-frame-pointer -g -O2"⟩
  | tsan => ⟨.release, "-fsanitize=thread -g -O1"⟩
  | valgrind => ⟨.release, ""⟩
  | valgrindDbg => ⟨.debug, ""⟩

def needsMemcheck : Variant → Bool
  | valgrind | valgrindDbg => true
  | _ => false

end Variant

end BuildMatrix
