namespace BuildMatrix

inductive Compiler where
  | clang
  | gcc
  | emscripten
  deriving DecidableEq, Inhabited, Repr

structure Toolchain where
  cc : String
  cxx : String
  definitions : List String
  deriving DecidableEq, Inhabited

namespace Compiler

def all : List Compiler := [clang, gcc, emscripten]

def name : Compiler → String
  | clang => "clang"
  | gcc => "gcc"
  | emscripten => "emscripten"

def toolchain : Compiler → Toolchain
  | clang => ⟨"clang", "clang++", []⟩
  | gcc => ⟨"gcc", "g++", []⟩
  | emscripten => ⟨"emcc", "em++", ["-DPSP_WASM_BUILD"]⟩

def isNative : Compiler → Bool
  | emscripten => false
  | _ => true

end Compiler

end BuildMatrix
