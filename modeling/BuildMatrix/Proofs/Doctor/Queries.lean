import BuildMatrix.Proofs.Doctor.Coverage

namespace BuildMatrix

namespace Doctor

def drivers (c : Compiler) : List Path := [.ofString c.toolchain.cc, .ofString c.toolchain.cxx]

/-- What the doctor asks for its version if it finds it: programs that nobody configured, and the
drivers of the compilers. -/
def asked (s : Settings) (compiler : Option Compiler) : List Path :=
  [s.generatorProgram].filter (·.same (.ofString "cmake")) ++
  [s.buildTool].filter (·.same (.ofString "ninja")) ++
  (match compiler with
    | some c => drivers c
    | none => [.clang, .gcc, .emscripten].flatMap drivers) ++
  [s.harness].filter (·.same (.ofString "valgrind"))

def told (p : Probe) (found : Option Path) (answer : Option (Except String StageOutput)) : Check :=
  match found with
  | none => missing p
  | some path => present p path (answer.bind fun a ↦ a.toOption.bind versionIn)

section

variable {σ : Type} (tools : Tools σ)

def Tools.query (w : σ) (p : Probe) : Option Path :=
  if p.readVersion then tools.locate p.program w else none

def Tools.answer (w : σ) (p : Probe) : Option (Except String StageOutput) :=
  (tools.query w p).map fun path ↦ (tools.execute ⟨path, ["--version"], none⟩ w).1

def Tools.answers (ps : List Probe) (w : σ) : List (Option (Except String StageOutput)) :=
  (visits tools ps w).map fun v ↦ tools.answer v.2 v.1

variable {tools}

variable (s : Settings) (compiler : Option Compiler) (variant : Option Variant)

end

section

variable {σ τ : Type} {tools : Tools σ} {tools' : Tools τ} {s : Settings}
  {compiler : Option Compiler} {variant : Option Variant} {world : σ} {world' : τ}

end

end Doctor

namespace Settings

end Settings

namespace Doctor

end Doctor

end BuildMatrix
