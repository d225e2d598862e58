import BuildMatrix.CommandLine.Commands

namespace BuildMatrix.CommandLine

structure Performance (σ : Type) where
  code : Int
  output : Output
  world : σ

namespace Session

variable {σ : Type} (s : Session)

def asked : Request := s.request (s.invocation.has "dry-run")

def preamble : Output := s.log (s.asked.resolveLines s.machine.place)

/-- Carries out a run on any host, where `run` does so on the machine itself. -/
def runOn (host : Pipeline.Host σ) (world : σ) : Performance σ :=
  match s.asked.resolve s.machine.place with
  | .error e => ⟨e.exitCode, s.preamble ++ s.reportError e, world⟩
  | .ok ctx =>
    let ended := Pipeline.run host s.asked.dryRun ctx world
    let shown := Output.join (ended.entries.map (s.renderEntry s.asked.dryRun))
    let after := s.renderOutcome ended.report (elapsed ended.events)
    ⟨ended.report.exitCode, s.preamble ++ s.log [s.asked.startLine ctx] ++ shown ++ after,
      ended.world⟩

theorem run_eq_runOn : s.run =
    let p := s.runOn Machine.host s.machine
    ⟨p.code, p.output, p.world⟩ := by
  unfold run runOn preamble asked
  simp only
  cases (s.request (s.invocation.has "dry-run")).resolve s.machine.place <;> rfl

variable {s} {host : Pipeline.Host σ} {world : σ}

theorem runOn_of_error {e : Error} (h : s.asked.resolve s.machine.place = .error e) :
    s.runOn host world = ⟨e.exitCode, s.preamble ++ s.reportError e, world⟩ := by
  rw [runOn, h]

theorem runOn_of_ok {ctx : Context} (h : s.asked.resolve s.machine.place = .ok ctx) :
    let ended := Pipeline.run host s.asked.dryRun ctx world
    s.runOn host world = ⟨ended.report.exitCode,
      s.preamble ++ s.log [s.asked.startLine ctx] ++
        Output.join (ended.entries.map (s.renderEntry s.asked.dryRun)) ++
        s.renderOutcome ended.report (elapsed ended.events), ended.world⟩ := by
  intro ended
  rw [runOn, h]

end Session

end BuildMatrix.CommandLine
