import BuildMatrix.Proofs.Config.Layering
import BuildMatrix.Proofs.Pipeline.ExitStatus

namespace BuildMatrix

/-- An error of the configuration, or one of a file. -/
def Error.IsEarly (e : Error) : Prop := e.isConfiguration = true ∨ ∃ p m, e = .io p m

theorem Error.IsEarly.exitCode {e : Error} (h : e.IsEarly) : e.exitCode = 1 ∨ e.exitCode = 2 := by
  rcases h with h | ⟨p, m, rfl⟩
  · right
    cases e <;> simp_all [isConfiguration, Error.exitCode, configurationCode]
  · exact .inl rfl

def FailsEarly {α : Type} (x : Except Error α) : Prop := ∀ e, x = .error e → e.IsEarly

namespace FailsEarly

variable {α β : Type} {x : Except Error α}

theorem ok (a : α) : FailsEarly (.ok a : Except Error α) := by
  intro e h
  simp at h

theorem error {e : Error} (he : e.IsEarly) : FailsEarly (.error e : Except Error α) := by
  intro e' h
  rwa [← Except.error.inj h]

theorem bind {f : α → Except Error β} (hx : FailsEarly x) (hf : ∀ a, FailsEarly (f a)) :
    FailsEarly (x >>= f) := by
  cases x with
  | error e => exact .error (hx e rfl)
  | ok a => exact hf a

theorem load (w : Place) (p : Path) : FailsEarly (Config.load w p) := by
  unfold Config.load
  split
  · exact .error (.inr ⟨p, _, rfl⟩)
  · split
    · exact .ok _
    · exact .error (.inl rfl)

theorem loadIfExists (w : Place) (p : Path) : FailsEarly (Config.loadIfExists w p) := by
  unfold Config.loadIfExists
  split
  · exact load w p
  · exact .ok _

theorem loadLayers (w : Place) (user : Option Path) (root : Path) :
    FailsEarly (Config.loadLayers w user root) := by
  have hproject (lower : Config) :
      FailsEarly (do return lower.merge (← Config.loadIfExists w (Config.projectPath root))) :=
    (loadIfExists w _).bind fun upper ↦ .ok _
  cases user with
  | none => exact hproject .empty
  | some p => exact (loadIfExists w p).bind hproject

theorem loadSettings (w : Place) (root : Path) (user buildRoot : Option Path) :
    FailsEarly (Request.loadSettings w root user buildRoot) := by
  refine (loadLayers w user root).bind fun c ↦ ?_
  cases buildRoot with
  | none => exact .ok _
  | some dir => exact .ok _

theorem parseCompiler (s : String) : FailsEarly (Compiler.parse s) := by
  unfold Compiler.parse
  split
  · exact .ok _
  · exact .error (.inl rfl)

theorem parseVariant (s : String) : FailsEarly (Variant.parse s) := by
  simp only [Variant.parse]
  split
  · exact .ok _
  · exact .error (.inl rfl)

theorem resolveSelectors (compiler variant : Option String) (s : Settings) :
    FailsEarly (Context.resolveSelectors compiler variant s) := by
  cases compiler with
  | none => exact .error (.inl rfl)
  | some c =>
    cases variant with
    | none => exact .error (.inl rfl)
    | some v => exact (parseCompiler c).bind fun c ↦ (parseVariant v).bind fun v ↦ .ok _

theorem resolve (r : Request) (w : Place) : FailsEarly (r.resolve w) :=
  (loadSettings w r.projectRoot r.userConfig r.buildRoot).bind
    fun s ↦ resolveSelectors r.compiler r.variant s

end FailsEarly

namespace Request

variable {σ : Type}

def exitCode (r : Request) (w : Place) (host : Pipeline.Host σ) (world : σ) : Int :=
  match r.run w host world with
  | .ok ended => ended.report.exitCode
  | .error e => e.exitCode

theorem run_eq (r : Request) (w : Place) (host : Pipeline.Host σ) (world : σ) :
    r.run w host world =
      (r.resolve w).map fun ctx ↦ Pipeline.run host r.dryRun ctx world := by
  unfold run
  cases r.resolve w <;> rfl

theorem exits (r : Request) (w : Place) (sys : Pipeline.System σ) (world : σ) :
    Main.Exits (r.exitCode w sys.host world)
      (∃ ended, r.run w sys.host world = .ok ended ∧ ended.Completed) := by
  unfold exitCode
  rw [run_eq]
  cases hr : r.resolve w with
  | error e =>
    have he : e.exitCode = 1 ∨ e.exitCode = 2 := (FailsEarly.resolve r w e hr).exitCode
    have hrange : 0 ≤ e.exitCode ∧ e.exitCode ≤ 255 := by omega
    have hne : e.exitCode ≠ 0 := by omega
    refine Main.exits_of_range hrange ?_
    simp [Except.map, hne]
  | ok ctx => simpa [Except.map] using sys.run_exits r.dryRun ctx world

end Request

def Machine.system : Pipeline.System Machine where
  ensureDirectory := makeDirectory
  spawn c m :=
    match start c m with
    | .ok left =>
      (.ok ⟨reported left.ending, left.output, left.complaints⟩, { m with tree := left.tree })
    | .error r => (.error ("failed to spawn `" ++ c.program.display ++ "`: " ++ r.message), m)
  clock := fun _ ↦ 0

theorem Machine.host_eq : host = system.host := by
  have hexecute : execute = system.host.execute := by
    funext c m
    simp only [execute, Pipeline.System.host, system]
    cases start c m <;> rfl
  unfold host
  rw [hexecute]
  rfl

namespace CommandLine

theorem Session.run_code (s : Session) :
    s.run.code = (s.request (s.invocation.has "dry-run")).exitCode s.machine.place
      Machine.system.host s.machine := by
  rw [← Machine.host_eq]
  unfold Session.run Request.exitCode
  simp only [Request.run_eq]
  cases (s.request (s.invocation.has "dry-run")).resolve s.machine.place <;> rfl

theorem perform_run (t : Setting) (i : Invocation) :
    let i := { i with subcommand := .run }
    let s := session t i
    ∃ r, perform t i = .done r ∧ r.code =
      (s.request (i.has "dry-run")).exitCode t.machine.place Machine.system.host t.machine := by
  intro i s
  exact ⟨_, rfl, Session.run_code s⟩

end CommandLine

/-- No failure becomes a success on its way out. A wait status is read as a code of one byte, which
is 0 only for a process that ended with code 0; the code of a run or of a request reaches the
parent as it is, and as 0 just if the rest was skipped or all stages ended with code 0; and that is
the code of the program. -/
theorem Request.exitCode_faithful :
    (∀ s : WaitStatus, 0 ≤ s.exitCode ∧ s.exitCode ≤ 255 ∧
      (s.exitCode = 0 ↔ s.bits.toBitVec.extractLsb' 0 7 = 0 ∧
        s.bits.toBitVec.extractLsb' 8 8 = 0)) ∧
      (∀ {σ : Type} (sys : Pipeline.System σ) (dryRun : Bool) (ctx : Context) (world : σ),
        let r := Pipeline.run sys.host dryRun ctx world
        Main.Exits r.report.exitCode r.Completed) ∧
      (∀ {σ : Type} (sys : Pipeline.System σ) (r : Request) (w : Place) (world : σ),
        Main.Exits (r.exitCode w sys.host world)
          (∃ ended, r.run w sys.host world = .ok ended ∧ ended.Completed)) ∧
      ∀ (t : CommandLine.Setting) (i : CommandLine.Invocation),
        let i := { i with subcommand := .run }
        let r := (CommandLine.session t i).request (i.has "dry-run")
        ∃ done, CommandLine.perform t i = .done done ∧
          done.code = r.exitCode t.machine.place Machine.host t.machine ∧
          Main.Exits done.code (∃ ended,
            r.run t.machine.place Machine.host t.machine = .ok ended ∧ ended.Completed) := by
  refine ⟨fun s ↦ ⟨s.exitCode_range.1, s.exitCode_range.2, s.exitCode_eq_zero_iff⟩,
    fun sys dryRun ctx world ↦ sys.run_exits dryRun ctx world,
    fun sys r w world ↦ r.exits w sys world, fun t i ↦ ?_⟩
  intro i r
  obtain ⟨done, hperform, hcode⟩ := CommandLine.perform_run t i
  rw [Machine.host_eq]
  refine ⟨done, hperform, hcode, ?_⟩
  rw [hcode]
  exact r.exits t.machine.place Machine.system t.machine

end BuildMatrix
