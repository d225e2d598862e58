import BuildMatrix.Proofs.CommandLine.Performance
import BuildMatrix.Proofs.Request.ExitStatus

namespace BuildMatrix

def fault? {α : Type} : Except Error α → Option Error
  | .error e => some e
  | .ok _ => none

section

variable {α β : Type}

theorem fault?_eq_some_iff {x : Except Error α} {e : Error} :
    fault? x = some e ↔ x = .error e := by
  cases x <;> simp [fault?]

/-- Where the faults of a second step do not depend on what the first one gives, the first fault
counts. -/
theorem fault?_bind {x : Except Error α} {f : α → Except Error β} {y : Option Error}
    (h : ∀ a, fault? (f a) = y) : fault? (x >>= f) = (fault? x).or y := by
  cases x with
  | error e => rfl
  | ok a => exact h a

theorem findSome?_id_cons (o : Option α) (l : List (Option α)) :
    (o :: l).findSome? id = o.or (l.findSome? id) := by
  cases o <;> rfl

theorem fault?_of_find? {l : List α} {p : α → Bool} {x : Except Error α} {e : Error}
    (hsome : ∀ a, l.find? p = some a → x = .ok a) (hnone : l.find? p = none → x = .error e) :
    fault? x = if l.any p then none else some e := by
  have hany : l.any p = (l.find? p).isSome := by
    rw [Bool.eq_iff_iff, List.any_eq_true, List.find?_isSome]
  rw [hany]
  cases hf : l.find? p with
  | none => rw [hnone hf]; rfl
  | some a => rw [hsome a hf]; rfl

end

def Config.fileFault? (w : Place) (p : Path) : Option Error :=
  if w.tree.exists? w.cwd p then
    match w.tree.readText w.cwd p with
    | .error refusal => some (.io p refusal.message)
    | .ok text =>
      match ofText text with
      | .error fault => some (.invalidConfig p fault.message)
      | .ok _ => none
  else none

theorem Config.fault?_loadIfExists (w : Place) (p : Path) :
    fault? (loadIfExists w p) = fileFault? w p := by
  unfold loadIfExists fileFault? load
  split
  case isTrue =>
    cases w.tree.readText w.cwd p with
    | error refusal => rfl
    | ok text =>
      dsimp only
      cases ofText text <;> rfl
  case isFalse => rfl

def Selector.fault? (x : Selector) (given : Option String) : Option Error :=
  if given.isNone then some (.missingSelector x) else none

def Compiler.fault? (s : String) : Option Error :=
  if all.any fun c ↦ c.name.toList = selectorKey s then none
  else some (.unknownCompiler s (all.map name))

def Variant.fault? (s : String) : Option Error :=
  let key := (selectorKey s).map dashAsUnderscore
  if all.any fun v ↦ v.slug.toList = key || Text.lower v.name.toList = key then none
  else some (.unknownVariant s (all.map name))

theorem Compiler.fault?_parse (s : String) : BuildMatrix.fault? (parse s) = fault? s :=
  fault?_of_find? (fun c h ↦ by rw [parse, h]) fun h ↦ by rw [parse, h]

theorem Variant.fault?_parse (s : String) : BuildMatrix.fault? (parse s) = fault? s :=
  fault?_of_find? (fun v h ↦ by rw [parse, h]) fun h ↦ by rw [parse, h]

namespace Request

/-- What may be wrong with a request, in the order in which it is told. -/
def faults (r : Request) (w : Place) : List (Option Error) :=
  [r.userConfig.bind (Config.fileFault? w), Config.fileFault? w (Config.projectPath r.projectRoot),
    Selector.compiler.fault? r.compiler, Selector.variant.fault? r.variant,
    r.compiler.bind Compiler.fault?, r.variant.bind Variant.fault?]

theorem fault?_loadSettings (w : Place) (root : Path) (user buildRoot : Option Path) :
    fault? (loadSettings w root user buildRoot) =
      (user.bind (Config.fileFault? w)).or (Config.fileFault? w (Config.projectPath root)) := by
  have hproject (lower : Config) :
      fault? (do return lower.merge (← Config.loadIfExists w (Config.projectPath root))) =
        Config.fileFault? w (Config.projectPath root) := by
    rw [fault?_bind (y := none) fun _ ↦ rfl, Config.fault?_loadIfExists, Option.or_none]
  have hlayers : fault? (Config.loadLayers w user root) =
      (user.bind (Config.fileFault? w)).or (Config.fileFault? w (Config.projectPath root)) := by
    cases user with
    | none => exact hproject .empty
    | some p =>
      rw [Option.bind_some, ← Config.fault?_loadIfExists w p]
      exact fault?_bind hproject
  unfold loadSettings
  rw [fault?_bind (y := none), hlayers, Option.or_none]
  intro config
  cases buildRoot <;> rfl

theorem fault?_resolveSelectors (compiler variant : Option String) (s : Settings) :
    fault? (Context.resolveSelectors compiler variant s) =
      ((Selector.compiler.fault? compiler).or (Selector.variant.fault? variant)).or
        ((compiler.bind Compiler.fault?).or (variant.bind Variant.fault?)) := by
  cases compiler with
  | none => rfl
  | some c =>
    cases variant with
    | none => rfl
    | some v =>
      have hvariant (c : Compiler) : fault? (do return Context.resolve c (← Variant.parse v) s) =
          Variant.fault? v := by
        rw [fault?_bind (y := none) fun _ ↦ rfl, Variant.fault?_parse, Option.or_none]
      simp only [Selector.fault?, Option.isNone_some, Bool.false_eq_true, if_false, Option.or_none,
        Option.none_or, Option.bind_some]
      rw [← Compiler.fault?_parse]
      exact fault?_bind hvariant

theorem fault?_resolve (r : Request) (w : Place) :
    fault? (r.resolve w) = (r.faults w).findSome? id := by
  unfold resolve
  rw [fault?_bind (fun s ↦ fault?_resolveSelectors r.compiler r.variant s), fault?_loadSettings]
  simp only [faults, findSome?_id_cons, List.findSome?_nil, Option.or_none, Option.or_assoc]

end Request

theorem Pipeline.run_failed {σ : Type} (host : Host σ) (dryRun : Bool) (ctx : Context) (w : σ)
    {e : Error} (h : (run host dryRun ctx w).report.outcome = .failed e) :
    let r := run host dryRun ctx w
    (∃ stage command output, e = .stageFailed stage command output) ∨
      ∃ reason, e = .io ctx.buildDir reason ∧ r.report.history = [.created, .failed] ∧
        r.report.commands = [] ∧ r.calls = [] := by
  intro r
  rcases hp : prepared host dryRun ctx.buildDir w with ⟨reason | ⟨⟩, w₁⟩
  · obtain ⟨hr, -, -⟩ := run_of_unprepared hp
    have hcalls : r.calls = [] := by
      rw [run_calls, attempts_of_unprepared host dryRun ctx hp]
      rfl
    obtain rfl : Error.io ctx.buildDir reason = e := by simpa [hr] using h
    exact .inr ⟨reason, rfl, congrArg Report.history hr, congrArg Report.commands hr, hcalls⟩
  · obtain ⟨hr, -, -⟩ := run_of_prepared hp
    left
    rcases walk_cases host dryRun ctx ctx.stages w₁ with hall | ⟨front, a, o, has, hfront, ha⟩
    · simp [hr, Attempt.report, Attempt.outcome_of_none hall] at h
    · obtain rfl : o = .failed e := by
        simpa [hr, Attempt.report, has, Attempt.outcome_of_last hfront ha] using h
      rcases Attempt.ending_eq_some_iff.1 ha with ⟨-, -, ho⟩ | ⟨-, -, ho⟩
      · simp at ho
      · exact ⟨a.stage, a.command.display, a.output, Outcome.failed.inj ho⟩

/-- A request is refused for the first of its faults before anything is touched, and else comes to a
run, whose failure is one of a stage or of the build directory. -/
theorem Request.run_two_phases {σ : Type} (r : Request) (w : Place) (host : Pipeline.Host σ)
    (world : σ) :
    (∀ e, r.run w host world = .error e ↔ r.resolve w = .error e) ∧
      (∀ e, r.resolve w = .error e ↔ (r.faults w).findSome? id = some e) ∧
      (∀ e, r.resolve w = .error e →
        (∀ stage command output, e ≠ .stageFailed stage command output) ∧
          ∀ s : CommandLine.Session, s.asked = r → s.machine.place = w →
            s.runOn host world = ⟨e.exitCode, s.preamble ++ s.reportError e, world⟩ ∧
              (s.runOn host.recorded (world, [])).world = (world, []) ∧
              s.run = ⟨e.exitCode, s.preamble ++ s.reportError e, s.machine⟩) ∧
      ∀ ctx, r.resolve w = .ok ctx →
        let ended := Pipeline.run host r.dryRun ctx world
        r.run w host world = .ok ended ∧
          ∀ e, ended.report.outcome = .failed e → e.isConfiguration = false ∧
            ((∃ stage command output, e = .stageFailed stage command output) ∨
              ∃ reason, e = .io ctx.buildDir reason ∧
                ended.report.history = [.created, .failed] ∧ ended.report.commands = [] ∧
                ended.calls = []) := by
  refine ⟨fun e ↦ ?_, fun e ↦ ?_, fun e he ↦ ⟨?_, ?_⟩, fun ctx hctx ↦ ?_⟩
  · rw [run_eq]
    cases r.resolve w <;> simp [Except.map]
  · rw [← fault?_resolve, fault?_eq_some_iff]
  · rintro stage command output rfl
    rcases FailsEarly.resolve r w _ he with h | ⟨p, m, h⟩
    · simp [Error.isConfiguration] at h
    · simp at h
  · rintro s rfl rfl
    refine ⟨CommandLine.Session.runOn_of_error he, ?_, ?_⟩
    · rw [CommandLine.Session.runOn_of_error he]
    · rw [CommandLine.Session.run_eq_runOn, CommandLine.Session.runOn_of_error he]
  · intro ended
    refine ⟨by rw [run_eq, hctx]; rfl, fun e he ↦ ?_⟩
    have hcases := Pipeline.run_failed host r.dryRun ctx world he
    refine ⟨?_, hcases⟩
    rcases hcases with ⟨stage, command, output, rfl⟩ | ⟨reason, rfl, -⟩ <;> rfl

end BuildMatrix
