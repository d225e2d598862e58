import BuildMatrix.Proofs.Path.Components
import BuildMatrix.Proofs.Pipeline.EventLog

namespace BuildMatrix

namespace Path

/-- A path that means the same in every directory, or a name to be searched. -/
def IsAnchored (p : Path) : Prop := p.isAbsolute = true ∨ p.components.length ≤ 1

end Path

namespace Settings

def ofFields (path : Field → Option Path) (generator : Option String) (cwd root : Path) :
    Settings :=
  let root := root.absolute cwd
  { buildRoot := root.join ((path .buildRoot).getD (.ofString "build"))
    sourceDir := ((path .sourceDir).map root.join).getD root
    generator := generator.getD "Ninja"
    generatorProgram := programPath root (path .generatorProgram) defaultGeneratorProgram
    buildTool := programPath root (path .buildTool) defaultBuildTool
    testBinary := (path .testBinary).getD (.ofString "install/psp_test")
    harness := programPath root (path .harnessProgram) defaultHarness }

theorem ofFields_eq (c : Config) (cwd root : Path) :
    c.settings cwd root = ofFields c.path? (c.get .generator) cwd root := rfl

/-- No path among the settings that a program is started with depends on a directory. -/
structure Anchored (s : Settings) : Prop where
  buildRoot : s.buildRoot.isAbsolute = true
  sourceDir : s.sourceDir.isAbsolute = true
  generatorProgram : s.generatorProgram.IsAnchored
  buildTool : s.buildTool.IsAnchored
  harness : s.harness.IsAnchored

structure Same (s t : Settings) : Prop where
  buildRoot : s.buildRoot.same t.buildRoot = true
  sourceDir : s.sourceDir.same t.sourceDir = true
  generator : s.generator = t.generator
  generatorProgram : s.generatorProgram.same t.generatorProgram = true
  buildTool : s.buildTool.same t.buildTool = true
  testBinary : s.testBinary.same t.testBinary = true
  harness : s.harness.same t.harness = true

section

variable {root root' default : Path}

theorem programPath_some (p : Path) : programPath root (some p) default =
    if p.isAbsolute = false ∧ 1 < p.components.length then root.join p else p := by
  simp [programPath]

theorem isAnchored_programPath (hroot : root.isAbsolute = true)
    (hdefault : default.components.length ≤ 1) (configured : Option Path) :
    (programPath root configured default).IsAnchored := by
  cases configured with
  | none => exact .inr hdefault
  | some p =>
    rw [programPath_some]
    split
    case isTrue =>
      left
      rw [Path.isAbsolute_join, hroot, Bool.true_or]
    case isFalse hp =>
      cases ha : p.isAbsolute with
      | true => exact .inl ha
      | false =>
        right
        exact Nat.not_lt.1 fun hlong ↦ hp ⟨ha, hlong⟩

theorem same_programPath (hroot : root.isAbsolute = true) (hroot' : root'.isAbsolute = true)
    (h : root'.same root = true) (configured : Option Path) :
    (programPath root' configured default).same (programPath root configured default) = true := by
  cases configured with
  | none => exact Path.same_iff.2 rfl
  | some p =>
    rw [programPath_some, programPath_some]
    split
    · exact Path.same_join hroot hroot' h p
    · exact Path.same_iff.2 rfl

end

variable (path : Field → Option Path) (generator : Option String) {cwd root : Path}

theorem anchored_ofFields (h : (root.absolute cwd).isAbsolute = true) :
    (ofFields path generator cwd root).Anchored where
  buildRoot := by
    rw [ofFields, Path.isAbsolute_join, h, Bool.true_or]
  sourceDir := by
    unfold ofFields
    cases path .sourceDir with
    | none => exact h
    | some dir => simp [Path.isAbsolute_join, h]
  generatorProgram := isAnchored_programPath h (by decide) _
  buildTool := isAnchored_programPath h (by decide) _
  harness := isAnchored_programPath h (by decide) _

theorem same_ofFields (h : (root.absolute cwd).isAbsolute = true) (cwd' : Path) :
    (ofFields path generator cwd' (root.absolute cwd)).Same
      (ofFields path generator cwd root) := by
  have h' : ((root.absolute cwd).absolute cwd').isAbsolute = true :=
    Path.isAbsolute_absolute (Path.bytes_ne_nil_of_isAbsolute h) (.inr h)
  have hsame := Path.same_absolute h cwd'
  exact {
    buildRoot := Path.same_join h h' hsame _
    sourceDir := by
      unfold ofFields
      cases path .sourceDir with
      | none => exact hsame
      | some dir => exact Path.same_join h h' hsame dir
    generator := rfl
    generatorProgram := same_programPath h h' hsame _
    buildTool := same_programPath h h' hsame _
    testBinary := Path.same_iff.2 rfl
    harness := same_programPath h h' hsame _ }

end Settings

namespace Context

/-- The commands of a context depend on no directory but the one that they are run in, which is a
place of its own below the parent of all builds. -/
structure Anchored (ctx : Context) : Prop where
  cwd : ∀ stage, (ctx.command stage).cwd = some ctx.buildDir
  buildDir : ctx.buildDir.isAbsolute = true
  name : ∃ name, ctx.buildDir.components = ctx.settings.buildRoot.components ++ [.name name]
  program : ∀ stage, (ctx.command stage).program.IsAnchored
  source : ∃ arg, ctx.configureCommand.args.getLast? = some arg ∧
    (Path.ofString arg).isAbsolute = true
  binary : ctx.testBinary.isAbsolute = true
  test : if ctx.variant.needsMemcheck then
      ctx.testCommand.args.getLast? = some ctx.testBinary.display ∧
        (Path.ofString ctx.testBinary.display).isAbsolute = true
    else ctx.testCommand.program = ctx.testBinary

theorem body_buildDirName (c : Compiler) (v : Variant) :
    (Path.ofString (buildDirName c v)).isAbsolute = false ∧
      ∃ name, (Path.ofString (buildDirName c v)).body = [.name name] := by
  refine ⟨?_, (Path.ofString (buildDirName c v)).bytes, ?_⟩ <;> cases c <;> cases v <;> decide

theorem command_program (ctx : Context) (stage : Stage) : (ctx.command stage).program =
    match stage with
    | .generate => ctx.settings.generatorProgram
    | .build => ctx.settings.buildTool
    | .test => if ctx.variant.needsMemcheck then ctx.settings.harness else ctx.testBinary := by
  cases stage with
  | generate => rfl
  | build => rfl
  | test =>
    simp only [command, testCommand, Variant.testCommand]
    split <;> rfl

theorem configureCommand_getLast? (ctx : Context) :
    ctx.configureCommand.args.getLast? = some ctx.settings.sourceDir.display := by
  simp [configureCommand, configureArgs, Command.withCwd, Command.withArgs, Command.ofProgram,
    List.getLast?_cons]

theorem testCommand_getLast? {ctx : Context} (h : ctx.variant.needsMemcheck = true) :
    ctx.testCommand.args.getLast? = some ctx.testBinary.display := by
  simp [testCommand, Variant.testCommand, h, Command.withCwd, Command.withArgs, Command.ofProgram]

theorem anchored_resolve {s : Settings} (h : s.Anchored) (c : Compiler) (v : Variant) :
    (resolve c v s).Anchored := by
  have hbuild : (resolve c v s).buildDir.isAbsolute = true := by
    rw [resolve, Path.isAbsolute_join, h.buildRoot, Bool.true_or]
  have hbinary : (resolve c v s).testBinary.isAbsolute = true := by
    rw [testBinary, Path.isAbsolute_join, hbuild, Bool.true_or]
  obtain ⟨hrelative, name, hname⟩ := body_buildDirName c v
  exact {
    cwd := command_cwd _
    buildDir := hbuild
    name := ⟨name, by rw [resolve, Path.components_join h.buildRoot hrelative, hname]⟩
    program := by
      intro stage
      rw [command_program]
      cases stage with
      | generate => exact h.generatorProgram
      | build => exact h.buildTool
      | test =>
        dsimp only
        split
        · exact h.harness
        · exact .inl hbinary
    source := ⟨_, configureCommand_getLast? _, Path.isAbsolute_display h.sourceDir⟩
    binary := hbinary
    test := by
      split
      case isTrue hm => exact ⟨testCommand_getLast? hm, Path.isAbsolute_display hbinary⟩
      case isFalse hm => exact (command_program _ .test).trans (if_neg hm) }

end Context

namespace Settings

/-- The settings of a project that has a name, seen from an absolute directory, are anchored, and so
are the commands of every pair; seen from any other directory they are the same. -/
theorem ofFields_anchored (path : Field → Option Path) (generator : Option String)
    (cwd root : Path) (hcwd : cwd.isAbsolute = true) (hroot : root.bytes ≠ []) :
    let s := ofFields path generator cwd root
    (∀ (c : Config) (d r : Path),
      c.settings d r = ofFields c.path? (c.get .generator) d r) ∧
      s.Anchored ∧ (∀ c v, (Context.resolve c v s).Anchored) ∧
      ∀ cwd', (ofFields path generator cwd' (root.absolute cwd)).Same s := by
  intro s
  have habsolute : (root.absolute cwd).isAbsolute = true :=
    Path.isAbsolute_absolute hroot (.inl hcwd)
  have hs : s.Anchored := anchored_ofFields path generator habsolute
  exact ⟨ofFields_eq, hs, fun c v ↦ Context.anchored_resolve hs c v,
    fun cwd' ↦ same_ofFields path generator habsolute cwd'⟩

def dotted : Field → Option Path
  | .buildRoot => some (.ofString "a/../b//")
  | .generatorProgram => some (.ofString "./tools//cmake")
  | .sourceDir => some (.ofString "/src/./")
  | .harnessProgram => some (.ofString "..")
  | _ => none

theorem ofFields_anchored_dotted :
    let cwd := Path.ofString "/w//x/./"
    let root : Path := ⟨[0x2E, 0x2E, 0x2F, 0xFF, 0x2F, 0x2F]⟩
    let s := ofFields dotted none cwd root
    cwd.isAbsolute = true ∧ root.bytes ≠ [] ∧ s.Anchored ∧
      (Context.resolve .gcc .valgrind s).Anchored ∧
      (ofFields dotted none (.ofString "/") (root.absolute cwd)).Same s := by
  intro cwd root s
  have hcwd : cwd.isAbsolute = true := by decide
  have hroot : root.bytes ≠ [] := by decide
  obtain ⟨-, hs, hctx, hsame⟩ := ofFields_anchored dotted none cwd root hcwd hroot
  exact ⟨hcwd, hroot, hs, hctx .gcc .valgrind, hsame (.ofString "/")⟩

end Settings

end BuildMatrix
