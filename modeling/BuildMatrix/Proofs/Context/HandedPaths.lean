import BuildMatrix.Proofs.Config.Anchoring
import BuildMatrix.Proofs.Text.Utf8

namespace BuildMatrix

namespace Command

def lastPath? (c : Command) : Option Path := c.args.getLast?.map .ofString

variable {c : Command} {p : Path}

theorem lastPath?_eq_some_iff (h : c.args.getLast? = some p.display) :
    c.lastPath? = some p ↔ p.IsText := by
  rw [lastPath?, h, Option.map_some, Option.some_inj]
  exact Path.ofString_display_iff

end Command

namespace Context

def withVariant (ctx : Context) (v : Variant) : Context := { ctx with variant := v }

/-- The binary under test, as it arrives where it is run: the program itself, or what the memory
checker is told to run. -/
def testedPath? (ctx : Context) : Option Path :=
  if ctx.variant.needsMemcheck then ctx.testCommand.lastPath? else some ctx.testCommand.program

variable {ctx : Context}

theorem testedPath?_eq_some_iff : ctx.testedPath? = some ctx.testBinary ↔
    ctx.variant.needsMemcheck = false ∨ ctx.testBinary.IsText := by
  unfold testedPath?
  cases h : ctx.variant.needsMemcheck with
  | true => simpa using Command.lastPath?_eq_some_iff (testCommand_getLast? h)
  | false =>
    have hprogram : ctx.testCommand.program = ctx.testBinary := by
      simpa [h] using command_program ctx .test
    simp [hprogram]

/-- The generator is given the source directory just as it is set if that is a text, and so is the
memory checker given the binary under test; a binary that is run alone is always the right one. All
variants run the same binary just if it is a text. -/
theorem handed_paths (ctx : Context) :
    (ctx.configureCommand.lastPath? = some ctx.settings.sourceDir ↔
        ctx.settings.sourceDir.IsText) ∧
      (∀ v, (ctx.withVariant v).testedPath? = some ctx.testBinary ↔
        v.needsMemcheck = false ∨ ctx.testBinary.IsText) ∧
      ((∀ v v', (ctx.withVariant v).testedPath? = (ctx.withVariant v').testedPath?) ↔
        ctx.testBinary.IsText) := by
  have htested (v : Variant) : (ctx.withVariant v).testedPath? = some ctx.testBinary ↔
      v.needsMemcheck = false ∨ ctx.testBinary.IsText := testedPath?_eq_some_iff
  refine ⟨Command.lastPath?_eq_some_iff (configureCommand_getLast? ctx), htested, ?_⟩
  have hrelease : (ctx.withVariant .release).testedPath? = some ctx.testBinary :=
    (htested .release).2 (.inl rfl)
  constructor
  · intro h
    have hvalgrind := (h .valgrind .release).trans hrelease
    simpa [Variant.needsMemcheck] using (htested .valgrind).1 hvalgrind
  · intro htext v v'
    rw [(htested v).2 (.inr htext), (htested v').2 (.inr htext)]

def unreadable : Context :=
  resolve .gcc .valgrind (Config.empty.settings (.ofString "/") ⟨[Path.slash, 0x70, 0xFF]⟩)

/-- A name that is no text is handed over as another one. -/
theorem handed_paths_unreadable :
    ¬∀ ctx : Context, ctx.configureCommand.lastPath? = some ctx.settings.sourceDir ∧
      ∀ v, (ctx.withVariant v).testedPath? = some ctx.testBinary := by
  intro h
  have hsource : unreadable.settings.sourceDir.IsText :=
    (Command.lastPath?_eq_some_iff (configureCommand_getLast? _)).1 (h unreadable).1
  obtain ⟨s, hs⟩ := hsource
  have htext : unreadable.settings.sourceDir.text? = none := by decide
  rw [Path.text?_eq_some_iff.2 hs] at htext
  simp at htext

end Context

end BuildMatrix
