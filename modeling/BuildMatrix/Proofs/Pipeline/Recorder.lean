import BuildMatrix.Proofs.Pipeline.Trace

namespace BuildMatrix.Pipeline

variable {σ : Type} (host : Host σ) (dryRun : Bool) (ctx : Context)

def Host.recorded : Host (σ × List Command) where
  ensureDirectory dir w :=
    let (answer, w') := host.ensureDirectory dir w.1
    (answer, w', w.2)
  execute c w :=
    let (answer, w') := host.execute c w.1
    (answer, w', w.2 ++ [c])
  clock w := host.clock w.1

theorem prepared_recorded (dir : Path) (w : σ) (l : List Command) :
    prepared host.recorded dryRun dir (w, l) =
      ((prepared host dryRun dir w).1, (prepared host dryRun dir w).2, l) := by
  cases dryRun with
  | true => rfl
  | false =>
    rcases h : host.ensureDirectory dir w with ⟨_ | _, _⟩ <;> simp [prepared, Host.recorded, h]

theorem attempt_recorded (stage : Stage) (c : Command) (w : σ) (l : List Command) :
    let t := attempt host dryRun stage c w
    attempt host.recorded dryRun stage c (w, l) = (t.1, t.2, l ++ t.1.call?.toList) := by
  cases dryRun with
  | true => simp [attempt_dry, Attempt.call?]
  | false =>
    rcases h : host.execute c w with ⟨reason | output, w'⟩
    · have hr : host.recorded.execute c (w, l) = (.error reason, w', l ++ [c]) := by
        simp [Host.recorded, h]
      rw [attempt_refused h, attempt_refused hr]
      rfl
    · have hr : host.recorded.execute c (w, l) = (.ok output, w', l ++ [c]) := by
        simp [Host.recorded, h]
      rw [attempt_ended h, attempt_ended hr]
      rfl

theorem walk_recorded (stages : List Stage) (w : σ) (l : List Command) :
    let t := walk host dryRun ctx stages w
    walk host.recorded dryRun ctx stages (w, l) =
      (t.1, t.2, l ++ t.1.filterMap Attempt.call?) := by
  induction stages generalizing w l with
  | nil => simp [walk]
  | cons stage rest ih =>
    rcases ht : attempt host dryRun stage (ctx.command stage) w with ⟨a, w'⟩
    have hr := attempt_recorded host dryRun stage (ctx.command stage) w l
    rw [ht] at hr
    cases ha : a.ending with
    | none =>
      rw [walk_cons_of_none ht ha, walk_cons_of_none hr ha, ih]
      cases hc : a.call? <;> simp [hc]
    | some o =>
      rw [walk_cons_of_some ht ha, walk_cons_of_some hr ha]
      cases hc : a.call? <;> simp [hc]

/-- To remember the commands changes nothing in a run, and the calls of its log are those that the
host was given. -/
theorem run_recorded (w : σ) :
    let r := run host dryRun ctx w
    let r' := run host.recorded dryRun ctx (w, [])
    r'.report = r.report ∧ r'.trace = r.trace ∧ r'.world = (r.world, r.calls) := by
  intro r r'
  have hprep := prepared_recorded host dryRun ctx.buildDir w []
  rcases hp : prepared host dryRun ctx.buildDir w with ⟨reason | ⟨⟩, w₁⟩
  · rw [hp] at hprep
    obtain ⟨hr, ht, hw⟩ := run_of_unprepared hp
    obtain ⟨hr', ht', hw'⟩ := run_of_unprepared hprep
    have hcalls : r.calls = [] := by rw [run_calls, attempts, hp]; rfl
    exact ⟨hr'.trans hr.symm, by rw [ht', ht, hr, hr']; rfl, by rw [hw', hw, hcalls]⟩
  · rw [hp] at hprep
    obtain ⟨hr, ht, hw⟩ := run_of_prepared hp
    obtain ⟨hr', ht', hw'⟩ := run_of_prepared hprep
    rw [walk_recorded] at hr' ht' hw'
    have hcalls : r.calls = (walk host dryRun ctx ctx.stages w₁).1.filterMap Attempt.call? := by
      rw [run_calls, attempts, hp]
    exact ⟨hr'.trans hr.symm, by rw [ht', ht, hr, hr']; rfl, by rw [hw', hw, hcalls]; rfl⟩

end BuildMatrix.Pipeline
