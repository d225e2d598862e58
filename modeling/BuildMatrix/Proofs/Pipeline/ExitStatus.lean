import BuildMatrix.Main
import BuildMatrix.Proofs.Pipeline.Readback

namespace BuildMatrix

namespace WaitStatus

variable (s : WaitStatus)

def signal : BitVec 7 := s.bits.toBitVec.extractLsb' 0 7

def code : BitVec 8 := s.bits.toBitVec.extractLsb' 8 8

theorem field_eq_extractLsb' (shift size : Nat) :
    s.field shift size = (s.bits.toBitVec.extractLsb' shift size).toNat := by
  rw [BitVec.extractLsb'_toNat, Nat.shiftRight_eq_div_pow]
  rfl

theorem exitCode_eq : s.exitCode =
    if s.signal = 0 then (s.code.toNat : Int)
    else if s.signal = 0x7F then 1
    else 128 + s.signal.toNat := by
  simp only [exitCode, field_eq_extractLsb', signal, code, ← BitVec.toNat_inj]
  rfl

theorem exitCode_range : 0 ≤ s.exitCode ∧ s.exitCode ≤ 255 := by
  have hsignal : s.signal.toNat < 128 := s.signal.isLt
  have hcode : s.code.toNat < 256 := s.code.isLt
  rw [exitCode_eq]
  split
  · omega
  · split <;> omega

theorem exitCode_eq_zero_iff : s.exitCode = 0 ↔ s.signal = 0 ∧ s.code = 0 := by
  rw [exitCode_eq]
  by_cases hs : s.signal = 0
  · have hcode : (s.code.toNat : Int) = 0 ↔ s.code = 0 := by
      rw [Int.natCast_eq_zero, ← BitVec.toNat_inj]
      rfl
    rw [if_pos hs, hcode, and_iff_right hs]
  · have hne : (if s.signal = 0x7F then (1 : Int) else 128 + s.signal.toNat) ≠ 0 := by
      split <;> omega
    rw [if_neg hs]
    exact iff_of_false hne fun h ↦ hs h.1

-- Neither the bit of a core dump nor a stop is read as a code.
example : (WaitStatus.mk 0x8B).exitCode = 139 ∧ (WaitStatus.mk 0x7F).exitCode = 1 := by decide

end WaitStatus

def Event.finishes : Event → List (Stage × Int)
  | stageFinished stage code _ => [(stage, code)]
  | _ => []

namespace Main

theorem statusOf_toNat {code : Int} (h : 0 ≤ code ∧ code ≤ 255) :
    ((statusOf code).toNat : Int) = code := by
  have hmod : code % 256 = code := Int.emod_eq_of_lt h.1 (by omega)
  have hlt : code.toNat < 2 ^ 32 := by omega
  rw [statusOf, hmod, Nat.toUInt32, UInt32.toNat_ofNat_of_lt' hlt, Int.toNat_of_nonneg h.1]

/-- A parent process sees the code as it is, and sees a success if there is one and only then. -/
structure Exits (code : Int) (success : Prop) : Prop where
  range : 0 ≤ code ∧ code ≤ 255
  status : ((statusOf code).toNat : Int) = code
  zero_iff : statusOf code = 0 ↔ success

theorem exits_of_range {code : Int} {success : Prop} (h : 0 ≤ code ∧ code ≤ 255)
    (hzero : code = 0 ↔ success) : Exits code success := by
  have hstatus := statusOf_toNat h
  refine ⟨h, hstatus, ?_⟩
  rw [← hzero, ← UInt32.toNat_inj, UInt32.toNat_zero]
  omega

end Main

namespace Pipeline

namespace Attempt

def finishes (a : Attempt) : List (Stage × Int) :=
  if a.answer.isRefused then [] else [(a.stage, a.output.code)]

theorem events_finishes (a : Attempt) : a.events.flatMap Event.finishes = a.finishes := by
  rw [events_eq, finishes]
  split <;> split <;> rfl

theorem finishes_of_passed {as : List Attempt} (h : ∀ a ∈ as, a.passed = true) :
    as.flatMap finishes = (as.map stage).map fun stage ↦ (stage, 0) := by
  induction as with
  | nil => rfl
  | cons a as ih =>
    have ha : a.passed = true := h a List.mem_cons_self
    have hanswer : a.answer.isRefused = false := by
      by_contra hr
      rw [Bool.not_eq_false] at hr
      simp [passed_of_isRefused hr] at ha
    rw [List.flatMap_cons, ih fun b hb ↦ h b (List.mem_cons_of_mem a hb), finishes, hanswer,
      passed_iff.1 ha]
    rfl

theorem mem_finishes {a : Attempt} {stage : Stage} {code : Int} (h : (stage, code) ∈ a.finishes) :
    a.stage = stage ∧ a.output.code = code := by
  unfold finishes at h
  split at h
  · simp at h
  · simpa [eq_comm] using h

theorem exitCode_of_ending {a : Attempt} {o : Outcome} (h : a.ending = some o) :
    o.exitCode = a.output.code := by
  rcases ending_eq_some_iff.1 h with ⟨-, -, rfl⟩ | ⟨-, -, rfl⟩ <;> rfl

end Attempt

/-- The rest of a run was skipped, or each of its three stages ended with code 0. -/
def Ended.Completed {σ : Type} (r : Ended σ) : Prop :=
  (∃ reason, r.report.outcome = .skipped reason) ∨
    r.events.flatMap Event.finishes = [(.generate, 0), (.build, 0), (.test, 0)]

theorem eq_all_of_test_mem {stages : List Stage} (h : stages <+: [.generate, .build, .test])
    (ht : .test ∈ stages) : stages = [.generate, .build, .test] := by
  simp only [List.prefix_cons_iff, List.prefix_nil] at h
  rcases h with rfl | ⟨_, rfl, rfl | ⟨_, rfl, rfl | ⟨_, rfl, rfl⟩⟩⟩ <;> simp_all

section

variable {σ : Type} (host : Host σ) (dryRun : Bool) (ctx : Context)

theorem attempts_stage_prefix (w : σ) :
    (attempts host dryRun ctx w).map Attempt.stage <+: [.generate, .build, .test] := by
  rw [← interview_stage host dryRun ctx [.generate, .build, .test]
    (prepared host dryRun ctx.buildDir w).2]
  exact (attempts_prefix_stages host dryRun ctx w).map Attempt.stage

theorem run_finishes (w : σ) : (run host dryRun ctx w).events.flatMap Event.finishes =
    (attempts host dryRun ctx w).flatMap Attempt.finishes := by
  obtain ⟨elapsed, h⟩ := run_events host dryRun ctx w
  have hskip (o : Outcome) : o.events.flatMap Event.finishes = [] := by
    cases o <;> rfl
  rw [h, List.flatMap_append, List.flatMap_append, hskip, List.flatMap_assoc]
  simp only [Attempt.events_finishes]
  simp [Event.finishes]

/-- How a run can end: in a directory that cannot be made, with stages that all let it go on, or
with one that does not. -/
theorem run_cases (w : σ) :
    let r := run host dryRun ctx w
    let as := attempts host dryRun ctx w
    (as = [] ∧ ∃ reason, r.report.outcome = .failed (.io ctx.buildDir reason)) ∨
      (∃ reason, r.report.outcome = .skipped reason) ∨
      ∃ front a, as = front ++ [a] ∧ (∀ b ∈ front, b.ending = none) ∧
        a.ending = some r.report.outcome := by
  rcases hp : prepared host dryRun ctx.buildDir w with ⟨reason | ⟨⟩, w₁⟩
  · obtain ⟨hr, -, -⟩ := run_of_unprepared hp
    exact .inl ⟨attempts_of_unprepared host dryRun ctx hp, reason, congrArg Report.outcome hr⟩
  · obtain ⟨hr, -, -⟩ := run_of_prepared hp
    have hout : (run host dryRun ctx w).report.outcome = _ := congrArg Report.outcome hr
    simp only [attempts, hp, hout, Attempt.report]
    rcases walk_cases host dryRun ctx ctx.stages w₁ with h | ⟨front, a, o, has, hfront, ha⟩
    · exact .inr (.inl ⟨_, Attempt.outcome_of_none h⟩)
    · refine .inr (.inr ⟨front, a, has, hfront, ?_⟩)
      rw [ha, has, Attempt.outcome_of_last hfront ha]

theorem run_exitCode_eq_zero_iff (w : σ) :
    (run host dryRun ctx w).report.exitCode = 0 ↔ (run host dryRun ctx w).Completed := by
  unfold Ended.Completed Report.exitCode
  rw [run_finishes]
  rcases run_cases host dryRun ctx w with ⟨has, reason, ho⟩ | ⟨reason, ho⟩ |
    ⟨front, a, has, hfront, ha⟩
  · simp [has, ho, Outcome.exitCode, Error.exitCode]
  · simp [ho, Outcome.exitCode]
  · have hstages := attempts_stage_prefix host dryRun ctx w
    have hskip : ¬∃ reason, (run host dryRun ctx w).report.outcome = .skipped reason := by
      rintro ⟨reason, ho⟩
      rw [ho] at ha
      rcases Attempt.ending_eq_some_iff.1 ha with ⟨-, -, h⟩ | ⟨-, -, h⟩ <;> simp at h
    have hpassed (b : Attempt) (hb : b ∈ front) : b.passed = true :=
      (Attempt.ending_eq_none_iff.1 (hfront b hb)).2
    rw [Attempt.exitCode_of_ending ha, or_iff_right hskip]
    rw [has] at hstages ⊢
    constructor
    · intro hcode
      have hp : a.passed = true := Attempt.passed_iff.2 hcode
      have htest : a.stage = .test := by
        rcases Attempt.ending_eq_some_iff.1 ha with ⟨hs, -, -⟩ | ⟨-, hf, -⟩
        · exact hs
        · simp [hp] at hf
      have hall : (front ++ [a]).map Attempt.stage = [.generate, .build, .test] :=
        eq_all_of_test_mem hstages (by simp [htest])
      have hpass : ∀ b ∈ front ++ [a], b.passed = true := by
        intro b hb
        rcases List.mem_append.1 hb with hb | hb
        · exact hpassed b hb
        · rwa [List.mem_singleton.1 hb]
      rw [Attempt.finishes_of_passed hpass, hall]
      rfl
    · intro hfinishes
      -- Only the last stage is a test, so the end of the test that is told is its own.
      have hmem : (Stage.test, (0 : Int)) ∈ (front ++ [a]).flatMap Attempt.finishes := by
        simp [hfinishes]
      obtain ⟨b, hb, hend⟩ := List.mem_flatMap.1 hmem
      obtain ⟨hs, hcode⟩ := Attempt.mem_finishes hend
      rcases List.mem_append.1 hb with hb | hb
      · exact absurd hs (Attempt.ending_eq_none_iff.1 (hfront b hb)).1
      · rwa [List.mem_singleton.1 hb] at hcode

theorem run_exitCode_of_codes {P : Int → Prop} (hzero : P 0) (hone : P 1) (w : σ)
    (h : ∀ a ∈ attempts host dryRun ctx w, P a.output.code) :
    P (run host dryRun ctx w).report.exitCode := by
  unfold Report.exitCode
  rcases run_cases host dryRun ctx w with ⟨-, reason, ho⟩ | ⟨reason, ho⟩ | ⟨front, a, has, -, ha⟩
  · rw [ho]
    exact hone
  · rw [ho]
    exact hzero
  · rw [Attempt.exitCode_of_ending ha]
    exact h a (by simp [has])

end

structure Child where
  status : WaitStatus
  stdout : List UInt8
  stderr : List UInt8

def Child.output (c : Child) : StageOutput :=
  ⟨c.status.exitCode, Text.Utf8.textOf c.stdout, Text.Utf8.textOf c.stderr⟩

/-- A system that starts processes and waits for them. -/
structure System (σ : Type) where
  ensureDirectory : Path → σ → Except String Path × σ
  spawn : Command → σ → Except String Child × σ
  clock : σ → Nat

namespace System

variable {σ : Type} (sys : System σ)

def host : Host σ where
  ensureDirectory := sys.ensureDirectory
  execute c w := ((sys.spawn c w).1.map Child.output, (sys.spawn c w).2)
  clock := sys.clock

theorem code_of_attempt (dryRun : Bool) (stage : Stage) (c : Command) (w : σ) :
    let code := (attempt sys.host dryRun stage c w).1.output.code
    0 ≤ code ∧ code ≤ 255 := by
  cases dryRun with
  | true =>
    rw [attempt_dry]
    have hsilent : 0 ≤ StageOutput.silent.code ∧ StageOutput.silent.code ≤ 255 := by decide
    exact hsilent
  | false =>
    rcases h : sys.spawn c w with ⟨reason | child, w'⟩
    · have hrun : sys.host.execute c w = (.error reason, w') := by simp [host, h, Except.map]
      rw [attempt_refused hrun]
      have hlaunch : 0 ≤ StageOutput.launchFailureCode ∧ StageOutput.launchFailureCode ≤ 255 := by
        decide
      exact hlaunch
    · have hrun : sys.host.execute c w = (.ok child.output, w') := by simp [host, h, Except.map]
      rw [attempt_ended hrun]
      exact child.status.exitCode_range

theorem run_exits (dryRun : Bool) (ctx : Context) (w : σ) :
    Main.Exits (run sys.host dryRun ctx w).report.exitCode
      (run sys.host dryRun ctx w).Completed := by
  refine Main.exits_of_range ?_ (run_exitCode_eq_zero_iff sys.host dryRun ctx w)
  refine run_exitCode_of_codes (P := fun code ↦ 0 ≤ code ∧ code ≤ 255) sys.host dryRun ctx
    (by decide) (by decide) w fun a ha ↦ ?_
  obtain ⟨stage, w', rfl⟩ := exists_of_mem_interview sys.host dryRun ctx
    ((attempts_prefix_interview sys.host dryRun ctx w).subset ha)
  exact code_of_attempt sys dryRun stage (ctx.command stage) w'

end System

end Pipeline

end BuildMatrix
