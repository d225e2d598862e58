import BuildMatrix.Proofs.Pipeline.Course

namespace BuildMatrix

def Event.untimed : Event → Event
  | stageFinished stage code _ => stageFinished stage code 0
  | pipelineFinished state success code _ => pipelineFinished state success code 0
  | e => e

namespace Pipeline

namespace Entry

def event? : Entry → Option Event
  | event e => some e
  | _ => none

def call? : Entry → Option Command
  | call c => some c
  | _ => none

def untimed : Entry → Entry
  | event e => event e.untimed
  | e => e

@[simp] theorem call?_event (e : Event) : (event e).call? = none := rfl

theorem event?_untimed (e : Entry) : e.untimed.event? = e.event?.map Event.untimed := by
  cases e <;> rfl

theorem call?_untimed (e : Entry) : e.untimed.call? = e.call? := by
  cases e <;> rfl

end Entry

section

variable {σ : Type} (r : Ended σ)

theorem Ended.events_eq : r.events = r.trace.filterMap Entry.event? := by
  rw [events, trace, List.filterMap_filter]
  congr 1
  funext e
  cases e <;> rfl

theorem Ended.mem_events {e : Event} : e ∈ r.events ↔ .event e ∈ r.trace := by
  rw [events_eq, List.mem_filterMap]
  constructor
  · rintro ⟨entry, hmem, h⟩
    cases entry with
    | event e' => exact Option.some.inj h ▸ hmem
    | call c => simp [Entry.event?] at h
    | log l => simp [Entry.event?] at h
  · intro h
    exact ⟨_, h, rfl⟩

theorem Ended.calls_eq : r.calls = r.trace.filterMap Entry.call? := by
  rw [calls, trace, List.filterMap_filter]
  congr 1
  funext e
  cases e <;> rfl

theorem Ended.untimed_events : r.events.map Event.untimed =
    (r.trace.map Entry.untimed).filterMap Entry.event? := by
  have huntimed : Entry.event? ∘ Entry.untimed = fun e ↦ e.event?.map Event.untimed :=
    funext Entry.event?_untimed
  rw [Ended.events_eq, List.filterMap_map, List.map_filterMap, huntimed]

theorem Ended.calls_of_untimed :
    r.calls = (r.trace.map Entry.untimed).filterMap Entry.call? := by
  have huntimed : Entry.call? ∘ Entry.untimed = Entry.call? := funext Entry.call?_untimed
  rw [Ended.calls_eq, List.filterMap_map, huntimed]

end

namespace Attempt

def call? (a : Attempt) : Option Command :=
  if a.answer = .assumed then none else some a.command

def untimed (a : Attempt) : Attempt := { a with elapsed := 0 }

theorem filterMap_call? {as : List Attempt} (h : ∀ a ∈ as, a.answer ≠ .assumed) :
    as.filterMap call? = as.map command := by
  induction as with
  | nil => rfl
  | cons a as ih =>
    have ha : a.call? = some a.command := if_neg (h a List.mem_cons_self)
    rw [List.filterMap_cons_some ha, List.map_cons, ih fun b hb ↦ h b (List.mem_cons_of_mem a hb)]

theorem block_calls (a : Attempt) : a.block.filterMap Entry.call? = a.call?.toList := by
  rcases a with ⟨stage, c, answer, n⟩
  cases answer <;> simp only [block, call?, started, finished, told]
  · rfl
  · split <;> rfl
  · rfl

theorem entries_calls (ctx : Context) (as : List Attempt) :
    (entries ctx as).filterMap Entry.call? = as.filterMap call? := by
  have hskip (o : Outcome) : o.entries.filterMap Entry.call? = [] := by
    cases o <;> rfl
  rw [entries, List.filterMap_append, hskip, List.append_nil, List.filterMap_flatMap]
  induction as with
  | nil => rfl
  | cons a as ih =>
    rw [List.flatMap_cons, block_calls, ih]
    cases h : a.call? <;> simp [h]

theorem block_untimed (a : Attempt) : a.untimed.block = a.block.map Entry.untimed := by
  rcases a with ⟨stage, c, answer, n⟩
  rcases answer with _ | output | reason
  · rfl
  · simp only [block, List.map_cons, apply_ite (List.map Entry.untimed)]
    rfl
  · rfl

@[simp] theorem ending_untimed (a : Attempt) : a.untimed.ending = a.ending := rfl

theorem outcome_untimed (ctx : Context) (as : List Attempt) :
    outcome ctx (as.map untimed) = outcome ctx as := by
  simp [outcome, List.findSome?_map, Function.comp_def]

@[simp] theorem states_untimed (a : Attempt) : a.untimed.states = a.states := rfl

@[simp] theorem issued_untimed (a : Attempt) : a.untimed.issued = a.issued := rfl

theorem report_untimed (ctx : Context) (as : List Attempt) :
    report ctx (as.map untimed) = report ctx as := by
  simp [report, history, outcome_untimed, List.flatMap_map]

theorem entries_untimed (ctx : Context) (as : List Attempt) :
    entries ctx (as.map untimed) = (entries ctx as).map Entry.untimed := by
  have hskip (o : Outcome) : o.entries = o.entries.map Entry.untimed := by
    cases o <;> rfl
  rw [entries, entries, outcome_untimed, List.map_append, ← hskip, List.flatMap_map,
    List.map_flatMap]
  simp only [block_untimed]

end Attempt

variable {σ : Type} (host : Host σ) (dryRun : Bool) (ctx : Context)

theorem run_commands (w : σ) :
    (run host dryRun ctx w).report.commands =
      (attempts host dryRun ctx w).map Attempt.issued := by
  rcases hp : prepared host dryRun ctx.buildDir w with ⟨reason | ⟨⟩, w₁⟩
  · rw [(run_of_unprepared hp).1, attempts, hp]
    rfl
  · rw [(run_of_prepared hp).1, attempts, hp]
    rfl

theorem run_calls (w : σ) :
    (run host dryRun ctx w).calls = (attempts host dryRun ctx w).filterMap Attempt.call? := by
  rcases hp : prepared host dryRun ctx.buildDir w with ⟨reason | ⟨⟩, w₁⟩
  · rw [Ended.calls_eq, (run_of_unprepared hp).2.1, attempts, hp]
    rfl
  · rw [Ended.calls_eq, (run_of_prepared hp).2.1, List.filterMap_append, Attempt.entries_calls,
      attempts, hp]
    simp [Report.finished]

/-- The attempts of a run, but for the time they took, say all that it does. -/
theorem run_congr {τ : Type} (host' : Host τ) {w : σ} {w' : τ}
    (hp : (prepared host' dryRun ctx.buildDir w').1 = (prepared host dryRun ctx.buildDir w).1)
    (ha : (attempts host' dryRun ctx w').map Attempt.untimed =
      (attempts host dryRun ctx w).map Attempt.untimed) :
    let r := run host dryRun ctx w
    let r' := run host' dryRun ctx w'
    r'.report = r.report ∧ r'.trace.map Entry.untimed = r.trace.map Entry.untimed := by
  intro r r'
  rcases h : prepared host dryRun ctx.buildDir w with ⟨reason | ⟨⟩, w₁⟩ <;>
    rcases h' : prepared host' dryRun ctx.buildDir w' with ⟨reason' | ⟨⟩, w₁'⟩ <;>
    simp only [h, h', Except.error.injEq, reduceCtorEq] at hp
  · obtain ⟨hr, ht, -⟩ := run_of_unprepared h
    obtain ⟨hr', ht', -⟩ := run_of_unprepared h'
    subst hp
    have hreport : r'.report = r.report := hr'.trans hr.symm
    exact ⟨hreport, by rw [ht, ht', hreport]; rfl⟩
  · obtain ⟨hr, ht, -⟩ := run_of_prepared h
    obtain ⟨hr', ht', -⟩ := run_of_prepared h'
    simp only [attempts, h, h'] at ha
    have hreport : r'.report = r.report := by
      rw [hr, hr', ← Attempt.report_untimed, ha, Attempt.report_untimed]
    refine ⟨hreport, ?_⟩
    rw [ht, ht', hreport, List.map_append, List.map_append, ← Attempt.entries_untimed, ha,
      Attempt.entries_untimed]
    rfl

end Pipeline

end BuildMatrix
