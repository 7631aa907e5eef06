import RelativeDate.Proofs.Failure
import RelativeDate.Proofs.Millisecond

/-! # Paths

The steps of a run form a path. Each step starts where the one before it ends, and ends where its
operation leads. What every operation keeps holds at every instant on a path: all of them are whole
milliseconds when the first one is. The value of an expression is the end of such a path, so it can
serve as the base of other calls without a change. -/

namespace RelativeDate

open Operation Token

variable {t s : Instant} {op : Operation} {ops before : List Operation} {steps : List Step}

/-- The steps lead from the first instant to the last one. -/
inductive IsPath : Instant → List Step → Instant → Prop
  | nil (t : Instant) : IsPath t [] t
  | cons {op : Operation} {t r s : Instant} {steps : List Step} (hop : op.run? t = some r)
      (hrest : IsPath r steps s) : IsPath t (⟨op, t, r⟩ :: steps) s

/-! ## Ends -/

theorem IsPath.getLast?_eq (h : IsPath t steps s) :
    (t :: steps.map Step.finish).getLast? = some s := by
  induction h with
  | nil t => rfl
  | cons _ _ ih => rwa [List.map_cons, List.getLast?_cons_cons]

theorem IsPath.getLast?_map_finish (h : IsPath t steps s) (hne : steps ≠ []) :
    steps.getLast?.map Step.finish = some s := by
  have hlast := h.getLast?_eq
  cases h with
  | nil t => exact absurd rfl hne
  | cons hop hrest =>
    rwa [List.map_cons, List.getLast?_cons_cons, ← List.map_cons, List.getLast?_map] at hlast

theorem IsPath.end_unique {x : Instant} (h : IsPath t steps s) (hx : IsPath t steps x) : s = x :=
  Option.some.inj (h.getLast?_eq.symm.trans hx.getLast?_eq)

theorem IsPath.end_mem (h : IsPath t steps s) : s ∈ t :: steps.map Step.finish :=
  List.mem_of_getLast? h.getLast?_eq

/-! ## Paths and traces -/

/-- The operations of a run that succeeds have a path. -/
theorem exists_isPath_of_runAll? (h : runAll? ops t = some s) :
    ∃ steps, steps.map Step.operation = ops ∧ IsPath t steps s := by
  induction ops generalizing t with
  | nil =>
    obtain rfl := Option.some.inj h
    exact ⟨[], rfl, .nil t⟩
  | cons op ops ih =>
    obtain ⟨r, hop, hrest⟩ := Option.bind_eq_some_iff.mp h
    obtain ⟨steps, hsteps, hpath⟩ := ih hrest
    exact ⟨⟨op, t, r⟩ :: steps, congrArg (op :: ·) hsteps, .cons hop hpath⟩

/-- A trace goes along a path and then on from its end. -/
theorem IsPath.trace_append (h : IsPath t steps s) (rest : List Operation) :
    trace (steps.map Step.operation ++ rest) t =
      ⟨steps ++ (trace rest s).steps, (trace rest s).result⟩ := by
  induction h with
  | nil t => rfl
  | cons hop _ ih =>
    rw [List.map_cons, List.cons_append, trace, hop]
    dsimp only
    rw [ih]
    rfl

/-- A run that succeeds goes along a path for all of its operations. -/
theorem exists_trace_of_runAll? (h : runAll? ops t = some s) :
    ∃ steps, steps.map Step.operation = ops ∧ IsPath t steps s ∧ trace ops t = ⟨steps, some s⟩ := by
  obtain ⟨steps, rfl, hpath⟩ := exists_isPath_of_runAll? h
  have htrace := hpath.trace_append []
  rw [List.append_nil, trace, List.append_nil] at htrace
  exact ⟨steps, rfl, hpath, htrace⟩

/-- A run that fails goes along a path up to the first operation that leaves the calendar. -/
theorem exists_trace_of_leavesCalendar (h : runAll? before t = some s)
    (hop : op.LeavesCalendar s) (after : List Operation) :
    ∃ steps, steps.map Step.operation = before ∧ IsPath t steps s ∧
      trace (before ++ op :: after) t = ⟨steps, none⟩ := by
  obtain ⟨steps, rfl, hpath⟩ := exists_isPath_of_runAll? h
  have htrace := hpath.trace_append (op :: after)
  rw [trace, run?_eq_none_iff.mpr hop, List.append_nil] at htrace
  exact ⟨steps, rfl, hpath, htrace⟩

/-- A trace goes along a path. It has all operations and ends where they lead if the run succeeds,
    and it stops where the first operation starts that leaves the calendar. -/
theorem exists_isPath_trace (ops : List Operation) (t : Instant) :
    ∃ s, IsPath t (trace ops t).steps s ∧
      (∀ x, runAll? ops t = some x → (trace ops t).steps.map Step.operation = ops ∧ s = x) ∧
      ∀ before op after x, ops = before ++ op :: after → runAll? before t = some x →
        op.LeavesCalendar x → (trace ops t).steps.map Step.operation = before ∧ s = x := by
  cases hrun : runAll? ops t with
  | some s =>
    obtain ⟨steps, hops, hpath, htrace⟩ := exists_trace_of_runAll? hrun
    rw [htrace]
    refine ⟨s, hpath, fun x hx => ⟨hops, Option.some.inj hx⟩, ?_⟩
    intro before op after x happend hbefore hop
    have hnone := runAll?_eq_none_iff.mpr ⟨before, op, after, x, happend, hbefore, hop⟩
    cases hrun.symm.trans hnone
  | none =>
    obtain ⟨before, op, after, s, rfl, hbefore, hop⟩ := runAll?_eq_none_iff.mp hrun
    obtain ⟨steps, -, hpath, htrace⟩ := exists_trace_of_leavesCalendar hbefore hop after
    rw [htrace]
    refine ⟨s, hpath, nofun, ?_⟩
    -- Another place where the run fails has to be this one, since the trace is the same.
    intro others next rest x happend hothers hnext
    obtain ⟨steps', hsteps', hpath', htrace'⟩ := exists_trace_of_leavesCalendar hothers hnext rest
    rw [← happend, htrace] at htrace'
    obtain rfl : steps = steps' := congrArg Trace.steps htrace'
    exact ⟨hsteps', hpath.end_unique hpath'⟩

/-- The operations of a trace are the first ones of the run. -/
theorem map_operation_trace_isPrefix (ops : List Operation) (t : Instant) :
    (trace ops t).steps.map Step.operation <+: ops := by
  induction ops generalizing t with
  | nil => exact List.prefix_rfl
  | cons op ops ih =>
    rw [trace]
    cases op.run? t with
    | none => exact List.nil_prefix
    | some finish => exact List.cons_prefix_cons.mpr ⟨rfl, ih finish⟩

/-! ## What holds along a path -/

/-- What every operation keeps holds at all instants of a path. -/
theorem IsPath.forall_mem {P : Instant → Prop} (h : IsPath t steps s) (ht : P t)
    (hrun : ∀ {op : Operation} {t s : Instant}, P t → op.run? t = some s → P s) :
    ∀ x ∈ t :: steps.map Step.finish, P x := by
  induction h with
  | nil t => simpa using ht
  | cons hop _ ih => exact List.forall_mem_cons.mpr ⟨ht, ih (hrun ht hop)⟩

/-- What is left of the time by a step. A move keeps the part of the second, and the whole time of
    the day if it is one by months or years. A rounding leaves no part of a second. -/
def Step.KeepsTime (step : Step) : Prop :=
  match step.operation with
  | .move _ u _ => step.finish.subsecond = step.start.subsecond ∧
      (u = .month ∨ u = .year → step.finish.timeOfDay = step.start.timeOfDay)
  | .round _ => step.finish.subsecond = 0

theorem Step.keepsTime_of_run? (h : op.run? t = some s) : Step.KeepsTime ⟨op, t, s⟩ := by
  cases op with
  | move dir u amount => exact ⟨subsecond_of_move h, fun hu => timeOfDay_of_move hu h⟩
  | round u => exact subsecond_of_round h

theorem IsPath.keepsTime (h : IsPath t steps s) : ∀ step ∈ steps, step.KeepsTime := by
  induction h with
  | nil t => simp
  | cons hop _ ih => exact List.forall_mem_cons.mpr ⟨Step.keepsTime_of_run? hop, ih⟩

/-! ## Calls of an evaluator -/

/-- An expression that has a value spells operations, and they have a path to this value. -/
theorem exists_isPath_of_outcome {expression : String} {anchor : Instant}
    (h : (evaluate expression anchor).outcome = .ok t) :
    ∃ steps, Spells expression (steps.map Step.operation) ∧ IsPath anchor steps t := by
  obtain ⟨rest, ts, rfl, hflat, hts, hfollow⟩ := outcome_evaluate_eq_ok_iff.mp h
  obtain ⟨ops, hwrites⟩ := hts.exists_writes
  obtain ⟨hshort, hrun⟩ := (follow?_eq_some_iff hwrites).mp hfollow
  obtain ⟨steps, rfl, hpath⟩ := exists_isPath_of_runAll? hrun
  exact ⟨steps, ⟨rest, ts, rfl, hflat, hwrites, hshort⟩, hpath⟩

namespace Evaluator

variable {c : Evaluator} {n : Nat} {d : DateTime}

/-- What is handed back is the anchor of an evaluator that has it for its base. -/
theorem outcome_evaluate_now_of_base (hbase : c.config.base = some d) (hd : d.normalize? = some t) :
    ((c.evaluate (.text "now")).run n).1.outcome = .ok (c.present t) := by
  have hanchor : (c.anchor.run n).1 = .ok t :=
    (anchor_of_base hbase).trans (Value.normalize_dateTime_eq_ok_iff.mpr hd)
  rw [outcome_evaluate_text hanchor]
  rfl

/-- When an evaluation has the result `r`, the source of the anchor is a date and time, and the
    anchor is its millisecond of UTC. A path of the operations that the expression spells leads
    from the anchor to the instant that `r` shows. All instants on the path are whole milliseconds
    of the years 1 to 9999. Moves keep the part of the second, and moves by months and years the
    time of the day, and roundings leave whole seconds. As the base of an evaluator that shows
    offsets in the same way, `r` is what `now` evaluates to. -/
theorem evaluate_text_path {e : String} {r : DateTime}
    (h : ((c.evaluate (.text e)).run n).1.outcome = .ok r) :
    ∃ d a steps t, c.source n = .dateTime d ∧ (a.micros : Int) = d.utcMilli * microsPerMilli ∧
      Spells e (steps.map Step.operation) ∧ IsPath a steps t ∧
      (∀ x ∈ a :: steps.map Step.finish, 1 ≤ x.year ∧ x.year ≤ 9999 ∧ x.IsWholeMilli) ∧
      (∀ step ∈ steps, step.KeepsTime) ∧
      r = (if c.config.withOffset then .utc t else .bare t) ∧ r.normalize? = some t ∧
      ∀ (c' : Evaluator) (m : Nat), c'.config.base = some r →
        c'.config.withOffset = c.config.withOffset →
        ((c'.evaluate (.text "now")).run m).1.outcome = .ok r := by
  obtain ⟨a, t, ha, ht, rfl⟩ := exists_of_outcome_evaluate_text h
  obtain ⟨d, hsource, hd⟩ := Value.exists_of_normalize ((c.anchor_eq n).symm.trans ha)
  obtain ⟨steps, hspells, hpath⟩ := exists_isPath_of_outcome ht
  have hwhole := hpath.forall_mem (isWholeMilli_of_anchor ha) isWholeMilli_of_run?
  have hnormal := c.normalize?_present (hwhole t hpath.end_mem)
  refine ⟨d, a, steps, t, hsource, DateTime.normalize?_eq_some_iff.mp hd, hspells, hpath, ?_,
    hpath.keepsTime, rfl, hnormal, ?_⟩
  · intro x hx
    exact ⟨x.year_pos, Nat.le_of_lt_succ x.year_lt, hwhole x hx⟩
  · intro c' m hbase hoffset
    rw [outcome_evaluate_now_of_base hbase hnormal, present, present, hoffset]

/-- A clock shows 31 January 2020 two hours ahead of UTC, where it is the 30th still. The path from
    there leads to 1 March, since February is shorter, and on to 2021 and the following midnight. -/
theorem evaluate_text_path_march_2021 :
    let d : DateTime :=
      ⟨⟨737454 * microsPerDay + 5400 * microsPerSecond + 123456, by decide⟩,
        some (2 * microsPerHour)⟩
    let c := Evaluator.shared (.still (.dateTime d))
    let t : Instant := ⟨737850 * microsPerDay, by decide⟩
    let c' : Evaluator := ⟨{ Config.default with base := some (.utc t) }, .still .null⟩
    ((c.evaluate (.text "now+1M+1y/d")).run 0).1.outcome = .ok (.utc t) ∧
      (∃ a steps, (a.micros : Int) = d.utcMilli * microsPerMilli ∧ IsPath a steps t ∧
        (∀ x ∈ a :: steps.map Step.finish, x.IsWholeMilli) ∧ ∀ step ∈ steps, step.KeepsTime) ∧
      ((c'.evaluate (.text "now")).run 0).1.outcome = .ok (.utc t) := by
  intro d c t c'
  let a : Instant := ⟨737453 * microsPerDay + 84600 * microsPerSecond + 123000, by decide⟩
  have hd : d.normalize? = some a := by decide
  have ha : (c.anchor.run 0).1 = .ok a :=
    (anchor_of_clock rfl).trans (Value.normalize_dateTime_eq_ok_iff.mpr hd)
  let ops : List Operation := [.move .forward .month 1, .move .forward .year 1, .round (.fixed .day)]
  have hops : ∀ op ∈ ops, op.Writable := by
    simpa [ops] using ⟨writable_move (n := 1) (by decide) .forward .month,
      writable_move (n := 1) (by decide) .forward .year, trivial⟩
  have hresult : ((c.evaluate (.text "now+1M+1y/d")).run 0).1.outcome = .ok (.utc t) :=
    @outcome_evaluate_expressionText c 0 a ops t ha hops (by simp [ops, IsMove]) (by decide)
  obtain ⟨d', a', steps, t', hsource, ha', -, hpath, hwhole, hkeeps, hr, -, hnow⟩ :=
    evaluate_text_path hresult
  obtain rfl : d = d' := Value.dateTime.inj hsource
  obtain rfl : t = t' := congrArg DateTime.civil hr
  exact ⟨hresult, ⟨a', steps, ha', hpath, fun x hx => (hwhole x hx).2.2, hkeeps⟩, hnow c' 0 rfl rfl⟩

end Evaluator

end RelativeDate
