/-
The clock of a scenario.

The time at which a worker will be over is told by its client (`Worker.endMs`, `Setup.busyMs`), and no step changes it,
whosever step it is. The clock never passes the last of these times, and has reached those of the workers that are over;
so at the end of a scenario it shows the longest of the times that its workers were busy (`State.clockMs_of_isDone`),
and not their sum: workers wait at the same time.

Steps may be made in any order for that. By the clock, the worker that wakes first goes on (`State.HasTurn`); then no
worker is ever late (`State.Punctual`), and each turn comes just when its worker wakes (`HasTurn.clockMs_step`).

A scenario that starts later does the same, so much later (`State.steps_later`).
-/
import Mathlib.Tactic
import LoadTrial.Proofs.Conservation
import LoadTrial.Proofs.Course

namespace LoadTrial

/-! ## The largest of some numbers -/

/-- the largest of some numbers; zero if there are none -/
def Number.largest (ns : List Nat) : Nat := ns.foldr max 0

theorem Number.largest_le_iff {ns : List Nat} {bound : Nat} : largest ns ≤ bound ↔ ∀ n ∈ ns, n ≤ bound := by
  induction ns with
  | nil => simp [largest]
  | cons n ns ih =>
    rw [List.forall_mem_cons, ← ih]
    exact max_le_iff

theorem Number.le_largest {ns : List Nat} {n : Nat} (h : n ∈ ns) : n ≤ largest ns :=
  largest_le_iff.1 le_rfl n h

/-! ## The end of a worker -/

/-- how long the worker of a client is busy; not at all without a client -/
def Setup.busyMs (pauseMs quota : Nat) : Setup → Nat
  | .client c => c.busyMs pauseMs quota
  | .failure _ => 0
  | .breakdown => 0

/-- a loop does not end before it begins -/
theorem Client.le_endMs_course (client : Client) (id pauseMs left next clock : Nat) :
    clock ≤ (client.course id pauseMs left next clock).endMs := by
  induction left generalizing next clock with
  | zero => exact le_rfl
  | succ left ih =>
    cases hc : client next with
    | breakdown => simp [course, hc]
    | answer outcome afterMs =>
      simp only [course, hc, Worker.Course.behind]
      refine le_trans ?_ (ih (next + 1) _)
      split_ifs <;> omega

namespace Worker

/-- when a worker will be over -/
def endMs (w : Worker) : Nat := w.course.endMs

theorem endMs_start (id quota pauseMs : Nat) (setup : Setup) :
    (start id quota pauseMs setup).endMs = setup.busyMs pauseMs quota := by
  cases setup with
  | client c => exact c.endMs_course id quota pauseMs
  | failure f => rfl
  | breakdown => rfl

theorem Moves.endMs_eq {w w' : Worker} {e : Option Event} (h : w.Moves w' e) : w'.endMs = w.endMs :=
  (congrArg Course.endMs h.course_eq).symm

theorem endMs_of_isDone {w : Worker} (h : w.isDone = true) : w.endMs = w.wakeMs :=
  congrArg Course.endMs (course_of_isDone h)

theorem wakeMs_le_endMs (w : Worker) : w.wakeMs ≤ w.endMs := by
  unfold endMs course
  split
  · exact w.client.le_endMs_course _ _ _ _ _
  · refine le_trans ?_ (w.client.le_endMs_course _ _ _ _ _)
    split_ifs <;> omega
  · exact le_rfl
  · exact le_rfl

theorem Moves.wakeMs_le {w w' : Worker} {e : Option Event} (h : w.Moves w' e) : w.wakeMs ≤ w'.wakeMs := by
  cases h with
  | goOn hp => dsimp only; split_ifs <;> omega
  | _ => simp

/-- the step that ends a worker happens when the worker is over -/
theorem Moves.wakeMs_of_isDone {w w' : Worker} {e : Option Event} (h : w.Moves w' e) (hd : w'.isDone = true) :
    w'.wakeMs = w.wakeMs := by
  cases h with
  | answer hp hq hc => cases hd
  | goOn hp => cases hd
  | _ => rfl

/-! ### Starting later -/

/-- a worker, some time later -/
def later (ms : Nat) (w : Worker) : Worker := { w with wakeMs := w.wakeMs + ms }

theorem step_later (w : Worker) (ms : Nat) : (w.later ms).step = (w.step.1.later ms, w.step.2) := by
  cases hp : w.phase with
  | ready =>
    by_cases hq : w.quota ≤ w.issued
    · simp [step, later, hp, hq]
    · cases hc : w.client w.issued with
      | answer outcome afterMs => simp [step, later, hp, hq, hc, Nat.add_right_comm]
      | breakdown => simp [step, later, hp, hq, hc]
  | recording us =>
    cases us with
    | nil =>
      by_cases hq : w.issued < w.quota
      · simp [step, later, hp, hq, Nat.add_right_comm]
      · simp [step, later, hp, hq]
    | cons u us => simp [step, later, hp]
  | completed => simp [step, later, hp]
  | failed => simp [step, later, hp]

theorem isDone_later (w : Worker) (ms : Nat) : (w.later ms).isDone = w.isDone := rfl

end Worker

namespace Scenario

/-- how long the busiest worker of a plan is busy -/
def longestMs (plan : Plan) (setup : Nat → Setup) : Nat :=
  Number.largest ((workerIds plan).map fun id =>
    (setup id).busyMs plan.requestDelay.millis plan.requestsPerClient.toNat)

namespace State

/-! ## The end of a scenario -/

theorem clockMs_step {s : State} {i : Nat} {w : Worker} (h : s.workers[i]? = some w) :
    (s.step i).clockMs = max s.clockMs w.wakeMs := by
  have htake : ∀ (s : State) (e : Option Worker.Event), (s.take e).clockMs = s.clockMs := by
    rintro s (_ | _ | _) <;> rfl
  simp only [step, h, htake]

/-- the clock at the end of all workers, or now if it shows more -/
def endMs (s : State) : Nat := max s.clockMs (Number.largest (s.workers.map Worker.endMs))

/-- workers end when they are bound to, whatever the order of their steps -/
theorem map_endMs_steps (s : State) (schedule : List Nat) :
    (s.steps schedule).workers.map Worker.endMs = s.workers.map Worker.endMs :=
  map_steps (fun w => w.moves_step.endMs_eq) s schedule

theorem endMs_step (s : State) (i : Nat) : (s.step i).endMs = s.endMs := by
  cases hw : s.workers[i]? with
  | none => rw [step_of_none hw]
  | some w =>
    have hworkers : (s.step i).workers.map Worker.endMs = s.workers.map Worker.endMs := map_endMs_steps s [i]
    have hle : w.wakeMs ≤ Number.largest (s.workers.map Worker.endMs) :=
      w.wakeMs_le_endMs.trans (Number.le_largest (List.mem_map_of_mem (List.mem_of_getElem? hw)))
    rw [endMs, endMs, hworkers, clockMs_step hw, max_assoc, max_eq_right hle]

theorem endMs_steps (s : State) (schedule : List Nat) : (s.steps schedule).endMs = s.endMs :=
  steps_keep (P := fun t => t.endMs = s.endMs) (fun t i ht => (endMs_step t i).trans ht) rfl schedule

/-- the clock has reached the times at which workers were over -/
def Reached (s : State) : Prop := ∀ w ∈ s.workers, w.isDone = true → w.wakeMs ≤ s.clockMs

theorem reached_start (plan : Plan) (setup : Nat → Setup) : (start plan setup).Reached := by
  intro w hw hd
  obtain ⟨id, -, rfl⟩ := List.mem_map.1 hw
  cases hs : setup id with
  | client c => rw [hs] at hd; cases hd
  | failure f => exact le_rfl
  | breakdown => exact le_rfl

theorem reached_step {s : State} (h : s.Reached) (i : Nat) : (s.step i).Reached := by
  cases hw : s.workers[i]? with
  | none => rwa [step_of_none hw]
  | some w =>
    obtain ⟨ws, ws', hbefore, hafter⟩ := workers_split hw
    intro v hv hd
    rw [hafter, List.mem_append, List.mem_cons] at hv
    rw [clockMs_step hw]
    have hother : v ∈ s.workers → v.wakeMs ≤ max s.clockMs w.wakeMs :=
      fun hmem => (h v hmem hd).trans (le_max_left _ _)
    rcases hv with hv | rfl | hv
    · exact hother (by simp [hbefore, hv])
    · rw [w.moves_step.wakeMs_of_isDone hd]
      exact le_max_right _ _
    · exact hother (by simp [hbefore, hv])

theorem clockMs_of_reached {s : State} (h : s.Reached) (hd : s.isDone = true) : s.clockMs = s.endMs := by
  have hle : Number.largest (s.workers.map Worker.endMs) ≤ s.clockMs := by
    rw [Number.largest_le_iff]
    intro n hn
    obtain ⟨w, hw, rfl⟩ := List.mem_map.1 hn
    have hdone := (isDone_iff s).1 hd w hw
    rw [Worker.endMs_of_isDone hdone]
    exact h w hw hdone
  exact (max_eq_left hle).symm

theorem map_endMs_start (plan : Plan) (setup : Nat → Setup) :
    (start plan setup).workers.map Worker.endMs =
      (workerIds plan).map fun id => (setup id).busyMs plan.requestDelay.millis plan.requestsPerClient.toNat := by
  rw [start, List.map_map]
  exact List.map_congr_left fun id _ => Worker.endMs_start id _ _ (setup id)

theorem endMs_start (plan : Plan) (setup : Nat → Setup) : (start plan setup).endMs = longestMs plan setup := by
  rw [endMs, map_endMs_start]
  exact Nat.zero_max _

/-- at the end the clock shows how long the busiest worker was busy -/
theorem clockMs_of_isDone (plan : Plan) (setup : Nat → Setup) {schedule : List Nat}
    (h : ((start plan setup).steps schedule).isDone = true) :
    ((start plan setup).steps schedule).clockMs = longestMs plan setup := by
  have hreached : ((start plan setup).steps schedule).Reached :=
    steps_keep (P := Reached) (fun _ i hs => reached_step hs i) (reached_start plan setup) schedule
  rw [clockMs_of_reached hreached h, endMs_steps, endMs_start]

/-- at the end every worker has been busy for as long as its own client told -/
theorem wakeMs_of_isDone (plan : Plan) (setup : Nat → Setup) {schedule : List Nat}
    (h : ((start plan setup).steps schedule).isDone = true) :
    ((start plan setup).steps schedule).workers.map Worker.wakeMs =
      (workerIds plan).map fun id => (setup id).busyMs plan.requestDelay.millis plan.requestsPerClient.toNat := by
  rw [← map_endMs_start, ← map_endMs_steps _ schedule]
  exact List.map_congr_left fun w hw => (Worker.endMs_of_isDone ((isDone_iff _).1 h w hw)).symm

/-! ## Turns by the clock -/

/-- a worker that is not over, and none of those that are not wakes before it -/
structure HasTurn (s : State) (i : Nat) (w : Worker) : Prop where
  here : s.workers[i]? = some w
  goesOn : w.isDone = false
  first : ∀ v ∈ s.workers, v.isDone = false → w.wakeMs ≤ v.wakeMs

/-- a step by the clock -/
def Turn (s s' : State) : Prop := ∃ i w, s.HasTurn i w ∧ s' = s.step i

theorem earliest_le {i j wake : Nat} {ws : List Worker} (h : earliest i ws = some (j, wake)) :
    ∀ w ∈ ws, w.isDone = false → wake ≤ w.wakeMs := by
  induction ws generalizing i j wake with
  | nil => simp
  | cons w ws ih =>
    rw [List.forall_mem_cons]
    rw [earliest] at h
    cases hd : w.isDone with
    | true =>
      simp only [hd, if_true] at h
      exact ⟨by simp, ih h⟩
    | false =>
      simp only [hd, Bool.false_eq_true, if_false] at h
      cases he : earliest (i + 1) ws with
      | none =>
        simp only [he, Option.some.injEq, Prod.mk.injEq] at h
        refine ⟨fun _ => h.2.ge, fun v hv hgoes => ?_⟩
        rw [earliest_eq_none he v hv] at hgoes
        cases hgoes
      | some other =>
        obtain ⟨k, wake'⟩ := other
        have hothers := ih he
        simp only [he] at h
        split_ifs at h with hlt <;> cases h
        · exact ⟨fun _ => hlt.le, hothers⟩
        · exact ⟨fun _ => le_rfl, fun v hv hgoes => (not_lt.1 hlt).trans (hothers v hv hgoes)⟩

/-- the worker that is to go on next has its turn -/
theorem hasTurn_of_next? {s : State} {i : Nat} (h : s.next? = some i) : ∃ w, s.HasTurn i w := by
  obtain ⟨⟨j, wake⟩, he, rfl⟩ := Option.map_eq_some_iff.1 h
  obtain ⟨-, w, hw, hgoes, rfl⟩ := earliest_eq_some he
  exact ⟨w, hw, hgoes, earliest_le he⟩

theorem exists_turn {s : State} (h : s.isDone = false) : ∃ s', s.Turn s' := by
  cases hn : s.next? with
  | none =>
    have hdone := (isDone_iff s).2 (earliest_eq_none (Option.map_eq_none_iff.1 hn))
    rw [h] at hdone
    cases hdone
  | some i =>
    obtain ⟨w, hw⟩ := hasTurn_of_next? hn
    exact ⟨s.step i, i, w, hw, rfl⟩

theorem Turn.stepsLeft_lt {s s' : State} (h : s.Turn s') : s'.stepsLeft < s.stepsLeft := by
  obtain ⟨i, w, hw, rfl⟩ := h
  exact stepsLeft_step hw.here hw.goesOn

/-- a run goes from turn to turn -/
theorem turns_finish (s : State) : Relation.ReflTransGen Turn s s.finish := by
  have hdrive : ∀ fuel (s : State), Relation.ReflTransGen Turn s (drive fuel s) := by
    intro fuel
    induction fuel with
    | zero => exact fun _ => .refl
    | succ fuel ih =>
      intro s
      rw [drive]
      cases hn : s.next? with
      | none => exact .refl
      | some i =>
        obtain ⟨w, hw⟩ := hasTurn_of_next? hn
        exact .head ⟨i, w, hw, rfl⟩ (ih _)
  exact hdrive _ s

/-- no worker is late: it wakes now or later, or is over -/
def Punctual (s : State) : Prop := ∀ w ∈ s.workers, w.isDone = false → s.clockMs ≤ w.wakeMs

theorem punctual_start (plan : Plan) (setup : Nat → Setup) : (start plan setup).Punctual :=
  fun w _ _ => Nat.zero_le w.wakeMs

/-- a turn comes just when its worker wakes -/
theorem HasTurn.clockMs_step {s : State} {i : Nat} {w : Worker} (hw : s.HasTurn i w) (h : s.Punctual) :
    (s.step i).clockMs = w.wakeMs := by
  rw [State.clockMs_step hw.here]
  exact max_eq_right (h w (List.mem_of_getElem? hw.here) hw.goesOn)

theorem Punctual.turn {s s' : State} (h : s.Punctual) (ht : s.Turn s') : s'.Punctual := by
  obtain ⟨i, w, hw, rfl⟩ := ht
  obtain ⟨ws, ws', hbefore, hafter⟩ := workers_split hw.here
  intro v hv hgoes
  rw [hw.clockMs_step h]
  rw [hafter, List.mem_append, List.mem_cons] at hv
  rcases hv with hv | rfl | hv
  · exact hw.first v (by simp [hbefore, hv]) hgoes
  · exact w.moves_step.wakeMs_le
  · exact hw.first v (by simp [hbefore, hv]) hgoes

/-! ## Starting later -/

/-- a scenario, some time later -/
def later (ms : Nat) (s : State) : State :=
  { s with workers := s.workers.map (Worker.later ms), clockMs := s.clockMs + ms }

theorem isDone_later (ms : Nat) (s : State) : (s.later ms).isDone = s.isDone := by
  rw [isDone, later, List.all_map]
  rfl

theorem later_take (ms : Nat) (s : State) (e : Option Worker.Event) : (s.later ms).take e = (s.take e).later ms := by
  rcases e with _ | _ | _ <;> rfl

/-- what a scenario does later it does so much later -/
theorem step_later (ms : Nat) (s : State) (i : Nat) : (s.later ms).step i = (s.step i).later ms := by
  cases hw : s.workers[i]? with
  | none =>
    have hlater : (s.later ms).workers[i]? = none := by simp [later, hw]
    rw [step_of_none hw, step_of_none hlater]
  | some w =>
    have hlater : (s.later ms).workers[i]? = some (w.later ms) := by simp [later, hw]
    simp only [step, hw, hlater, Worker.step_later, ← later_take]
    simp [later, Worker.later, List.map_set, Nat.add_max_add_right]

theorem steps_later (ms : Nat) (s : State) (schedule : List Nat) :
    (s.later ms).steps schedule = (s.steps schedule).later ms := by
  induction schedule generalizing s with
  | nil => rfl
  | cons i schedule ih => rw [steps_cons, steps_cons, step_later, ih]

theorem HasTurn.later {s : State} {i : Nat} {w : Worker} (h : s.HasTurn i w) (ms : Nat) :
    (s.later ms).HasTurn i (w.later ms) where
  here := by simp [State.later, h.here]
  goesOn := h.goesOn
  first := by
    intro v hv hgoes
    obtain ⟨u, hu, rfl⟩ := List.mem_map.1 hv
    exact Nat.add_le_add_right (h.first u hu hgoes) ms

theorem Turn.later {s s' : State} (h : s.Turn s') (ms : Nat) : (s.later ms).Turn (s'.later ms) := by
  obtain ⟨i, w, hw, rfl⟩ := h
  exact ⟨i, w.later ms, hw.later ms, (step_later ms s i).symm⟩

theorem Punctual.later {s : State} (h : s.Punctual) (ms : Nat) : (s.later ms).Punctual := by
  intro v hv hgoes
  obtain ⟨w, hw, rfl⟩ := List.mem_map.1 hv
  exact Nat.add_le_add_right (h w hw hgoes) ms

end State

end Scenario

end LoadTrial
