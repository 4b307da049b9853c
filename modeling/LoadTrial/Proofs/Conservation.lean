/-
Conservation over a run of a scenario, whatever the order in which its workers go on.

Every worker goes on by itself (`State.workers_steps`): after any schedule it stands where as many steps of its own
have brought it. What all share is the tally. `State.settled` is the tally with every update taken in that a worker
still has before it; as updates commute, no step changes it (`settled_step`), so at the end, when nothing is pending,
the tally has counted exactly the outcomes that the clients gave (`tally_of_isDone`). That a worker will end as failed
does not change either (`failedWorkers_of_isDone`).

Main result: `run_accounts`. A schedule that gives every worker enough steps ends the scenario; so does the schedule
by the clock, which a run follows; and at every end the result accounts for every worker and every outcome.
-/
import Mathlib.Tactic
import LoadTrial.Proofs.Progress
import LoadTrial.Proofs.Tally
import LoadTrial.Run.Scenario

namespace LoadTrial.Scenario

namespace State

/-! ## Workers go on by themselves -/

theorem step_of_none {s : State} {i : Nat} (h : s.workers[i]? = none) : s.step i = s := by
  simp only [step, h]

theorem workers_step (s : State) (i : Nat) :
    (s.step i).workers = s.workers.modify i fun w => w.step.1 := by
  cases h : s.workers[i]? with
  | none => rw [step_of_none h, List.modify_eq_self (List.getElem?_eq_none_iff.1 h)]
  | some w =>
    have htake : ∀ (s : State) (e : Option Worker.Event), (s.take e).workers = s.workers := by
      rintro s (_ | _ | _) <;> rfl
    rw [List.modify_eq_set_getElem?]
    simp only [step, h, htake]
    rfl

/-- a step changes the worker at its place and no other -/
theorem workers_split {s : State} {i : Nat} {w : Worker} (h : s.workers[i]? = some w) :
    ∃ ws ws', s.workers = ws ++ w :: ws' ∧ (s.step i).workers = ws ++ w.step.1 :: ws' := by
  obtain ⟨hi, hw⟩ := List.getElem?_eq_some_iff.1 h
  obtain ⟨ws, w0, ws', hws, hlen, hmod⟩ := List.exists_of_modify (fun w : Worker => w.step.1) hi
  have h0 : w0 = w := by
    subst hlen
    simpa [hws] using hw
  subst h0
  exact ⟨ws, ws', hws, (workers_step s i).trans hmod⟩

theorem tally_step {s : State} {i : Nat} {w : Worker} (h : s.workers[i]? = some w) :
    (s.step i).tally = (Worker.Event.updates w.step.2).foldl Tally.apply s.tally := by
  have htake : ∀ (s : State) (e : Option Worker.Event),
      (s.take e).tally = (Worker.Event.updates e).foldl Tally.apply s.tally := by
    rintro s (_ | _ | _) <;> rfl
  simp only [step, h, htake]

theorem steps_cons (s : State) (i : Nat) (schedule : List Nat) : s.steps (i :: schedule) = (s.step i).steps schedule :=
  rfl

/-- what every step keeps, all steps keep -/
theorem steps_keep {P : State → Prop} (hstep : ∀ s i, P s → P (s.step i)) {s : State} (h : P s)
    (schedule : List Nat) : P (s.steps schedule) := by
  induction schedule generalizing s with
  | nil => exact h
  | cons i schedule ih => exact ih (hstep s i h)

/-- what no worker's step changes of a worker, no steps change of any -/
theorem map_steps {α : Type} {f : Worker → α} (hf : ∀ w : Worker, f w.step.1 = f w) (s : State)
    (schedule : List Nat) : (s.steps schedule).workers.map f = s.workers.map f := by
  refine steps_keep (P := fun t => t.workers.map f = s.workers.map f) (fun t i ht => ?_) rfl schedule
  rw [← ht]
  cases hw : t.workers[i]? with
  | none => rw [step_of_none hw]
  | some w =>
    obtain ⟨ws, ws', hbefore, hafter⟩ := workers_split hw
    simp only [hbefore, hafter, List.map_append, List.map_cons, hf]

/-- a worker stands where the steps that were its own have brought it -/
theorem workers_steps (s : State) (schedule : List Nat) (i : Nat) :
    (s.steps schedule).workers[i]? = s.workers[i]?.map (Worker.advance (schedule.count i)) := by
  induction schedule generalizing s with
  | nil => simp [steps, Worker.advance]
  | cons j schedule ih =>
    rw [steps_cons, ih, workers_step, List.getElem?_modify, List.count_cons]
    by_cases h : j = i
    · subst h
      simp [Worker.advance, Function.comp_def]
    · simp [h]

theorem isDone_iff (s : State) : s.isDone = true ↔ ∀ w ∈ s.workers, w.isDone = true :=
  List.all_eq_true

/-- enough steps for every worker end the scenario, in whatever order they come -/
theorem isDone_steps {s : State} {schedule : List Nat}
    (h : ∀ i w, s.workers[i]? = some w → w.stepsLeft ≤ schedule.count i) : (s.steps schedule).isDone = true := by
  rw [isDone_iff]
  intro w' hw'
  obtain ⟨i, hi⟩ := List.mem_iff_getElem?.1 hw'
  rw [workers_steps] at hi
  obtain ⟨w, hw, rfl⟩ := Option.map_eq_some_iff.1 hi
  exact Worker.isDone_advance (h i w hw)

/-! ## What all workers share -/

/-- the tally, with every update taken in that a worker still has before it -/
def settled (s : State) : Tally :=
  (s.workers.flatMap Worker.pending).foldl Tally.apply s.tally

/-- a step moves an update from a worker to the tally, or none -/
theorem settled_step (s : State) (i : Nat) : (s.step i).settled = s.settled := by
  cases h : s.workers[i]? with
  | none => rw [step_of_none h]
  | some w =>
    obtain ⟨ws, ws', hbefore, hafter⟩ := workers_split h
    rw [settled, settled, hbefore, hafter, tally_step h, ← List.foldl_append]
    apply Tally.foldl_apply_perm
    rw [List.flatMap_append, List.flatMap_append, List.flatMap_cons, List.flatMap_cons, w.moves_step.pending_eq,
      List.append_assoc]
    exact List.perm_append_comm_assoc _ _ _

theorem settled_steps (s : State) (schedule : List Nat) : (s.steps schedule).settled = s.settled :=
  steps_keep (P := fun t => t.settled = s.settled) (fun t i ht => (settled_step t i).trans ht) rfl schedule

/-- at the end the tally has taken everything in -/
theorem tally_of_isDone {s : State} (h : s.isDone = true) : s.tally = s.settled := by
  have hnil : s.workers.flatMap Worker.pending = [] :=
    List.flatMap_eq_nil_iff.2 fun w hw => Worker.pending_of_isDone ((isDone_iff s).1 h w hw)
  rw [settled, hnil]
  rfl

theorem willFail_steps (s : State) (schedule : List Nat) :
    (s.steps schedule).workers.map Worker.willFail = s.workers.map Worker.willFail :=
  map_steps (fun w => w.moves_step.willFail_eq) s schedule

/-- at the end those workers have failed that were bound to -/
theorem failedWorkers_of_isDone {s : State} (h : s.isDone = true) :
    s.failedWorkers = s.workers.countP Worker.willFail := by
  apply List.countP_congr
  intro w hw
  rw [Worker.failed_iff_willFail ((isDone_iff s).1 h w hw)]

/-! ## The schedule by the clock -/

theorem earliest_eq_none {i : Nat} {ws : List Worker} (h : earliest i ws = none) : ∀ w ∈ ws, w.isDone = true := by
  induction ws generalizing i with
  | nil => simp
  | cons w ws ih =>
    rw [earliest] at h
    cases hd : w.isDone with
    | true =>
      simp only [hd, if_true] at h
      simpa [hd] using ih h
    | false =>
      simp only [hd, Bool.false_eq_true, if_false] at h
      split at h
      · split_ifs at h
      · cases h

theorem earliest_eq_some {i j wake : Nat} {ws : List Worker} (h : earliest i ws = some (j, wake)) :
    i ≤ j ∧ ∃ w, ws[j - i]? = some w ∧ w.isDone = false ∧ w.wakeMs = wake := by
  induction ws generalizing i with
  | nil => cases h
  | cons w ws ih =>
    have hlater : earliest (i + 1) ws = some (j, wake) →
        i ≤ j ∧ ∃ w', (w :: ws)[j - i]? = some w' ∧ w'.isDone = false ∧ w'.wakeMs = wake := by
      intro h'
      obtain ⟨hij, hw⟩ := ih h'
      have hji : j - i = j - (i + 1) + 1 := by omega
      refine ⟨by omega, ?_⟩
      rwa [hji, List.getElem?_cons_succ]
    rw [earliest] at h
    cases hd : w.isDone with
    | true =>
      simp only [hd, if_true] at h
      exact hlater h
    | false =>
      have hhere : some (i, w.wakeMs) = some (j, wake) →
          i ≤ j ∧ ∃ w', (w :: ws)[j - i]? = some w' ∧ w'.isDone = false ∧ w'.wakeMs = wake := by
        intro h'
        cases h'
        exact ⟨le_rfl, w, by simp, hd, rfl⟩
      simp only [hd, Bool.false_eq_true, if_false] at h
      split at h
      · rename_i k wake' he
        split_ifs at h
        · exact hlater (he.trans h)
        · exact hhere h
      · exact hhere h

/-- the steps left grow fewer with every step of a worker that is not over -/
theorem stepsLeft_step {s : State} {i : Nat} {w : Worker} (h : s.workers[i]? = some w) (hd : w.isDone = false) :
    (s.step i).stepsLeft < s.stepsLeft := by
  obtain ⟨ws, ws', hbefore, hafter⟩ := workers_split h
  have := w.moves_step.stepsLeft_lt hd
  rw [stepsLeft, stepsLeft, hbefore, hafter]
  simp only [List.map_append, List.map_cons, Number.total_append, Number.total_cons]
  omega

/-- going on by the clock follows some schedule, to the end if enough steps may be taken -/
theorem drive_eq_steps {fuel : Nat} {s : State} (h : s.stepsLeft ≤ fuel) :
    ∃ schedule, drive fuel s = s.steps schedule ∧ (drive fuel s).isDone = true := by
  induction fuel generalizing s with
  | zero =>
    refine ⟨[], rfl, ?_⟩
    rw [drive, isDone_iff]
    intro w hw
    by_contra hd
    obtain ⟨i, hi⟩ := List.mem_iff_getElem?.1 hw
    have := stepsLeft_step hi (by simpa using hd)
    omega
  | succ fuel ih =>
    rw [drive]
    cases hn : s.next? with
    | none => exact ⟨[], rfl, (isDone_iff s).2 (earliest_eq_none (Option.map_eq_none_iff.1 hn))⟩
    | some i =>
      obtain ⟨⟨j, wake⟩, he, rfl⟩ := Option.map_eq_some_iff.1 hn
      obtain ⟨-, w, hw, hd, -⟩ := earliest_eq_some he
      have := stepsLeft_step hw hd
      obtain ⟨schedule, hs, hdone⟩ := ih (s := s.step j) (by rw [Nat.sub_zero] at this; omega)
      exact ⟨j :: schedule, hs, hdone⟩

end State

/-! ## Results -/

/-- the numbers of the workers of a plan -/
def workerIds (plan : Plan) : List Nat := List.range plan.numClients.toNat

/-- the outcomes that the clients of a plan give, worker by worker -/
def outcomes (plan : Plan) (setup : Nat → Setup) : List Outcome :=
  (workerIds plan).flatMap fun id => (setup id).outcomes plan.requestsPerClient.toNat

/-- how many requests the clients of a plan answer -/
def answered (plan : Plan) (setup : Nat → Setup) : Nat :=
  Number.total ((workerIds plan).map fun id => (setup id).answered plan.requestsPerClient.toNat)

theorem length_outcomes (plan : Plan) (setup : Nat → Setup) :
    (outcomes plan setup).length = answered plan setup := by
  rw [outcomes, Number.length_flatMap, answered]
  simp only [Setup.length_outcomes]

theorem answered_le (plan : Plan) (setup : Nat → Setup) :
    answered plan setup ≤ plan.numClients.toNat * plan.requestsPerClient.toNat := by
  have h := Number.total_map_le (fun id => (setup id).answered_le plan.requestsPerClient.toNat) (workerIds plan)
  rwa [workerIds, List.length_range] at h

/-- a result that accounts for every worker of a plan, and for every outcome; counters have 64 bits -/
structure Result.Accounts (r : Result) (criterion : Criterion) (plan : Plan) (setup : Nat → Setup) : Prop where
  numClients : r.numClients = plan.numClients
  label : r.label = plan.label
  /-- those without a client, and those whose client broke down -/
  failedWorkers : r.failedWorkers.toNat = (workerIds plan).countP (fun id => !(setup id).hasClient) +
    (workerIds plan).countP (fun id => (setup id).breaksDown plan.requestsPerClient.toNat)
  total : r.summary.total.toNat = answered plan setup % UInt64.size
  total_exact : answered plan setup < UInt64.size → r.summary.total.toNat = answered plan setup
  summary : r.summary.Reports (outcomes plan setup)
  passed : r.passed = criterion.passes r.summary
  failedWorkers_le : r.failedWorkers ≤ r.numClients
  total_le : r.summary.total.toNat ≤ plan.numClients.toNat * plan.requestsPerClient.toNat

namespace State

theorem settled_start (plan : Plan) (setup : Nat → Setup) :
    (start plan setup).settled = Tally.empty.recordAll (outcomes plan setup) := by
  rw [Tally.recordAll_eq_foldl]
  simp [settled, start, outcomes, workerIds, List.flatMap_map, List.flatMap_assoc, Worker.pending_start]

/-- the two ways to fail exclude each other -/
theorem countP_willFail_start (plan : Plan) (setup : Nat → Setup) :
    (start plan setup).workers.countP Worker.willFail =
      (workerIds plan).countP (fun id => !(setup id).hasClient) +
        (workerIds plan).countP (fun id => (setup id).breaksDown plan.requestsPerClient.toNat) := by
  rw [start, List.countP_map, workerIds]
  induction List.range plan.numClients.toNat with
  | nil => rfl
  | cons id ids ih =>
    have hex := (setup id).breaksDown_of_not_hasClient plan.requestsPerClient.toNat
    simp only [List.countP_cons, ih, Function.comp_apply, Worker.willFail_start]
    cases hc : (setup id).hasClient with
    | true => simp; omega
    | false => simp [hex hc]; omega

/-- at the end of any schedule the tally has recorded the outcomes of all clients, worker by worker -/
theorem tally_steps_of_isDone (plan : Plan) (setup : Nat → Setup) {schedule : List Nat}
    (h : ((start plan setup).steps schedule).isDone = true) :
    ((start plan setup).steps schedule).tally = Tally.empty.recordAll (outcomes plan setup) := by
  rw [tally_of_isDone h, settled_steps, settled_start]

/-- at the end of any schedule those workers have failed that were bound to before the first step -/
theorem failedWorkers_steps_of_isDone (plan : Plan) (setup : Nat → Setup) {schedule : List Nat}
    (h : ((start plan setup).steps schedule).isDone = true) :
    ((start plan setup).steps schedule).failedWorkers = (start plan setup).workers.countP Worker.willFail := by
  have hmap := congrArg (List.countP id) (willFail_steps (start plan setup) schedule)
  rw [List.countP_map, List.countP_map] at hmap
  rw [failedWorkers_of_isDone h]
  exact hmap

/-- at the end of any schedule the result accounts for everything -/
theorem result_accounts (criterion : Criterion) (runId : RunId) (plan : Plan) (setup : Nat → Setup)
    {schedule : List Nat} (h : ((start plan setup).steps schedule).isDone = true) :
    (((start plan setup).steps schedule).result criterion runId plan).Accounts criterion plan setup := by
  have htally := tally_steps_of_isDone plan setup h
  have hfailed := (failedWorkers_steps_of_isDone plan setup h).trans (countP_willFail_start plan setup)
  set s := (start plan setup).steps schedule with hs
  have hsummary : (s.result criterion runId plan).summary.Reports (outcomes plan setup) := by
    have hcounts := Tally.counts_recordAll Tally.counts_empty (outcomes plan setup)
    rw [List.nil_append, ← htally] at hcounts
    exact hcounts.reports _ _
  have hle : s.failedWorkers ≤ plan.numClients.toNat := by
    have hmap := congrArg List.length (willFail_steps (start plan setup) schedule)
    rw [List.length_map, List.length_map, start, List.length_map, List.length_range] at hmap
    exact List.countP_le_length.trans_eq hmap
  have hfailed64 : (s.result criterion runId plan).failedWorkers.toNat = s.failedWorkers :=
    UInt64.toNat_ofNat_of_lt' (lt_of_le_of_lt hle plan.numClients.toNat_lt_size)
  have htotal : (s.result criterion runId plan).summary.total.toNat = answered plan setup % UInt64.size := by
    rw [hsummary.total, length_outcomes]
    exact UInt64.toNat_ofNat'
  constructor
  case numClients => rfl
  case label => rfl
  case failedWorkers => rw [hfailed64, hfailed]
  case total => exact htotal
  case total_exact => exact fun hlt => htotal.trans (Nat.mod_eq_of_lt hlt)
  case summary => exact hsummary
  case passed => rfl
  case failedWorkers_le => exact UInt64.le_iff_toNat_le.2 (hfailed64.trans_le hle)
  case total_le => exact htotal.trans_le ((Nat.mod_le _ _).trans (answered_le plan setup))

/-- the schedule by the clock, which a run follows, brings it to its end -/
theorem finish_eq_steps (s : State) : ∃ schedule, s.finish = s.steps schedule ∧ s.finish.isDone = true :=
  drive_eq_steps le_rfl

/-- as many steps of every worker as its requests take end the scenario -/
theorem isDone_of_fair (plan : Plan) (setup : Nat → Setup) {schedule : List Nat}
    (h : ∀ id < plan.numClients.toNat, 7 * plan.requestsPerClient.toNat + 1 ≤ schedule.count id) :
    ((start plan setup).steps schedule).isDone = true := by
  apply isDone_steps
  intro i w hw
  rw [start, List.getElem?_map] at hw
  obtain ⟨id, hid, rfl⟩ := Option.map_eq_some_iff.1 hw
  obtain ⟨hlt, rfl⟩ := List.getElem?_eq_some_iff.1 hid
  rw [List.length_range] at hlt
  exact (Worker.stepsLeft_start_le ..).trans (h i hlt)

end State

/-- **Conservation over a scenario.** Whatever the order of the workers' steps, the scenario ends once every worker
has made the steps that its requests take; a run ends; and at every end the result accounts for everything. -/
theorem run_accounts (criterion : Criterion) (runId : RunId) (plan : Plan) (setup : Nat → Setup) :
    (∀ schedule : List Nat,
      (∀ id < plan.numClients.toNat, 7 * plan.requestsPerClient.toNat + 1 ≤ schedule.count id) →
        ((State.start plan setup).steps schedule).isDone = true) ∧
    (∀ schedule : List Nat, ((State.start plan setup).steps schedule).isDone = true →
      (((State.start plan setup).steps schedule).result criterion runId plan).Accounts criterion plan setup) ∧
    (∃ schedule : List Nat, (run criterion runId setup plan).state = (State.start plan setup).steps schedule ∧
      (run criterion runId setup plan).state.isDone = true) ∧
    (run criterion runId setup plan).result.Accounts criterion plan setup := by
  obtain ⟨schedule, hs, hdone⟩ := (State.start plan setup).finish_eq_steps
  have hresult := fun schedule => @State.result_accounts criterion runId plan setup schedule
  refine ⟨fun _ h => State.isDone_of_fair plan setup h, fun schedule h => hresult schedule h,
    ⟨schedule, hs, hdone⟩, ?_⟩
  show ((State.start plan setup).finish.result criterion runId plan).Accounts criterion plan setup
  rw [hs] at hdone ⊢
  exact hresult schedule hdone

/-- three workers with two requests each -/
def threeWorkers : Plan where
  label := "three"
  coordinatorUrl := "http://localhost"
  trust := {}
  coordinatorId := "id"
  payload := {}
  numClients := 3
  requestsPerClient := 2
  requestDelay := .zero
  requestTimeout := .zero
  connectionPoolSize := 1

/-- no client, one that breaks down on its second request, and one that runs out of time -/
def mixedSetup : Nat → Setup
  | 0 => .failure (.tls "no certificate")
  | 1 => .client fun n => if n = 1 then .breakdown else .answer ⟨true, 5, false⟩ 5
  | _ => .client fun _ => .answer ⟨false, 9, true⟩ 9

theorem threeWorkers_account :
    let schedule := (List.replicate 15 [2, 0, 1]).flatten
    let r := ((State.start threeWorkers mixedSetup).steps schedule).result {} ⟨0⟩ threeWorkers
    (∀ id < threeWorkers.numClients.toNat, 7 * threeWorkers.requestsPerClient.toNat + 1 ≤ schedule.count id) ∧
      ((State.start threeWorkers mixedSetup).steps schedule).isDone = true ∧
      r.failedWorkers.toNat = 2 ∧ r.summary.total.toNat = 3 ∧ r.summary.timedOut = 2 := by
  intro schedule r
  obtain ⟨hends, haccounts, -⟩ := run_accounts {} ⟨0⟩ threeWorkers mixedSetup
  have hfair : ∀ id < threeWorkers.numClients.toNat,
      7 * threeWorkers.requestsPerClient.toNat + 1 ≤ schedule.count id := by decide
  have hdone := hends schedule hfair
  have hr := haccounts schedule hdone
  exact ⟨hfair, hdone, hr.failedWorkers.trans (by decide), hr.total_exact (by decide) |>.trans (by decide),
    hr.summary.timedOut.trans (by decide)⟩

end LoadTrial.Scenario
