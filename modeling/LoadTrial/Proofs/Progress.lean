/-
How far a worker comes, told without steps, and what its steps have to do with it.

A client breaks down on one of its requests at most (`Client.breakdownAt?`); the requests before that one are
answered, or all of them if there is none. `Worker.pending` are the updates that a worker will still make if nothing
stops it but its own client. `Worker.Moves` lists all that a step can do, and every fact about steps is one about its
cases: a step takes at most one update off the front of the pending ones, and that is the update others see
(`Moves.pending_eq`); whether the worker will end as failed never changes (`Moves.willFail_eq`). After as many steps
as it has before it a worker is over (`isDone_advance`).
-/
import Mathlib.Tactic
import LoadTrial.Run.Worker

namespace LoadTrial

/-! ## Clients -/

/-- the outcome in an answer -/
def Reply.outcome? : Reply → Option Outcome
  | .answer outcome _ => some outcome
  | .breakdown => none

namespace Client

/-- the first of some requests on which a client breaks down -/
def breakdownAt? (client : Client) (quota : Nat) : Option Nat :=
  (List.range quota).find? fun n => client n = .breakdown

/-- how many of its requests a client answers: those before the one on which it breaks down, or all -/
def answered (client : Client) (quota : Nat) : Nat :=
  (client.breakdownAt? quota).getD quota

/-- the outcomes of the requests that a client answers, in order -/
def outcomes (client : Client) (quota : Nat) : List Outcome :=
  (List.range (client.answered quota)).filterMap fun n => (client n).outcome?

/-- the client as it is after some requests -/
def after (client : Client) (issued : Nat) : Client := fun n => client (issued + n)

theorem after_zero (client : Client) : client.after 0 = client := by
  funext n
  simp only [after, Nat.zero_add]

theorem after_succ (client : Client) (issued : Nat) : (client.after issued).after 1 = client.after (issued + 1) := by
  funext n
  simp only [after, Nat.add_assoc]

theorem breakdownAt?_succ (client : Client) (quota : Nat) :
    client.breakdownAt? (quota + 1) =
      if client 0 = .breakdown then some 0 else ((client.after 1).breakdownAt? quota).map (· + 1) := by
  rw [breakdownAt?, List.range_succ_eq_map, List.find?_cons]
  by_cases h : client 0 = .breakdown
  · simp [h]
  · simp [h, breakdownAt?, List.find?_map, after, Nat.add_comm]

theorem answered_succ (client : Client) (quota : Nat) :
    client.answered (quota + 1) = if client 0 = .breakdown then 0 else (client.after 1).answered quota + 1 := by
  rw [answered, breakdownAt?_succ]
  split_ifs
  · rfl
  · cases h : (client.after 1).breakdownAt? quota <;> simp [answered, h]

theorem answered_le (client : Client) (quota : Nat) : client.answered quota ≤ quota := by
  induction quota generalizing client with
  | zero => rfl
  | succ quota ih =>
    rw [answered_succ]
    split_ifs
    · exact Nat.zero_le _
    · exact Nat.succ_le_succ (ih _)

theorem outcomes_zero (client : Client) : client.outcomes 0 = [] := rfl

theorem outcomes_succ_of_answer {client : Client} {outcome : Outcome} {afterMs : Nat}
    (h : client 0 = .answer outcome afterMs) (quota : Nat) :
    client.outcomes (quota + 1) = outcome :: (client.after 1).outcomes quota := by
  have hne : ¬ client 0 = .breakdown := by rw [h]; simp
  rw [outcomes, answered_succ, if_neg hne, List.range_succ_eq_map, List.filterMap_cons, h]
  simp [Reply.outcome?, outcomes, List.filterMap_map, after, Nat.add_comm]

theorem outcomes_succ_of_breakdown {client : Client} (h : client 0 = .breakdown) (quota : Nat) :
    client.outcomes (quota + 1) = [] := by
  rw [outcomes, answered_succ, if_pos h]
  rfl

/-- there is an outcome for every answer -/
theorem length_outcomes (client : Client) (quota : Nat) : (client.outcomes quota).length = client.answered quota := by
  induction quota generalizing client with
  | zero => rfl
  | succ quota ih =>
    cases h : client 0 with
    | answer outcome afterMs =>
      rw [outcomes_succ_of_answer h, List.length_cons, ih, answered_succ, if_neg (by rw [h]; simp)]
    | breakdown => rw [outcomes_succ_of_breakdown h, answered_succ, if_pos h, List.length_nil]

/-- whether a client breaks down on one of some requests -/
def breaksDown (client : Client) (quota : Nat) : Bool :=
  (client.breakdownAt? quota).isSome

theorem breaksDown_succ (client : Client) (quota : Nat) :
    client.breaksDown (quota + 1) = (client 0 = .breakdown || (client.after 1).breaksDown quota) := by
  rw [breaksDown, breakdownAt?_succ]
  by_cases h : client 0 = .breakdown <;> simp [h, breaksDown]

end Client

/-! ## Setups -/

namespace Setup

/-- there is a client -/
def hasClient : Setup → Bool
  | .client _ => true
  | .failure _ => false
  | .breakdown => false

/-- there is a client, and it breaks down on one of its requests -/
def breaksDown (quota : Nat) : Setup → Bool
  | .client c => c.breaksDown quota
  | .failure _ => false
  | .breakdown => false

/-- how many requests are answered; none without a client -/
def answered (quota : Nat) : Setup → Nat
  | .client c => c.answered quota
  | .failure _ => 0
  | .breakdown => 0

/-- the outcomes of the requests that are answered -/
def outcomes (quota : Nat) : Setup → List Outcome
  | .client c => c.outcomes quota
  | .failure _ => []
  | .breakdown => []

theorem breaksDown_of_not_hasClient (quota : Nat) (setup : Setup) (h : setup.hasClient = false) :
    setup.breaksDown quota = false := by
  cases setup with
  | client c => cases h
  | _ => rfl

theorem answered_le (quota : Nat) (setup : Setup) : setup.answered quota ≤ quota := by
  cases setup with
  | client c => exact c.answered_le quota
  | _ => exact Nat.zero_le _

theorem length_outcomes (quota : Nat) (setup : Setup) : (setup.outcomes quota).length = setup.answered quota := by
  cases setup with
  | client c => exact c.length_outcomes quota
  | _ => rfl

end Setup

/-! ## Workers -/

namespace Worker

/-- the outcomes of the requests that a worker has not issued yet -/
def outcomesToCome (w : Worker) : List Outcome :=
  (w.client.after w.issued).outcomes (w.quota - w.issued)

/-- the updates that a worker has not made yet -/
def pending (w : Worker) : List Tally.Update :=
  match w.phase with
  | .ready => w.outcomesToCome.flatMap Tally.updates
  | .recording us => us ++ w.outcomesToCome.flatMap Tally.updates
  | .completed => []
  | .failed => []

/-- whether a worker has failed or is bound to -/
def willFail (w : Worker) : Bool :=
  match w.phase with
  | .ready => (w.client.after w.issued).breaksDown (w.quota - w.issued)
  | .recording _ => (w.client.after w.issued).breaksDown (w.quota - w.issued)
  | .completed => false
  | .failed => true

/-- the updates in an event -/
def Event.updates : Option Event → List Tally.Update
  | some (.update u) => [u]
  | some (.request _) => []
  | none => []

/-- the requests in an event -/
def Event.requests : Option Event → List String
  | some (.request id) => [id]
  | some (.update _) => []
  | none => []

theorem pending_start (id quota pauseMs : Nat) (setup : Setup) :
    (start id quota pauseMs setup).pending = (setup.outcomes quota).flatMap Tally.updates := by
  cases setup with
  | client c => simp [start, pending, outcomesToCome, Client.after_zero, Setup.outcomes]
  | _ => rfl

theorem willFail_start (id quota pauseMs : Nat) (setup : Setup) :
    (start id quota pauseMs setup).willFail = (!setup.hasClient || setup.breaksDown quota) := by
  cases setup with
  | client c => simp [start, willFail, Client.after_zero, Setup.breaksDown, Setup.hasClient]
  | _ => rfl

/-! ## One step -/

/-- all that a step can do -/
inductive Moves (w : Worker) : Worker → Option Event → Prop
  | complete (hp : w.phase = .ready) (hq : w.quota ≤ w.issued) : w.Moves { w with phase := .completed } none
  | answer {outcome : Outcome} {afterMs : Nat} (hp : w.phase = .ready) (hq : w.issued < w.quota)
      (hc : w.client w.issued = .answer outcome afterMs) :
      w.Moves { w with
        issued := w.issued + 1
        phase := .recording (Tally.updates outcome)
        wakeMs := w.wakeMs + afterMs } (some (.request (requestId w.id w.issued)))
  | breakDown (hp : w.phase = .ready) (hq : w.issued < w.quota) (hc : w.client w.issued = .breakdown) :
      w.Moves { w with issued := w.issued + 1, phase := .failed } (some (.request (requestId w.id w.issued)))
  | record {u : Tally.Update} {us : List Tally.Update} (hp : w.phase = .recording (u :: us)) :
      w.Moves { w with phase := .recording us } (some (.update u))
  | goOn (hp : w.phase = .recording []) :
      w.Moves { w with
        phase := .ready
        wakeMs := if w.issued < w.quota then w.wakeMs + w.pauseMs else w.wakeMs } none
  | rest (hd : w.isDone = true) : w.Moves w none

theorem moves_step (w : Worker) : w.Moves w.step.1 w.step.2 := by
  unfold step
  split
  case h_1 hp =>
    split_ifs with hq
    · exact .complete hp hq
    · split
      case h_1 outcome afterMs hc => exact .answer hp (Nat.lt_of_not_le hq) hc
      case h_2 hc => exact .breakDown hp (Nat.lt_of_not_le hq) hc
  case h_2 u us hp => exact .record hp
  case h_3 hp => exact .goOn hp
  case h_4 hp => exact .rest (by simp [isDone, hp])
  case h_5 hp => exact .rest (by simp [isDone, hp])

/-- in front of a request there is one more than behind it -/
theorem quota_sub_issued {w : Worker} (hq : w.issued < w.quota) :
    w.quota - w.issued = w.quota - (w.issued + 1) + 1 := by
  omega

/-- a step makes the first of the pending updates, or leaves them all pending -/
theorem Moves.pending_eq {w w' : Worker} {e : Option Event} (h : w.Moves w' e) :
    w.pending = Event.updates e ++ w'.pending := by
  cases h with
  | complete hp hq =>
    simp [pending, hp, outcomesToCome, Nat.sub_eq_zero_of_le hq, Client.outcomes_zero, Event.updates]
  | @answer outcome afterMs hp hq hc =>
    have h0 : w.client.after w.issued 0 = .answer outcome afterMs := hc
    simp [pending, hp, outcomesToCome, Event.updates, quota_sub_issued hq, Client.after_succ,
      Client.outcomes_succ_of_answer h0]
  | breakDown hp hq hc =>
    have h0 : w.client.after w.issued 0 = .breakdown := hc
    simp [pending, hp, outcomesToCome, Event.updates, quota_sub_issued hq, Client.outcomes_succ_of_breakdown h0]
  | record hp => simp [pending, hp, Event.updates, outcomesToCome]
  | goOn hp => simp [pending, hp, Event.updates, outcomesToCome]
  | rest hd => rfl

/-- a step decides nothing about whether the worker will fail -/
theorem Moves.willFail_eq {w w' : Worker} {e : Option Event} (h : w.Moves w' e) : w'.willFail = w.willFail := by
  cases h with
  | complete hp hq =>
    have hnone : (w.client.after w.issued).breaksDown 0 = false := rfl
    simp [willFail, hp, Nat.sub_eq_zero_of_le hq, hnone]
  | answer hp hq hc =>
    have h0 : ¬ (w.client.after w.issued) 0 = .breakdown := by simp [Client.after, hc]
    simp [willFail, hp, quota_sub_issued hq, Client.breaksDown_succ, h0, Client.after_succ]
  | breakDown hp hq hc =>
    have h0 : (w.client.after w.issued) 0 = .breakdown := by simp [Client.after, hc]
    simp [willFail, hp, quota_sub_issued hq, Client.breaksDown_succ, h0]
  | record hp => simp [willFail, hp]
  | goOn hp => simp [willFail, hp]
  | rest hd => rfl

/-- a step that is not the end uses up at least one of the steps before it -/
theorem Moves.stepsLeft_lt {w w' : Worker} {e : Option Event} (h : w.Moves w' e) (hd : w.isDone = false) :
    w'.stepsLeft < w.stepsLeft := by
  cases h with
  | complete hp hq => simp [stepsLeft, hp]
  | answer hp hq hc =>
    simp only [stepsLeft, hp, Tally.updates, List.length_cons, List.length_nil]
    omega
  | breakDown hp hq hc => simp [stepsLeft, hp]
  | record hp => simp [stepsLeft, hp]
  | goOn hp => simp [stepsLeft, hp]
  | rest hd' => rw [hd] at hd'; cases hd'

/-- a worker that is over has nothing pending -/
theorem pending_of_isDone {w : Worker} (h : w.isDone = true) : w.pending = [] := by
  unfold isDone at h
  cases hp : w.phase <;> simp_all [pending]

/-- a worker that is over has failed if and only if it was bound to -/
theorem failed_iff_willFail {w : Worker} (h : w.isDone = true) : (w.phase == .failed) = w.willFail := by
  unfold isDone at h
  cases hp : w.phase <;> simp_all [willFail]

/-! ## Several steps -/

/-- a worker after a number of steps -/
def advance : Nat → Worker → Worker
  | 0, w => w
  | n + 1, w => advance n w.step.1

theorem step_of_isDone {w : Worker} (h : w.isDone = true) : w.step = (w, none) := by
  unfold isDone at h
  unfold step
  cases hp : w.phase <;> simp_all

theorem advance_of_isDone {w : Worker} (h : w.isDone = true) (n : Nat) : advance n w = w := by
  induction n with
  | zero => rfl
  | succ n ih => rwa [advance, step_of_isDone h]

/-- a worker is over after the steps before it -/
theorem isDone_advance {w : Worker} {n : Nat} (h : w.stepsLeft ≤ n) : (advance n w).isDone = true := by
  induction n generalizing w with
  | zero =>
    rw [advance]
    by_contra hd
    have := w.moves_step.stepsLeft_lt (by simpa using hd)
    omega
  | succ n ih =>
    cases hd : w.isDone with
    | true => rwa [advance_of_isDone hd]
    | false =>
      have := w.moves_step.stepsLeft_lt hd
      exact ih (by omega)

/-- a request takes seven steps: to be issued, to make five updates, and to go on -/
theorem stepsLeft_start_le (id quota pauseMs : Nat) (setup : Setup) :
    (start id quota pauseMs setup).stepsLeft ≤ 7 * quota + 1 := by
  cases setup <;> simp [start, stepsLeft]

end Worker

end LoadTrial
