/-
A worker as the loop over its requests.

`Client.course` tells the loop without steps: issue a request, record the outcome when the answer comes, pause if there
is a request left, and go on; it lists all that others can tell of the worker, with the times, and says when it ends and
how. A step of a worker does the first of what its course has in it and leaves the rest (`Worker.Moves.course_eq`), so
the steps of a worker that is over made up its course (`Worker.history_of_isDone`), whatever others did meanwhile.

The course in closed form: if a client answers some requests, each of them is issued as many pauses after the start as
there were requests before it, plus the time their answers took (`Client.sentAtMs`), and it is recorded when its answer
comes (`Client.exchange`); the pause behind the last request is left out (`Client.busyMs`).

Main result: `Worker.loop_runs`.
-/
import Mathlib.Tactic
import LoadTrial.Proofs.Progress
import LoadTrial.Proofs.Tally

namespace LoadTrial

/-! ## The loop -/

/-- what a worker does from a point on: what others can tell of it, with the times, its end, and how it ends -/
structure Worker.Course where
  events : List (Nat × Worker.Event)
  endMs : Nat
  completed : Bool

/-- a course behind other events -/
def Worker.Course.behind (c : Course) (events : List (Nat × Worker.Event)) : Course :=
  { c with events := events ++ c.events }

theorem Worker.Course.behind_nil (c : Course) : c.behind [] = c := rfl

theorem Worker.Course.behind_behind (c : Course) (es es' : List (Nat × Worker.Event)) :
    (c.behind es).behind es' = c.behind (es' ++ es) := by
  simp only [behind, List.append_assoc]

/-- the updates that record an outcome, at a time -/
def Outcome.recordedAt (ms : Nat) (o : Outcome) : List (Nat × Worker.Event) :=
  (Tally.updates o).map fun u => (ms, .update u)

/-- the loop of a worker in front of its request `next`, with some requests left, from a time on -/
def Client.course (client : Client) (id pauseMs : Nat) : (left next clock : Nat) → Worker.Course
  | 0, _, clock => ⟨[], clock, true⟩
  | left + 1, next, clock =>
    let request := (clock, .request (Worker.requestId id next))
    match client next with
    | .breakdown => ⟨[request], clock, false⟩
    | .answer outcome afterMs =>
      let answered := clock + afterMs
      let later := client.course id pauseMs left (next + 1) (if 0 < left then answered + pauseMs else answered)
      later.behind (request :: outcome.recordedAt answered)

namespace Worker

/-- what a worker has before it -/
def course (w : Worker) : Course :=
  match w.phase with
  | .ready => w.client.course w.id w.pauseMs (w.quota - w.issued) w.issued w.wakeMs
  | .recording us =>
    (w.client.course w.id w.pauseMs (w.quota - w.issued) w.issued
      (if 0 < w.quota - w.issued then w.wakeMs + w.pauseMs else w.wakeMs)).behind
        (us.map fun u => (w.wakeMs, .update u))
  | .completed => ⟨[], w.wakeMs, true⟩
  | .failed => ⟨[], w.wakeMs, false⟩

/-- an event with its time, if there is one -/
def Event.at (ms : Nat) : Option Event → List (Nat × Event)
  | none => []
  | some e => [(ms, e)]

/-- a step does the first of what a worker has before it, at its waking time, and leaves the rest -/
theorem Moves.course_eq {w w' : Worker} {e : Option Event} (h : w.Moves w' e) :
    w.course = w'.course.behind (Event.at w.wakeMs e) := by
  cases h with
  | complete hp hq => simp [course, hp, Nat.sub_eq_zero_of_le hq, Client.course, Event.at, Course.behind]
  | answer hp hq hc =>
    simp only [course, hp, quota_sub_issued hq, Client.course, hc, Course.behind_behind, Event.at, Outcome.recordedAt,
      List.singleton_append]
  | breakDown hp hq hc => simp [course, hp, quota_sub_issued hq, Client.course, hc, Event.at, Course.behind]
  | record hp => simp [course, hp, Event.at, Course.behind]
  | goOn hp => simp only [course, hp, Event.at, List.map_nil, Course.behind_nil, Nat.sub_pos_iff_lt]
  | rest hd => rfl

/-- what others could tell of some steps of a worker, each at the worker's waking time -/
def history : Nat → Worker → List (Nat × Event)
  | 0, _ => []
  | n + 1, w => Event.at w.wakeMs w.step.2 ++ history n w.step.1

/-- some steps made, and the course of the worker behind them -/
theorem course_advance (n : Nat) (w : Worker) : w.course = (advance n w).course.behind (history n w) := by
  induction n generalizing w with
  | zero => rfl
  | succ n ih =>
    calc w.course = w.step.1.course.behind (Event.at w.wakeMs w.step.2) := w.moves_step.course_eq
      _ = ((advance n w.step.1).course.behind (history n w.step.1)).behind (Event.at w.wakeMs w.step.2) := by rw [← ih]
      _ = (advance (n + 1) w).course.behind (history (n + 1) w) := Course.behind_behind _ _ _

theorem course_of_isDone {w : Worker} (h : w.isDone = true) : w.course = ⟨[], w.wakeMs, w.phase == .completed⟩ := by
  unfold isDone at h
  cases hp : w.phase <;> simp_all [course]

/-- the steps that brought a worker to its end made up its course -/
theorem history_of_isDone {n : Nat} {w : Worker} (h : (advance n w).isDone = true) :
    w.course = ⟨history n w, (advance n w).wakeMs, (advance n w).phase == .completed⟩ := by
  rw [course_advance n w, course_of_isDone h]
  simp [Course.behind]

end Worker

/-! ## The loop in closed form -/

/-- how long a client takes for a request; it breaks down at once -/
def Reply.takesMs : Reply → Nat
  | .answer _ afterMs => afterMs
  | .breakdown => 0

namespace Client

variable (client : Client) (id pauseMs : Nat)

/-- how long a client takes for its first requests, together -/
def waitMs (requests : Nat) : Nat := Number.total ((List.range requests).map fun n => (client n).takesMs)

/-- when a request is issued, if those before it are answered: a pause follows each of them -/
def sentAtMs (n : Nat) : Nat := client.waitMs n + n * pauseMs

/-- a request and what comes of it, with the times -/
def exchange (n : Nat) : List (Nat × Worker.Event) :=
  (client.sentAtMs pauseMs n, .request (Worker.requestId id n)) ::
    match client n with
    | .answer outcome afterMs => outcome.recordedAt (client.sentAtMs pauseMs n + afterMs)
    | .breakdown => []

/-- how long a worker is busy: up to the request on which its client breaks down, or to the last answer -/
def busyMs (quota : Nat) : Nat :=
  match client.breakdownAt? quota with
  | some k => client.sentAtMs pauseMs k
  | none => client.waitMs quota + (quota - 1) * pauseMs

theorem waitMs_succ (n : Nat) : client.waitMs (n + 1) = client.waitMs n + (client n).takesMs := by
  simp [waitMs, List.range_succ]

theorem sentAtMs_zero : client.sentAtMs pauseMs 0 = 0 := by
  simp [sentAtMs, waitMs]

variable {client id pauseMs}

/-- the next request is issued a pause after the answer to the one before it -/
theorem sentAtMs_succ {n : Nat} {outcome : Outcome} {afterMs : Nat} (h : client n = .answer outcome afterMs) :
    client.sentAtMs pauseMs (n + 1) = client.sentAtMs pauseMs n + afterMs + pauseMs := by
  rw [sentAtMs, waitMs_succ, h, sentAtMs, Reply.takesMs]
  ring

/-- requests that are answered are the beginning of the course, if there is one more behind them -/
theorem course_answered {n left : Nat} (h : ∀ i < n, client i ≠ .breakdown) (hleft : 0 < left) :
    client.course id pauseMs (n + left) 0 0 =
      (client.course id pauseMs left n (client.sentAtMs pauseMs n)).behind
        ((List.range n).flatMap (client.exchange id pauseMs)) := by
  induction n generalizing left with
  | zero =>
    rw [sentAtMs_zero, Nat.zero_add]
    rfl
  | succ n ih =>
    have hbefore := ih (fun i hi => h i (by omega)) (Nat.succ_pos left)
    rw [Nat.succ_add_eq_add_succ, hbefore, List.range_succ, List.flatMap_append, List.flatMap_singleton]
    cases hc : client n with
    | breakdown => exact absurd hc (h n (Nat.lt_succ_self n))
    | answer outcome afterMs =>
      simp only [course, hc, if_pos hleft, exchange, sentAtMs_succ hc, Worker.Course.behind_behind]

/-- all requests are answered: the course is their exchanges, and there is no pause behind the last -/
theorem course_of_answers {quota : Nat} (h : ∀ i < quota, client i ≠ .breakdown) :
    client.course id pauseMs quota 0 0 =
      ⟨(List.range quota).flatMap (client.exchange id pauseMs), client.waitMs quota + (quota - 1) * pauseMs, true⟩ := by
  cases quota with
  | zero => simp [course, waitMs]
  | succ n =>
    rw [course_answered (fun i hi => h i (by omega)) Nat.one_pos, List.range_succ, List.flatMap_append,
      List.flatMap_singleton, waitMs_succ]
    cases hc : client n with
    | breakdown => exact absurd hc (h n (Nat.lt_succ_self n))
    | answer outcome afterMs =>
      have hend : client.sentAtMs pauseMs n + afterMs = client.waitMs n + afterMs + n * pauseMs := by
        rw [sentAtMs]
        ring
      simp [course, hc, exchange, Worker.Course.behind, Reply.takesMs, hend]

/-- the first request that is not answered is the last of the course, which ends when it is issued -/
theorem course_of_breakdown {quota k : Nat} (hk : k < quota) (h : ∀ i < k, client i ≠ .breakdown)
    (hc : client k = .breakdown) :
    client.course id pauseMs quota 0 0 =
      ⟨(List.range (k + 1)).flatMap (client.exchange id pauseMs), client.sentAtMs pauseMs k, false⟩ := by
  obtain ⟨left, rfl⟩ : ∃ left, quota = k + (left + 1) := ⟨quota - (k + 1), by omega⟩
  rw [course_answered h (Nat.succ_pos left), List.range_succ, List.flatMap_append, List.flatMap_singleton]
  simp [course, hc, exchange, Worker.Course.behind]

theorem endMs_course (client : Client) (id quota pauseMs : Nat) :
    (client.course id pauseMs quota 0 0).endMs = client.busyMs pauseMs quota := by
  rw [busyMs]
  cases hb : client.breakdownAt? quota with
  | none =>
    rw [breakdownAt?, List.find?_range_eq_none] at hb
    rw [course_of_answers fun i hi => by simpa using hb i hi]
  | some k =>
    rw [breakdownAt?, List.find?_range_eq_some] at hb
    obtain ⟨hc, hk, hbefore⟩ := hb
    rw [course_of_breakdown (List.mem_range.1 hk) (fun i hi => by simpa using hbefore i hi) (by simpa using hc)]

end Client

/-! ## What a worker did -/

namespace Worker

/-- the requests among some events -/
def requestsIn (events : List (Nat × Event)) : List String :=
  events.flatMap fun e => Event.requests (some e.2)

/-- the updates among some events -/
def updatesIn (events : List (Nat × Event)) : List Tally.Update :=
  events.flatMap fun e => Event.updates (some e.2)

@[simp] theorem requestsIn_append (es es' : List (Nat × Event)) :
    requestsIn (es ++ es') = requestsIn es ++ requestsIn es' :=
  List.flatMap_append

@[simp] theorem updatesIn_append (es es' : List (Nat × Event)) :
    updatesIn (es ++ es') = updatesIn es ++ updatesIn es' :=
  List.flatMap_append

theorem requestsIn_recordedAt (ms : Nat) (o : Outcome) : requestsIn (o.recordedAt ms) = [] := rfl

theorem updatesIn_recordedAt (ms : Nat) (o : Outcome) : updatesIn (o.recordedAt ms) = Tally.updates o := rfl

theorem requestsIn_exchange (client : Client) (id pauseMs n : Nat) :
    requestsIn (client.exchange id pauseMs n) = [requestId id n] := by
  rw [Client.exchange]
  cases client n with
  | breakdown => rfl
  | answer outcome afterMs => exact congrArg (requestId id n :: ·) (requestsIn_recordedAt _ outcome)

theorem updatesIn_exchange (client : Client) (id pauseMs n : Nat) :
    updatesIn (client.exchange id pauseMs n) = (client n).outcome?.toList.flatMap Tally.updates := by
  rw [Client.exchange]
  cases client n with
  | breakdown => rfl
  | answer outcome afterMs => exact updatesIn_recordedAt _ outcome

/-- every exchange is one request -/
theorem requestsIn_exchanges (client : Client) (id pauseMs n : Nat) :
    requestsIn ((List.range n).flatMap (client.exchange id pauseMs)) = (List.range n).map (requestId id) := by
  induction n with
  | zero => rfl
  | succ n ih => simp [List.range_succ, ih, requestsIn_exchange]

/-- the updates of exchanges record the outcomes in them -/
theorem updatesIn_exchanges (client : Client) (id pauseMs n : Nat) :
    updatesIn ((List.range n).flatMap (client.exchange id pauseMs)) =
      ((List.range n).filterMap fun i => (client i).outcome?).flatMap Tally.updates := by
  induction n with
  | zero => rfl
  | succ n ih =>
    rw [List.range_succ, List.flatMap_append, updatesIn_append, ih, List.flatMap_singleton, updatesIn_exchange,
      List.filterMap_append, List.flatMap_append]
    cases hc : (client n).outcome? <;> simp [hc]

/-- after some steps a worker is over: it issued its first requests, in order and each at its time, recorded the
outcomes of those that were answered, each when its answer came, and did nothing else -/
structure Ran (w : Worker) (steps issued answered : Nat) : Prop where
  isDone : (advance steps w).isDone = true
  events : history steps w = (List.range issued).flatMap (w.client.exchange w.id w.pauseMs)
  requests : requestsIn (history steps w) = (List.range issued).map (requestId w.id)
  recorded : ∀ t : Tally, (updatesIn (history steps w)).foldl Tally.apply t =
    t.recordAll ((List.range answered).filterMap fun n => (w.client n).outcome?)

theorem ran_of_course {client : Client} {id quota pauseMs steps issued answered endMs : Nat} {completed : Bool}
    (hsteps : 7 * quota + 1 ≤ steps)
    (hcourse : client.course id pauseMs quota 0 0 =
      ⟨(List.range issued).flatMap (client.exchange id pauseMs), endMs, completed⟩)
    (hrecorded : ((List.range issued).filterMap fun n => (client n).outcome?) =
      (List.range answered).filterMap fun n => (client n).outcome?) :
    let w := start id quota pauseMs (.client client)
    w.Ran steps issued answered ∧ (advance steps w).wakeMs = endMs ∧
      ((advance steps w).phase == .completed) = completed := by
  intro w
  have hdone : (advance steps w).isDone = true := isDone_advance (by simpa [w, start, stepsLeft] using hsteps)
  have hstart : w.course = client.course id pauseMs quota 0 0 := rfl
  rw [history_of_isDone hdone, hcourse] at hstart
  obtain ⟨hevents, hend, hphase⟩ := Course.mk.inj hstart
  refine ⟨⟨hdone, hevents, ?_, fun t => ?_⟩, hend, hphase⟩
  · rw [hevents, requestsIn_exchanges]
    rfl
  · rw [hevents, updatesIn_exchanges, hrecorded, Tally.recordAll_eq_foldl]
    rfl

theorem Moves.quota_eq {w w' : Worker} {e : Option Event} (h : w.Moves w' e) : w'.quota = w.quota := by
  cases h <;> rfl

theorem quota_advance (n : Nat) (w : Worker) : (advance n w).quota = w.quota := by
  induction n generalizing w with
  | zero => rfl
  | succ n ih => rw [advance, ih, w.moves_step.quota_eq]

/-- **The loop of a worker.** Seven steps a request and one more bring a worker to its end. If its client answers all
requests, it issued every one of them, recorded every outcome, gives back their number, and took the time of the answers
and of the pauses between them. If not, it issued the requests up to the first that is not answered, recorded the
outcomes of those before it, gives nothing back, and ended when it issued that one. -/
theorem loop_runs (id quota pauseMs : Nat) (client : Client) {steps : Nat} (hsteps : 7 * quota + 1 ≤ steps) :
    let w := start id quota pauseMs (.client client)
    ((∀ n < quota, client n ≠ .breakdown) →
      w.Ran steps quota quota ∧ (advance steps w).result? = some quota ∧
        (advance steps w).wakeMs = client.waitMs quota + (quota - 1) * pauseMs) ∧
    ∀ k < quota, (∀ n < k, client n ≠ .breakdown) → client k = .breakdown →
      w.Ran steps (k + 1) k ∧ (advance steps w).result? = none ∧
        (advance steps w).wakeMs = client.waitMs k + k * pauseMs := by
  intro w
  refine ⟨fun hanswers => ?_, fun k hk hanswers hbreak => ?_⟩
  · obtain ⟨hran, hend, hphase⟩ := ran_of_course hsteps (client.course_of_answers hanswers) rfl
    refine ⟨hran, ?_, hend⟩
    rw [result?, hphase, quota_advance]
    rfl
  · have hrecorded : ((List.range (k + 1)).filterMap fun n => (client n).outcome?) =
        (List.range k).filterMap fun n => (client n).outcome? := by
      simp [List.range_succ, hbreak, Reply.outcome?]
    obtain ⟨hran, hend, hphase⟩ := ran_of_course hsteps (client.course_of_breakdown hk hanswers hbreak) hrecorded
    refine ⟨hran, ?_, hend⟩
    rw [result?, hphase]
    rfl

/-- answers after ten milliseconds more each time -/
def slowingClient : Client := fun n => .answer ⟨true, 5, false⟩ (10 * n)

/-- breaks down on its third request -/
def frailClient : Client := fun n => if n = 2 then .breakdown else .answer ⟨false, 5, true⟩ 7

theorem paced_loops :
    let slowing := start 7 3 50 (.client slowingClient)
    let frail := start 7 4 50 (.client frailClient)
    (slowing.Ran 22 3 3 ∧ requestsIn (history 22 slowing) = ["client_7_req_0", "client_7_req_1", "client_7_req_2"] ∧
      (advance 22 slowing).result? = some 3 ∧ (advance 22 slowing).wakeMs = 130) ∧
    (frail.Ran 29 3 2 ∧ (advance 29 frail).result? = none ∧ (advance 29 frail).wakeMs = 114) := by
  intro slowing frail
  obtain ⟨hanswers, -⟩ := loop_runs 7 3 50 slowingClient (by decide : 7 * 3 + 1 ≤ 22)
  obtain ⟨-, hbreaks⟩ := loop_runs 7 4 50 frailClient (by decide : 7 * 4 + 1 ≤ 29)
  obtain ⟨hran, hresult, hend⟩ := hanswers (by decide)
  obtain ⟨hran', hresult', hend'⟩ := hbreaks 2 (by decide) (by decide) rfl
  have hids : (List.range 3).map (requestId 7) = ["client_7_req_0", "client_7_req_1", "client_7_req_2"] := by
    decide +kernel
  have hslow : slowingClient.waitMs 3 + (3 - 1) * 50 = 130 := by decide
  have hfrail : frailClient.waitMs 2 + 2 * 50 = 114 := by decide
  exact ⟨⟨hran, hran.requests.trans hids, hresult, hend.trans hslow⟩, hran', hresult', hend'.trans hfrail⟩

end Worker

end LoadTrial
