/-
Workers. A worker issues its requests one after the other: it waits for the answer to a request, records the
outcome, and pauses before the next request, but not after the last. One step of a worker is one action that
others can tell apart: issuing a request, updating one counter, or going on.
-/
import LoadTrial.Failure
import LoadTrial.Number.Natural
import LoadTrial.Tally

namespace LoadTrial

/-- what a client does with one request -/
inductive Reply where
  /-- it answers after some milliseconds -/
  | answer (outcome : Outcome) (afterMs : Nat)
  | breakdown
  deriving DecidableEq, Repr

/-- a client, by what it does with the request of each number -/
abbrev Client := Nat → Reply

/-- what comes of setting up a client -/
inductive Setup where
  | client (client : Client)
  | failure (failure : Failure)
  | breakdown

/-- where a worker stands -/
inductive Worker.Phase where
  /-- in front of its next request, or of its end -/
  | ready
  /-- with an outcome of which these updates are left to make -/
  | recording (updates : List Tally.Update)
  | completed
  /-- without a client, or with one that broke down -/
  | failed
  deriving DecidableEq, Repr

structure Worker where
  id : Nat
  client : Client
  /-- how many requests it is to issue -/
  quota : Nat
  /-- the pause between two requests, in milliseconds -/
  pauseMs : Nat
  /-- how many requests it has issued; they are numbered from zero -/
  issued : Nat := 0
  phase : Worker.Phase := .ready
  /-- the time at which it goes on, in milliseconds -/
  wakeMs : Nat := 0

namespace Worker

/-- the identifier of a request: the worker's number, and the request's own -/
def requestId (worker sequence : Nat) : String :=
  "client_" ++ Number.decimal worker ++ "_req_" ++ Number.decimal sequence

/-- a worker before its first step -/
def start (id quota pauseMs : Nat) : Setup → Worker
  | .client client => { id, client, quota, pauseMs }
  | .failure _ => { id, client := fun _ => .breakdown, quota, pauseMs, phase := .failed }
  | .breakdown => { id, client := fun _ => .breakdown, quota, pauseMs, phase := .failed }

def isDone (w : Worker) : Bool :=
  w.phase == .completed || w.phase == .failed

/-- what a worker that is over gives back: how many requests it issued, or nothing if it failed -/
def result? (w : Worker) : Option Nat :=
  if w.phase == .completed then some w.quota else none

/-- what others can tell of a step -/
inductive Event where
  | request (id : String)
  | update (u : Tally.Update)
  deriving DecidableEq, Repr

/-- one step of a worker; it is over when it has issued its last request and recorded the outcome -/
def step (w : Worker) : Worker × Option Event :=
  match w.phase with
  | .ready =>
    if w.quota ≤ w.issued then ({ w with phase := .completed }, none)
    else
      let event := some (.request (requestId w.id w.issued))
      match w.client w.issued with
      | .answer outcome afterMs =>
        ({ w with
            issued := w.issued + 1
            phase := .recording (Tally.updates outcome)
            wakeMs := w.wakeMs + afterMs }, event)
      | .breakdown => ({ w with issued := w.issued + 1, phase := .failed }, event)
  | .recording (u :: us) => ({ w with phase := .recording us }, some (.update u))
  | .recording [] =>
    ({ w with phase := .ready, wakeMs := if w.issued < w.quota then w.wakeMs + w.pauseMs else w.wakeMs }, none)
  | .completed => (w, none)
  | .failed => (w, none)

/-- how many steps a worker has before it, if its client does not break down -/
def stepsLeft (w : Worker) : Nat :=
  match w.phase with
  | .ready => 7 * (w.quota - w.issued) + 1
  | .recording us => us.length + 7 * (w.quota - w.issued) + 2
  | .completed => 0
  | .failed => 0

/-- the identifiers of the requests it has issued, in order -/
def requestIds (w : Worker) : List String :=
  (List.range w.issued).map (requestId w.id)

end Worker

end LoadTrial
