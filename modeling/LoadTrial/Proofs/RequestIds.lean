/-
The identifiers of requests are unique in a scenario.

An identifier is two decimal numbers with text between them that is no digit, so it can be taken apart again
(`Worker.requestId_inj`). A worker numbers its requests from zero without a gap, and no two workers have one number;
after any steps of any workers, the requests issued are those that the workers have counted, each once
(`State.requests_perm`).

Main result: `request_ids_unique`.
-/
import Mathlib.Tactic
import LoadTrial.Proofs.Conservation

namespace LoadTrial

/-- digits end where a character is none -/
theorem Number.takeWhile_digits_append (n : Nat) {c : Char} (hc : c.isDigit = false) (cs : List Char) :
    (digits n ++ c :: cs).takeWhile Char.isDigit = digits n := by
  have hdigits : ∀ d ∈ digits n, d.isDigit = true := fun _ => isDigit_of_mem_digits
  rw [List.takeWhile_append_of_pos hdigits, List.takeWhile_cons_of_neg (by simp [hc]), List.append_nil]

namespace Worker

/-- an identifier tells the numbers in it -/
theorem requestId_inj {w s w' s' : Nat} : requestId w s = requestId w' s' ↔ w = w' ∧ s = s' := by
  constructor
  · intro h
    have hlist := congrArg String.toList h
    simp only [requestId, Number.decimal, String.toList_append, String.toList_ofList, List.append_assoc,
      List.append_cancel_left_eq] at hlist
    have hworkers : Number.digits w = Number.digits w' := by
      have hdigits := congrArg (List.takeWhile Char.isDigit) hlist
      simpa [Number.takeWhile_digits_append] using hdigits
    rw [hworkers, List.append_cancel_left_eq, List.append_cancel_left_eq] at hlist
    exact ⟨Number.digits_inj.1 hworkers, Number.digits_inj.1 hlist⟩
  · rintro ⟨rfl, rfl⟩
    rfl

theorem Moves.id_eq {w w' : Worker} {e : Option Event} (h : w.Moves w' e) : w'.id = w.id := by
  cases h <;> rfl

/-- a step issues the next request, or none -/
theorem Moves.requestIds_eq {w w' : Worker} {e : Option Event} (h : w.Moves w' e) :
    w'.requestIds = w.requestIds ++ Event.requests e := by
  cases h <;> simp [requestIds, Event.requests, List.range_succ]

/-- a worker issues no identifier twice -/
theorem nodup_requestIds (w : Worker) : w.requestIds.Nodup := by
  apply List.nodup_range.map
  intro s s' h
  exact (requestId_inj.1 h).2

/-- workers of different numbers issue different identifiers -/
theorem disjoint_requestIds {w w' : Worker} (h : w.id ≠ w'.id) : w.requestIds.Disjoint w'.requestIds := by
  intro id hid hid'
  obtain ⟨s, -, hs⟩ := List.mem_map.1 hid
  obtain ⟨s', -, hs'⟩ := List.mem_map.1 hid'
  exact h (requestId_inj.1 (hs.trans hs'.symm)).1

end Worker

namespace Scenario

namespace State

theorem requests_step {s : State} {i : Nat} {w : Worker} (h : s.workers[i]? = some w) :
    (s.step i).requests = Worker.Event.requests w.step.2 ++ s.requests := by
  have htake : ∀ (s : State) (e : Option Worker.Event), (s.take e).requests = Worker.Event.requests e ++ s.requests := by
    rintro s (_ | _ | _) <;> rfl
  simp only [step, h, htake]

/-- a step puts the request of a worker to those of all, or none -/
theorem requests_perm_step {s : State} (h : s.requests.Perm (s.workers.flatMap Worker.requestIds)) (i : Nat) :
    (s.step i).requests.Perm ((s.step i).workers.flatMap Worker.requestIds) := by
  cases hw : s.workers[i]? with
  | none => rwa [step_of_none hw]
  | some w =>
    obtain ⟨ws, ws', hbefore, hafter⟩ := workers_split hw
    rw [requests_step hw, hafter]
    rw [hbefore] at h
    simp only [List.flatMap_append, List.flatMap_cons, w.moves_step.requestIds_eq, List.append_assoc] at h ⊢
    have hmove := List.perm_append_comm_assoc (ws.flatMap Worker.requestIds ++ w.requestIds)
      (Worker.Event.requests w.step.2) (ws'.flatMap Worker.requestIds)
    simp only [List.append_assoc] at hmove
    exact (h.append_left _).trans hmove.symm

/-- after any steps, the requests issued are those that the workers have counted -/
theorem requests_perm (plan : Plan) (setup : Nat → Setup) (schedule : List Nat) :
    let s := (start plan setup).steps schedule
    s.requests.Perm (s.workers.flatMap Worker.requestIds) := by
  have hnone : (start plan setup).workers.flatMap Worker.requestIds = [] := by
    rw [List.flatMap_eq_nil_iff]
    intro w hw
    obtain ⟨id, -, rfl⟩ := List.mem_map.1 hw
    cases setup id <;> rfl
  have hstart : (start plan setup).requests.Perm ((start plan setup).workers.flatMap Worker.requestIds) := by
    rw [hnone]
    exact .nil
  exact steps_keep (P := fun s => s.requests.Perm (s.workers.flatMap Worker.requestIds))
    (fun _ i hs => requests_perm_step hs i) hstart schedule

/-- workers keep their numbers -/
theorem ids_steps (s : State) (schedule : List Nat) :
    (s.steps schedule).workers.map Worker.id = s.workers.map Worker.id :=
  map_steps (fun w => w.moves_step.id_eq) s schedule

/-- a worker has its place as its number -/
theorem ids_start (plan : Plan) (setup : Nat → Setup) :
    (start plan setup).workers.map Worker.id = List.range plan.numClients.toNat := by
  have hid : ∀ id, (Worker.start id plan.requestsPerClient.toNat plan.requestDelay.millis (setup id)).id = id := by
    intro id
    cases setup id <;> rfl
  rw [start, List.map_map]
  exact List.map_id'' hid _

theorem nodup_requests {s : State} (hids : (s.workers.map Worker.id).Nodup)
    (hrequests : s.requests.Perm (s.workers.flatMap Worker.requestIds)) : s.requests.Nodup := by
  rw [hrequests.nodup_iff, List.nodup_flatMap]
  refine ⟨fun w _ => w.nodup_requestIds, ?_⟩
  have hdistinct : s.workers.Pairwise fun w w' => w.id ≠ w'.id := List.pairwise_map.1 hids
  exact hdistinct.imp Worker.disjoint_requestIds

theorem nodup_requests_steps (plan : Plan) (setup : Nat → Setup) (schedule : List Nat) :
    ((start plan setup).steps schedule).requests.Nodup := by
  apply nodup_requests _ (requests_perm plan setup schedule)
  rw [ids_steps, ids_start]
  exact List.nodup_range

end State

/-- **Identifiers are unique.** No two requests of a scenario have one identifier, whatever becomes of its clients and
in whatever order its workers go on. The identifiers are those that the workers, numbered from zero on, give to their
requests from zero on, and one of them tells its worker and its number. -/
theorem request_ids_unique (plan : Plan) (setup : Nat → Setup) :
    (∀ w s w' s' : Nat, Worker.requestId w s = Worker.requestId w' s' ↔ w = w' ∧ s = s') ∧
    (∀ schedule : List Nat,
      ((State.start plan setup).steps schedule).requests.Nodup ∧
      ((State.start plan setup).steps schedule).requests.Perm
        (((State.start plan setup).steps schedule).workers.flatMap Worker.requestIds) ∧
      ((State.start plan setup).steps schedule).workers.map Worker.id = List.range plan.numClients.toNat) ∧
    ∀ (criterion : Criterion) (runId : RunId), (run criterion runId setup plan).state.requests.Nodup := by
  refine ⟨fun _ _ _ _ => Worker.requestId_inj, fun schedule => ⟨?_, ?_, ?_⟩, fun criterion runId => ?_⟩
  · exact State.nodup_requests_steps plan setup schedule
  · exact State.requests_perm plan setup schedule
  · exact (State.ids_steps _ schedule).trans (State.ids_start plan setup)
  · obtain ⟨schedule, hs, -⟩ := (State.start plan setup).finish_eq_steps
    rw [run, hs]
    exact State.nodup_requests_steps plan setup schedule

end Scenario

end LoadTrial
