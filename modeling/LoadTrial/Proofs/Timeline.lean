/-
A suite on one clock, which goes on from scenario to scenario and is never set back.

A timeline moves in three ways: the next scenario spawns its workers, all at once; a worker has its turn; or all
workers are over and are joined. Which worker has its turn is open where several wake at the same time. What holds of
every timeline (`Timeline.Sound`) is shown by what each of these moves keeps (`Timeline.Moves.sound`).

Main result: `scenarios_in_sequence`. Scenarios take as long as the busiest of their workers and follow one another
without a gap, so the suite takes the sum of their times. A timeline can go on until the suite is over, and cannot go on
forever; and the run of a suite, which starts every scenario on a clock of its own, is one of its timelines.
-/
import Mathlib.Tactic
import LoadTrial.Proofs.Clock
import LoadTrial.Run.Suite

namespace LoadTrial.Suite

open Relation

/-! ## Timelines -/

/-- a scenario of a suite, with what comes of setting up the clients of its workers -/
structure Part where
  plan : Plan
  clients : Nat → Setup

namespace Part

/-- how long its busiest worker is busy -/
def longestMs (p : Part) : Nat := Scenario.longestMs p.plan p.clients

/-- all its workers, spawned at some time -/
def spawn (p : Part) (ms : Nat) : Scenario.State := (Scenario.State.start p.plan p.clients).later ms

end Part

/-- a scenario that runs, or has run -/
structure Span where
  part : Part
  /-- when its workers were spawned -/
  startMs : Nat
  /-- how it stands, on the clock of the suite -/
  state : Scenario.State

/-- where a suite stands: between two scenarios, or in one -/
inductive Timeline.Stage where
  | between (clockMs : Nat)
  | running (span : Span)

structure Timeline where
  /-- the scenarios that were joined, in order -/
  joined : List Span
  stage : Timeline.Stage
  toCome : List Part

namespace Timeline

/-- before the first scenario -/
def start (parts : List Part) : Timeline := ⟨[], .between 0, parts⟩

/-- one step of a suite -/
inductive Moves : Timeline → Timeline → Prop where
  | spawn (joined : List Span) (clockMs : Nat) (part : Part) (toCome : List Part) :
      Moves ⟨joined, .between clockMs, part :: toCome⟩
        ⟨joined, .running ⟨part, clockMs, part.spawn clockMs⟩, toCome⟩
  | turn {joined : List Span} {part : Part} {startMs : Nat} {s s' : Scenario.State} {toCome : List Part}
      (h : s.Turn s') : Moves ⟨joined, .running ⟨part, startMs, s⟩, toCome⟩ ⟨joined, .running ⟨part, startMs, s'⟩, toCome⟩
  | join {joined : List Span} {span : Span} {toCome : List Part} (h : span.state.isDone = true) :
      Moves ⟨joined, .running span, toCome⟩ ⟨joined ++ [span], .between span.state.clockMs, toCome⟩

/-- what a suite can come to -/
def Reaches (parts : List Part) (t : Timeline) : Prop := ReflTransGen Moves (start parts) t

/-- all scenarios were joined -/
def IsOver (t : Timeline) : Prop := t.toCome = [] ∧ ∃ clockMs, t.stage = .between clockMs

/-- the clock, which goes on from scenario to scenario -/
def clockMs (t : Timeline) : Nat :=
  match t.stage with
  | .between clockMs => clockMs
  | .running span => span.state.clockMs

namespace Stage

/-- the time up to which scenarios have been joined -/
def sinceMs : Stage → Nat
  | .between clockMs => clockMs
  | .running span => span.startMs

/-- the scenario that runs, if one does -/
def parts : Stage → List Part
  | .between _ => []
  | .running span => [span.part]

end Stage

end Timeline

/-! ## What is true of every timeline -/

/-- a scenario that goes on by turns, in which no worker is late -/
structure Span.Runs (s : Span) : Prop where
  steps : ∃ schedule, s.state = (s.part.spawn s.startMs).steps schedule
  punctual : s.state.Punctual

/-- a scenario all of whose workers are over: it took as long as the busiest was busy, each having been busy for as long
as its own client told, and all outcomes are recorded -/
structure Span.Joined (s : Span) : Prop where
  isDone : s.state.isDone = true
  endMs : s.state.clockMs = s.startMs + s.part.longestMs
  workers : s.state.workers.map Worker.wakeMs = (Scenario.workerIds s.part.plan).map fun id =>
    s.startMs + (s.part.clients id).busyMs s.part.plan.requestDelay.millis s.part.plan.requestsPerClient.toNat
  tally : s.state.tally = Tally.empty.recordAll (Scenario.outcomes s.part.plan s.part.clients)

/-- each starts when the one before it ends, from one time to another -/
def Abut : Nat → List Span → Nat → Prop
  | fromMs, [], toMs => fromMs = toMs
  | fromMs, s :: ss, toMs => s.startMs = fromMs ∧ Abut s.state.clockMs ss toMs

structure Timeline.Sound (parts : List Part) (t : Timeline) : Prop where
  parts_eq : t.joined.map Span.part ++ t.stage.parts ++ t.toCome = parts
  abut : Abut 0 t.joined t.stage.sinceMs
  joined : ∀ span ∈ t.joined, span.Joined
  running : ∀ span, t.stage = .running span → span.Runs

theorem Part.runs_spawn (p : Part) (ms : Nat) : Span.Runs ⟨p, ms, p.spawn ms⟩ where
  steps := ⟨[], rfl⟩
  punctual := (Scenario.State.punctual_start p.plan p.clients).later ms

theorem Span.Runs.turn {p : Part} {ms : Nat} {s s' : Scenario.State} (h : Span.Runs ⟨p, ms, s⟩) (ht : s.Turn s') :
    Span.Runs ⟨p, ms, s'⟩ where
  steps := by
    obtain ⟨schedule, hs⟩ := h.steps
    obtain ⟨i, -, -, rfl⟩ := ht
    refine ⟨schedule ++ [i], ?_⟩
    dsimp only at hs ⊢
    rw [hs, Scenario.State.steps, Scenario.State.steps, List.foldl_append]
    rfl
  punctual := h.punctual.turn ht

theorem Span.Runs.joined {s : Span} (h : s.Runs) (hd : s.state.isDone = true) : s.Joined := by
  obtain ⟨schedule, hs⟩ := h.steps
  rw [Part.spawn, Scenario.State.steps_later] at hs
  have hdone : ((Scenario.State.start s.part.plan s.part.clients).steps schedule).isDone = true := by
    rwa [hs, Scenario.State.isDone_later] at hd
  constructor
  case isDone => exact hd
  case endMs =>
    rw [hs, Part.longestMs, ← Scenario.State.clockMs_of_isDone _ _ hdone]
    exact Nat.add_comm _ _
  case workers =>
    have hwakes := Scenario.State.wakeMs_of_isDone _ _ hdone
    have hlater := congrArg (List.map (s.startMs + ·)) hwakes
    rw [List.map_map, List.map_map] at hlater
    rw [hs, Scenario.State.later, List.map_map]
    refine Eq.trans (List.map_congr_left fun w _ => ?_) hlater
    exact Nat.add_comm _ _
  case tally =>
    rw [hs]
    exact Scenario.State.tally_steps_of_isDone _ _ hdone

theorem abut_concat {fromMs toMs : Nat} {spans : List Span} (s : Span) (h : Abut fromMs spans s.startMs)
    (hend : s.state.clockMs = toMs) : Abut fromMs (spans ++ [s]) toMs := by
  induction spans generalizing fromMs with
  | nil => exact ⟨h.symm, hend⟩
  | cons s' spans ih => exact ⟨h.1, ih h.2⟩

/-- scenarios that follow one another take the sum of their times -/
theorem Abut.toMs_eq {fromMs toMs : Nat} {spans : List Span} (h : Abut fromMs spans toMs)
    (hjoined : ∀ s ∈ spans, s.Joined) : toMs = fromMs + Number.total (spans.map fun s => s.part.longestMs) := by
  induction spans generalizing fromMs with
  | nil => exact h.symm
  | cons s spans ih =>
    rw [List.forall_mem_cons] at hjoined
    obtain ⟨rfl, hrest⟩ := h
    rw [ih hrest hjoined.2, hjoined.1.endMs, List.map_cons, Number.total_cons, Nat.add_assoc]

namespace Timeline

variable {parts : List Part} {t t' : Timeline}

theorem sound_start (parts : List Part) : (start parts).Sound parts where
  parts_eq := rfl
  abut := rfl
  joined := by simp [start]
  running := by simp [start]

theorem Moves.sound (hm : t.Moves t') (h : t.Sound parts) : t'.Sound parts := by
  cases hm with
  | spawn joined clockMs part toCome =>
    constructor
    case parts_eq => simpa [Stage.parts] using h.parts_eq
    case abut => exact h.abut
    case joined => exact h.joined
    case running =>
      rintro _ ⟨⟩
      exact part.runs_spawn clockMs
  | turn ht =>
    constructor
    case parts_eq => exact h.parts_eq
    case abut => exact h.abut
    case joined => exact h.joined
    case running =>
      rintro _ ⟨⟩
      exact (h.running _ rfl).turn ht
  | @join joined span toCome hd =>
    constructor
    case parts_eq => simpa [Stage.parts] using h.parts_eq
    case abut => exact abut_concat span h.abut rfl
    case joined =>
      intro s hs
      rcases List.mem_append.1 hs with hs | hs
      · exact h.joined s hs
      · obtain rfl := List.mem_singleton.1 hs
        exact (h.running _ rfl).joined hd
    case running => simp

theorem Reaches.sound (h : Reaches parts t) : t.Sound parts := by
  induction h with
  | refl => exact sound_start parts
  | tail _ hm ih => exact hm.sound ih

/-- at the end all scenarios were joined, and the clock shows the sum of their times -/
theorem Sound.of_isOver (h : t.Sound parts) (hover : t.IsOver) :
    t.joined.map Span.part = parts ∧ t.clockMs = Number.total (parts.map Part.longestMs) := by
  obtain ⟨joined, stage, toCome⟩ := t
  obtain ⟨rfl, clockMs, rfl⟩ := hover
  have hparts : joined.map Span.part = parts := by simpa [Stage.parts] using h.parts_eq
  refine ⟨hparts, ?_⟩
  have hclock := h.abut.toMs_eq h.joined
  rw [Nat.zero_add] at hclock
  rw [← hparts, List.map_map]
  exact hclock

/-! ## Going on -/

/-- the clock is never set back -/
theorem Moves.clockMs_le (h : t.Moves t') : t.clockMs ≤ t'.clockMs := by
  cases h with
  | spawn joined clockMs part toCome => exact Nat.le_add_left _ _
  | turn ht =>
    obtain ⟨i, w, hw, rfl⟩ := ht
    exact (le_max_left _ _).trans_eq (Scenario.State.clockMs_step hw.here).symm
  | join hd => exact le_rfl

/-- a timeline that is not over can go on -/
theorem isOver_or_moves (t : Timeline) : t.IsOver ∨ ∃ t', t.Moves t' := by
  obtain ⟨joined, stage, toCome⟩ := t
  cases stage with
  | between clockMs =>
    cases toCome with
    | nil => exact .inl ⟨rfl, clockMs, rfl⟩
    | cons part toCome => exact .inr ⟨_, .spawn joined clockMs part toCome⟩
  | running span =>
    obtain ⟨part, startMs, s⟩ := span
    cases hd : s.isDone with
    | true => exact .inr ⟨_, .join hd⟩
    | false =>
      obtain ⟨s', ht⟩ := Scenario.State.exists_turn hd
      exact .inr ⟨_, .turn ht⟩

/-- what is left to do: scenarios to come, and steps of the one that runs -/
def toDo (t : Timeline) : Nat × Nat :=
  (t.toCome.length, match t.stage with
    | .between _ => 0
    | .running span => span.state.stepsLeft + 1)

theorem Moves.toDo_lt (h : t.Moves t') : Prod.Lex (· < ·) (· < ·) t'.toDo t.toDo := by
  cases h with
  | spawn joined clockMs part toCome => exact .left _ _ (Nat.lt_succ_self _)
  | turn ht => exact .right _ (Nat.succ_lt_succ ht.stepsLeft_lt)
  | join hd => exact .right _ (Nat.succ_pos _)

/-- a timeline cannot go on forever -/
theorem wellFounded_moves : WellFounded fun t' t => Moves t t' :=
  Subrelation.wf Moves.toDo_lt (InvImage.wf toDo (WellFounded.prod_lex wellFounded_lt wellFounded_lt))

end Timeline

/-! ## Runs -/

section

variable (criterion : Criterion) (runIds : Nat → RunId) (factory : Factory)

/-- scenarios that run behind others, with the clients that they are given -/
def partsAfter (before : List Scenario.Run) : List Plan → List Part
  | [] => []
  | plan :: plans =>
    let run := Scenario.run criterion (runIds before.length) (factory before plan) plan
    ⟨plan, factory before plan⟩ :: partsAfter (before ++ [run]) plans

/-- the scenarios of a suite, with the clients that they are given in a run -/
def partsOf (plans : List Plan) : List Part := partsAfter criterion runIds factory [] plans

end

/-- a scenario that was joined is that of a run, which had a clock of its own -/
structure Span.Shows (s : Span) (r : Scenario.Run) : Prop where
  plan : s.part.plan = r.plan
  state : s.state = r.state.later s.startMs

namespace Timeline

/-- from when its workers are spawned until they are joined, a scenario is the run of it -/
theorem moves_run (joined : List Span) (clockMs : Nat) (part : Part) (toCome : List Part) :
    let span : Span := ⟨part, clockMs, (Scenario.State.start part.plan part.clients).finish.later clockMs⟩
    ReflTransGen Moves ⟨joined, .between clockMs, part :: toCome⟩
      ⟨joined ++ [span], .between span.state.clockMs, toCome⟩ := by
  intro span
  have hturns : ReflTransGen Scenario.State.Turn (part.spawn clockMs) span.state :=
    (Scenario.State.turns_finish (.start part.plan part.clients)).lift (Scenario.State.later clockMs)
      (fun _ _ ht => ht.later clockMs) _ _
  have hmoves : ReflTransGen Moves ⟨joined, .running ⟨part, clockMs, part.spawn clockMs⟩, toCome⟩
      ⟨joined, .running span, toCome⟩ :=
    hturns.lift (fun s => (⟨joined, .running ⟨part, clockMs, s⟩, toCome⟩ : Timeline)) (fun _ _ ht => .turn ht) _ _
  have hdone : span.state.isDone = true := by
    obtain ⟨-, -, hdone⟩ := (Scenario.State.start part.plan part.clients).finish_eq_steps
    rwa [← Scenario.State.isDone_later clockMs] at hdone
  exact .head (.spawn joined clockMs part toCome) (hmoves.tail (.join hdone))

/-- the run of a suite, put on one clock -/
theorem moves_runAfter (criterion : Criterion) (runIds : Nat → RunId) (factory : Factory)
    (before : List Scenario.Run) (plans : List Plan) (joined : List Span) (clockMs : Nat) :
    let runs := runAfter criterion runIds factory before plans
    ∃ spans, ReflTransGen Moves ⟨joined, .between clockMs, partsAfter criterion runIds factory before plans⟩
        ⟨joined ++ spans, .between (clockMs + elapsedMs runs), []⟩ ∧
      List.Forall₂ Span.Shows spans runs := by
  induction plans generalizing before joined clockMs with
  | nil =>
    refine ⟨[], ?_, .nil⟩
    rw [List.append_nil]
    exact .refl
  | cons plan plans ih =>
    intro runs
    let run := Scenario.run criterion (runIds before.length) (factory before plan) plan
    let span : Span := ⟨⟨plan, factory before plan⟩, clockMs, run.state.later clockMs⟩
    obtain ⟨spans, hmoves, hshows⟩ := ih (before ++ [run]) (joined ++ [span]) (clockMs + run.state.clockMs)
    refine ⟨span :: spans, (moves_run joined clockMs span.part _).trans ?_, .cons ⟨rfl, rfl⟩ hshows⟩
    rw [List.append_assoc, Nat.add_assoc, Nat.add_comm clockMs run.state.clockMs] at hmoves
    exact hmoves

end Timeline

/-- **Workers overlap, scenarios do not.** On one clock, which is never set back, every scenario starts when the one
before it was joined, and is joined when the busiest of its workers is over and all outcomes are recorded; so at the end
of the suite the clock shows the sum of the scenarios' own times. A suite that is not over can go on, but not forever;
and the run of a suite is one that is over, its time the one that the clock shows. -/
theorem scenarios_in_sequence :
    (∀ parts t, Timeline.Reaches parts t → t.Sound parts ∧
      (t.IsOver → t.joined.map Span.part = parts ∧ t.clockMs = Number.total (parts.map Part.longestMs))) ∧
    (∀ t t' : Timeline, t.Moves t' → t.clockMs ≤ t'.clockMs) ∧
    (∀ t : Timeline, t.IsOver ∨ ∃ t', t.Moves t') ∧
    (WellFounded fun t' t => Timeline.Moves t t') ∧
    ∀ criterion runIds factory plans,
      ∃ t, Timeline.Reaches (partsOf criterion runIds factory plans) t ∧ t.IsOver ∧
        List.Forall₂ Span.Shows t.joined (run criterion runIds factory plans) ∧
        t.clockMs = elapsedMs (run criterion runIds factory plans) := by
  refine ⟨fun parts t h => ⟨h.sound, h.sound.of_isOver⟩, fun t t' h => h.clockMs_le, Timeline.isOver_or_moves,
    Timeline.wellFounded_moves, ?_⟩
  intro criterion runIds factory plans
  obtain ⟨spans, hmoves, hshows⟩ := Timeline.moves_runAfter criterion runIds factory [] plans [] 0
  rw [Nat.zero_add] at hmoves
  exact ⟨_, hmoves, ⟨rfl, _, rfl⟩, hshows, rfl⟩

/-- workers that pause, no workers, and workers that do not pause -/
def threePlans : List Plan :=
  [{ Scenario.threeWorkers with requestDelay := .ofMillis 50 }, { Scenario.threeWorkers with numClients := 0 },
    Scenario.threeWorkers]

/-- the busiest worker answers twice after nine milliseconds, and pauses in the first scenario -/
theorem three_scenarios_take :
    let runs := run {} (fun _ => ⟨0⟩) (fun _ _ => Scenario.mixedSetup) threePlans
    let parts := threePlans.map fun plan => (⟨plan, Scenario.mixedSetup⟩ : Part)
    ∃ t t' : Timeline, (Timeline.start parts).Moves t ∧ (Timeline.start parts).clockMs ≤ t.clockMs ∧
      Timeline.Reaches parts t' ∧ t'.IsOver ∧ t'.joined.map (fun s => s.part.longestMs) = [68, 0, 18] ∧
      t'.clockMs = 86 ∧ elapsedMs runs = 86 := by
  intro runs parts
  obtain ⟨hreaches, hclock, -, -, hruns⟩ := scenarios_in_sequence
  have hspawn : (Timeline.start parts).Moves _ := .spawn [] 0 _ _
  obtain ⟨t', ht', hover, -, helapsed⟩ := hruns {} (fun _ => ⟨0⟩) (fun _ _ => Scenario.mixedSetup) threePlans
  obtain ⟨-, hend⟩ := hreaches parts t' ht'
  obtain ⟨hparts, htotal⟩ := hend hover
  have hlongest : parts.map Part.longestMs = [68, 0, 18] := by decide +kernel
  refine ⟨_, t', hspawn, hclock _ _ hspawn, ht', hover, ?_, ?_, ?_⟩
  · rw [← hlongest, ← hparts, List.map_map]
    rfl
  · rw [htotal, hlongest]
    rfl
  · rw [← helapsed, htotal, hlongest]
    rfl

end LoadTrial.Suite
