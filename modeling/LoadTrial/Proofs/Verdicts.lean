/-
The verdict on a suite: its entries, its exit status and the text at the end of a trial say the same.

The exit status is zero exactly if every entry passed, which is exactly if as many passed as there are
(`exitCode_eq_zero_iff`, `passedCount_eq_length_iff`). The text lists the entries with their marks, and its last line
speaks of success exactly if the exit status does (`closing_suffix_iff`): one of the two last lines is never the end of
the other, in colour or not.

Main result: `Suite.suite_is_map`.
-/
import Mathlib.Tactic
import LoadTrial.Console.Report
import LoadTrial.Proofs.Independence

namespace LoadTrial

namespace Suite

theorem exitCode_eq_zero_iff (s : Suite) : s.exitCode = 0 ↔ ∀ e ∈ s.entries, e.passed = true := by
  rw [exitCode, allPassed, ← List.all_eq_true]
  split_ifs with h <;> simp [h]

theorem passedCount_eq_length_iff (s : Suite) : s.passedCount = s.entries.length ↔ ∀ e ∈ s.entries, e.passed = true :=
  List.countP_eq_length

theorem exitCode_le_one (s : Suite) : s.exitCode ≤ 1 := by
  rw [exitCode]
  split_ifs <;> decide

end Suite

namespace Console

/-- the mark in front of a label -/
def Painter.mark (p : Painter) (passed : Bool) : String :=
  if passed then p.success "✓" else p.error "✗"

/-- the last line of the text about a suite -/
def Painter.closing (p : Painter) (passed : Bool) : String :=
  if passed then p.success "✓ All load tests PASSED!" else p.error "✗ Some tests FAILED!"

/-- neither of the two last lines is the end of the other, in colour or not -/
theorem Painter.closing_not_suffix (p : Painter) (passed : Bool) :
    ¬ (p.closing passed).toList <:+ (p.closing !passed).toList := by
  rcases p with ⟨_ | _, _ | _⟩ <;> cases passed <;> decide +kernel

namespace Formatter

/-- all of the text about a suite but its last line -/
def listing (f : Formatter) (s : Suite) : String :=
  "\n" ++ f.boxed "Final Test Results" ++ "\n"
    ++ String.join (s.entries.map fun e => f.painter.mark e.passed ++ " " ++ e.label ++ "\n")
    ++ Number.decimal s.passedCount ++ "/" ++ Number.decimal s.entries.length ++ " scenarios passed\n"

theorem suiteSummary_eq (f : Formatter) (s : Suite) :
    f.suiteSummary s = f.listing s ++ f.painter.closing s.allPassed := rfl

theorem closing_suffix_iff (f : Formatter) (s : Suite) :
    (f.painter.closing true).toList <:+ (f.suiteSummary s).toList ↔ s.exitCode = 0 := by
  rw [suiteSummary_eq, String.toList_append, Suite.exitCode]
  cases h : s.allPassed with
  | true => simp
  | false =>
    simp only [Bool.false_eq_true, if_false, one_ne_zero, iff_false]
    intro hpassed
    rcases List.suffix_or_suffix_of_suffix hpassed (List.suffix_append _ _) with hs | hs
    · exact f.painter.closing_not_suffix true hs
    · exact f.painter.closing_not_suffix false hs

end Formatter

end Console

namespace Suite

/-- **A suite is a map over its scenarios.** Whatever the verdicts so far, every scenario is run and has its entry, and
but for the identifier and the duration that is the entry it has in a suite of its own. What the exit status says of
the entries, the text at the end says too. -/
theorem suite_is_map (criterion : Criterion) (setup : Plan → Nat → Setup) (plans : List Plan) :
    (∀ runIds, Executes criterion setup plans (Suite.run criterion runIds (fun _ => setup) plans)) ∧
    (∀ runs, Executes criterion setup plans runs →
      (ofRuns runs).entries.map (·.label) = plans.map (·.label) ∧
      (∀ e ∈ (ofRuns runs).entries, ∃ r, e = ⟨r.label, r.passed, some r⟩) ∧
      ∀ (i : Nat) plan alone, plans[i]? = some plan → Executes criterion setup [plan] alone →
        ∃ e e' : Entry,
          (ofRuns runs).entries[i]? = some e ∧ (ofRuns alone).entries = [e'] ∧ e.timeless = e'.timeless) ∧
    ∀ s : Suite,
      (s.exitCode = 0 ↔ ∀ e ∈ s.entries, e.passed = true) ∧
      (s.exitCode = 0 ↔ s.passedCount = s.entries.length) ∧
      (s.exitCode ≠ 0 → s.exitCode = 1) ∧
      ∀ f : Console.Formatter,
        f.suiteSummary s = f.listing s ++ f.painter.closing (s.exitCode == 0) ∧
        ((f.painter.closing true).toList <:+ (f.suiteSummary s).toList ↔ s.exitCode = 0) := by
  refine ⟨fun runIds => runAfter_executes criterion runIds setup [] plans, fun runs hruns => ?_, fun s => ?_⟩
  · obtain ⟨hlabels, hentries⟩ := hruns.entries_eq
    refine ⟨hlabels, hentries, fun i plan alone hplan halone => ?_⟩
    have hmap := congrArg (·[i]?) hruns.timeless_entries
    simp only [List.getElem?_map, hplan, Option.map_some, Option.map_eq_some_iff] at hmap
    obtain ⟨e, he, htimeless⟩ := hmap
    obtain ⟨e', halone', htimeless'⟩ := List.map_eq_singleton_iff.1 halone.timeless_entries
    exact ⟨e, e', he, halone', htimeless.trans htimeless'.symm⟩
  · have hzero := s.exitCode_eq_zero_iff
    have hle := s.exitCode_le_one
    have hbool : s.allPassed = (s.exitCode == 0) := by
      rw [Bool.eq_iff_iff, beq_iff_eq, hzero, allPassed, List.all_eq_true]
    refine ⟨hzero, hzero.trans s.passedCount_eq_length_iff.symm, fun h => by omega, fun f => ?_⟩
    exact ⟨hbool ▸ f.suiteSummary_eq s, f.closing_suffix_iff s⟩

/-- two clients with one request each -/
def smallPlan (label : String) : Plan where
  label
  coordinatorUrl := "http://localhost"
  trust := {}
  coordinatorId := "id"
  payload := {}
  numClients := 2
  requestsPerClient := 1
  requestDelay := .zero
  requestTimeout := .zero
  connectionPoolSize := 1

/-- clients that answer, that break down, or that cannot be set up, as the label of the scenario has it -/
def clientsByLabel (plan : Plan) (worker : Nat) : Setup :=
  if plan.label = "good" then .client fun _ => .answer ⟨true, 3, false⟩ (3 + worker)
  else if plan.label = "bad" then .client fun _ => .breakdown
  else .failure (.tls "no certificate")

theorem mixed_suite :
    let plans := ["good", "bad", "good", "none"].map smallPlan
    let runs := Suite.run {} (fun i => ⟨BitVec.ofNat 128 i⟩) (fun _ => clientsByLabel) plans
    let alone := Suite.run {} (fun _ => ⟨9⟩) (fun _ => clientsByLabel) [smallPlan "good"]
    Executes {} clientsByLabel plans runs ∧ Executes {} clientsByLabel [smallPlan "good"] alone ∧
      (ofRuns runs).entries.map (·.label) = ["good", "bad", "good", "none"] ∧
      (∃ e e' : Entry, (ofRuns runs).entries[2]? = some e ∧ (ofRuns alone).entries = [e'] ∧ e.timeless = e'.timeless) ∧
      (ofRuns runs).passedCount = 2 ∧ (ofRuns runs).exitCode = 1 := by
  intro plans runs alone
  obtain ⟨hexec, hentries, hverdict⟩ := suite_is_map {} clientsByLabel plans
  obtain ⟨halone, -, -⟩ := suite_is_map {} clientsByLabel [smallPlan "good"]
  obtain ⟨hlabels, -, hindependent⟩ := hentries runs (hexec _)
  obtain ⟨-, hcount, hone, -⟩ := hverdict (ofRuns runs)
  have hpassed : (ofRuns runs).passedCount = 2 := by decide +kernel
  have hne : (ofRuns runs).exitCode ≠ 0 := fun h => absurd (hpassed ▸ hcount.1 h) (by decide +kernel)
  exact ⟨hexec _, halone _, hlabels, hindependent 2 _ alone rfl (halone _), hpassed, hone hne⟩

end Suite

end LoadTrial
