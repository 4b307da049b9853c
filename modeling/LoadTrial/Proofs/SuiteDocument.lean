/-
The document of a suite holds all of the suite.

Every part of a suite is written as a record of its own, and each record is read back as the value it was written from:
the duration with its two fields, the identifier of a run from its 32 digits in five groups, the summary with its
extrema that may be null, and so on up to the suite. No part is written with a double, and records are nested six deep
at most, so the reader of documents gives back what was printed.

Main result: `Suite.document_lossless`.
-/
import Mathlib.Tactic
import LoadTrial.Proofs.Json.RoundTrip
import LoadTrial.Run.Document

namespace LoadTrial

/-! ## Numbers and lists -/

namespace Json

theorem asNatural?_integer {limit n : Nat} (h : n ≤ limit) : (Json.integer n).asNatural? limit = some n := by
  simp [asNatural?, h]

theorem asUInt64?_natural (n : UInt64) : (natural n).asUInt64? = some n := by
  have h := n.toNat_lt_size
  rw [natural, asUInt64?, asNatural?_integer (by omega), Option.map_some, UInt64.ofNat_toNat]

theorem plain_natural (depth : Nat) (n : UInt64) : Plain depth (natural n) := by
  refine .integer depth ⟨?_, ?_⟩
  · simp only [UInt64.size]
    omega
  · exact_mod_cast n.toNat_lt_size

theorem nullable_ofOption {α : Type} {write : α → Json} {read : Json → Option α} (h : ∀ a, read (write a) = some a)
    (hnull : ∀ a, write a ≠ .null) (o : Option α) : nullable read (some (ofOption write o)) = some o := by
  cases o with
  | none => rfl
  | some a =>
    rw [ofOption, nullable, h, Option.map_some]
    exact fun hwrite => hnull a hwrite

theorem plain_ofOption {α : Type} {write : α → Json} {depth : Nat} (h : ∀ a, Plain depth (write a)) (o : Option α) :
    Plain depth (ofOption write o) := by
  cases o with
  | none => exact .null depth
  | some a => exact h a

theorem list?_map {α : Type} {write : α → Json} {read : Json → Option α} (h : ∀ a, read (write a) = some a)
    (as : List α) : list? read (.array (as.map write)) = some as := by
  rw [list?]
  induction as with
  | nil => rfl
  | cons a as ih => simp [h, ih]

end Json

open Json (Plain)

/-! ## Durations -/

namespace Duration

theorem ofJson?_toJson (d : Duration) : ofJson? d.toJson = some d := by
  have hsecs := d.secs.toNat_lt_size
  have hnanos := d.nanos.isLt
  have hnat : (Json.integer d.nanos.val).asUInt32? = some (UInt32.ofNat d.nanos.val) := by
    rw [Json.asUInt32?, Json.asNatural?_integer (by simp only [UInt32.size]; omega), Option.map_some]
  have h32 : (UInt32.ofNat d.nanos.val).toNat = d.nanos.val :=
    UInt32.toNat_ofNat_of_lt' (by simp only [UInt32.size]; omega)
  have hcarry : d.nanos.val / 1000000000 = 0 := Nat.div_eq_of_lt hnanos
  have hrecord : d.toJson.record? false ["secs", "nanos"] =
      some [some (.natural d.secs), some (.integer d.nanos.val)] := rfl
  have hparts : ofParts d.secs d.nanos.val = d := by
    simp [ofParts]
  simp only [ofJson?, hrecord]
  simp [toJson, Json.required, Json.asUInt64?_natural, hnat, h32, hcarry, hsecs, hparts]

theorem plain_toJson (d : Duration) : Plain 1 d.toJson := by
  have hnanos := d.nanos.isLt
  refine .object ?_
  simp only [List.forall_mem_cons, List.not_mem_nil, false_implies, implies_true, and_true]
  refine ⟨Json.plain_natural 0 _, .integer 0 ⟨?_, ?_⟩⟩
  · simp only [UInt64.size]
    omega
  · simp only [UInt64.size]
    omega

end Duration

/-! ## Identifiers -/

namespace RunId

theorem hexValue?_hexDigit : ∀ d < 16, hexValue? (hexDigit d) = some d := by
  decide

theorem length_hexDigits (count n : Nat) : (hexDigits count n).length = count := by
  induction count generalizing n with
  | zero => rfl
  | succ count ih => rw [hexDigits, List.length_append, ih, List.length_singleton]

theorem ofHexDigits?_hexDigits (count n : Nat) : ofHexDigits? (hexDigits count n) = some (n % 16 ^ count) := by
  induction count generalizing n with
  | zero => simp [hexDigits, ofHexDigits?, Nat.mod_one]
  | succ count ih =>
    have hlast := hexValue?_hexDigit (n % 16) (Nat.mod_lt n (by decide))
    have hvalue : 16 * (n / 16 % 16 ^ count) + n % 16 = n % 16 ^ (count + 1) := by
      rw [Nat.pow_succ', Nat.mod_mul, Nat.add_comm]
    unfold ofHexDigits? at ih ⊢
    rw [hexDigits, List.foldlM_append, ih]
    simp [hlast, hvalue]

/-- the hyphens between the groups do not count -/
theorem ofGrouped?_groups {a b c d e : List Char} (ha : a.length = 8) (hb : b.length = 4) (hc : c.length = 4)
    (hd : d.length = 4) (he : e.length = 12) :
    ofGrouped? (a ++ '-' :: (b ++ '-' :: (c ++ '-' :: (d ++ '-' :: e)))) = ofSimple? (a ++ b ++ c ++ d ++ e) := by
  rw [ofGrouped?]
  simp [ha, hb, hc, hd, he, List.getElem?_append, List.drop_append, List.drop_of_length_le]

theorem groups_eq (ds : List Char) :
    ds.take 8 ++ (ds.drop 8).take 4 ++ (ds.drop 12).take 4 ++ (ds.drop 16).take 4 ++ ds.drop 20 = ds := by
  have hgroup (i : Nat) : (ds.drop i).take 4 ++ ds.drop (i + 4) = ds.drop i := by
    rw [← List.drop_drop, List.take_append_drop]
  rw [List.append_assoc, hgroup 16, List.append_assoc, hgroup 12, List.append_assoc, hgroup 8, List.take_append_drop]

theorem hexValue?_ne_none_of_mem {c : Char} {count n : Nat} (h : c ∈ hexDigits count n) : hexValue? c ≠ none := by
  induction count generalizing n with
  | zero => cases h
  | succ count ih =>
    rw [hexDigits, List.mem_append, List.mem_singleton] at h
    rcases h with h | rfl
    · exact ih h
    · rw [hexValue?_hexDigit _ (Nat.mod_lt n (by decide))]
      exact Option.some_ne_none _

/-- an identifier is read back from its 32 digits in five groups -/
theorem ofText?_toText (id : RunId) : ofText? id.toText = some id := by
  have hlength := length_hexDigits 32 id.value.toNat
  have hdigits := ofHexDigits?_hexDigits 32 id.value.toNat
  have hmem {c : Char} : c ∈ hexDigits 32 id.value.toNat → hexValue? c ≠ none := hexValue?_ne_none_of_mem
  have htext : id.toText.toList = _ := String.toList_ofList
  generalize hexDigits 32 id.value.toNat = ds at hlength hdigits hmem htext
  have hgroups := ofGrouped?_groups (a := ds.take 8) (b := (ds.drop 8).take 4) (c := (ds.drop 12).take 4)
    (d := (ds.drop 16).take 4) (e := ds.drop 20) (by simp [hlength]) (by simp [hlength]) (by simp [hlength])
    (by simp [hlength]) (by simp [hlength])
  have hvalue : id.value.toNat % 16 ^ 32 = id.value.toNat := Nat.mod_eq_of_lt id.value.isLt
  rw [groups_eq, ← htext, ofSimple?, hlength, hdigits, hvalue, Option.map_some, BitVec.ofNat_toNat,
    BitVec.setWidth_eq] at hgroups
  have h36 : id.toText.toList.length = 36 := by
    simp [htext, hlength]
  cases ds with
  | nil => cases hlength
  | cons c ds =>
    have hc := hmem List.mem_cons_self
    obtain ⟨tail, htail⟩ : ∃ tail, id.toText.toList = c :: tail := ⟨_, htext⟩
    rw [htail] at hgroups h36
    rw [ofText?, htail]
    -- neither a brace nor the letter in front of `urn` is a digit
    split
    · rename_i heq
      cases heq
      exact absurd rfl hc
    · rename_i heq
      cases heq
      exact absurd rfl hc
    · rw [h36]
      exact hgroups

theorem ofJson?_toJson (id : RunId) : ofJson? id.toJson = some id := by
  rw [ofJson?, toJson, Json.asString?, Option.bind_eq_bind, Option.bind_some, ofText?_toText]

end RunId

/-! ## Records -/

namespace Summary

theorem ofJson?_toJson (s : Summary) : ofJson? s.toJson = some s := by
  have hduration := s.duration.ofJson?_toJson
  have hextremum := Json.nullable_ofOption Json.asUInt64?_natural (by rintro n ⟨⟩)
  have hrecord : s.toJson.record? false ["total", "successful", "failed", "timed_out", "latency_sum_ms",
      "min_latency_ms", "max_latency_ms", "duration"] =
      some [some (.natural s.total), some (.natural s.successful), some (.natural s.failed),
        some (.natural s.timedOut), some (.natural s.latencySumMs), some (Json.ofOption .natural s.minLatencyMs),
        some (Json.ofOption .natural s.maxLatencyMs), some s.duration.toJson] := rfl
  simp only [ofJson?, hrecord]
  simp [Json.required, Json.asUInt64?_natural, hextremum, hduration]

theorem plain_toJson (s : Summary) : Plain 2 s.toJson := by
  have hcounter (n : UInt64) : Plain 1 (.natural n) := Json.plain_natural 1 n
  have hextremum (o : Option UInt64) : Plain 1 (Json.ofOption .natural o) := Json.plain_ofOption hcounter o
  refine .object ?_
  simp [hcounter, hextremum, s.duration.plain_toJson]

end Summary

namespace Scenario.Result

theorem ofJson?_toJson (r : Result) : ofJson? r.toJson = some r := by
  have hrunId := r.runId.ofJson?_toJson
  have hsummary := r.summary.ofJson?_toJson
  have hrecord : r.toJson.record? false ["run_id", "label", "num_clients", "failed_workers", "summary", "passed"] =
      some [some r.runId.toJson, some (.string r.label), some (.natural r.numClients),
        some (.natural r.failedWorkers), some r.summary.toJson, some (.bool r.passed)] := rfl
  simp only [ofJson?, hrecord]
  simp [Json.required, Json.asUInt64?_natural, Json.asString?, Json.asBool?, hrunId, hsummary]

theorem plain_toJson (r : Result) : Plain 3 r.toJson := by
  have hcounter (n : UInt64) : Plain 2 (.natural n) := Json.plain_natural 2 n
  have hrunId : Plain 2 r.runId.toJson := .string 2 _
  refine .object ?_
  simp [hcounter, hrunId, r.summary.plain_toJson, Plain.string, Plain.bool]

end Scenario.Result

namespace Suite

theorem Entry.ofJson?_toJson (e : Entry) : Entry.ofJson? e.toJson = some e := by
  have hresult := Json.nullable_ofOption Scenario.Result.ofJson?_toJson (by rintro r ⟨⟩) e.result
  have hrecord : e.toJson.record? false ["label", "passed", "result"] =
      some [some (.string e.label), some (.bool e.passed),
        some (Json.ofOption Scenario.Result.toJson e.result)] := rfl
  simp only [Entry.ofJson?, hrecord]
  simp [Json.required, Json.asString?, Json.asBool?, hresult]

theorem Entry.plain_toJson (e : Entry) : Plain 4 e.toJson := by
  have hresult : Plain 3 (Json.ofOption Scenario.Result.toJson e.result) :=
    Json.plain_ofOption Scenario.Result.plain_toJson e.result
  refine .object ?_
  simp [hresult, Plain.string, Plain.bool]

theorem ofJson?_toJson (s : Suite) : ofJson? s.toJson = some s := by
  have hentries := Json.list?_map Entry.ofJson?_toJson s.entries
  have hrecord : s.toJson.record? false ["entries"] = some [some (.array (s.entries.map Entry.toJson))] := rfl
  simp only [ofJson?, hrecord]
  simp [Json.required, hentries]

theorem plain_toJson (s : Suite) : Plain 6 s.toJson := by
  have hentries : Plain 5 (.array (s.entries.map Entry.toJson)) := by
    refine .array fun item hitem => ?_
    obtain ⟨e, -, rfl⟩ := List.mem_map.1 hitem
    exact e.plain_toJson
  refine .object ?_
  simp [hentries]

/-- **The document of a suite loses nothing.** The text of every suite is a document, and it is the document of that
suite, which is read back from it with every label, counter, extremum, identifier and duration. -/
theorem document_lossless (s : Suite) : Json.read s.toText = .ok s.toJson ∧ Suite.ofText? s.toText = some s := by
  have hread : Json.read s.toText = .ok s.toJson := Json.read_pretty s.plain_toJson (by decide)
  refine ⟨hread, ?_⟩
  rw [ofText?, hread]
  exact s.ofJson?_toJson

end Suite

end LoadTrial
