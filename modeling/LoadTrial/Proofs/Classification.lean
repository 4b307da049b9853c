/-
What becomes of a signing request, whatever the network does with it.

A request can always be written (`post_eq`), so a call posts it, and posts it once: a transport that keeps a list of
what is posted (`recording`) has one request more behind a call (`call_recording`), and as many more as there are calls
behind several of them, in their order (`calls_recording`). What comes back is in one class. It is a success only where
the coordinator signed (`Signed`): the status, the end of the body, the envelope in it and the header of the response
all have to say so. It ran out of time where posting did, or reading the body of a reply with a good status did
(`RanOut`). All else has failed (`kind_failed_iff`); with a bad status the body does not matter.

Main result: `call_classified`.
-/
import Mathlib.Tactic
import LoadTrial.Exchange
import LoadTrial.Proofs.Wire.Merging

namespace LoadTrial.Exchange

variable {σ : Type}

/-! ## Posting -/

/-- the request of a plan with some identifier, made at some time -/
def request (plan : Plan) (requestId timestamp : String) : Post where
  url := plan.signUrl
  contentType := Wire.contentType
  userAgent
  body := (Wire.Envelope.ofRequest requestId plan.coordinatorId timestamp plan.payload).encode

/-- the room that is made for a request is as large as the request -/
theorem encodeRequest_eq (requestId coordinatorId timestamp : String) (p : SigningPayload) :
    Wire.encodeRequest requestId coordinatorId timestamp p =
      .ok (Wire.Envelope.ofRequest requestId coordinatorId timestamp p).encode := by
  have hroom (m : Wire.Envelope) : m.encodeInto m.size = .ok m.encode := by
    rw [Wire.Envelope.encodeInto, if_neg (lt_irrefl _)]
  rw [Wire.encodeRequest, hroom]

theorem post_eq (plan : Plan) (requestId timestamp : String) :
    post plan requestId timestamp = .ok (request plan requestId timestamp) := by
  rw [post, encodeRequest_eq]
  rfl

/-- a transport that keeps a list of what is posted -/
def recording (transport : Transport σ) : Transport (σ × List Post) := fun p s =>
  ((transport p s.1).1, ((transport p s.1).2, s.2 ++ [p]))

theorem call_eq (transport : Transport σ) (plan : Plan) (requestId timestamp : String) (s : σ) :
    call transport plan requestId timestamp s = transport (request plan requestId timestamp) s := by
  rw [call, post_eq]

/-- a call posts one request -/
theorem call_recording (transport : Transport σ) (plan : Plan) (requestId timestamp : String) (s : σ)
    (posted : List Post) : call (recording transport) plan requestId timestamp (s, posted) =
      ((call transport plan requestId timestamp s).1, ((call transport plan requestId timestamp s).2,
        posted ++ [request plan requestId timestamp])) := by
  rw [call_eq, call_eq, recording]

/-- calls post one request each, in their order -/
theorem calls_recording (transport : Transport σ) (plan : Plan) (timestamp : String) (ids : List String) (s : σ)
    (posted : List Post) : calls (recording transport) plan timestamp ids (s, posted) =
      ((calls transport plan timestamp ids s).1, ((calls transport plan timestamp ids s).2,
        posted ++ ids.map (request plan · timestamp))) := by
  induction ids generalizing s posted with
  | nil => simp [calls]
  | cons id ids ih => simp [calls, call_recording, ih]

/-! ## Classes -/

/-- the coordinator signed: the status of the reply is a good one, and its body, read to the end, is an envelope with a
response whose header says so -/
def Signed (r : Reception) : Prop :=
  ∃ status bytes m response header, r = .reply status (.complete bytes) ∧ 200 ≤ status ∧ status < 300 ∧
    Wire.Envelope.decode bytes = .ok m ∧ m.payload = some (.response response) ∧ response.header = some header ∧
    header.success = true

/-- time ran out: before there was a reply, or in the body of one with a good status -/
def RanOut (r : Reception) : Prop :=
  r = .timedOut ∨ ∃ status, r = .reply status .timedOut ∧ 200 ≤ status ∧ status < 300

theorem isSuccessStatus_iff {status : Nat} : isSuccessStatus status = true ↔ 200 ≤ status ∧ status < 300 := by
  simp [isSuccessStatus]

theorem isSuccess_iff {response : Wire.SigningResponse} :
    response.isSuccess = true ↔ ∃ header, response.header = some header ∧ header.success = true := by
  unfold Wire.SigningResponse.isSuccess
  cases response.header <;> simp

theorem signs_iff {bytes : Bytes} : signs bytes = true ↔ ∃ m response header, Wire.Envelope.decode bytes = .ok m ∧
    m.payload = some (.response response) ∧ response.header = some header ∧ header.success = true := by
  unfold signs
  cases hdecode : Wire.Envelope.decode bytes with
  | error fault => simp [Wire.decodeResponse, hdecode]
  | ok m =>
    have hresponse := Wire.decodeResponse_eq_ok_iff hdecode
    constructor
    · intro h
      cases hfound : Wire.decodeResponse bytes with
      | error fault =>
        rw [hfound] at h
        cases h
      | ok response =>
        rw [hfound] at h
        obtain ⟨header, hheader, hsuccess⟩ := isSuccess_iff.1 h
        exact ⟨m, response, header, rfl, (hresponse response).1 hfound, hheader, hsuccess⟩
    · rintro ⟨m', response, header, hsame, hpayload, hheader, hsuccess⟩
      cases hsame
      rw [(hresponse response).2 hpayload]
      exact isSuccess_iff.2 ⟨header, hheader, hsuccess⟩

theorem kind_success_iff {r : Reception} : r.kind = .success ↔ Signed r := by
  cases r with
  | timedOut | broken => simp [Reception.kind, Signed]
  | reply status body =>
    by_cases hstatus : isSuccessStatus status = true
    · have hrange := isSuccessStatus_iff.1 hstatus
      cases body with
      | complete bytes => simp [Reception.kind, Signed, hstatus, hrange, signs_iff]
      | timedOut | broken => simp [Reception.kind, Signed, hstatus]
    · have hfailed : ¬ Signed (.reply status body) := by
        rintro ⟨_, _, _, _, _, hreply, hlow, hhigh, -⟩
        cases hreply
        exact hstatus (isSuccessStatus_iff.2 ⟨hlow, hhigh⟩)
      simp [Reception.kind, hstatus, hfailed]

theorem kind_timedOut_iff {r : Reception} : r.kind = .timedOut ↔ RanOut r := by
  cases r with
  | timedOut | broken => simp [Reception.kind, RanOut]
  | reply status body =>
    by_cases hstatus : isSuccessStatus status = true
    · have hrange := isSuccessStatus_iff.1 hstatus
      cases body with
      | complete bytes =>
        cases hsigns : signs bytes <;> simp [Reception.kind, RanOut, hstatus, hsigns]
      | timedOut | broken => simp [Reception.kind, RanOut, hstatus, hrange]
    · have hfailed : ¬ RanOut (.reply status body) := by
        rintro (hreply | ⟨_, hreply, hlow, hhigh⟩)
        · cases hreply
        · cases hreply
          exact hstatus (isSuccessStatus_iff.2 ⟨hlow, hhigh⟩)
      simp [Reception.kind, hstatus, hfailed]

theorem kind_failed_iff {r : Reception} : r.kind = .failed ↔ ¬ Signed r ∧ ¬ RanOut r := by
  rw [← kind_success_iff, ← kind_timedOut_iff]
  cases r.kind <;> simp

theorem kind_outcome (a : Arrival) : a.outcome.kind = a.reception.kind :=
  kind_outcomeOf _ _

/-- no outcome is in two classes -/
theorem not_success_and_timedOut (a : Arrival) : ¬ (a.outcome.success = true ∧ a.outcome.timedOut = true) := by
  unfold Arrival.outcome outcomeOf
  cases a.reception.kind <;> simp [Outcome.succeeded, Outcome.failed, Outcome.ranOut]

/-- **Every call posts one request, and its outcome is in one class.** Whatever the network does, the outcome is a
success just where the coordinator signed, time ran out just where posting or reading a good reply did, and it is a
failure in all other cases. -/
theorem call_classified (transport : Transport σ) (plan : Plan) (requestId timestamp : String) (s : σ)
    (posted : List Post) :
    let p := request plan requestId timestamp
    let (a, s') := transport p s
    call transport plan requestId timestamp s = (a, s') ∧
      call (recording transport) plan requestId timestamp (s, posted) = (a, (s', posted ++ [p])) ∧
      (a.outcome.kind = .success ↔ Signed a.reception) ∧ (a.outcome.kind = .timedOut ↔ RanOut a.reception) ∧
      (a.outcome.kind = .failed ↔ ¬ Signed a.reception ∧ ¬ RanOut a.reception) ∧
      ¬ (a.outcome.success = true ∧ a.outcome.timedOut = true) := by
  intro p
  have hcall : call transport plan requestId timestamp s = transport p s := call_eq ..
  rcases hsent : transport p s with ⟨a, s'⟩
  rw [hsent] at hcall
  refine ⟨hcall, ?_, ?_, ?_, ?_, not_success_and_timedOut a⟩
  · rw [call_recording, hcall]
  · rw [kind_outcome, kind_success_iff]
  · rw [kind_outcome, kind_timedOut_iff]
  · rw [kind_outcome, kind_failed_iff]

end LoadTrial.Exchange
