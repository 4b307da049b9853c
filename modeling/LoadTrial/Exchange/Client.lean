/-
Clients of a network. Each worker loads trust material of its own; one that has it posts its requests to the
network, and one that has not fails before its first request.
-/
import LoadTrial.Exchange
import LoadTrial.Run.Suite
import LoadTrial.Trust.Material

namespace LoadTrial.Exchange

/-- what becomes of the posts of each worker, by its number and that of the request -/
abbrev Network := Nat → Nat → Post → Arrival

/-- nothing listens: every post is refused at once -/
def Network.silent : Network := fun _ _ _ => ⟨.broken, 0, 0⟩

/-- the answer to one request of a worker -/
def reply (network : Network) (timestamp : Nat → String) (plan : Plan) (worker sequence : Nat) : Reply :=
  let a := (call (σ := Unit) (fun p s => (network worker sequence p, s)) plan (Worker.requestId worker sequence)
    (timestamp sequence) ()).1
  .answer a.outcome a.endMs

/-- sets up clients that post to a network; without usable trust material there is no client -/
def factory (files : Files) (network : Network) (timestamp : Nat → String) : Suite.Factory := fun _ plan worker =>
  match TrustMaterial.checkClient files plan.trust with
  | .ok _ => .client (reply network timestamp plan worker)
  | .error fault => .failure fault.failure

end LoadTrial.Exchange
