/-
A coordinator on this machine that gives prepared answers, and a client that posts to it. The coordinator takes
one connection for each answer: it reads the request, sends the answer, and closes the connection or leaves it
open. Behind the last answer nothing listens. The client follows replies that send it elsewhere.
-/
import LoadTrial.Http.Reply
import LoadTrial.Url.Relative

namespace LoadTrial.Http

/-- a prepared answer -/
structure Answer where
  bytes : Bytes
  ending : Ending
  deriving DecidableEq

/-- a request as the coordinator reads it -/
structure Request where
  method : String
  target : String
  contentType : Option String
  userAgent : String
  body : Bytes
  deriving DecidableEq

/-- a coordinator with the answers that are left; the latest request comes first -/
structure Script where
  answers : List Answer
  requests : List Request := []
  deriving DecidableEq

namespace Script

/-- where the coordinator listens -/
def address : String := "http://127.0.0.1:9080"

def host : Url.Host := .ipv4 0x7F000001
def port : UInt16 := 9080

/-- a URL leads to the coordinator -/
def isAt (u : Url) : Bool :=
  u.scheme == "http" && u.host == some host && u.port == some port

/-- what a client sends, to wherever it is sent -/
structure Message where
  method : String := "POST"
  contentType : Option String
  userAgent : String
  body : Bytes

/-- a message that asks only to be answered -/
def Message.asked (m : Message) : Message :=
  { m with method := "GET", contentType := none, body := [] }

def Message.request (m : Message) (u : Url) : Request :=
  ⟨m.method, u.target, m.contentType, m.userAgent, m.body⟩

/-- what becomes of a message to a URL: nothing, if nothing listens there -/
def send (s : Script) (m : Message) (u : Url) : Reply × Script :=
  if !isAt u then (.broken, s)
  else match s.answers with
    | [] => (.broken, s)
    | a :: rest => (Reply.read a.bytes a.ending, ⟨rest, m.request u :: s.requests⟩)

/-! ## Redirection -/

/-- statuses that send a client elsewhere, to ask only -/
def asksElsewhere (status : Nat) : Bool :=
  status == 301 || status == 302 || status == 303

/-- statuses that send a client elsewhere with its message -/
def sendsElsewhere (status : Nat) : Bool :=
  status == 307 || status == 308

/-- where a reply sends a client; a place that cannot be read does not count -/
def elsewhere? (u : Url) (head : Head) : Option Url :=
  if asksElsewhere head.status || sendsElsewhere head.status then do
    let place ← Text.ofUtf8? (← (head.values "location").head?)
    (u.resolve place).toOption
  else none

/-- follows a message to its last reply; a client that is sent on too often gives up -/
def follow : Nat → Script → Message → Url → Exchange.Reception × Script
  | hops, s, m, u =>
    let (r, s) := s.send m u
    match r with
    | .timedOut => (.timedOut, s)
    | .broken => (.broken, s)
    | .reply head body => match elsewhere? u head, hops with
      | none, _ => (.reply head.status body, s)
      | some _, 0 => (.broken, s)
      | some u', hops + 1 => follow hops s (if asksElsewhere head.status then m.asked else m) u'

/-- how often a client lets itself be sent on -/
def mostHops : Nat := 10

/-- posts a request -/
def transport : Exchange.Transport Script := fun p s =>
  match Url.parse p.url with
  | .error _ => (⟨.broken, 0, 0⟩, s)
  | .ok u =>
    let (r, s) := follow mostHops s ⟨"POST", some p.contentType, p.userAgent, p.body⟩ u
    (⟨r, 0, 0⟩, s)

end Script

end LoadTrial.Http
