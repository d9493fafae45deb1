import AccessBroker.Access.Request
import AccessBroker.Http.Header
import AccessBroker.Http.Status
import AccessBroker.Json.Printer

/-! # Announcing events to a webhook

An event is posted until the peer takes it or refuses it for good.  Answers
that may pass are tried again, up to a number of attempts, after pauses that
grow by the same step each time.  An event whose request has an id that no
header field can hold is never posted; each attempt at it fails.
-/

namespace AccessBroker

namespace Webhook

/-- The largest number that an attempt can have: attempts are counted in 8 bits. -/
def lastNumber : Nat := 255

/-- The longest pause that can be told. -/
def maxPause : Nat := 18446744073709551615

end Webhook

structure Webhook where
  /-- Attempts in all. -/
  attempts : Nat
  /-- The first pause in milliseconds, and how much longer each further pause is. -/
  backoff : Nat
  attempts_pos : 0 < attempts
  attempts_le : attempts ≤ Webhook.lastNumber
  backoff_le : 50 ≤ backoff

namespace Webhook

/-- At least one attempt, and pauses that are not too short. -/
def of (attempts backoff : Nat) : Webhook where
  attempts := min (max attempts 1) lastNumber
  backoff := min (max backoff 50) maxPause
  attempts_pos := by simp only [lastNumber]; omega
  attempts_le := Nat.min_le_right ..
  backoff_le := by simp only [maxPause]; omega

/-- What an attempt comes to. -/
inductive Reply where
  | status (code : Nat) (body : String)
  /-- There is a status, but the body breaks off. -/
  | cut (code : Nat)
  /-- The connection failed. -/
  | broken (reason : String := "")
deriving DecidableEq, Repr

/-- What is made of a reply. -/
inductive Verdict where
  | taken
  /-- Another attempt may help. -/
  | passing (failure : String)
  | refused (e : Error)
deriving DecidableEq

namespace Reply

/-- What stands for a body that cannot be read. -/
def unreadable : String := "<response body unavailable>"

def passingStatus (id : String) (code : Nat) : String :=
  s!"transient HTTP status {Http.statusText code} for access request notification '{id}'"

def brokenOff (reason : String) : String :=
  "access request notification transport error: " ++ reason

def refusal (code : Nat) (body : String) : Error :=
  .validation s!"access request notification failed with status {Http.statusText code}: {body}"

def judge (id : String) (code : Nat) (body : String) : Verdict :=
  if 200 ≤ code && code < 300 then .taken
  else if (500 ≤ code && code < 600) || code == 429 then .passing (passingStatus id code)
  else .refused (refusal code body)

/-- The verdict on a reply to the announcement of the request `id`. -/
def verdict (id : String) : Reply → Verdict
  | status code body => judge id code body
  | cut code => judge id code unreadable
  | broken reason => .passing (brokenOff reason)

end Reply

/-- A request to the peer. -/
structure Post where
  headers : List Http.Header
  content : String
deriving DecidableEq, Repr

def post (event : Event) : Post where
  headers := [
    ⟨"x-rolegate-request", event.requestId⟩,
    ⟨"x-rolegate-event", event.next.name⟩,
    ⟨"content-type", "application/json"⟩]
  content := event.toTree.text

/-- Whether the id of the request can stand in a header field. -/
def isPostable (event : Event) : Bool :=
  !event.requestId.toList.any Http.Header.isControl

/-- How long to wait after an attempt. -/
def pause (w : Webhook) (attempt : Nat) : Nat :=
  min (w.backoff * attempt) maxPause

/-- The number of the attempt after `made` others; the count stays at its last number. -/
def countUp (made : Nat) : Nat :=
  min (made + 1) lastNumber

inductive Deed where
  | posted (p : Post)
  | paused (milliseconds : Nat)
deriving DecidableEq, Repr

/-- What one attempt posts. -/
def posts (event : Event) : List Deed :=
  if isPostable event then [.posted (post event)] else []

/-- What an attempt meets: the reply of the peer, unless the request could not be made, which is
told as `unmade`. -/
def meets (event : Event) (unmade : String) (reply : Reply) : Reply :=
  if isPostable event then reply else .broken unmade

/-- What was done about an event, one thing after the other, and what came of it. -/
structure Report where
  deeds : List Deed
  result : Except Error Unit

/-- The error when all attempts are used up, the last of which failed as told. -/
def exhausted (failure : Option String) : Error :=
  .internal (failure.getD "access request notification exhausted retries")

/-- Makes attempt after attempt when some were made already, the last of which failed as told.
`met` tells what each meets, by its number. -/
def sendAfter (w : Webhook) (event : Event) (met : Nat → Reply) (made : Nat)
    (failure : Option String) : Report :=
  if made < w.attempts then
    let attempt := countUp made
    match (met attempt).verdict event.requestId with
    | .taken => ⟨posts event, .ok ()⟩
    | .refused e => ⟨posts event, .error e⟩
    | .passing failure =>
      let rest := sendAfter w event met attempt (some failure)
      let pauses := if attempt < w.attempts then [.paused (w.pause attempt)] else []
      ⟨posts event ++ pauses ++ rest.deeds, rest.result⟩
  else ⟨[], .error (exhausted failure)⟩
termination_by w.attempts - made
decreasing_by
  have := w.attempts_le
  simp only [countUp]
  omega

/-- Announces an event to a peer that replies to each attempt by its number.  `unmade` is what is
told of a request that cannot be made. -/
def send (w : Webhook) (event : Event) (unmade : String) (peer : Nat → Reply) : Report :=
  sendAfter w event (fun attempt => meets event unmade (peer attempt)) 0 none

end Webhook

end AccessBroker
