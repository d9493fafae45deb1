import AccessBroker.Authorization.Decision
import AccessBroker.Authorization.EligibleCache
import AccessBroker.Broker.Journal
import AccessBroker.Config.Table
import AccessBroker.Group.Directory
import AccessBroker.Role.Cloud
import AccessBroker.Schedule.Retry

/-! # The world of the services

All that the services see and change: the stores, the configuration that was
last published, the clock, the journal of the calls made to other systems, and
a plan of disturbances that those systems may suffer.  A service is a program
over this world; what it did before it failed stays done.
-/

namespace AccessBroker

/-- What is fixed when the services start. -/
structure Setup where
  lists : FixedLists
  settings : Settings

instance : Inhabited Setup := ⟨⟨.empty, .standard⟩⟩

/-- What a disturbance does to a call once its delay is over. -/
inductive Effect where
  /-- The call goes on undisturbed. -/
  | pass
  | fail (e : Error)
  /-- The directory denies the change. -/
  | deny (reason : String)
  /-- The cloud shows this instead of the role. -/
  | role (shown : Except Error (Option RoleDocument))
  /-- The cloud lists these roles. -/
  | arns (listed : List String)
  /-- The master was replaced by someone else. -/
  | lost
  /-- No pending request is found. -/
  | unseen

/-- What befalls one call. -/
structure Disturbance where
  /-- How long it keeps the call waiting. -/
  delay : Nat
  effect : Effect

namespace Disturbance

def calm : Disturbance := ⟨0, .pass⟩

end Disturbance

/-- A disturbance that befalls a number of calls of one kind. -/
structure Planned where
  kind : CallKind
  count : Nat
  disturbance : Disturbance

structure World where
  /-- The ids that are drawn, by their numbers. -/
  ids : Nat → String
  requests : RequestStore
  directory : Directory
  cloud : Cloud
  fast : FastTier
  durable : DurableTier
  config : ConfigTable
  /-- The copy of the configuration in the fast tier. -/
  configCopy : Option ConfigVersion
  eligible : EligibleCache
  /-- The configuration that the services work with. -/
  published : ConfigSnapshot
  /-- How often another configuration was published. -/
  publications : Nat
  clock : Instant
  /-- How many ids were drawn. -/
  drawn : Nat
  /-- The calls made, latest first. -/
  journal : List Call
  /-- What is to befall the next calls, in order for each kind. -/
  plan : List Planned
  /-- Milliseconds spent waiting. -/
  waited : Nat

namespace World

/-- Ids that tell their numbers, in twelve hexadecimal digits after a part that is fixed. -/
def numberedId (n : Nat) : String :=
  let digits := Nat.toDigits 16 n
  "00000000-0000-4000-8000-" ++
    String.ofList (List.replicate (12 - digits.length) '0' ++ digits)

/-- Empty stores at a reading of the clock. -/
def start (cloud : Cloud) (clock : Instant) : World where
  ids := numberedId
  requests := .empty
  directory := .empty
  cloud := cloud
  fast := .empty
  durable := ⟨.empty⟩
  config := .empty
  configCopy := none
  eligible := .empty
  published := .none
  publications := 0
  clock := clock
  drawn := 0
  journal := []
  plan := []
  waited := 0

instance : Inhabited World := ⟨start ⟨.empty⟩ default⟩

def now (w : World) : Timestamp :=
  w.clock.timestamp

/-- The id that is drawn next. -/
def nextId (w : World) : String :=
  w.ids (w.drawn + 1)

def events (w : World) : List Event :=
  w.journal.reverse.filterMap fun
    | .notify e => some e
    | _ => none

/-- The calls made since the journal had some length, earliest first. -/
def callsSince (w : World) (length : Nat) : List Call :=
  (w.journal.take (w.journal.length - length)).reverse

end World

/-- A program over the world; it may fail, and what it did until then stays done. -/
abbrev Service := ReaderT Setup (ExceptT Error (StateM World))

namespace Service

variable {α : Type}

def perform (service : Service α) (setup : Setup) (w : World) : Except Error α × World :=
  (service setup).run.run w

/-- A service from its meaning. -/
def ofRun (f : Setup → World → Except Error α × World) : Service α :=
  fun setup => ExceptT.mk (fun w => f setup w)

/-- A test or value of the domain as a step of a service. -/
def lift (x : Except Error α) : Service α :=
  match x with
  | .ok a => pure a
  | .error e => throw e

def settings : Service Settings :=
  return (← read).settings

def now : Service Timestamp :=
  return (← get).now

def log (call : Call) : Service Unit :=
  modify fun w => { w with journal := call :: w.journal }

/-- The first disturbance planned for a kind of call, and the plan without it. -/
def nextDisturbance (kind : CallKind) : List Planned → Disturbance × List Planned
  | [] => (.calm, [])
  | p :: rest =>
    if p.kind = kind then
      match p.count with
      | 0 => nextDisturbance kind rest
      | left + 1 => (p.disturbance, { p with count := left } :: rest)
    else
      let (found, left) := nextDisturbance kind rest
      (found, p :: left)

/-- Takes the disturbance of the next call of a kind from the plan. -/
def takeDisturbance (kind : CallKind) (w : World) : Disturbance × World :=
  let (d, plan) := nextDisturbance kind w.plan
  (d, { w with plan := plan })

/-- Meets what is planned for a call: waits, and fails if it is to fail. -/
def meet (kind : CallKind) : Service Effect := do
  let d ← modifyGet (takeDisturbance kind)
  modify fun w => { w with waited := w.waited + d.delay }
  match d.effect with
  | .fail e => throw e
  | effect => return effect

/-- Goes on whether or not the service fails. -/
def quietly (service : Service Unit) : Service Unit :=
  tryCatch service fun _ => pure ()

/-- Makes a call to the cloud, journaled as `call`, again and again until it succeeds or fails for
good. -/
def retried (operation : String) (call : Call)
    (act : Effect → World → Except Error α × World) : Service α :=
  .ofRun fun setup w =>
    let begin (w : World) : Retry.Attempt World α × World :=
      let (d, w) := takeDisturbance call.kind { w with journal := call :: w.journal }
      let finish (w : World) :=
        match d.effect with
        | .fail e => (.error e, w)
        | effect => act effect w
      (⟨d.delay, finish⟩, w)
    let (report, w) := Retry.run setup.settings.retry operation begin w
    (report.result, { w with waited := w.waited + report.elapsed })

end Service

end AccessBroker
