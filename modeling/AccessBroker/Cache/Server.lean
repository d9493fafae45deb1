import AccessBroker.Error
import AccessBroker.Table

/-! # A server of keys and values

The fast tiers may be kept by a server.  Every command has a connection of its
own, and a command that fails changes nothing.
-/

namespace AccessBroker.Cache

/-- What a server holds under a key. -/
structure Stored where
  value : String
  /-- The seconds for which the value is kept; without them, it is kept for good. -/
  lifetime : Option Nat
deriving DecidableEq, Repr

/-- How a server meets those who call it. -/
inductive Conduct where
  | serves
  | failsCommands
  | refusesConnections
deriving DecidableEq, Repr

structure Server where
  conduct : Conduct
  entries : Table Stored

namespace Server

def empty : Server := ⟨.serves, .empty⟩

instance : Inhabited Server := ⟨empty⟩

end Server

/-- A conversation with the server. -/
abbrev Session := ExceptT Error (StateM Server)

namespace Session

variable {α : Type}

def perform (session : Session α) (s : Server) : Except Error α × Server :=
  session.run.run s

/-- What was read of an answer, as a step of a conversation. -/
def lift (x : Except Error α) : Session α :=
  ExceptT.mk (pure x)

/-- Sends one command; `failure` is the message for one that fails. -/
def command (failure : String) (act : Table Stored → α × Table Stored) : Session α :=
  ExceptT.mk fun s =>
    match s.conduct with
    | .refusesConnections => (.error (.internal "failed to connect to redis: "), s)
    | .failsCommands => (.error (.internal failure), s)
    | .serves =>
      let (a, entries) := act s.entries
      (.ok a, { s with entries := entries })

def get? (failure key : String) : Session (Option String) :=
  command failure fun entries => ((entries.get? key).map (·.value), entries)

def put (failure key value : String) (lifetime : Option Nat) : Session Unit :=
  command failure fun entries => ((), entries.insert key ⟨value, lifetime⟩)

def delete (failure : String) (keys : List String) : Session Unit :=
  command failure fun entries => ((), keys.foldl Table.erase entries)

end Session

end AccessBroker.Cache
