import AccessBroker.Broker.Calls
import AccessBroker.NonBlank

/-! # The configuration of running services

Writers name the checksum that they have read.  A write archives the master,
swaps in the new version, copies it to the fast tier and publishes it.  Other
services learn of it when they refresh.
-/

namespace AccessBroker.Service

/-- Makes a snapshot the one that the services work with, unless it has the same checksum. -/
def publishIn (snapshot : ConfigSnapshot) (w : World) : World :=
  if w.published.checksum = snapshot.checksum then w
  else { w with published := snapshot, publications := w.publications + 1 }

def publish (snapshot : ConfigSnapshot) : Service Unit :=
  modify (publishIn snapshot)

/-- The master as a snapshot, which is also published. -/
def readConfig : Service ConfigSnapshot := do
  let snapshot :=
    match ← findConfig? masterId with
    | some v => ConfigSnapshot.of v
    | none => ConfigSnapshot.none
  publish snapshot
  return snapshot

/-- What a writer is going to store. -/
structure ConfigWrite where
  /-- The old master under its id in the archive. -/
  archived : Option ConfigVersion
  version : ConfigVersion

def shownChecksum (checksum : Option String) : String :=
  checksum.getD "<none>"

/-- Decides on a write from the master as the writer found it. -/
def planWrite (current : Option ConfigVersion) (document : ConfigDocument)
    (expected : Option String) (author : String) (clock : Instant) : Except Error ConfigWrite :=
  let stored := current.map (·.checksum)
  if stored ≠ expected then
    .error (.conflict ("dynamic configuration '" ++ masterId ++
      "' was modified concurrently: expected checksum '" ++ shownChecksum expected ++
      "', stored checksum '" ++ shownChecksum stored ++ "'"))
  else if current.any (·.document.same document) then
    .error (.conflict
      s!"dynamic configuration is unchanged from checksum '{shownChecksum stored}'")
  else
    .ok {
      archived := current.map fun v => { v with id := Text.intText clock.micros }
      version := ⟨masterId, document, document.checksum, author, clock.timestamp⟩ }

/-- Copies a version to the fast tier; a tier that fails is passed over. -/
def copyConfig (v : ConfigVersion) : Service Unit :=
  quietly (putConfigCopy v)

/-- Copies and publishes a version. -/
def adoptConfig (v : ConfigVersion) : Service Unit := do
  copyConfig v
  publish (.of v)

/-- Replaces the master that has the expected checksum. -/
def writeConfig (document : ConfigDocument) (expected : Option String) (author : String) :
    Service ConfigSnapshot := do
  let author ← lift (NonBlank.of author)
  let current ← findConfig? masterId
  let write ← lift (planWrite current document expected author.text (← get).clock)
  match write.archived with
  | some v => archiveConfig v
  | none => pure ()
  if ← swapConfig expected write.version then
    adoptConfig write.version
    return .of write.version
  else
    throw (.conflict
      s!"dynamic configuration '{masterId}' was modified concurrently")

/-- Takes over a master that differs from the published configuration. -/
def refreshFrom (master : Option ConfigVersion) : Service Bool := do
  match master with
  | none => return false
  | some v =>
    if (← get).published.checksum = some v.checksum then return false
    else
      adoptConfig v
      return true

/-- Looks for a new master and takes it over. -/
def refreshConfig : Service Bool := do
  refreshFrom (← findConfig? masterId)

/-- Publishes the copy of the fast tier, if there is one. -/
def loadCopy : Service Bool := do
  match ← tryCatch getConfigCopy? fun _ => pure none with
  | some v =>
    publish (.of v)
    return true
  | none => return false

/-- An archived version. -/
def readArchived (id : String) : Service ConfigVersion := do
  if id = masterId then
    throw (.validation s!"'{masterId}' is not an archived version id")
  match ← findConfig? id with
  | some v => return v
  | none =>
    throw (.notFound s!"archived dynamic configuration '{id}' does not exist")

def listingBound : Nat := 500

/-- The ids of archived versions, largest first. -/
def archiveIds (limit : Nat) : Service (List String) := do
  if limit = 0 then
    throw (.validation "archive listing limit must be positive")
  listConfigArchive (min limit listingBound)

end AccessBroker.Service
