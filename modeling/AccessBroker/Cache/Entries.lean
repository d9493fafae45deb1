import AccessBroker.Cache.Server
import AccessBroker.Config.Table
import AccessBroker.Role.Cloud

/-! # What the fast tiers keep on a server

Roles, the configuration and eligible roles, each printed as JSON under keys of
its own.  A lifetime of zero keeps nothing and sends no command.
-/

namespace AccessBroker

namespace FastEntry

def fields : Json.Fields FastEntry :=
  (Json.Fields.pure FastEntry.mk).and (.required "role" RoleDocument.reader)
    |>.and (.required "cached_at" Timestamp.reader)

def toTree (e : FastEntry) : Json.Tree :=
  .object [("role", e.role.toTree), ("cached_at", e.cachedAt.toTree)]

end FastEntry

namespace ConfigVersion

def fields : Json.Fields ConfigVersion :=
  (Json.Fields.pure ConfigVersion.mk).and (.required "id" .text)
    |>.and (.required "config" (.refine .value fun j => (ConfigDocument.ofJson j).toOption))
    |>.and (.required "checksum" .text)
    |>.and (.required "updated_by" .text)
    |>.and (.required "updated_at" Timestamp.reader)

def toTree (v : ConfigVersion) : Json.Tree :=
  .object [
    ("id", .string v.id),
    ("config", v.document.json.tree),
    ("checksum", .string v.checksum),
    ("updated_by", .string v.updatedBy),
    ("updated_at", v.updatedAt.toTree)]

end ConfigVersion

namespace Cache

def roleKey (space : String) (key : RoleKey) : String :=
  s!"{space}:role:{key.account}:{key.arn}"

def configKey (space : String) : String :=
  s!"{space}:dynamic-config"

def eligibleKey (space user : String) (console : Bool) : String :=
  s!"{space}:eligible:{Text.lower user}:console_only={console}"

/-- The value that was found, if any, unless it cannot be read. -/
def decode {α : Type} (reader : Json.Reader α) (failure : String) :
    Option String → Except Error (Option α)
  | none => .ok none
  | some text =>
    match Json.readText reader text with
    | .ok a => .ok (some a)
    | .error _ => .error (.internal failure)

def getRole? (space : String) (key : RoleKey) : Session (Option FastEntry) := do
  let found ← Session.get? "failed to read role cache entry: " (roleKey space key)
  Session.lift (decode FastEntry.fields.reader "invalid role cache entry for '" found)

def putRole (space : String) (key : RoleKey) (entry : FastEntry) (freshness : Nat) :
    Session Unit := do
  if freshness ≠ 0 then
    Session.put "failed to write role cache entry: " (roleKey space key) entry.toTree.text
      (some freshness)

def getConfig? (space : String) : Session (Option ConfigVersion) := do
  let found ← Session.get? "failed to read cached dynamic configuration: " (configKey space)
  Session.lift (decode ConfigVersion.fields.reader
    "invalid cached dynamic configuration: " found)

def putConfig (space : String) (v : ConfigVersion) : Session Unit :=
  Session.put "failed to write cached dynamic configuration: " (configKey space) v.toTree.text none

def getEligible? (space user : String) (console : Bool) :
    Session (Option (List RoleMapping)) := do
  let found ← Session.get? "failed to read authorization cache entry: "
    (eligibleKey space user console)
  Session.lift (decode (.list RoleMapping.fields.reader)
    "invalid authorization cache entry: " found)

def putEligible (space user : String) (console : Bool) (roles : List RoleMapping)
    (lifetime : Nat) : Session Unit := do
  if lifetime ≠ 0 then
    Session.put "failed to write authorization cache entry: " (eligibleKey space user console)
      (Json.Tree.array (roles.map (·.toTree))).text (some lifetime)

def invalidateUser (space user : String) : Session Unit :=
  Session.delete "failed to invalidate authorization cache: "
    [eligibleKey space user false, eligibleKey space user true]

end Cache

end AccessBroker
