import AccessBroker.Config.Document
import AccessBroker.Registry

/-! # Remembered answers about eligible roles

For each user, in lower case, and for either kind of session the roles that
were last worked out.
-/

namespace AccessBroker

structure EligibleCache where
  entries : Registry (String × Bool) (List RoleMapping)

namespace EligibleCache

instance : Inhabited EligibleCache := ⟨⟨.empty⟩⟩

def empty : EligibleCache := ⟨.empty⟩

def get? (c : EligibleCache) (user : String) (console : Bool) : Option (List RoleMapping) :=
  c.entries.get? (Text.lower user, console)

/-- Keeps an answer for some seconds; for none it is not kept at all. -/
def put (c : EligibleCache) (user : String) (console : Bool) (roles : List RoleMapping)
    (lifetime : Nat) : EligibleCache :=
  if lifetime = 0 then c else ⟨c.entries.insert (Text.lower user, console) roles⟩

def invalidate (c : EligibleCache) (user : String) : EligibleCache :=
  ⟨c.entries.filter fun e => e.1.1 != Text.lower user⟩

end EligibleCache

end AccessBroker
