/-! # Errors

Every operation that can fail does so with one of eight kinds of error and a
message.  The kind alone decides whether another attempt may help.
-/

namespace AccessBroker

/-- What went wrong, as far as a caller has to know. -/
inductive ErrorKind where
  /-- The input is invalid or breaks an invariant. -/
  | validation
  /-- The resource does not exist. -/
  | notFound
  /-- The write clashes with what is stored. -/
  | conflict
  /-- The caller is not known. -/
  | unauthorized
  /-- The caller is known and not allowed. -/
  | forbidden
  /-- A dependency failed in a way that may pass. -/
  | transient
  /-- A dependency stayed away through all attempts. -/
  | dependencyUnavailable
  /-- Anything else. -/
  | internal
deriving DecidableEq, Repr, Inhabited

/-- The words that a displayed error starts with. -/
def ErrorKind.label : ErrorKind → String
  | validation => "validation error"
  | notFound => "not found"
  | conflict => "conflict"
  | unauthorized => "unauthorized"
  | forbidden => "forbidden"
  | transient => "transient dependency failure"
  | dependencyUnavailable => "dependency unavailable"
  | internal => "internal error"

def ErrorKind.name : ErrorKind → String
  | validation => "Validation"
  | notFound => "NotFound"
  | conflict => "Conflict"
  | unauthorized => "Unauthorized"
  | forbidden => "Forbidden"
  | transient => "Transient"
  | dependencyUnavailable => "DependencyUnavailable"
  | internal => "Internal"

def ErrorKind.all : List ErrorKind :=
  [validation, notFound, conflict, unauthorized, forbidden, transient, dependencyUnavailable,
    internal]

def ErrorKind.ofName? (name : String) : Option ErrorKind :=
  all.find? (·.name == name)

structure Error where
  kind : ErrorKind
  message : String
deriving DecidableEq, Repr, Inhabited

namespace Error

def display (e : Error) : String :=
  e.kind.label ++ ": " ++ e.message

/-- Whether the same call may succeed when it is repeated. -/
def isTransient (e : Error) : Bool :=
  e.kind == .transient

/-- The status with which the interface answers the error. -/
def httpStatus (e : Error) : Nat :=
  match e.kind with
  | .validation => 400
  | .notFound => 404
  | .conflict => 409
  | .unauthorized => 401
  | .forbidden => 403
  | .transient | .dependencyUnavailable => 503
  | .internal => 500

def validation (message : String) : Error := ⟨.validation, message⟩
def notFound (message : String) : Error := ⟨.notFound, message⟩
def conflict (message : String) : Error := ⟨.conflict, message⟩
def unauthorized (message : String) : Error := ⟨.unauthorized, message⟩
def forbidden (message : String) : Error := ⟨.forbidden, message⟩
def transient (message : String) : Error := ⟨.transient, message⟩
def dependencyUnavailable (message : String) : Error := ⟨.dependencyUnavailable, message⟩
def internal (message : String) : Error := ⟨.internal, message⟩

end Error

end AccessBroker
