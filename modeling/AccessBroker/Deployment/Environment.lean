import AccessBroker.Error
import AccessBroker.Text.Blank
import AccessBroker.Text.Integer
import AccessBroker.Text.Split

/-! # Environment variables

A variable may be missing.  For most settings a blank value is the same as a
missing one, and then a default holds.
-/

namespace AccessBroker

/-- The values of the variables that are set. -/
abbrev Environment := String → Option String

namespace Environment

/-- An environment from names and values; the first value of a name counts. -/
def ofList (pairs : List (String × String)) : Environment :=
  fun name => pairs.lookup name

/-- Whether a program can be started with a name and value: neither may hold a null character, nor
the name an equals sign. -/
def isPassable (pair : String × String) : Bool :=
  pair.1.toList.all (fun c => c ≠ '=' && c ≠ '\x00') && pair.2.toList.all (· ≠ '\x00')

/-- A value that is not blank. -/
def text? (env : Environment) (name : String) : Option String :=
  (env name).filter (!Text.isAllBlank ·)

/-- The integer that a variable holds, or else a default. -/
def integerOr (env : Environment) (range : Text.IntegerRange) (name : String) (default : Int) :
    Except Error Int :=
  match env.text? name with
  | none => .ok default
  | some value =>
    match Text.integer range (Text.trim value) with
    | .ok i => .ok i
    | .error fault => .error (.validation s!"invalid {name}: {fault.message}")

/-- The natural number that a variable holds, or else a default. -/
def naturalOr (env : Environment) (bits : Nat) (name : String) (default : Nat) :
    Except Error Nat :=
  (env.integerOr (.natural bits) name default).map Int.toNat

/-- The pieces of a value between commas, trimmed; empty ones do not count. -/
def items (value : String) : List String :=
  ((Text.split ',' value).map Text.trim).filter (!·.isEmpty)

/-- The items of a variable; none if it is missing. -/
def list (env : Environment) (name : String) : List String :=
  ((env name).map items).getD []

end Environment

end AccessBroker
