import AccessBroker.Error
import AccessBroker.Text.Blank

/-! # Texts that say something -/

namespace AccessBroker

structure NonBlank where
  text : String
  notBlank : Text.isAllBlank text = false
deriving DecidableEq

/-- The text as it is, unless it is blank. -/
def NonBlank.of (text : String) : Except Error NonBlank :=
  if h : Text.isAllBlank text = false then .ok ⟨text, h⟩
  else .error (.validation "value must not be empty or whitespace")

end AccessBroker
