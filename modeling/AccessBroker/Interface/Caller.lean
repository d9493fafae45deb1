import AccessBroker.Error
import AccessBroker.Http.Header
import AccessBroker.Identity
import AccessBroker.Text.Blank
import AccessBroker.Text.Split

/-! # Who calls

A proxy in front of the interface names the caller in two header fields.  Only
the first field with a user counts; groups may be spread over several fields
and joined by commas.
-/

namespace AccessBroker

def userHeader : String := "x-rolegate-user"

def groupsHeader : String := "x-rolegate-groups"

def callingUser? (headers : List Http.Header) : Option String :=
  (((Http.header? headers userHeader).bind Http.Header.readable?).map Text.trim).filter
    (!·.isEmpty)

def callingGroups (headers : List Http.Header) : List String :=
  (((Http.readableValues headers groupsHeader).flatMap (Text.split ',')).map Text.trim).filter
    (!·.isEmpty)

def Identity.ofHeaders (headers : List Http.Header) : Except Error Identity :=
  match callingUser? headers with
  | some user => .ok (.of user (callingGroups headers))
  | none => .error (.unauthorized "authentication required")

end AccessBroker
