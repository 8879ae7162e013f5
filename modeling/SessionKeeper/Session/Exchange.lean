import SessionKeeper.Task.Routine
import SessionKeeper.Text.Case

/-! # Exchanges

Sending a request and reading the response. A failure of the HTTP client becomes the failure of an
exchange and keeps the incident as its cause; running out of time counts first, then a dropped
connection. Every other fault passes unchanged.
-/

namespace SessionKeeper.Request

/-- The failure of an exchange that an incident means, if it means one. -/
def failureOf (request : Request) (incident : Incident) : Option TransportFailure :=
  match incident.nature with
  | .timeout =>
    some ⟨.timeout, request.operation ++ " request timeout: " ++ incident.text, some incident⟩
  | .interrupted =>
    some ⟨.interrupted, request.operation ++ " error: " ++ incident.text, some incident⟩
  | .client _ =>
    some ⟨.failed,
      "Unexpected " ++ Text.lower request.operation ++ " error: " ++ incident.text,
      some incident⟩
  | _ => none

/-- A fault of the HTTP layer as a fault of the exchange. -/
def wrap (request : Request) (fault : Fault) : Fault :=
  match fault with
  | .foreign incident =>
    match request.failureOf incident with
    | some failure => .transport failure
    | none => fault.awaited
  | _ => fault

/-- The outcome of an exchange. A response without a reason phrase gets the empty one. -/
def settle (request : Request) : Answer → Except Fault Response
  | .ok response => .ok { response with reason := some (response.reason.getD "") }
  | .error fault => .error (request.wrap fault)

/-- Send a request and wait for the response. -/
def send (request : Request) : Routine Response :=
  .exchange request fun answer => .done (request.settle answer)

end SessionKeeper.Request
