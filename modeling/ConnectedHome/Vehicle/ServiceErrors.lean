import ConnectedHome.Vehicle.Exchange
import ConnectedHome.Text.Blank
/-!
# Readable messages for service errors

The vehicle service reports refusals by code.  Status refusals carry their code at the end of
the description, after a class marker: `Service disabled (VSR.security.9007)`.  Nine codes have
a readable message (`serviceMessage?`).

* `statusMessage` reads the code after the last marker of a class, up to the first closing
  bracket and without surrounding blanks, and gives its message, or the empty text.
* `ErrorReport.readableMessage` prefers the message of the description's code, then that of the
  report's own code, then the description (or the error) with the reason in brackets, then the
  description, the error or `Unknown error`.
* `ErrorReport.configurationPending` says whether the refusal is a service the vehicle has
  disabled, which is a matter of the vehicle's settings and not of communication.
-/
namespace ConnectedHome.Vehicle

/-- The class of status refusals. -/
def securityClass : String := "VSR.security"

/-- The code of a service the vehicle has disabled. -/
def disabledCode : String := "9007"

/-- The readable message of a refusal code. -/
def serviceMessage? : String → Option String
  | "9000" => some "Vehicle status service is not available"
  | "9001" => some "Service is not activated for this vehicle"
  | "9003" => some "Service requires the primary user to be verified"
  | "9004" => some "Vehicle is in guest mode, data is not available"
  | "9005" => some "Vehicle status service is temporarily locked"
  | "9006" => some "The vehicle has not been reachable for too long"
  | "9007" => some "Status service is disabled, check data privacy settings in the MMI"
  | "gw.error.authorization" => some "Authorization failed, check user and password"
  | "gw.error.validation" => some "Request was rejected by the API (validation failed)"
  | _ => none

/-- The characters after the occurrence of `marker` that starts last in `s`, if it occurs: what a
split at the last marker keeps on its right. -/
def afterLastChars (marker : List Char) : List Char → Option (List Char)
  | [] => if marker.isEmpty then some [] else none
  | c :: cs =>
    match afterLastChars marker cs with
    | some rest => some rest
    | none => if marker.isPrefixOf (c :: cs) then some ((c :: cs).drop marker.length) else none

/-- The text after the last occurrence of `marker` in `s`, if it occurs. -/
def afterLast (s marker : String) : Option String :=
  (afterLastChars marker.toList s.toList).map String.ofList

/-- The message of the code that follows the last `errorClass.` marker of a description, or the
empty text when there is no marker or the code has no message. -/
def statusMessage (description : String) (errorClass : String := securityClass) : String :=
  match afterLast description (errorClass ++ ".") with
  | none => ""
  | some rest =>
    let code := Text.trimBlanks (String.ofList (rest.toList.takeWhile (· != ')')))
    (serviceMessage? code).getD ""

/-- The text of the first non-empty of two texts, or the second. -/
def orText (a b : String) : String := if a.isEmpty then b else a

/-- A readable message for an error report. -/
def ErrorReport.readableMessage (r : ErrorReport) : String :=
  let fromDescription := statusMessage r.description
  if !fromDescription.isEmpty then fromDescription
  else match serviceMessage? r.code with
    | some m => m
    | none =>
      if !r.reason.isEmpty then s!"{orText r.description r.error} ({r.reason})"
      else orText r.description (orText r.error "Unknown error")

/-- Whether the report refuses a service that the vehicle has disabled: its description says
`disabled ` or carries the disabled code of the status class. -/
def ErrorReport.configurationPending (r : ErrorReport) : Bool :=
  r.description.contains "disabled " || r.description.contains (securityClass ++ "." ++ disabledCode)

theorem serviceMessage_disabled :
    serviceMessage? disabledCode =
      some "Status service is disabled, check data privacy settings in the MMI" := rfl

end ConnectedHome.Vehicle
