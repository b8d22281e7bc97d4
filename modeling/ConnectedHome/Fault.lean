import ConnectedHome.Document.Literal
import ConnectedHome.Vehicle.Exchange
/-!
# Faults

A fault is why an operation did not finish.  The causes are of three families:

* a value that cannot be used as asked (`badValue`, `badType`, `overflow`, `noAttribute`,
  `missingKey`, `missingIndex`, `badIndex`, `encoding`, `decimal`): the documents the services
  exchange are whatever the other side sent, so reading them can fail at any member;
* a failure of a service (`vehicle`, `speaker`) or of the network (`runtime`, `os`);
* a refusal of the hub (`hub`, `notReady`, `schema`, `unknownEntry`, `cancelled`).

Each fault has a class name and a message (`Fault.className`, `Fault.message`); the hub reports
both, and faults of the vehicle service also their exchange.  The wording of every message is
fixed where the fault is raised, except for the few whose text is built from a value
(`missingKey` quotes its key, `os` prefixes the error number).
-/
namespace ConnectedHome

open Vehicle

/-- The classes of vehicle service failures. -/
inductive VehicleFailure where
  | general
  | connection
  | authentication
  | api
deriving BEq, Inhabited

/-- The classes of speaker failures; a refused request carries the device's response code. -/
inductive SpeakerFailure where
  | general
  | connection
  | api (code : String)
deriving BEq, Inhabited

/-- The classes of refusals by the hub. -/
inductive HubFailure where
  /-- A command of an entity failed. -/
  | command
  /-- A coordinator could not refresh its data. -/
  | updateFailed
  /-- The credentials of an entry were refused. -/
  | authFailed
  /-- An entry cannot be set up at all. -/
  | entryError
  /-- A service call named something that does not exist. -/
  | serviceValidation
  /-- A service that is not registered was called. -/
  | serviceNotFound
deriving BEq, Inhabited

/-- Why a decimal operation has no result. -/
inductive DecimalSignal where
  /-- Text that is no numeral. -/
  | conversionSyntax
  /-- An operation whose result is not defined or not exact where it must be. -/
  | invalidOperation
  /-- A result whose exponent is too large for the context. -/
  | overflow
deriving Inhabited, DecidableEq

/-- The name of a decimal signal. -/
def DecimalSignal.name : DecimalSignal → String
  | .conversionSyntax => "ConversionSyntax"
  | .invalidOperation => "InvalidOperation"
  | .overflow => "Overflow"

/-- The signal under which a decimal signal is reported: text that is no numeral is an invalid
operation. -/
def DecimalSignal.reported : DecimalSignal → String
  | .overflow => "Overflow"
  | _ => "InvalidOperation"

/-- Why an operation did not finish. -/
inductive Fault where
  | badValue (msg : String)
  | badType (msg : String)
  | overflow (msg : String)
  | noAttribute (msg : String)
  | missingKey (key : String)
  /-- A missing key that is a number. -/
  | missingIndex (key : Nat)
  | badIndex (msg : String)
  /-- Text that a codec could not encode, with the codec's message. -/
  | encoding (codec msg : String)
  /-- A decimal operation without a defined result. -/
  | decimal (signal : DecimalSignal)
  | runtime (msg : String)
  /-- A division by zero. -/
  | zeroDivision (msg : String)
  /-- Work nested deeper than the stack allows. -/
  | recursion (msg : String)
  | os (errno : Int) (text : String)
  | cancelled
  | vehicle (kind : VehicleFailure) (msg : String) (exchange : Exchange)
  | speaker (kind : SpeakerFailure) (msg : String)
  | hub (kind : HubFailure) (msg : String)
  /-- An entry cannot be set up yet; an empty message stands for the message of the cause. -/
  | notReady (msg : String) (cause : Option Fault)
  /-- Input that does not fit a schema. -/
  | schema (msg : String)
  | unknownEntry (id : String)
deriving Inhabited

namespace Fault

/-- The class name under which the hub reports a fault. -/
def className : Fault → String
  | .badValue _ => "ValueError"
  | .badType _ => "TypeError"
  | .overflow _ => "OverflowError"
  | .noAttribute _ => "AttributeError"
  | .missingKey _ | .missingIndex _ => "KeyError"
  | .badIndex _ => "IndexError"
  | .encoding _ _ => "UnicodeError"
  | .decimal s => s.reported
  | .runtime _ => "RuntimeError"
  | .zeroDivision _ => "ZeroDivisionError"
  | .recursion _ => "RecursionError"
  | .os _ _ => "OSError"
  | .cancelled => "CancelledError"
  | .vehicle .general _ _ => "CarNetError"
  | .vehicle .connection _ _ => "CarNetConnectionError"
  | .vehicle .authentication _ _ => "CarNetAuthenticationError"
  | .vehicle .api _ _ => "CarNetApiError"
  | .speaker .general _ => "MusicCastError"
  | .speaker .connection _ => "MusicCastConnectionError"
  | .speaker (.api _) _ => "MusicCastApiError"
  | .hub .command _ => "HomeAssistantError"
  | .hub .updateFailed _ => "UpdateFailed"
  | .hub .authFailed _ => "ConfigEntryAuthFailed"
  | .hub .entryError _ => "ConfigEntryError"
  | .hub .serviceValidation _ => "ServiceValidationError"
  | .hub .serviceNotFound _ => "ServiceNotFound"
  | .notReady _ _ => "ConfigEntryNotReady"
  | .schema _ => "MultipleInvalid"
  | .unknownEntry _ => "UnknownEntry"

/-- The message of a fault. -/
def message : Fault → String
  | .badValue m | .badType m | .overflow m | .noAttribute m | .badIndex m | .runtime m
  | .recursion m | .zeroDivision m => m
  | .missingKey k => quoteText k
  | .missingIndex k => toString k
  | .encoding codec m => s!"encoding with '{codec}' codec failed (UnicodeError: {m})"
  | .decimal s => s!"[<class 'decimal.{s.name}'>]"
  | .os n t => s!"[Errno {n}] {t}"
  | .cancelled => ""
  | .vehicle _ m _ | .speaker _ m | .hub _ m | .schema m => m
  | .notReady m cause =>
    if m.isEmpty then (match cause with | some c => c.message | none => "") else m
  | .unknownEntry id => id

/-- A fault as a document: its class and message, and for failures of the vehicle service the
status and error report of the exchange, for refusals of a speaker its response code. -/
def toValue (f : Fault) : Value :=
  let base : List (String × Value) := [("error", .str f.className), ("message", .str f.message)]
  match f with
  | .vehicle _ _ x =>
    .obj (base ++ [("http_code", .int x.status), ("api_error", x.report.toValue)])
  | .speaker (.api code) _ => .obj (base ++ [("response_code", .str code)])
  | _ => .obj base

/-- Whether a fault is a failure of the vehicle service. -/
def isVehicle : Fault → Bool
  | .vehicle .. => true
  | _ => false

/-- Whether a fault is a failure of a speaker. -/
def isSpeaker : Fault → Bool
  | .speaker .. => true
  | _ => false

/-- The usual fault of reading a member of something that is not an object. -/
def noGet (v : Value) : Fault := .noAttribute s!"'{v.kind}' object has no attribute 'get'"

/-- The fault of iterating over something that is not a collection. -/
def notIterable (v : Value) : Fault := .badType s!"'{v.kind}' object is not iterable"

/-- A vehicle service failure that happened before any exchange. -/
def vehicleGeneral (msg : String) : Fault := .vehicle .general msg {}

end Fault

/-- Reads member `k` of an object; null when it is missing.  Anything but an object has no
members to read. -/
def Value.get (v : Value) (k : String) : Except Fault Value :=
  match v with
  | .obj ms => .ok ((ms.lookup k).getD .null)
  | _ => .error (Fault.noGet v)

/-- Reads member `k` of an object, `d` when it is missing (a present null stays null). -/
def Value.getD (v : Value) (k : String) (d : Value) : Except Fault Value :=
  match v with
  | .obj ms => .ok ((ms.lookup k).getD d)
  | _ => .error (Fault.noGet v)

/-- Member `k` of an object, which must be there.  A list or a text is indexed by numbers, and
other values cannot be indexed at all. -/
def Value.item (v : Value) (k : String) : Except Fault Value :=
  match v with
  | .obj ms =>
    match ms.lookup k with
    | some x => .ok x
    | none => .error (.missingKey k)
  | .list _ => .error (.badType "list indices must be integers or slices, not str")
  | .str _ => .error (.badType "string indices must be integers, not 'str'")
  | _ => .error (.badType s!"'{v.kind}' object is not subscriptable")

/-- The elements of a collection in order: the elements of a list, the member names of an
object, the characters of a text.  Anything else cannot be walked. -/
def Value.elements (v : Value) : Except Fault (List Value) :=
  match v with
  | .list xs => .ok xs
  | .obj ms => .ok (ms.map (fun m => .str m.1))
  | .str s => .ok (s.toList.map (fun c => .str (String.singleton c)))
  | _ => .error (Fault.notIterable v)

end ConnectedHome
