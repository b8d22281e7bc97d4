import ConnectedHome.Vehicle.Entities
import ConnectedHome.Hub.ConfigEntry
/-!
# Diagnostics of a vehicle entry

The diagnostics of a vehicle's entry show the entry, the coordinator, what is known about the
vehicle and the additional data sets, which are read for this purpose only
(`vehicleDiagnostics`).  The credentials, the PIN, the VIN, positions and user ids are hidden
(`vehicleSecrets`).
-/
namespace ConnectedHome.Vehicle

open Hub

/-- The names of members the diagnostics hide. -/
def vehicleSecrets : List String :=
  ["password", "username", "spin", "vin", "location", "user_id", "userId", "vehicle_users",
   "latitude", "longitude"]

/-- The diagnostics of a vehicle entry. -/
def vehicleDiagnostics (entry : ConfigEntry) : PollM Value := do
  let w ← get
  let configEntry : Value := .obj [("entry_id", .str entry.entryId), ("version", entry.version),
    ("domain", .str entry.domain), ("title", entry.title), ("data", redact vehicleSecrets entry.data),
    ("options", entry.options)]
  let coordinator : Value := .obj [
    ("update_interval", .str ((w.coordinator.interval.map durationText).getD "None")),
    ("last_update_success", .bool w.coordinator.lastUpdateSuccess),
    ("initialized", .bool w.car.initialized),
    ("home_region_url", .str w.client.config.homeRegionUrl)]
  let c := w.car
  let vehicle : Value := .obj [("details", c.details.toValue), ("services", c.services.toValue),
    ("channels", .obj (c.channels.map fun (k, ch) => (k, ch.toValue))), ("values", .obj c.values),
    ("aggregate", c.aggregate.toValue), ("location", c.location.toValue)]
  let additional ← viaCar Car.additionalData
  return .obj [("config_entry", configEntry), ("coordinator", coordinator),
    ("vehicle", redact vehicleSecrets vehicle), ("additional_data", redact vehicleSecrets additional)]

end ConnectedHome.Vehicle
