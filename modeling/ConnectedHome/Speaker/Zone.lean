import ConnectedHome.Speaker.Reports
/-!
# Zones and their volume

A speaker sets volumes in steps from 0 to the zone's maximum; the hub shows them in percent.
Both conversions round down (`volumeToPercent`, `percentToVolume`), and a zone whose maximum
is not positive shows 0 %.  Zones are labelled `Main` and `Zone 2`, `Zone 3`, … (`zoneLabel`).
-/
namespace ConnectedHome.Speaker

/-- A volume in percent of the maximum, rounded down; 0 when the maximum is not positive. -/
def volumeToPercent (volume maxVolume : Int) : Int :=
  if maxVolume ≤ 0 then 0 else Int.fdiv (volume * 100) maxVolume

/-- The volume of a percentage of the maximum, rounded down. -/
def percentToVolume (percent maxVolume : Int) : Int := Int.fdiv (maxVolume * percent) 100

/-- The label of a zone: `Main` for the main zone, otherwise `Zone` and the zone id without its
`zone` prefix. -/
def zoneLabel (zone : String) : String :=
  if zone == mainZone then "Main"
  else "Zone " ++ (if zone.startsWith "zone" then (zone.drop 4).toString else zone)

end ConnectedHome.Speaker
