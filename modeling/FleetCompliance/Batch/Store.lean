import FleetCompliance.Document

/-!
# Stores

A store holds the four lists that a batch reads: geographies, policies, devices and events. Of each
device it keeps the newest event only.
-/

namespace FleetCompliance

/-- Takes an event into a list with one event per device. It replaces an older one of its device; of
two with equal times the earlier in the list stays. -/
def takeNewer : List Event → Event → List Event
  | [], e => [e]
  | kept :: rest, e =>
    if kept.deviceId = e.deviceId then
      if e.timestamp ≤ kept.timestamp then kept :: rest else e :: rest
    else kept :: takeNewer rest e

/-- **The newest event of each device**, in order. -/
def latestPerDevice (events : List Event) : List Event :=
  (events.foldl takeNewer []).mergeSort Event.notAfter

/-- What a batch reads. -/
structure Store where
  geographies : List Geography
  policies : List Policy
  devices : List Device
  events : List Event

namespace Store

/-- The store of four lists. -/
def ofLists (geographies : List Geography) (policies : List Policy) (devices : List Device)
    (events : List Event) : Store :=
  ⟨geographies, policies, devices, latestPerDevice events⟩

/-- **The fleet of one provider**, or of all. -/
def fleet (s : Store) (provider : Option (Identifier .provider)) : Fleet :=
  match provider with
  | some p => Fleet.ofProvider ⟨s.devices, s.events⟩ p
  | none => ⟨s.devices, s.events⟩

/-- What a store of documents calls itself. -/
def name : String := "FixtureStore"

/-- The path of a file in a directory. -/
def pathIn (directory name : String) : String :=
  if directory.isEmpty || directory.endsWith "/" then directory ++ name
  else directory ++ "/" ++ name

/-- **Loads a store** from the four documents of a directory. -/
def load {m : Type → Type} [Monad m] (read : FileReader m) (directory : String) :
    ExceptT AdapterFault m Store := do
  let geographies ← readDocument read Geography.decodeText (pathIn directory "geographies.json")
  let policies ← readDocument read Policy.decodeText (pathIn directory "policies.json")
  let devices ← readDocument read Device.decodeText (pathIn directory "devices.json")
  let events ← readDocument read Event.decodeText (pathIn directory "events.json")
  return ofLists geographies policies devices events

end Store

end FleetCompliance
