import AntennaBench.Analysis.PairedComparison

/-!
# Solar context

`derive_solar_context`: the sun above the two ends of every paired path. The elevation
formula is trigonometry on `f64` and stays a parameter.
-/

namespace AntennaBench

structure SolarCoordinates where
  latitudeDegrees : IeeeFloat
  longitudeDegrees : IeeeFloat

inductive SolarContextMissingReason where
  | missingGrid
  | invalidGrid
  deriving DecidableEq

inductive SolarLightState where
  | daylight
  | civilTwilight
  | nauticalTwilight
  | astronomicalTwilight
  | night
  deriving DecidableEq

inductive SolarPositionResult where
  | available (coordinates : SolarCoordinates) (elevationDegrees : IeeeFloat)
      (lightState : SolarLightState) (grayLine : Bool)
  | missing (reason : SolarContextMissingReason)

inductive SolarEndpointRole where
  | station
  | remote
  deriving DecidableEq

structure SolarEndpointContext where
  role : SolarEndpointRole
  endpointId : String
  grid : Option String
  result : SolarPositionResult

structure SolarObservationContext where
  observationId : String
  timestamp : DateTime
  station : SolarEndpointContext
  remote : SolarEndpointContext

structure SolarContextRow where
  stratum : ComparisonStratum
  blockIndex : ℕ
  order : ComparisonOrder
  remotePath : String
  left : SolarObservationContext
  right : SolarObservationContext

/-- The elevation of the sun at checked coordinates. -/
abbrev SolarElevation := DateTime → SolarCoordinates → IeeeFloat

/-- The place of a character of a locator in its range. -/
def asciiIndex (minimum maximum c : Char) : Option IeeeFloat :=
  let c := asciiUpperChar c
  if minimum ≤ c ∧ c ≤ maximum then some (.finite (c.toNat - minimum.toNat : ℕ)) else none

namespace IeeeFloat

def plus (x y : IeeeFloat) : IeeeFloat := x.add .f64 y

def times (x y : IeeeFloat) : IeeeFloat := x.mul .f64 y

def dividedBy (x y : IeeeFloat) : IeeeFloat := x.div .f64 y

end IeeeFloat

/-- The middle of the cell that starts here. -/
def cellCenter (latitude longitude height width : IeeeFloat) : SolarCoordinates where
  latitudeDegrees := latitude.plus (height.dividedBy (.finite 2))
  longitudeDegrees := longitude.plus (width.dividedBy (.finite 2))

/-- The south-west corner of the square of the first four characters. -/
def squareCorner (a b c d : Char) : Option (IeeeFloat × IeeeFloat) := do
  let fieldLon ← asciiIndex 'A' 'R' a
  let fieldLat ← asciiIndex 'A' 'R' b
  let squareLon ← asciiIndex '0' '9' c
  let squareLat ← asciiIndex '0' '9' d
  let longitude := ((IeeeFloat.finite (-180)).plus (fieldLon.times (.finite 20))).plus
    (squareLon.times (.finite 2))
  let latitude := ((IeeeFloat.finite (-90)).plus (fieldLat.times (.finite 10))).plus squareLat
  return (latitude, longitude)

/-- The corner moved by the subsquare. -/
def subsquareCorner (latitude longitude : IeeeFloat) (e f : Char) :
    Option (IeeeFloat × IeeeFloat) := do
  let east ← asciiIndex 'A' 'X' e
  let north ← asciiIndex 'A' 'X' f
  return (latitude.plus ((north.times (.finite (5 / 2))).dividedBy (.finite 60)),
    longitude.plus ((east.times (.finite 5)).dividedBy (.finite 60)))

def maidenheadCellCenter (grid : String) : Option SolarCoordinates :=
  match (trim grid).toList with
  | [a, b, c, d] => do
    let (latitude, longitude) ← squareCorner a b c d
    return cellCenter latitude longitude (.finite 1) (.finite 2)
  | [a, b, c, d, e, f] => do
    let (latitude, longitude) ← squareCorner a b c d
    let (latitude, longitude) ← subsquareCorner latitude longitude e f
    return cellCenter latitude longitude ((IeeeFloat.finite (5 / 2)).dividedBy (.finite 60))
      ((IeeeFloat.finite 5).dividedBy (.finite 60))
  | [a, b, c, d, e, f, g, h] => do
    let (latitude, longitude) ← squareCorner a b c d
    let (latitude, longitude) ← subsquareCorner latitude longitude e f
    let east ← asciiIndex '0' '9' g
    let north ← asciiIndex '0' '9' h
    return cellCenter (latitude.plus (north.dividedBy (.finite 240)))
      (longitude.plus (east.dividedBy (.finite 120))) ((IeeeFloat.finite 1).dividedBy (.finite 240))
      ((IeeeFloat.finite 1).dividedBy (.finite 120))
  | _ => none

def classifyLight (elevationDegrees : IeeeFloat) : SolarLightState :=
  if IeeeFloat.zero.le elevationDegrees then .daylight
  else if (IeeeFloat.finite (-6)).le elevationDegrees then .civilTwilight
  else if (IeeeFloat.finite (-12)).le elevationDegrees then .nauticalTwilight
  else if (IeeeFloat.finite (-18)).le elevationDegrees then .astronomicalTwilight
  else .night

/-- `value.is_finite()` and `(-bound..=bound).contains(&value)`. -/
def withinDegrees (bound : ℚ) (value : IeeeFloat) : Bool :=
  value.isFinite && (IeeeFloat.finite (-bound)).le value && value.le (.finite bound)

/-- `solar_elevation`, which refuses coordinates out of range. -/
def solarElevation (elevation : SolarElevation) (timestamp : DateTime)
    (coordinates : SolarCoordinates) : Option IeeeFloat :=
  if withinDegrees 90 coordinates.latitudeDegrees &&
      withinDegrees 180 coordinates.longitudeDegrees then
    some (elevation timestamp coordinates)
  else none

/-- Nothing stands for the panic on coordinates out of range. -/
def endpointContext (elevation : SolarElevation) (role : SolarEndpointRole) (endpointId : String)
    (grid : Option String) (timestamp : DateTime) : Option SolarEndpointContext :=
  let normalizedGrid := (grid.map trim).filter (!·.isEmpty)
  let result : Option SolarPositionResult :=
    match normalizedGrid with
    | none => some (.missing .missingGrid)
    | some grid =>
      match maidenheadCellCenter grid with
      | none => some (.missing .invalidGrid)
      | some coordinates => (solarElevation elevation timestamp coordinates).map fun degrees =>
        let lightState := classifyLight degrees
        .available coordinates degrees lightState (lightState = .civilTwilight ||
          lightState = .nauticalTwilight || lightState = .astronomicalTwilight)
  result.map fun result => ⟨role, endpointId, normalizedGrid.map toAsciiUppercase, result⟩

def observationContext (elevation : SolarElevation) (station : Station)
    (remotePath observationId : String) (timestamp : DateTime) (remoteGrid : Option String) :
    Option SolarObservationContext := do
  let station ← endpointContext elevation .station station.callsign (some station.grid) timestamp
  let remote ← endpointContext elevation .remote remotePath remoteGrid timestamp
  return ⟨observationId, timestamp, station, remote⟩

def deriveRow (elevation : SolarElevation) (station : Station) (row : PairedObservationRow) :
    Option SolarContextRow := do
  let left ← observationContext elevation station row.remotePath row.leftObservationId
    row.leftTimestamp row.leftRemoteGrid
  let right ← observationContext elevation station row.remotePath row.rightObservationId
    row.rightTimestamp row.rightRemoteGrid
  return ⟨row.stratum, row.blockIndex, row.order, row.remotePath, left, right⟩

def deriveSolarContext (elevation : SolarElevation) (station : Station)
    (rows : List PairedObservationRow) : Option (List SolarContextRow) :=
  rows.mapM (deriveRow elevation station)

end AntennaBench
