import AntennaBench.Analysis.Solar
import AntennaBench.Core.Ieee

/-!
# Places on the report's maps

Maidenhead locators as coordinates, and the categories of a report's maps: four distance
bins and eight compass sectors of 45°. The great-circle geometry between two places is a
parameter.
-/

namespace AntennaBench

structure GeographicCoordinates where
  latitudeDegrees : IeeeFloat
  longitudeDegrees : IeeeFloat

/-- `GeographicCoordinates::new`. -/
def GeographicCoordinates.new? (latitude longitude : IeeeFloat) : Option GeographicCoordinates :=
  if latitude.isFinite && longitude.isFinite &&
      (IeeeFloat.finite (-90)).le latitude && latitude.le (.finite 90) &&
      (IeeeFloat.finite (-180)).le longitude && longitude.le (.finite 180) then
    some ⟨latitude, longitude⟩
  else none

/-- `station_coordinates_from_grid`: the same cell centre, range-checked. -/
def stationCoordinatesFromGrid (grid : String) : Option GeographicCoordinates :=
  (maidenheadCellCenter grid).bind fun center =>
    GeographicCoordinates.new? center.latitudeDegrees center.longitudeDegrees

structure GreatCirclePosition where
  distanceKm : IeeeFloat
  initialBearingDegrees : IeeeFloat

/-- `great_circle_position`, whose trigonometry is the platform's. -/
abbrev GreatCircle := GeographicCoordinates → GeographicCoordinates → Option GreatCirclePosition

inductive ReportDistanceBin where
  | under500Km
  | km500To1499
  | km1500To2999
  | km3000AndAbove
  deriving DecidableEq

namespace ReportDistanceBin

/-- `ReportDistanceBin::ALL`. -/
def all : List ReportDistanceBin := [under500Km, km500To1499, km1500To2999, km3000AndAbove]

def classify (distanceKm : IeeeFloat) : Option ReportDistanceBin :=
  if !distanceKm.isFinite || distanceKm.lt .zero then none
  else if distanceKm.lt (.finite 500) then some under500Km
  else if distanceKm.lt (.finite 1500) then some km500To1499
  else if distanceKm.lt (.finite 3000) then some km1500To2999
  else some km3000AndAbove

def index : ReportDistanceBin → Fin 4
  | under500Km => 0
  | km500To1499 => 1
  | km1500To2999 => 2
  | km3000AndAbove => 3

/-- `ReportDistanceBin::ALL[index]`. -/
def ofIndex : Fin 4 → ReportDistanceBin
  | 0 => under500Km
  | 1 => km500To1499
  | 2 => km1500To2999
  | 3 => km3000AndAbove

@[simp] theorem ofIndex_index (bin : ReportDistanceBin) : ofIndex bin.index = bin := by
  cases bin <;> rfl

theorem all_nodup : all.Nodup := by
  decide

theorem mem_all (bin : ReportDistanceBin) : bin ∈ all := by
  cases bin <;> decide

/-- A finite distance that is not negative has a bin. -/
theorem classify_isSome {distanceKm : IeeeFloat} (hfinite : distanceKm.isFinite = true)
    (hsign : distanceKm.lt .zero = false) : (classify distanceKm).isSome = true := by
  unfold classify
  rw [hfinite, hsign]
  split_ifs <;> simp_all

end ReportDistanceBin

inductive ReportAzimuthSector where
  | north
  | northEast
  | east
  | southEast
  | south
  | southWest
  | west
  | northWest
  deriving DecidableEq

namespace ReportAzimuthSector

/-- `ReportAzimuthSector::ALL`. -/
def all : List ReportAzimuthSector :=
  [north, northEast, east, southEast, south, southWest, west, northWest]

def index : ReportAzimuthSector → Fin 8
  | north => 0
  | northEast => 1
  | east => 2
  | southEast => 3
  | south => 4
  | southWest => 5
  | west => 6
  | northWest => 7

/-- `ReportAzimuthSector::ALL[index]`. -/
def ofIndex : Fin 8 → ReportAzimuthSector
  | 0 => north
  | 1 => northEast
  | 2 => east
  | 3 => southEast
  | 4 => south
  | 5 => southWest
  | 6 => west
  | 7 => northWest

@[simp] theorem ofIndex_index (sector : ReportAzimuthSector) : ofIndex sector.index = sector := by
  cases sector <;> rfl

@[simp] theorem index_ofIndex (i : Fin 8) : (ofIndex i).index = i := by
  match i with
  | 0 | 1 | 2 | 3 | 4 | 5 | 6 | 7 => rfl

theorem mem_all (sector : ReportAzimuthSector) : sector ∈ all := by
  cases sector <;> decide

end ReportAzimuthSector

/-- `value.floor()` cast to an unsigned integer of so many bits, which saturates. -/
def IeeeFloat.floorAs (bits : ℕ) : IeeeFloat → ℕ
  | .nan => 0
  | .infinite negative => if negative then 0 else 2 ^ bits - 1
  | .finite value => min ⌊value⌋.toNat (2 ^ bits - 1)
  | .negativeZero => 0

/-- `((degrees + 22.5) / 45.0).floor()` as an integer of so many bits, modulo 8. -/
def azimuthSectorIndex (bits : ℕ) (degrees : IeeeFloat) : Fin 8 :=
  Fin.ofNat 8
    (((degrees.add .f64 (.finite (45 / 2))).div .f64 (.finite 45)).floorAs bits)

end AntennaBench
