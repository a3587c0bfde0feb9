import SpatialQuery.Text.Basic

/-!
# The declared layers

Every layer the service knows about, with its kind of geometry and the types of its fields.  That a
layer is declared does not mean that it is loaded.  Some fields are concepts that no table has; a query
that filters by one is normalized before it is compiled.
-/

set_option autoImplicit false

namespace SpatialQuery

structure LayerSchema where
  name : Text
  geometryType : Text
  description : Text
  /-- Names and types, in the order of their declaration. -/
  fields : List (Text × Text)
deriving DecidableEq

namespace Catalog

def geographicColumn : String := "geom_4326"

def projectedColumn : String := "geom_utm13"

/-- Columns that no query may name. -/
def internalFields : List Text := [geographicColumn, projectedColumn, "geometry", "geom"]

def virtualFields (layer : Text) : List Text :=
  if layer = "zoning_districts" then ["allows_residential", "allows_commercial"] else []

def schemas : List LayerSchema := [
  ⟨"parcels", "Polygon",
    "Property parcels from Santa Fe County Assessor",
    [("parcel_id", "string"), ("address", "string | null"), ("zoning", "string"),
     ("land_use", "string"), ("acres", "number"), ("year_built", "number | null"),
     ("assessed_value", "number | null")]⟩,
  ⟨"census_tracts", "Polygon",
    "US Census tracts with demographic and housing data",
    [("geoid", "string"), ("name", "string"), ("total_population", "number"),
     ("median_income", "number | null"), ("median_age", "number | null"),
     ("pct_renter", "number | null"), ("total_housing_units", "number | null"),
     ("owner_occupied_units", "number | null"), ("renter_occupied_units", "number | null"),
     ("vacant_units", "number | null")]⟩,
  ⟨"hydrology", "LineString",
    "Rivers, streams, arroyos, and acequias",
    [("name", "string"), ("type", "string"), ("length_km", "number")]⟩,
  ⟨"zoning_districts", "Polygon",
    "Zoning districts with development regulations",
    [("zone_code", "string"), ("zone_name", "string"), ("description", "string | null"),
     ("allows_residential", "boolean"), ("allows_commercial", "boolean"),
     ("min_lot_size_acres", "number | null"), ("max_density_units_per_acre", "number | null")]⟩,
  ⟨"short_term_rentals", "Point",
    "Short-term rental listings (Airbnb/VRBO)",
    [("listing_id", "string"), ("host_id", "string | null"), ("property_type", "string"),
     ("room_type", "string | null"), ("accommodates", "number | null"),
     ("price_per_night", "number | null"), ("availability_365", "number | null"),
     ("last_scraped", "string | null"), ("source", "string")]⟩,
  ⟨"vacancy_status", "Point",
    "Vacancy status for residential parcels",
    [("parcel_id", "string"), ("vacancy_type", "string"), ("vacant", "boolean"),
     ("vacant_since", "string | null"), ("source", "string")]⟩,
  ⟨"affordable_housing_units", "Polygon | Point",
    "Affordable housing developments and units",
    [("unit_id", "string"), ("property_name", "string | null"), ("address", "string"),
     ("total_units", "number"), ("affordable_units", "number"),
     ("income_restriction_pct_ami", "number | null"), ("deed_restricted", "boolean"),
     ("restriction_expires", "string | null"), ("property_type", "string")]⟩,
  ⟨"eviction_filings", "Point",
    "Eviction filing records (geocoded addresses)",
    [("filing_id", "string"), ("case_number", "string | null"), ("filing_date", "string"),
     ("address", "string"), ("unit_number", "string | null"), ("eviction_type", "string"),
     ("outcome", "string | null")]⟩,
  ⟨"transit_access", "Point",
    "Transit stops and stations",
    [("stop_id", "string"), ("stop_name", "string"), ("route_ids", "string[]"),
     ("route_names", "string[]"), ("stop_type", "string"),
     ("wheelchair_accessible", "boolean | null"), ("avg_headway_minutes", "number | null")]⟩,
  ⟨"school_zones", "Polygon",
    "School attendance zones",
    [("zone_id", "string"), ("school_name", "string"), ("school_type", "string"),
     ("district", "string"), ("grades", "string")]⟩,
  ⟨"historic_districts", "Polygon",
    "Historic preservation districts",
    [("district_id", "string"), ("district_name", "string"), ("designation_type", "string"),
     ("designation_date", "string | null"), ("restrictions", "string[]")]⟩,
  ⟨"flood_zones", "Polygon",
    "FEMA flood hazard zones",
    [("zone_id", "string"), ("zone_code", "string"), ("zone_name", "string"),
     ("flood_risk_level", "string"), ("base_flood_elevation", "number | null"),
     ("source", "string")]⟩,
  ⟨"wildfire_risk", "Polygon",
    "Wildfire risk zones",
    [("zone_id", "string"), ("risk_level", "string"), ("fuel_model", "string | null"),
     ("source", "string")]⟩]

def schema? (layer : Text) : Option LayerSchema :=
  schemas.find? fun schema => schema.name == layer

def isNumericType (fieldType : Text) : Bool := fieldType.contains "number"

def isBooleanType (fieldType : Text) : Bool := fieldType.contains "boolean"

end Catalog

end SpatialQuery
