import SpatialQuery.Query.Wire

/-!
# Query templates

Queries that are ready to run for common analyses of housing equity, with what is to be said about
them and the layers that they need.
-/

set_option autoImplicit false

namespace SpatialQuery

inductive Template.Category where
  | housing
  | displacement
  | access
  | risk
  | opportunity
deriving DecidableEq

structure Template where
  id : Text
  name : Text
  description : Text
  category : Template.Category
  query : Query
  explanation : Text
  dataRequirements : List Text

namespace Template

def Category.all : List Category := [.housing, .displacement, .access, .risk, .opportunity]

def Category.name : Category → String
  | .housing => "housing"
  | .displacement => "displacement"
  | .access => "access"
  | .risk => "risk"
  | .opportunity => "opportunity"

def Category.ofName? (name : Text) : Option Category :=
  Category.all.find? fun category => category.name == name

def residentialZoning : FilterValue :=
  .many [.str "R-1", .str "R-2", .str "R-3", .str "R-4"]

def lowIncome : List AttributeFilter := [⟨"median_income", .lt, .one (.num (.int 50000))⟩]

def isOneOf (field : Text) (values : List Text) : AttributeFilter :=
  ⟨field, .oneOf, .many (values.map .str)⟩

def all : List Template := [
  { id := "str-density-by-tract"
    name := "Short-Term Rental Density by Census Tract"
    description := "Identifies census tracts with high concentrations of short-term " ++
                     "rentals, which may indicate displacement pressure on long-term " ++
                     "residents."
    category := .displacement
    query := { Query.ofLayer "short_term_rentals" with
      aggregate := some ⟨["census_tract_geoid"],
        [⟨"*", .count, some "str_count"⟩, ⟨"price_per_night", .avg, some "avg_price"⟩]⟩ }
    explanation := "High STR density can reduce available housing for residents and drive " ++
                     "up rents. Compare with median income to identify equity concerns."
    dataRequirements := ["short_term_rentals"] },
  { id := "evictions-low-income"
    name := "Eviction Filings in Low-Income Areas"
    description := "Maps eviction filings in census tracts with below-median income to " ++
                     "identify displacement hotspots."
    category := .displacement
    query := { Query.ofLayer "eviction_filings" with
      spatialFilters := some [
        ⟨.within, "census_tracts", some lowIncome, none, none⟩] }
    explanation := "Eviction concentrations in low-income areas signal housing instability " ++
                     "and potential need for tenant protections or rental assistance."
    dataRequirements := ["eviction_filings", "census_tracts"] },
  { id := "vacancy-hotspots"
    name := "Vacancy Hotspots"
    description := "Identifies areas with high vacancy rates that may indicate speculation " ++
                     "or abandonment."
    category := .displacement
    query := { Query.ofLayer "vacancy_status" with
      attributeFilters := some [
        ⟨"vacant", .eq, .one (.bool true)⟩]
      aggregate := some ⟨["vacancy_type"],
        [⟨"*", .count, some "vacant_count"⟩]⟩ }
    explanation := "Distinguishing seasonal vs long-term vacancy helps identify " ++
                     "speculative holdings vs second homes."
    dataRequirements := ["vacancy_status"] },
  { id := "affordable-near-transit"
    name := "Affordable Housing Near Transit"
    description := "Identifies affordable housing units within walking distance of transit " ++
                     "stops."
    category := .access
    query := { Query.ofLayer "affordable_housing_units" with
      spatialFilters := some [
        ⟨.withinDistance, "transit_access", none, some (.int 800), none⟩] }
    explanation := "Transit access is critical for low-income residents who may not own " ++
                     "cars. This shows which affordable units have good transit connectivity."
    dataRequirements := ["affordable_housing_units", "transit_access"] },
  { id := "affordable-near-schools"
    name := "Affordable Housing Near Schools"
    description := "Maps affordable housing units relative to school zones for families " ++
                     "with children."
    category := .access
    query := { Query.ofLayer "affordable_housing_units" with
      spatialFilters := some [
        ⟨.withinDistance, "school_zones", some [isOneOf "school_type" ["elementary", "middle"]],
          some (.int 1600), none⟩] }
    explanation := "Proximity to quality schools is a key factor in housing choice for " ++
                     "families. This identifies affordable options near schools."
    dataRequirements := ["affordable_housing_units", "school_zones"] },
  { id := "expiring-deed-restrictions"
    name := "Affordable Units with Expiring Deed Restrictions"
    description := "Identifies affordable housing units whose deed restrictions expire in " ++
                     "the next 5 years, representing preservation priorities."
    category := .opportunity
    query := { Query.ofLayer "affordable_housing_units" with
      attributeFilters := some [
        ⟨"deed_restricted", .eq, .one (.bool true)⟩,
        ⟨"restriction_expires", .lt, .one (.str "2030-01-01")⟩]
      orderBy := some ⟨"restriction_expires", .asc⟩ }
    explanation := "Units with expiring restrictions may convert to market rate, reducing " ++
                     "affordable housing stock. Early identification enables preservation " ++
                     "efforts."
    dataRequirements := ["affordable_housing_units"] },
  { id := "vacant-near-transit"
    name := "Vacant Parcels Near Transit (Development Opportunity)"
    description := "Identifies vacant or underutilized parcels near transit that could " ++
                     "support affordable housing development."
    category := .opportunity
    query := { Query.ofLayer "parcels" with
      attributeFilters := some [
        ⟨"land_use", .like, .one (.str "%vacant%")⟩]
      spatialFilters := some [
        ⟨.withinDistance, "transit_access", none, some (.int 800), none⟩] }
    explanation := "Transit-oriented development on vacant parcels can provide affordable " ++
                     "housing with lower transportation costs for residents."
    dataRequirements := ["parcels", "transit_access"] },
  { id := "flood-risk-low-income"
    name := "Flood Risk in Low-Income Census Tracts"
    description := "Identifies residential parcels in flood zones within low-income areas."
    category := .risk
    query := { Query.ofLayer "parcels" with
      attributeFilters := some [
        ⟨"zoning", .oneOf, residentialZoning⟩]
      spatialFilters := some [
        ⟨.intersects, "flood_zones", some [isOneOf "flood_risk_level" ["high", "moderate"]], none, none⟩,
        ⟨.within, "census_tracts", some lowIncome, none, none⟩]
      spatialLogic := some .and }
    explanation := "Low-income residents often live in higher-risk areas and have fewer " ++
                     "resources to recover from flooding. This identifies vulnerable " ++
                     "populations."
    dataRequirements := ["parcels", "flood_zones", "census_tracts"] },
  { id := "arroyo-proximity"
    name := "Housing Near Arroyos (Flash Flood Risk)"
    description := "Identifies residential properties near arroyos, which pose flash flood " ++
                     "risk in the desert Southwest."
    category := .risk
    query := { Query.ofLayer "parcels" with
      attributeFilters := some [
        ⟨"zoning", .oneOf, residentialZoning⟩]
      spatialFilters := some [
        ⟨.withinDistance, "hydrology", some [⟨"type", .eq, .one (.str "arroyo")⟩], some (.int 100), none⟩] }
    explanation := "Arroyos can flood rapidly during monsoon season. Properties within " ++
                     "100m may face elevated risk not captured by FEMA maps."
    dataRequirements := ["parcels", "hydrology"] },
  { id := "wildfire-affordable"
    name := "Affordable Housing in Wildfire Risk Zones"
    description := "Identifies affordable housing units in areas with elevated wildfire risk."
    category := .risk
    query := { Query.ofLayer "affordable_housing_units" with
      spatialFilters := some [
        ⟨.intersects, "wildfire_risk", some [isOneOf "risk_level" ["extreme", "high"]], none, none⟩] }
    explanation := "Affordable housing in wildfire zones faces both physical risk and " ++
                     "potential insurance and maintenance cost increases."
    dataRequirements := ["affordable_housing_units", "wildfire_risk"] },
  { id := "renter-majority-tracts"
    name := "Renter-Majority Census Tracts"
    description := "Identifies census tracts where renters outnumber homeowners."
    category := .housing
    query := { Query.ofLayer "census_tracts" with
      attributeFilters := some [
        ⟨"pct_renter", .gt, .one (.num (.int 50))⟩]
      orderBy := some ⟨"pct_renter", .desc⟩ }
    explanation := "Renter-majority areas may benefit from tenant protections and are more " ++
                     "vulnerable to displacement from rising rents."
    dataRequirements := ["census_tracts"] },
  { id := "high-value-low-income"
    name := "Gentrification Pressure (High Value in Low Income Areas)"
    description := "Identifies parcels with high assessed values in low-income census " ++
                     "tracts, potentially indicating gentrification."
    category := .housing
    query := { Query.ofLayer "parcels" with
      attributeFilters := some [
        ⟨"assessed_value", .gt, .one (.num (.int 500000))⟩]
      spatialFilters := some [
        ⟨.within, "census_tracts", some lowIncome, none, none⟩] }
    explanation := "High-value properties in low-income areas may signal gentrification " ++
                     "pressure that could displace existing residents."
    dataRequirements := ["parcels", "census_tracts"] },
  { id := "historic-district-housing"
    name := "Housing in Historic Districts"
    description := "Identifies residential parcels within historic districts, which may " ++
                     "face development restrictions."
    category := .housing
    query := { Query.ofLayer "parcels" with
      attributeFilters := some [
        ⟨"zoning", .oneOf, residentialZoning⟩]
      spatialFilters := some [
        ⟨.within, "historic_districts", none, none, none⟩] }
    explanation := "Historic preservation requirements can increase housing costs and " ++
                     "limit affordable development options."
    dataRequirements := ["parcels", "historic_districts"] }]

def isAvailable (t : Template) (loaded : List Text) : Bool :=
  t.dataRequirements.all fun layer => loaded.contains layer

def find? (id : Text) : Option Template := all.find? fun t => t.id == id

def ofCategory (category : Category) : List Template :=
  all.filter fun t => t.category == category

def available (loaded : List Text) : List Template :=
  all.filter fun t => t.isAvailable loaded

/-- The templates by category, the categories in the order in which they first occur. -/
def grouped : List (Text × List Template) :=
  (all.map (·.category)).eraseDups.map fun category => (category.name, ofCategory category)

def summaryMembers (t : Template) : List (Text × Json) := [
  ("id", .str t.id),
  ("name", .str t.name),
  ("description", .str t.description),
  ("category", .str t.category.name),
  ("dataRequirements", .texts t.dataRequirements)]

def summary (t : Template) : Json := .obj t.summaryMembers

def toJson (t : Template) : Json :=
  .obj (t.summaryMembers ++
    ([("query", t.query.wire), ("explanation", .str t.explanation)] : List (Text × Json)))

end Template

end SpatialQuery
