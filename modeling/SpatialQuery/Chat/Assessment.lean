import SpatialQuery.Chat.Phrase
import SpatialQuery.Json.Basic
import SpatialQuery.Query.Basic

/-!
# Assessing a message

Before a language model is asked, a message is screened for concepts that need certain layers and for
names of places that only a boundary layer can resolve.  A message is unsupported when it asks for
concepts and the layers of none of them are loaded.
-/

set_option autoImplicit false

namespace SpatialQuery.Chat

/-- A concept, the phrases that ask for it, and the layers that it needs. -/
structure Concept where
  name : Text
  phrases : List Phrase
  requiredLayers : List Text
  suggestion : Text

namespace Concept

def isAskedIn (concept : Concept) (message : Text) : Bool :=
  concept.phrases.any fun phrase => phrase.occursIn message

def missing (concept : Concept) (loaded : List Text) : List Text :=
  concept.requiredLayers.filter fun layer => !loaded.contains layer

def isMet (concept : Concept) (loaded : List Text) : Bool := (concept.missing loaded).isEmpty

def builtIn : List Concept := [
  ⟨"affordable_housing",
    [.literal "affordable housing", .compound "deed" "restricted", .compound "income" "restricted",
      .literal "lihtc"],
    ["affordable_housing_units"],
    "Affordable housing data is not loaded yet. Try transit, zoning, parcels, or census tracts."⟩,
  ⟨"evictions", [.orPlural "eviction", .orPlural "eviction filing"], ["eviction_filings"],
    "Eviction filing data is not loaded yet. Try census tracts or parcels-based analyses."⟩,
  ⟨"school_zones", [.orPlural "school zone", .orPlural "attendance zone"], ["school_zones"],
    "School attendance zone polygons are not loaded yet. " ++
      "Try parks, transit, or neighborhood-based filters."⟩,
  ⟨"wildfire_risk", [.literal "wildfire", .literal "fire risk", .literal "wui"], ["wildfire_risk"],
    "Wildfire risk layer is not loaded yet. Try flood zones or hydrology risk analyses."⟩,
  ⟨"vacancy_status",
    [.literal "vacancy status", .literal "usps vacancy", .compound "long" "term vacancy"],
    ["vacancy_status"],
    "Vacancy status layer is not loaded yet. " ++
      "Try vacant parcels using parcel land_use filters."⟩]

end Concept

/-- Names of areas that mean nothing without a boundary layer. -/
def ambiguousAreas : List Phrase := [.literal "downtown", .literal "railyard", .literal "midtown"]

def boundaryLayers : List Text := ["neighborhoods", "city_limits", "historic_districts"]

def isAmbiguous (message : Text) (loaded : List Text) : Bool :=
  (ambiguousAreas.any fun area => area.occursIn message) &&
    !boundaryLayers.any fun layer => loaded.contains layer

def disambiguationPrompt : String :=
  "That place name is ambiguous in the current data. " ++
    "Please specify a concrete boundary layer or address."

def disambiguationSuggestion : String :=
  "Try specifying a neighborhood name, coordinates, or a known boundary."

def maxSuggestions : Nat := 4

inductive Status where
  | exactMatch
  | partialMatch
  | unsupported
deriving DecidableEq

def Status.name : Status → String
  | .exactMatch => "exact_match"
  | .partialMatch => "partial_match"
  | .unsupported => "unsupported"

structure Assessment where
  status : Status
  requestedConcepts : List Text
  matchedLayers : List Text
  missingConcepts : List Text
  missingLayers : List Text
  ambiguous : Bool
  suggestions : List Text
deriving DecidableEq

def Assessment.isUnsupported (a : Assessment) : Bool := a.status == .unsupported

/-- What is told about an assessment; the prompt only when the place is ambiguous. -/
def Assessment.toJson (a : Assessment) : Json :=
  .present [
    ("status", some (.str a.status.name)),
    ("requestedConcepts", some (.texts a.requestedConcepts)),
    ("matchedLayers", some (.texts a.matchedLayers)),
    ("missingConcepts", some (.texts a.missingConcepts)),
    ("missingLayers", some (.texts a.missingLayers)),
    ("suggestions", some (.texts a.suggestions)),
    ("disambiguationPrompt",
      if a.ambiguous then some (.str disambiguationPrompt) else none)]

/-- Tells what the loaded layers can answer of the concepts that are asked for, in whichever way it is found
out that they are. -/
def assessWhere (isAsked : Concept → Bool) (ambiguous : Bool) (concepts : List Concept)
    (loaded : List Text) : Assessment :=
  let requested := concepts.filter isAsked
  let met := requested.filter fun concept => concept.isMet loaded
  let unmet := requested.filter fun concept => !concept.isMet loaded
  let matchedLayers := Query.ascending (met.flatMap (·.requiredLayers))
  { status :=
      if !unmet.isEmpty && matchedLayers.isEmpty then .unsupported
      else if !unmet.isEmpty || ambiguous then .partialMatch
      else .exactMatch
    requestedConcepts := requested.map (·.name)
    matchedLayers
    missingConcepts := unmet.map (·.name)
    missingLayers := Query.ascending (unmet.flatMap fun concept => concept.missing loaded)
    ambiguous
    suggestions := (unmet.map (·.suggestion) ++
      if ambiguous then [(disambiguationSuggestion : Text)] else []).eraseDups.take maxSuggestions }

def assess (concepts : List Concept) (message : Text) (loaded : List Text) : Assessment :=
  assessWhere (fun concept => concept.isAskedIn message) (isAmbiguous message loaded) concepts loaded

end SpatialQuery.Chat
