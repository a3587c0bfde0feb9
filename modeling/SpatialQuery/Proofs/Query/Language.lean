import SpatialQuery.Proofs.Success
import SpatialQuery.Query.Shape

/-!
# The language of queries

What the parts of a query may be, everything that is wrong with a value that is none, and the order in which
that is told, apart from any check.  The fields of a record come in the order of its table, items in the
order of their list, and the kinds of a union in the order in which they are tried.
-/

set_option autoImplicit false

namespace SpatialQuery

def Violation.under (step : Text) (v : Violation) : Violation := ⟨step :: v.path, v.message⟩

/-- A kind of part. -/
structure Form where
  holds : Json → Prop
  /-- What is wrong with a value that is no such part. -/
  faults : Json → Violation → Prop
  /-- Of two paths to violations the first one is told first. -/
  before : List Text → List Text → Prop

namespace Form

/-! ## Order -/

/-- Something that lies one step deeper, with the names of that step. -/
structure Branch where
  steps : List Text
  before : List Text → List Text → Prop

inductive InOrder (branches : List Branch) : List Text → List Text → Prop
  | apart {f g : Branch} {a b : Text} {p q : List Text} (earlier : [f, g].Sublist branches)
      (first : a ∈ f.steps) (second : b ∈ g.steps) : InOrder branches (a :: p) (b :: q)
  | within {f : Branch} {a : Text} {p q : List Text} (member : f ∈ branches) (step : a ∈ f.steps)
      (inner : f.before p q) : InOrder branches (a :: p) (a :: q)

def indexStep (index : Nat) : Text := (toString index : String)

inductive ByIndex (before : List Text → List Text → Prop) : List Text → List Text → Prop
  | apart {i k : Nat} {p q : List Text} (earlier : i < k) :
      ByIndex before (indexStep i :: p) (indexStep k :: q)
  | within {i : Nat} {p q : List Text} (inner : before p q) :
      ByIndex before (indexStep i :: p) (indexStep i :: q)

/-! ## Ways to make forms -/

/-- A form whose faults are those of the value itself. -/
def flat (holds : Json → Prop) (message : Json → Text → Prop) : Form where
  holds
  faults j v := v.path = [] ∧ message j v.message
  before _ _ := False

def plain (holds : Json → Prop) (message : Text) : Form :=
  flat holds fun j m => ¬ holds j ∧ m = message

def list (item : Form) : Form where
  holds j := ∃ items, j = .arr items ∧ ∀ c ∈ items, item.holds c
  faults j v :=
    ((∀ items, j ≠ .arr items) ∧ v = ⟨[], "Input should be a valid list"⟩) ∨
      ∃ items index c w, j = .arr items ∧ items[index]? = some c ∧ item.faults c w ∧
        v = w.under (indexStep index)
  before := ByIndex item.before

def nonEmptyList (item : Form) : Form where
  holds j := (list item).holds j ∧ j ≠ .arr []
  faults j v :=
    (j = .arr [] ∧ v = ⟨[], "List should have at least 1 item after validation, not 0"⟩) ∨
      (list item).faults j v
  before := (list item).before

/-- One of several kinds.  What is no kind has the faults of every kind, each under its label. -/
def union (kinds : List (Text × Form)) : Form where
  holds j := ∃ kind ∈ kinds, kind.2.holds j
  faults j v := (∀ kind ∈ kinds, ¬ kind.2.holds j) ∧
    ∃ kind ∈ kinds, ∃ w, kind.2.faults j w ∧ v = w.under kind.1
  before := InOrder (kinds.map fun kind => ⟨[kind.1], kind.2.before⟩)

/-- A field of a record.  It is looked up by its key, and by its second spelling if the key is absent. -/
structure Field where
  key : Text
  spelling : Text
  required : Bool
  form : Form

namespace Field

def IsFound (f : Field) (members : List (Text × Json)) (step : Text) (j : Json) : Prop :=
  (step = f.key ∧ Json.member? members f.key = some j) ∨
    (Json.member? members f.key = none ∧ step = f.spelling ∧
      Json.member? members f.spelling = some j)

def IsAbsent (f : Field) (members : List (Text × Json)) : Prop :=
  Json.member? members f.key = none ∧ Json.member? members f.spelling = none

/-- The field is well formed; if it is not required it may be absent or null. -/
def holds (f : Field) (members : List (Text × Json)) : Prop :=
  (f.required = true → ¬ f.IsAbsent members) ∧
    ∀ step j, f.IsFound members step j → f.form.holds j ∨ f.required = false ∧ j = .null

def faults (f : Field) (members : List (Text × Json)) (v : Violation) : Prop :=
  (f.required = true ∧ f.IsAbsent members ∧ v = ⟨[f.key], "Field required"⟩) ∨
    ∃ step j w, f.IsFound members step j ∧ ¬ (f.required = false ∧ j = .null) ∧
      f.form.faults j w ∧ v = w.under step

def branch (f : Field) : Branch := ⟨[f.key, f.spelling], f.form.before⟩

end Field

/-- An object with those fields.  Fields that are well formed may still clash. -/
def record (kind : Text) (fields : List Field) (clash : List (Text × Json) → Text → Prop) : Form where
  holds j := ∃ members, j = .obj members ∧ (∀ f ∈ fields, f.holds members) ∧
    ∀ message, ¬ clash members message
  faults j v :=
    ((∀ members, j ≠ .obj members) ∧
      v = ⟨[], "Input should be a valid dictionary or instance of " ++ kind⟩) ∨
    ∃ members, j = .obj members ∧ ((∃ f ∈ fields, f.faults members v) ∨
      (∀ f ∈ fields, f.holds members) ∧ v.path = [] ∧ clash members v.message)
  before := InOrder (fields.map Field.branch)

def noClash (_ : List (Text × Json)) (_ : Text) : Prop := False

/-! ## The parts of a query -/

def bool : Form := plain (fun j => ∃ b, j = .bool b) "Input should be a valid boolean"

def integer : Form := plain (fun j => ∃ n, j = .int n) "Input should be a valid integer"

def number : Form := plain (fun j => ∃ n, j = .num n) "Input should be a valid number"

def string : Form := plain (fun j => ∃ t, j = .str t) "Input should be a valid string"

def name : Form :=
  flat (fun j => ∃ t, j = .str t ∧ t ≠ "" ∧ t.toString?.isSome = true) fun j m =>
    (¬ string.holds j ∧ m = "Input should be a valid string") ∨
    (j = .str "" ∧ m = "String should have at least 1 character") ∨
    ∃ t, j = .str t ∧ t ≠ "" ∧ t.toString? = none ∧ m = Shape.unencodableMessage

def positive : Form :=
  flat (fun j => ∃ n, j = .int n ∧ 0 < n) fun j m =>
    (¬ integer.holds j ∧ m = "Input should be a valid integer") ∨
    ∃ n, j = .int n ∧ n ≤ 0 ∧ m = "Input should be greater than 0"

def year : Form :=
  flat (fun j => ∃ n, j = .int n ∧ 1900 ≤ n ∧ n ≤ 2100) fun j m =>
    (¬ integer.holds j ∧ m = "Input should be a valid integer") ∨
    (∃ n, j = .int n ∧ n < 1900 ∧ m = "Input should be greater than or equal to 1900") ∨
    ∃ n, j = .int n ∧ 2100 < n ∧ m = "Input should be less than or equal to 2100"

/-- Four digits, two and two, with hyphens between them.  Surrogates are no digits, and one line break may
follow. -/
def IsDate (t : Text) : Prop :=
  ∃ year month day ending, t.shown = year ++ '-' :: (month ++ '-' :: (day ++ ending)) ∧
    year.length = 4 ∧ month.length = 2 ∧ day.length = 2 ∧
    (∀ c ∈ year ++ month ++ day, Text.isDigit c = true) ∧ (ending = [] ∨ ending = ['\n'])

def date : Form :=
  flat (fun j => ∃ t, j = .str t ∧ IsDate t) fun j m =>
    (¬ string.holds j ∧ m = "Input should be a valid string") ∨
    ∃ t, j = .str t ∧ ¬ IsDate t ∧ m = "date must be formatted YYYY-MM-DD"

def choice (words : List Text) : Form :=
  flat (fun j => ∃ t ∈ words, j = .str t) fun j m =>
    (∀ t ∈ words, j ≠ .str t) ∧
      ((∃ t, j = .str t ∧ t.toString? = none ∧ m = Shape.unencodableMessage) ∨
        (∀ t, j = .str t → t.toString?.isSome = true) ∧
          m = "Input should be " ++ Shape.alternatives words)

def scalarKinds : List (Text × Form) :=
  [("bool", bool), ("int", integer), ("float", number), ("str", string)]

def scalar : Form := union scalarKinds

def value : Form :=
  union (scalarKinds ++ ([("list[union[bool,int,float,str]]", list scalar)] : List (Text × Form)))

/-- A number that is not at most zero, which a value that is no number is not. -/
def distance : Form where
  holds j := ∃ n, j = .num n ∧ n.le (.int 0) = false
  faults j v :=
    (∃ n, j = .num n ∧ n.le (.int 0) = true ∧ v = ⟨[], "distance must be positive"⟩) ∨
      (union [("int", integer), ("float", number)]).faults j v
  before := (union [("int", integer), ("float", number)]).before

/-- A list of values goes with the operator `in` and with no other one. -/
inductive ValueClash (members : List (Text × Json)) : Text → Prop
  | single {j : Json} (op : Json.member? members "op" = some (.str "in"))
      (value : Json.member? members "value" = some j) (noList : ∀ items, j ≠ .arr items) :
      ValueClash members "operator 'in' requires an array value"
  | empty (op : Json.member? members "op" = some (.str "in"))
      (value : Json.member? members "value" = some (.arr [])) :
      ValueClash members "operator 'in' requires a non-empty array"
  | several {name : Text} {items : List Json} (op : Json.member? members "op" = some (.str name))
      (other : name ≠ "in") (value : Json.member? members "value" = some (.arr items)) :
      ValueClash members ("operator '" ++ name ++ "' requires a scalar value")

def attributeFilter : Form := record "AttributeFilter" [
    ⟨"field", "field", true, name⟩,
    ⟨"op", "op", true, choice ["eq", "neq", "gt", "gte", "lt", "lte", "in", "like"]⟩,
    ⟨"value", "value", true, value⟩] ValueClash

/-- Some relations need a distance, and some a number of features. -/
inductive ParameterClash (members : List (Text × Json)) : Text → Prop
  | distance (op : Json.member? members "op" = some (.str "within_distance"))
      (missing : ∀ j, Json.member? members "distance" = some j → j = .null) :
      ParameterClash members "within_distance requires a distance in meters"
  | limit (op : Json.member? members "op" = some (.str "nearest"))
      (missing : ∀ j, Json.member? members "limit" = some j → j = .null) :
      ParameterClash members "nearest requires a limit"

def spatialFilter : Form := record "SpatialFilter" [
    ⟨"op", "op", true, choice ["within_distance", "intersects", "contains", "within", "nearest"]⟩,
    ⟨"targetLayer", "target_layer", true, name⟩,
    ⟨"targetFilter", "target_filter", false, list attributeFilter⟩,
    ⟨"distance", "distance", false, distance⟩,
    ⟨"limit", "limit", false, positive⟩] ParameterClash

def metric : Form := record "AggregateMetric" [
    ⟨"field", "field", true, name⟩,
    ⟨"op", "op", true, choice ["count", "sum", "avg", "median", "min", "max"]⟩,
    ⟨"alias", "alias", false, name⟩] noClash

def aggregate : Form := record "AggregateSpec" [
    ⟨"groupBy", "group_by", true, nonEmptyList name⟩,
    ⟨"metrics", "metrics", true, nonEmptyList metric⟩] noClash

def timeRef : Form := union [
    ("YearRef", record "YearRef" [⟨"year", "year", true, year⟩] noClash),
    ("DateRef", record "DateRef" [⟨"date", "date", true, date⟩] noClash)]

def temporal : Form := record "TemporalQuery" [
    ⟨"baseline", "baseline", true, timeRef⟩,
    ⟨"comparison", "comparison", true, timeRef⟩,
    ⟨"metric", "metric", true, name⟩] noClash

def orderBy : Form := record "OrderBy" [
    ⟨"field", "field", true, name⟩,
    ⟨"direction", "direction", true, choice ["asc", "desc"]⟩] noClash

def query : Form := record "StructuredQuery" [
    ⟨"selectLayer", "select_layer", true, name⟩,
    ⟨"selectFields", "select_fields", false, list name⟩,
    ⟨"attributeFilters", "attribute_filters", false, list attributeFilter⟩,
    ⟨"attributeLogic", "attribute_logic", false, choice ["and", "or"]⟩,
    ⟨"spatialFilters", "spatial_filters", false, list spatialFilter⟩,
    ⟨"spatialLogic", "spatial_logic", false, choice ["and", "or"]⟩,
    ⟨"aggregate", "aggregate", false, aggregate⟩,
    ⟨"temporal", "temporal", false, temporal⟩,
    ⟨"limit", "limit", false, positive⟩,
    ⟨"orderBy", "order_by", false, orderBy⟩] noClash

end Form

end SpatialQuery
