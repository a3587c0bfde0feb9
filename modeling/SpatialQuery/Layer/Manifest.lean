import SpatialQuery.Json.Reader
import SpatialQuery.Layer.Registry
import SpatialQuery.Stack
import SpatialQuery.Text.Encoding

/-!
# The manifest

The manifest lists the layers that were prepared for the database.  A registry is built from it and,
when the database can be asked, from the columns that each table really has.  A manifest that cannot
be read means that nothing is loaded.  A manifest that can be read but has values of the wrong kind
where an object or a list is needed is a fault.
-/

set_option autoImplicit false

namespace SpatialQuery.Manifest

inductive Fault where
  | notAnObject
  /-- A value that cannot be taken for a list of labels. -/
  | unusable
  | excessive (excess : Json.Excess)
deriving DecidableEq

/-- The manifest that a file holds; an absent file and a malformed one hold the empty manifest. -/
def ofFile [Stack] (file : Option Text) : Except Fault Json :=
  match file with
  | none => .ok (.obj [])
  | some text =>
    match Json.read (Stack.reading .manifest) text with
    | .ok manifest => .ok manifest
    | .error (.malformed _ _ _ _) => .ok (.obj [])
    | .error (.excessive excess) => .error (.excessive excess)

def members : Json → Except Fault (List (Text × Json))
  | .obj members => .ok members
  | j => if j.isVoid then .ok [] else .error .notAnObject

/-- The members of the manifest itself, which must be an object. -/
def topMembers : Json → Except Fault (List (Text × Json))
  | .obj members => .ok members
  | _ => .error .notAnObject

def valueAt (members : List (Text × Json)) (key : Text) : Json :=
  (Json.member? members key).getD .null

def entries (manifest : Json) : Except Fault (List (Text × Json)) := do
  members (valueAt (← topMembers manifest) "layers")

/-- The entry of a layer; null is no entry. -/
def entry? (entries : List (Text × Json)) (layer : Text) : Option Json :=
  match valueAt entries layer with
  | .null => none
  | entry => some entry

/-! ## Labels of fields -/

/-- The labels that a list of fields holds: the keys of an object, the items of a list, the
characters of a string. -/
def fieldLabels : Json → Except Fault (List Json)
  | .obj members => .ok (members.map fun m => .str m.1)
  | .arr items => .ok items
  | .str t => .ok (t.marks.map fun mark => .str ⟨[mark]⟩)
  | j => if j.isVoid then .ok [] else .error .unusable

def allTexts? : List Json → Option (List Text)
  | [] => some []
  | .str t :: rest => (allTexts? rest).map (t :: ·)
  | _ :: _ => none

/-- A truth value counts as one or zero. -/
def numeric? : Json → Option Number
  | .num n => some n
  | .bool b => some (.int b.toInt)
  | _ => none

/-- Adds a label unless one of the same value is there. -/
def addNumeric (labels : List (Number × Json)) (label : Number × Json) : List (Number × Json) :=
  if labels.any fun known => known.1.sameValue label.1 then labels else labels ++ [label]

/-- Labels that are no text, in order: they must all be numbers, or all null. -/
def oddLabels (labels : List Json) : Except Fault (List Json) :=
  match labels with
  | [] => .ok []
  | .null :: rest => if rest.all fun j => j matches .null then .ok [.null] else .error .unusable
  | labels =>
    match labels.mapM fun label => (numeric? label).map (·, label) with
    | none => .error .unusable
    | some numbered =>
      let distinct := numbered.foldl addNumeric []
      .ok ((distinct.mergeSort fun a b => a.1.le b.1).map (·.2))

def isInternal : Json → Bool
  | .str t => Catalog.internalFields.any fun internal => t == internal
  | _ => false

/-- The fields of a layer in ascending order, text and odd labels apart.  The two do not mix. -/
def orderedLabels (labels : List Json) (others : List Text) :
    Except Fault (List Text × List Json) :=
  match allTexts? labels with
  | some texts => .ok (Query.ascending (texts ++ others), [])
  | none =>
    if others.isEmpty then do return ([], ← oddLabels labels) else .error .unusable

/-! ## Building -/

def featureCount? : Json → Option FeatureCount
  | .num (.int n) => some (.number n)
  | .bool b => some (.flag b)
  | _ => none

def unloaded (schema : LayerSchema) : Layer where
  name := schema.name
  geometryType := schema.geometryType
  schemaFields := schema.fields
  loadedFields := []
  queryableFields := Query.ascending (Catalog.virtualFields schema.name)
  oddLabels := []
  isLoaded := false
  featureCount := none
  description := some schema.description
  source := none

def loaded (schema : LayerSchema) (entry : Json) (columns : List Text) :
    Except Fault Layer := do
  let facts ← members entry
  let labels ← fieldLabels (valueAt facts "fields")
  let listed := labels.filter fun label => !isInternal label
  let present := columns.filter fun column => !Catalog.internalFields.contains column
  let (loadedFields, _) ← orderedLabels listed present
  let (queryableFields, odd) ← orderedLabels listed (present ++ Catalog.virtualFields schema.name)
  return {
    name := schema.name
    geometryType := schema.geometryType
    schemaFields := schema.fields
    loadedFields, queryableFields
    oddLabels := odd
    isLoaded := true
    featureCount := featureCount? (valueAt facts "featureCount")
    description := some schema.description
    source := match valueAt facts "source" with
      | .null => none
      | source => some source }

section

variable {m : Type → Type} [Monad m]

/-- Asks for the columns of a table.  Without anyone to ask the manifest stands alone. -/
abbrev Describe (m : Type → Type) := Option (Text → m (List Text))

/-- One layer.  A layer with an entry whose table has no columns is not loaded. -/
def layer (describe : Describe m) (entries : List (Text × Json)) (schema : LayerSchema) :
    m (Except Fault Layer) :=
  match entry? entries schema.name, describe with
  | none, _ => pure (.ok (unloaded schema))
  | some entry, none => pure (loaded schema entry [])
  | some entry, some describe => do
    match ← describe schema.name with
    | [] => return .ok (unloaded schema)
    | columns => return loaded schema entry columns

/-- The layers of the catalog in its order, up to the first fault. -/
def layers (describe : Describe m) (entries : List (Text × Json)) :
    List LayerSchema → m (Except Fault (List Layer))
  | [] => pure (.ok [])
  | schema :: rest => do
    match ← layer describe entries schema with
    | .error fault => return .error fault
    | .ok first =>
      match ← layers describe entries rest with
      | .error fault => return .error fault
      | .ok others => return .ok (first :: others)

def generatedAt (manifest : Json) (now : Text) : Json :=
  match manifest.get? "generatedAt" with
  | some j => if j.isVoid then .str now else j
  | none => .str now

def registry (describe : Describe m) (now : Text) (manifest : Json) :
    m (Except Fault Registry) :=
  match entries manifest with
  | .error fault => pure (.error fault)
  | .ok entries => do
    match ← layers describe entries Catalog.schemas with
    | .error fault => return .error fault
    | .ok layers => return .ok ⟨layers, generatedAt manifest now⟩

def registryOfFile [Stack] (describe : Describe m) (now : Text) (file : Option Text) :
    m (Except Fault Registry) :=
  match ofFile file with
  | .error fault => pure (.error fault)
  | .ok manifest => registry describe now manifest

/-! ## Files as they are -/

inductive FileFault where
  | undecodable (fault : Text.DecodeFault)
  | manifest (fault : Fault)
deriving DecidableEq

def textOf (content : Option Text.Bytes) : Except Text.DecodeFault (Option Text) :=
  match content with
  | none => .ok none
  | some bytes => (Text.decodeUtf8 bytes).map some

def registryOfContent [Stack] (describe : Describe m) (now : Text) (content : Option Text.Bytes) :
    m (Except FileFault Registry) :=
  match textOf content with
  | .error fault => pure (.error (.undecodable fault))
  | .ok file => do return (← registryOfFile describe now file).mapError .manifest

end

end SpatialQuery.Manifest
