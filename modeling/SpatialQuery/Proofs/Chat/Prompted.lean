import SpatialQuery.Chat.Prompt
import SpatialQuery.Proofs.Json.ReadBack
import SpatialQuery.Proofs.Layer.Built
import SpatialQuery.Query.Shape

/-!
# What a prompt tells

A prompt holds the message between two texts that do not depend on it, as a literal that cannot be taken
for anything else and that no message can leave.  Of the layers it holds what is told about the loaded
ones, so that no prompt depends on any other layer.
-/

set_option autoImplicit false

namespace SpatialQuery

/-! ## Literals -/

namespace Json

def IsPrintable (c : Char) : Prop := 0x20 ≤ c.toNat ∧ c.toNat < 0x7F

instance (c : Char) : Decidable (IsPrintable c) := inferInstanceAs (Decidable (_ ∧ _))

theorem isPrintable_of_shortEscape? {n : Nat} {letter : Char} (short : shortEscape? n = some letter) :
    IsPrintable letter := by
  unfold shortEscape? at short
  repeat' split at short
  all_goals cases short
  all_goals decide

theorem isPrintable_unicodeEscape (n : Nat) : ∀ c ∈ unicodeEscape n, IsPrintable c := by
  have digit : ∀ d < 16, IsPrintable (Nat.digitChar d) := by decide
  have each : ∀ k, IsPrintable (Nat.digitChar (k % 16)) := fun k => digit _ (Nat.mod_lt k (by decide))
  simp only [unicodeEscape, Text.hexDigits, List.forall_mem_cons]
  exact ⟨by decide, by decide, each _, each _, each _, each _, List.forall_mem_nil _⟩

theorem isPrintable_unitChars (u : UInt16) : ∀ c ∈ unitChars u, IsPrintable c := by
  unfold unitChars
  split
  · rename_i letter short
    exact List.forall_mem_cons.mpr
      ⟨by decide, List.forall_mem_singleton.mpr (isPrintable_of_shortEscape? short)⟩
  · split
    · rename_i plain
      refine List.forall_mem_singleton.mpr ?_
      rw [IsPrintable, toNat_ofNat plain.2]
      exact plain
    · exact isPrintable_unicodeEscape _

theorem isPrintable_quoted (t : Text) : ∀ c ∈ quoted t, IsPrintable c := by
  rw [quoted]
  intro c member
  rcases List.mem_append.mp member with inside | last
  · rcases List.mem_cons.mp inside with rfl | written
    · decide
    · obtain ⟨u, _, unit⟩ := List.mem_flatMap.mp written
      exact isPrintable_unitChars u c unit
  · rw [List.mem_singleton.mp last]
    decide

/-- The literal is one line of printable characters.  It stands for the text, every reader has it back from
the literal alone, and whatever follows the literal in a longer text is no part of it. -/
structure IsLiteralOf (literal : String) (t : Text) : Prop where
  printable : ∀ c ∈ literal.toList, IsPrintable c
  denotes : Denotes literal (.str t)
  read (deepest : Nat) : read deepest literal = .ok (.str t)
  ends : ∀ rest, readText ((Text.ofString literal).marks ++ rest) = .ok (t, rest)

theorem isLiteralOf_of_whole {t : Text} (whole : t.IsWhole) :
    IsLiteralOf (spaced.render (.str t)) t := by
  have marks : (Text.ofString (spaced.render (.str t))).marks = (quoted t).map .char := by
    simp [Text.ofString, Text.ofChars, Style.render, Style.chars]
  have quotation := quotation_quoted t
  rw [Text.rejoined_of_whole whole] at quotation
  refine ⟨?_, ?_, fun _ => read_render (j := .str t) isOpen_spaced whole trivial (Nat.zero_le _),
    fun rest => ?_⟩
  · rw [Style.render, String.toList_ofList]
    exact isPrintable_quoted t
  · rw [Denotes, marks]
    exact (Spells.string quotation).bare
  · rw [marks]
    exact readText_quoted whole rest

/-- Whatever the text, its literal is that of the text as it is read from its units. -/
theorem isLiteralOf_render (t : Text) : IsLiteralOf (spaced.render (.str t)) t.rejoined := by
  have same : spaced.render (.str t) = spaced.render (.str t.rejoined) :=
    congrArg String.ofList (quoted_rejoined t).symm
  rw [same]
  exact isLiteralOf_of_whole t.isWhole_rejoined

end Json

/-! ## Layers that are told alike -/

structure Layer.IsToldLike (layer twin : Layer) : Prop where
  geometryType : layer.geometryType = twin.geometryType
  description : layer.description = twin.description
  queryableFields : layer.queryableFields = twin.queryableFields
  oddLabels : layer.oddLabels = twin.oddLabels
  fieldType : ∀ field ∈ layer.queryableFields, layer.fieldType? field = twin.fieldType? field

/-- The same layers are loaded, and each of them is told alike.  Layers that are not loaded, when the
registries were made, the columns and the sources do not matter. -/
structure Registry.TellsLike (registry other : Registry) : Prop where
  loadedNames : registry.loadedNames = other.loadedNames
  layers : ∀ name ∈ registry.loadedNames, ∀ layer twin : Layer, registry.get? name = some layer →
    other.get? name = some twin → layer.IsToldLike twin

theorem Registry.exists_of_mem_loadedNames {registry : Registry} {name : Text}
    (loaded : name ∈ registry.loadedNames) : ∃ layer, registry.get? name = some layer := by
  obtain ⟨layer, member, rfl⟩ := List.mem_map.mp (Query.mem_ascending.mp loaded)
  refine Option.isSome_iff_exists.mp (List.find?_isSome.mpr ⟨layer, ?_, BEq.refl _⟩)
  exact List.mem_of_mem_filter member

namespace Chat

open Json (IsLiteralOf)

/-! ## The message -/

/-- Two messages have one prompt only if they are read as one from their literals. -/
theorem prompt_eq_iff (registry : Registry) (message other : Text) :
    prompt registry message = prompt registry other ↔ message.rejoined = other.rejoined := by
  constructor
  · intro same
    have rows := congrArg Text.marks same
    change (_ ++ _) ++ _ = (_ ++ _) ++ _ at rows
    have literals : Text.ofString (messageText message) = messageText other :=
      congrArg Text.mk (List.append_cancel_left (List.append_cancel_right rows))
    have read := (Json.isLiteralOf_render message).read 0
    have again := (Json.isLiteralOf_render other).read 0
    rw [messageText, messageText] at literals
    rw [literals, again] at read
    exact (Json.str.inj (Except.ok.inj read)).symm
  · intro same
    have quotations : Json.quoted message = Json.quoted other := by
      rw [← Json.quoted_rejoined message, same, Json.quoted_rejoined]
    have literals : messageText message = messageText other := congrArg String.ofList quotations
    rw [prompt, literals, prompt]

/-! ## The layers -/

theorem describeLayer_eq {layer twin : Layer} (named : layer.name = twin.name)
    (alike : layer.IsToldLike twin) : describeLayer layer = describeLayer twin := by
  have fields : layer.queryableFields.map (describeField layer) =
      twin.queryableFields.map (describeField twin) := by
    rw [← alike.queryableFields]
    refine List.map_congr_left fun field queryable => ?_
    rw [describeField, alike.fieldType field queryable, describeField]
  rw [describeLayer, named, alike.geometryType, alike.description, fields, alike.oddLabels,
    describeLayer]

def layersTold : List Text → Text
  | [] => "  (no layers loaded)"
  | told => Text.intercalate "\n\n" told

theorem layerText_eq (registry : Registry) : layerText registry =
    layersTold ((registry.loadedNames.filterMap registry.get?).map describeLayer) := by
  unfold layerText
  cases registry.loadedNames.filterMap registry.get? <;> rfl

theorem layerText_congr {registry other : Registry} (alike : registry.TellsLike other) :
    layerText registry = layerText other := by
  have layers : (registry.loadedNames.filterMap registry.get?).map describeLayer =
      (other.loadedNames.filterMap other.get?).map describeLayer := by
    rw [← alike.loadedNames, List.map_filterMap, List.map_filterMap]
    refine List.filterMap_congr fun name loaded => ?_
    obtain ⟨layer, found⟩ := Registry.exists_of_mem_loadedNames loaded
    obtain ⟨twin, foundTwin⟩ := Registry.exists_of_mem_loadedNames (alike.loadedNames ▸ loaded)
    have named : layer.name = twin.name :=
      (registry.name_of_get? found).trans (other.name_of_get? foundTwin).symm
    rw [found, foundTwin, Option.map_some, Option.map_some,
      describeLayer_eq named (alike.layers name loaded layer twin found foundTwin)]
  rw [layerText_eq, layerText_eq, layers]

theorem promptHead_eq {registry other : Registry} (alike : registry.TellsLike other) :
    promptHead registry = promptHead other := by
  have examples : exampleText registry = exampleText other := by
    rw [exampleText, alike.loadedNames, exampleText]
  rw [promptHead, layerText_congr alike, examples, promptHead]

/-! ## The examples -/

def examplesFor (registry : Registry) : List Example :=
  Example.all.filter fun e => e.layers.all fun layer => registry.loadedNames.contains layer

namespace Example

def ReadsLoaded (registry : Registry) (e : Example) : Prop :=
  ∃ q, Query.ofJson e.query = .ok q ∧ ∀ layer ∈ q.sourceLayers, layer ∈ registry.loadedNames

def lead : Text := "User: \""

def Starts (line : Text) : Prop := lead.marks <+: line.marks

instance (line : Text) : Decidable (Starts line) := inferInstanceAs (Decidable (_ <+: _))

theorem starts_text (e : Example) : Starts e.text := by
  refine ⟨(e.message ++ (Text.ofString "\"\n" ++ Json.renderIndented e.query)).marks, ?_⟩
  rw [text, Text.append_assoc, Text.append_assoc]
  rfl

theorem all_areQueries : ∀ e ∈ Example.all, ((Query.ofJson e.query).toOption.any fun q =>
    let sources := q.selectLayer :: q.spatials.map (·.targetLayer)
    sources.all e.layers.contains && e.layers.all sources.contains) = true := by
  decide +kernel

theorem exists_query {e : Example} (member : e ∈ Example.all) :
    ∃ q, Query.ofJson e.query = .ok q ∧ ∀ layer, layer ∈ q.sourceLayers ↔ layer ∈ e.layers := by
  obtain ⟨q, isQuery, both⟩ := (Option.any_eq_true ..).mp (all_areQueries e member)
  obtain ⟨known, used⟩ := Bool.and_eq_true_iff.mp both
  refine ⟨q, eq_ok_of_toOption isQuery, fun layer => ⟨fun isSource => ?_, fun isUsed => ?_⟩⟩
  · exact List.contains_iff_mem.mp (List.all_eq_true.mp known layer (Query.mem_ascending.mp isSource))
  · exact Query.mem_ascending.mpr (List.contains_iff_mem.mp (List.all_eq_true.mp used layer isUsed))

end Example

theorem mem_examplesFor_iff {registry : Registry} {e : Example} (member : e ∈ Example.all) :
    e ∈ examplesFor registry ↔ e.ReadsLoaded registry := by
  obtain ⟨q, isQuery, sources⟩ := Example.exists_query member
  constructor
  · intro told
    have loaded := List.all_eq_true.mp (List.mem_filter.mp told).2
    exact ⟨q, isQuery, fun layer isSource =>
      List.contains_iff_mem.mp (loaded layer ((sources layer).mp isSource))⟩
  · rintro ⟨again, isAgain, loaded⟩
    cases isQuery.symm.trans isAgain
    refine List.mem_filter.mpr ⟨member, List.all_eq_true.mpr fun layer isUsed => ?_⟩
    exact List.contains_iff_mem.mpr (loaded layer ((sources layer).mpr isUsed))

/-! ## The whole prompt -/

def fixedLines : List Text := openingLines ++ ruleLines ++ closingLines

theorem not_starts_of_mem_fixedLines : ∀ line ∈ fixedLines, ¬ Example.Starts line := by
  decide +kernel

/-- The lines before the message, with the given layers and examples in their places. -/
def headTelling (layers : List Layer) (examples : List Example) : Text :=
  Text.intercalate "\n" (openingLines ++ [layersTold (layers.map describeLayer)] ++ ruleLines ++
    [Text.intercalate "\n\n" (examples.map Example.text)] ++ closingLines)

theorem promptHead_eq_headTelling (registry : Registry) : promptHead registry =
    headTelling (registry.loadedNames.filterMap registry.get?) (examplesFor registry) := by
  rw [promptHead, layerText_eq]
  rfl

/-- The message stands in its prompt as a literal and can be had back from it, and nothing else in the
prompt depends on the message, or on layers that are not loaded.  Halves of a character that stand side by
side are read as that character; a text of characters has none.  Before the literal the prompt has fixed
lines, none of which starts an example, what is told about the loaded layers, and of the examples those
that read from loaded layers only. -/
theorem prompt_tells_message_and_loaded_layers :
    (∀ registry : Registry, ∃ examples : List Example, examples.Sublist Example.all ∧
      (∀ e ∈ Example.all, e ∈ examples ↔ e.ReadsLoaded registry) ∧
      ∀ message : Text, ∃ literal : String,
        prompt registry message =
          headTelling (registry.loadedNames.filterMap registry.get?) examples ++ literal ++ promptTail ∧
        IsLiteralOf literal message.rejoined ∧ (message.IsWhole → IsLiteralOf literal message)) ∧
    (∀ line ∈ fixedLines, ¬ Example.Starts line) ∧ (∀ e : Example, Example.Starts e.text) ∧
    (∀ characters : String, (Text.ofString characters).IsWhole) ∧
    (∀ (registry : Registry) (message other : Text),
      (prompt registry message = prompt registry other ↔ message.rejoined = other.rejoined) ∧
        (message.IsWhole → other.IsWhole → message ≠ other →
          prompt registry message ≠ prompt registry other)) ∧
    (∀ registry other : Registry, registry.TellsLike other →
      ∀ message, prompt registry message = prompt other message) := by
  refine ⟨fun registry => ⟨examplesFor registry, List.filter_sublist,
      fun e member => mem_examplesFor_iff member, fun message => ?_⟩,
    not_starts_of_mem_fixedLines, Example.starts_text, Text.isWhole_ofString,
    fun registry message other => ⟨prompt_eq_iff registry message other, ?_⟩,
    fun registry other alike message => ?_⟩
  · rw [prompt, promptHead_eq_headTelling]
    exact ⟨messageText message, rfl, Json.isLiteralOf_render message, Json.isLiteralOf_of_whole⟩
  · intro whole otherWhole differ same
    have rejoined := (prompt_eq_iff registry message other).mp same
    rw [Text.rejoined_of_whole whole, Text.rejoined_of_whole otherWhole] at rejoined
    exact differ rejoined
  · rw [prompt, promptHead_eq alike, prompt]

/-- A message that would end its literal and its line, with a character beyond the basic plane. -/
def trickyMessage : Text := "\"\\\n\x7d" ++ ⟨[.char (Char.ofNat 0x1F600)]⟩

def sampleParcels : Layer :=
  ⟨"parcels", "Polygon", [("zoning", "string")], ["zoning"], ["zoning"], [], true, none, none, none⟩

def sampleHydrology : Layer :=
  ⟨"hydrology", "LineString", [("name", "string")], [], [], [], false, none, none, none⟩

def parcelsAlone : Registry := .ofLayers [sampleParcels] .null

def parcelsAndHydrology : Registry := .ofLayers [sampleParcels, sampleHydrology] (.str "later")

theorem parcelsAlone_tellsLike : parcelsAlone.TellsLike parcelsAndHydrology := by
  refine ⟨rfl, fun name loaded layer twin found foundTwin => ?_⟩
  have named : name ∈ [sampleParcels.name] := Query.mem_ascending.mp loaded
  rw [List.mem_singleton.mp named] at found foundTwin
  cases found
  cases foundTwin
  exact ⟨rfl, rfl, rfl, rfl, fun _ _ => rfl⟩

theorem prompt_tells_message_and_loaded_layers_sample :
    (∃ (head : Text) (literal : String),
      prompt parcelsAlone trickyMessage = head ++ literal ++ promptTail ∧
        IsLiteralOf literal trickyMessage) ∧
    prompt parcelsAlone trickyMessage ≠ prompt parcelsAlone "Parcels" ∧
    prompt parcelsAlone trickyMessage = prompt parcelsAndHydrology trickyMessage := by
  obtain ⟨embeds, -, -, whole, tells, alike⟩ := prompt_tells_message_and_loaded_layers
  obtain ⟨examples, -, -, each⟩ := embeds parcelsAlone
  obtain ⟨literal, written, -, isLiteral⟩ := each trickyMessage
  have trickyIsWhole : trickyMessage.IsWhole := by decide
  exact ⟨⟨_, literal, written, isLiteral trickyIsWhole⟩,
    (tells parcelsAlone trickyMessage "Parcels").2 trickyIsWhole (whole _) (by decide),
    alike _ _ parcelsAlone_tellsLike trickyMessage⟩

end Chat

end SpatialQuery
