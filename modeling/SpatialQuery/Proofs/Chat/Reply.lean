import SpatialQuery.Proofs.Chat.ObjectText
import SpatialQuery.Proofs.Json.Excess
import SpatialQuery.Proofs.Query.Judged
import SpatialQuery.Proofs.Service.Transparent

/-!
# What becomes of a reply

Whatever a language model replies, its reply is understood as a query of the language, or it is refused with
a fault that callers foresee and that is told together with the reply.  The one lapse is an object that is
too large to be read: an integer in it is too long, or it is nested too deep.
-/

set_option autoImplicit false

namespace SpatialQuery

namespace Chat

/-- What callers foresee of a reply. -/
inductive IsForeseen [Stack] (reply : Text) : Except ReplyFault Intent → Prop
  | understood {object : Text} {raw : Json} {intent : Intent} (found : objectText? reply = some object)
      (read : Json.read (Stack.reading .reply) object = .ok raw) (wellFormed : Form.query.holds raw)
      (checked : Query.ofJson raw = .ok intent.query) (told : intent.reply = reply) :
      IsForeseen reply (.ok intent)
  | noObject (none : objectText? reply = none) : IsForeseen reply (.error .noObject)
  | malformed {object : Text} {fault : Json.Fault} {offset line column : Nat}
      (found : objectText? reply = some object)
      (refused : Json.read (Stack.reading .reply) object = .error (.malformed fault offset line column)) :
      IsForeseen reply (.error (.malformed fault offset line column))
  | illFormed {object : Text} {raw : Json} {issues : List Issue}
      (found : objectText? reply = some object) (read : Json.read (Stack.reading .reply) object = .ok raw)
      (other : ¬ Form.query.holds raw) (checked : Query.ofJson raw = .error issues)
      (some : issues ≠ []) : IsForeseen reply (.error (.illFormed issues))

/-- The object of the reply is too large to be read. -/
def IsOversized [Stack] (reply : Text) (excess : Json.Excess) : Prop :=
  ∃ object, objectText? reply = some object ∧
    Json.read (Stack.reading .reply) object = .error (.excessive excess)

variable {reply : Text} {registry : Registry}

theorem not_isForeseen_excessive [Stack] (excess : Json.Excess) :
    ¬ IsForeseen reply (.error (.excessive excess)) := nofun

theorem IsOversized.intentOfReply [Stack] {excess : Json.Excess} (oversized : IsOversized reply excess)
    (registry : Registry) : intentOfReply reply registry = .error (.excessive excess) := by
  obtain ⟨object, found, refused⟩ := oversized
  simp only [Chat.intentOfReply, queryOfReply, found, refused]

theorem isForeseen_of_read [Stack] {object : Text} {raw : Json} (found : objectText? reply = some object)
    (read : Json.read (Stack.reading .reply) object = .ok raw) :
    IsForeseen reply (intentOfReply reply registry) := by
  have verdict := Form.query_judges raw
  cases shaped : Shape.query raw with
  | ok q =>
    rw [shaped] at verdict
    have checked : Query.ofJson raw = .ok q := congrArg Checked.toIssues shaped
    simp only [intentOfReply, queryOfReply, found, read, checked]
    exact .understood found read (verdict.passed.mp ⟨q, rfl⟩) checked rfl
  | error violations =>
    rw [shaped] at verdict
    have checked : Query.ofJson raw =
        .error (violations.map fun v => ⟨Issue.pathOf v.path, v.message⟩) :=
      congrArg Checked.toIssues shaped
    have some : violations ≠ [] := by
      rintro rfl
      obtain ⟨q, contrary⟩ := verdict.silent rfl
      cases contrary
    simp only [intentOfReply, queryOfReply, found, read, checked]
    exact .illFormed found read verdict.bad checked (mt List.map_eq_nil_iff.mp some)

theorem isForeseen_or_isOversized [Stack] (reply : Text) (registry : Registry) :
    IsForeseen reply (intentOfReply reply registry) ∨ ∃ excess, IsOversized reply excess := by
  cases found : objectText? reply with
  | none =>
    simp only [intentOfReply, queryOfReply, found]
    exact .inl (.noObject found)
  | some object =>
    cases read : Json.read (Stack.reading .reply) object with
    | ok raw => exact .inl (isForeseen_of_read found read)
    | error refusal =>
      cases refusal with
      | malformed fault offset line column =>
        simp only [intentOfReply, queryOfReply, found, read]
        exact .inl (.malformed found read)
      | excessive excess => exact .inr ⟨excess, object, found, read⟩

/-! ## Integers that are too long -/

open Json (Numeral Spells)

def limitMarks (n : Numeral) : List Mark :=
  Json.wordMarks "\"limit\": " ++ (n.chars.map .char ++ [.char '\x7d'])

def limitObject (n : Numeral) : Text := ⟨.char '\x7b' :: limitMarks n⟩

theorem isBlank_space : Json.IsBlank [.char ' '] := by
  simp [Json.IsBlank, Json.isSpace]

theorem isObject_limitObject {n : Numeral} (proper : n.IsProper) :
    ∃ members, Spells (.value (.obj members)) (limitObject n).marks := by
  have key : Json.Quotation (Json.wordMarks "\"limit\"") "limit" :=
    Json.quotation_quoted "limit"
  have member := Spells.member Json.isBlank_nil key Json.isBlank_nil
    (.element isBlank_space (.number proper) Json.isBlank_nil)
  rw [List.append_nil] at member
  exact ⟨_, .object (.lastMember member)⟩

section

variable {n : Numeral} (proper : n.IsProper) (noFraction : n.fraction = none) (noPower : n.power = none)
  (long : Json.maxIntegerDigits < n.whole.length)

include proper noFraction noPower long

theorem readMembers_limitMarks (fuel depth : Nat) :
    Json.readMembers (fuel + 2) depth (limitMarks n) = .error (.excess (.digits n.whole.length)) := by
  have readKey : Json.readText (limitMarks n) =
      .ok ("limit", .char ':' :: .char ' ' :: (n.chars.map .char ++ [.char '\x7d'])) :=
    Json.readText_of_quotation (Json.quotation_quoted "limit") _
  have stops : Json.StopsNumber [.char '\x7d'] := Json.stopsNumber_cons (by decide) []
  have value := Json.readValue_of_long proper noFraction noPower long stops fuel depth
  have colon : Json.skipSpace (.char ':' :: .char ' ' :: (n.chars.map .char ++ [.char '\x7d'])) =
      .char ':' :: .char ' ' :: (n.chars.map .char ++ [.char '\x7d']) :=
    Json.skipSpace_of_stops (Json.stopsBlank_cons rfl _)
  have blank : Json.skipSpace (.char ' ' :: (n.chars.map .char ++ [.char '\x7d'])) =
      n.chars.map .char ++ [.char '\x7d'] :=
    Json.skipSpace_blank isBlank_space ((Spells.number proper).stopsBlank _)
  obtain ⟨more, starts⟩ : ∃ more, limitMarks n = .char '"' :: more := ⟨_, rfl⟩
  rw [starts] at readKey
  rw [starts, Json.readMembers, readKey]
  dsimp only
  rw [colon]
  simp only [blank, value]

theorem readValue_limitObject (fuel depth : Nat) :
    Json.readValue (fuel + 3) (depth + 1) (limitObject n).marks =
      .error (.excess (.digits n.whole.length)) := by
  have members := readMembers_limitMarks proper noFraction noPower long fuel depth
  have noBlank : Json.skipSpace (limitMarks n) = limitMarks n :=
    Json.skipSpace_of_stops (Json.stopsBlank_cons rfl _)
  obtain ⟨more, starts⟩ : ∃ more, limitMarks n = .char '"' :: more := ⟨_, rfl⟩
  rw [limitObject, Json.readValue, noBlank]
  split
  · rename_i closing
    rw [starts] at closing
    cases closing
  · rw [members]

theorem read_limitObject {deepest : Nat} (some : 0 < deepest) :
    Json.read deepest (limitObject n) = .error (.excessive (.digits n.whole.length)) := by
  obtain ⟨deepest, rfl⟩ := Nat.exists_eq_add_one.mpr some
  have value := readValue_limitObject proper noFraction noPower long
    (2 * (limitMarks n).length + 1) deepest
  have noBlank : Json.skipSpace (limitObject n).marks = (limitObject n).marks :=
    Json.skipSpace_of_stops (Json.stopsBlank_cons rfl _)
  have all : Json.readAll (deepest + 1) (limitObject n).marks = .error (.excess (.digits n.whole.length)) := by
    have fuel : 2 * (limitObject n).marks.length + 2 = 2 * (limitMarks n).length + 1 + 3 := by
      rw [limitObject, List.length_cons]
      omega
    rw [Json.readAll, noBlank, fuel, value]
  rw [Json.read]
  split
  · rename_i other
    cases other
  · rw [Json.readMarks, all]

/-- An integer that is too long makes a reply oversized, whatever follows the object. -/
theorem isOversized_of_long [Stack] (after : Text) :
    IsOversized (limitObject n ++ after) (.digits n.whole.length) := by
  obtain ⟨members, isObject⟩ := isObject_limitObject proper
  have found : objectText? (limitObject n ++ after) = some (limitObject n) := by
    change (firstObject? ((limitObject n).marks ++ after.marks)).map Text.mk = _
    rw [firstObject?_object isObject]
    rfl
  exact ⟨limitObject n, found,
    read_limitObject proper noFraction noPower long (Stack.le_reading (by decide) .reply)⟩

end

end Chat

namespace Service

/-- The stage behind a reply: the intent of the reply, or a fault of it that is told with the reply. -/
inductive Stage.Settles [Stack] (registry : Registry) (key : Text) (assessment : Chat.Assessment)
    (reply : Text) : Stage → Prop
  | understood {intent : Chat.Intent} {milliseconds : Number}
      (foreseen : Chat.IsForeseen reply (.ok intent)) :
      Settles registry key assessment reply
        (.understood registry key assessment intent milliseconds)
  | refused {fault : Chat.ReplyFault} (foreseen : Chat.IsForeseen reply (.error fault)) :
      Settles registry key assessment reply (.failed (.reply fault reply))

namespace Stage

variable {τ : Type} {registry : Registry} {message reply : Text}

/-- What comes of the reply of the model depends on the reply alone. -/
theorem ask_of_said [Stack] (backend : Backend τ) (s : Service τ)
    (said : (backend.complete (Chat.prompt registry message) (backend.watch s.outside).2).1 = .ok reply)
    (key : Text) (assessment : Chat.Assessment) :
    ∃ milliseconds, (ask backend registry message key assessment s).1 =
      match Chat.intentOfReply reply registry with
      | .error fault => failed (.reply fault reply)
      | .ok intent => .understood registry key assessment intent milliseconds := by
  simp only [ask, Service.watch, Service.complete, said]
  cases Chat.intentOfReply reply registry with
  | error fault => exact ⟨.int 0, rfl⟩
  | ok intent => exact ⟨_, rfl⟩

/-- Every reply is settled, but for those with an object that is too large to be read. -/
theorem reply_is_settled_unless_oversized [Stack] (backend : Backend τ) (s : Service τ)
    (said : (backend.complete (Chat.prompt registry message) (backend.watch s.outside).2).1 = .ok reply)
    (key : Text) (assessment : Chat.Assessment) :
    Settles registry key assessment reply (ask backend registry message key assessment s).1 ∨
      ∃ object excess, Chat.objectText? reply = some object ∧
        Json.read (Stack.reading .reply) object = .error (.excessive excess) ∧
        Json.Exceeds (Stack.reading .reply) object.marks excess ∧
        (ask backend registry message key assessment s).1 =
          failed (.reply (.excessive excess) reply) := by
  obtain ⟨milliseconds, stage⟩ := ask_of_said backend s said key assessment
  rw [stage]
  rcases Chat.isForeseen_or_isOversized reply registry with foreseen | ⟨excess, oversized⟩
  · cases meant : Chat.intentOfReply reply registry with
    | ok intent => exact .inl (.understood (meant ▸ foreseen))
    | error fault => exact .inl (.refused (meant ▸ foreseen))
  · have told := oversized.intentOfReply registry
    obtain ⟨object, found, refused⟩ := oversized
    rw [told]
    exact .inr ⟨object, excess, found, refused, Json.exceeds_of_read refused, rfl⟩

section

open Stack.Usual

/-- The model of the parcels asks for a query. -/
theorem reply_is_settled_unless_oversized_sample :
    ∃ reply, ((tickingBackend parcelsWorld).complete
        (Chat.prompt Query.parcelsRegistry "Parcels?") 1).1 = .ok reply ∧
      ∀ key assessment, Settles Query.parcelsRegistry key assessment reply
        (ask (tickingBackend parcelsWorld) Query.parcelsRegistry "Parcels?" key assessment
          (strictService 0 0)).1 := by
  obtain ⟨reply, said, queried⟩ := exists_zoningReply
  have asked := said (Chat.prompt Query.parcelsRegistry "Parcels?")
  refine ⟨reply, asked, fun key assessment => ?_⟩
  rcases reply_is_settled_unless_oversized (tickingBackend parcelsWorld) (strictService 0 0) asked key
    assessment with settled | ⟨object, _, found, refused, _⟩
  · exact settled
  · rw [Chat.queryOfReply, found] at queried
    simp only [refused] at queried
    cases queried

end

def longNumeral : Json.Numeral := ⟨false, List.replicate 4301 '1', none, none⟩

theorem isProper_longNumeral : longNumeral.IsProper where
  digits c member := by
    rw [List.eq_of_mem_replicate member]
    rfl
  someDigit := nofun
  noLeadingZero rest same := by cases same
  fraction := nofun
  power := nofun

def saying (reply : Text) : World where
  run _ _ := .ok []
  complete _ := .ok reply

def longReply : Text := Chat.limitObject longNumeral ++ " Enjoy!"

section

open Stack.Usual

/-- A reply to which nobody can react: an integer in it is too long. -/
theorem long_integer_is_not_settled :
    (ask (tickingBackend (saying longReply)) Query.parcelsRegistry "Parcels?" "k"
        (Chat.assess Chat.Concept.builtIn "Parcels?" Query.parcelsRegistry.loadedNames)
        (strictService 0 0)).1 = failed (.reply (.excessive (.digits 4301)) longReply) ∧
      ¬ Settles Query.parcelsRegistry "k"
        (Chat.assess Chat.Concept.builtIn "Parcels?" Query.parcelsRegistry.loadedNames) longReply
        (failed (.reply (.excessive (.digits 4301)) longReply)) := by
  have length : longNumeral.whole.length = 4301 := List.length_replicate
  have long : Json.maxIntegerDigits < longNumeral.whole.length := length ▸ by decide
  have oversized : Chat.IsOversized longReply (.digits 4301) :=
    length ▸ Chat.isOversized_of_long isProper_longNumeral rfl rfl long " Enjoy!"
  have said : ((tickingBackend (saying longReply)).complete
      (Chat.prompt Query.parcelsRegistry "Parcels?") 1).1 = .ok longReply := rfl
  constructor
  · obtain ⟨_, stage⟩ := ask_of_said (tickingBackend (saying longReply)) (strictService 0 0) said "k"
      (Chat.assess Chat.Concept.builtIn "Parcels?" Query.parcelsRegistry.loadedNames)
    rw [stage, oversized.intentOfReply]
  · intro settled
    cases settled with
    | refused foreseen => exact Chat.not_isForeseen_excessive _ foreseen

end

end Stage

end Service

end SpatialQuery
