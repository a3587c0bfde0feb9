import Mathlib.Data.List.Forall2
import SpatialQuery.Proofs.Feature.Facts
import SpatialQuery.Service.Stage

/-!
# What a request asks for

Where the database and the model answer alike whenever they are asked alike, a request has an answer in
which no store takes part: the query is read from the body or from the reply of the model, it is planned,
and its statement is run.  Only how long this took, and what was read from a store, may differ from one
time to the next.
-/

set_option autoImplicit false

namespace SpatialQuery

/-- What lies outside a service, where it depends on nothing but the question. -/
structure World where
  run : Text → List Json → Except Database.ExecutionError (List Row)
  complete : Text → Model.Completion

/-- Whatever happened before, the database and the model are those of the world.  The clocks are free. -/
structure Backend.Follows {τ : Type} (backend : Backend τ) (world : World) : Prop where
  execute (text : Text) (values : List Json) (outside : τ) :
    (backend.execute text values outside).1 = world.run text values
  complete (prompt : Text) (outside : τ) :
    (backend.complete prompt outside).1 = world.complete prompt

/-! ## Answers without stores -/

namespace World

open Service

variable (world : World) (registry : Registry)

def understand [Stack] (message : Text) : Except Failure Chat.Intent :=
  match world.complete (Chat.prompt registry message) with
  | .error e => .error (.model e)
  | .ok reply =>
    match Chat.intentOfReply reply registry with
    | .error fault => .error (.reply fault reply)
    | .ok intent => .ok intent

/-- The plan that a request comes to, with the origin of its query. -/
def asks [Stack] : Request → Except Failure (Origin × Plan)
  | .structured body =>
    let (payload, wrapping) := Query.payload body
    match Query.ofJson payload with
    | .error issues => .error (.illFormed issues)
    | .ok q => (Plan.ofQuery registry q).map (.structured wrapping, ·)
  | .chat message =>
    let assessment := Chat.assess Chat.Concept.builtIn message registry.loadedNames
    if assessment.isUnsupported then .error (.ungroundable assessment)
    else
      match messageKey message with
      | .error fault => .error (.unencodable fault)
      | .ok _ =>
        match world.understand registry message with
        | .error failure => .error failure
        | .ok intent =>
          (Plan.ofQuery registry intent.query).map (.chat intent assessment false (.real 0), ·)

/-- The result of a plan, if it took that long. -/
def compute [Stack] (plan : Plan) (milliseconds : Number) : Except Failure StoredResult :=
  match plan.statement with
  | .error failure => .error failure
  | .ok statement =>
    match world.run statement.text (statement.values.map FilterValue.wire) with
    | .error e => .error (plan.executionFailure e)
    | .ok rows => plan.result rows milliseconds

end World

namespace Service

/-- Two origins that differ at most in how the parse was come by. -/
inductive Origin.Alike : Origin → Origin → Prop
  | structured (wrapping : Query.Wrapping) : Alike (.structured wrapping) (.structured wrapping)
  | chat (intent : Chat.Intent) (assessment : Chat.Assessment) (hit again : Bool)
      (milliseconds others : Number) :
      Alike (.chat intent assessment hit milliseconds) (.chat intent assessment again others)

/-- The outcomes that a request may have: a failure that comes from its plan, or an answer with the
result of its plan. -/
inductive Answers [Stack] (world : World) (registry : Registry) (request : Request) :
    Except Failure Text → Prop
  | unplanned {failure : Failure} (refused : world.asks registry request = .error failure) :
      Answers world registry request (.error failure)
  | failed {origin : Origin} {plan : Plan} {milliseconds : Number} {failure : Failure}
      (asked : world.asks registry request = .ok (origin, plan))
      (failed : world.compute plan milliseconds = .error failure) :
      Answers world registry request (.error failure)
  | answered {first origin : Origin} {plan : Plan} {result : StoredResult} {hit : Bool}
      (asked : world.asks registry request = .ok (first, plan)) (alike : first.Alike origin)
      (computed : world.compute plan result.milliseconds = .ok result) :
      Answers world registry request (plan.answer origin hit result)

/-! ## Answers that are the same -/

/-- The facts that tell how an answer was come by. -/
def circumstances : List Text := ["cache", "executionTimeMs", "parseTimeMs"]

/-- Facts of one name, with the same value unless the fact is a circumstance. -/
def SameFact (fact other : Text × Json) : Prop :=
  fact.1 = other.1 ∧ (fact.1 ∈ circumstances ∨ fact.2 = other.2)

/-- The same failure, or answers with the same features and, but for circumstances, the same facts. -/
inductive SameOutcome [Stack] : Except Failure Text → Except Failure Text → Prop
  | failure (failure : Failure) : SameOutcome (.error failure) (.error failure)
  | answer {features text other : Text} {facts others : List (Text × Json)}
      (same : List.Forall₂ SameFact facts others)
      (written : Feature.collection features (.obj facts) = .ok text)
      (otherWritten : Feature.collection features (.obj others) = .ok other) :
      SameOutcome (.ok text) (.ok other)

theorem SameFact.refl (fact : Text × Json) : SameFact fact fact := ⟨rfl, Or.inr rfl⟩

theorem sameFact_all (facts : List (Text × Json)) : List.Forall₂ SameFact facts facts :=
  List.forall₂_same.mpr fun fact _ => .refl fact

theorem forall₂_insert {fact other : Text × Json} (same : SameFact fact other)
    {facts others : List (Text × Json)} (all : List.Forall₂ SameFact facts others) :
    List.Forall₂ SameFact (Assoc.insert fact.1 fact.2 facts) (Assoc.insert other.1 other.2 others) := by
  induction all with
  | nil => exact .cons same .nil
  | @cons head headOther _ _ first rest ih =>
    simp only [Assoc.insert, first.1, same.1]
    split
    · exact .cons ⟨rfl, same.1 ▸ same.2⟩ rest
    · have moved := ih
      rw [same.1] at moved
      exact .cons first moved

theorem sameFact_facts {origin other : Origin} (alike : origin.Alike other) (count : Nat) :
    List.Forall₂ SameFact (origin.facts count) (other.facts count) := by
  cases alike with
  | structured wrapping => exact sameFact_all _
  | chat intent assessment hit again milliseconds others =>
    have parseTime : (("parseTimeMs" : Text) ∈ circumstances) := by decide
    exact .cons (.refl _) (.cons (.refl _) (.cons ⟨rfl, Or.inl parseTime⟩ (sameFact_all _)))

theorem sameOutcome_answer [Stack] (plan : Plan) {origin other : Origin} (alike : origin.Alike other)
    (hit again : Bool) (features : Text) (count : Nat) (milliseconds others : Number) :
    SameOutcome (plan.answer origin hit ⟨features, count, milliseconds⟩)
      (plan.answer other again ⟨features, count, others⟩) := by
  have executionTime : (("executionTimeMs" : Text) ∈ circumstances) := by decide
  have cacheUse : (("cache" : Text) ∈ circumstances) := by decide
  obtain ⟨text, told⟩ := plan.exists_answer origin hit ⟨features, count, milliseconds⟩
  obtain ⟨otherText, otherTold⟩ := plan.exists_answer other again ⟨features, count, others⟩
  rw [told, otherTold]
  refine .answer ?_ (mapError_eq_ok_iff.mp told) (mapError_eq_ok_iff.mp otherTold)
  refine List.rel_foldl (R := SameFact) (P := List.Forall₂ SameFact) ?_ ?_ (sameFact_facts alike count)
  · intro facts otherFacts all fact otherFact one
    exact forall₂_insert one all
  · refine .cons (.refl _) (.cons ⟨rfl, Or.inl executionTime⟩ ?_)
    iterate 9 refine .cons (.refl _) ?_
    exact .cons ⟨rfl, Or.inl cacheUse⟩ .nil

theorem Origin.Alike.symm {origin other : Origin} (alike : origin.Alike other) : other.Alike origin := by
  cases alike <;> constructor

theorem Origin.Alike.trans {origin other third : Origin} (alike : origin.Alike other)
    (further : other.Alike third) : origin.Alike third := by
  cases alike <;> cases further <;> constructor

theorem compute_again [Stack] (world : World) (plan : Plan) (milliseconds others : Number) :
    world.compute plan others =
      (world.compute plan milliseconds).map ({ · with milliseconds := others }) := by
  unfold World.compute
  split
  · rfl
  · split
    · rfl
    · unfold Plan.result
      split <;> rfl

theorem Answers.same [Stack] {world : World} {registry : Registry} {request : Request}
    {outcome other : Except Failure Text} (answers : Answers world registry request outcome)
    (others : Answers world registry request other) : SameOutcome outcome other := by
  cases answers with
  | unplanned refused =>
    cases others with
    | unplanned otherRefused =>
      rw [refused] at otherRefused
      cases otherRefused
      exact .failure _
    | failed asked _ => rw [refused] at asked; cases asked
    | answered asked _ _ => rw [refused] at asked; cases asked
  | failed asked failed =>
    cases others with
    | unplanned refused => rw [asked] at refused; cases refused
    | failed otherAsked otherFailed =>
      rw [asked] at otherAsked
      cases otherAsked
      rw [compute_again, failed] at otherFailed
      cases otherFailed
      exact .failure _
    | answered otherAsked _ computed =>
      rw [asked] at otherAsked
      cases otherAsked
      rw [compute_again, failed] at computed
      cases computed
  | answered asked alike computed =>
    cases others with
    | unplanned refused => rw [asked] at refused; cases refused
    | failed otherAsked failed =>
      rw [asked] at otherAsked
      cases otherAsked
      rw [compute_again, computed] at failed
      cases failed
    | @answered _ _ _ otherResult _ otherAsked otherAlike otherComputed =>
      rw [asked] at otherAsked
      cases otherAsked
      rw [compute_again, computed] at otherComputed
      obtain ⟨features, count, milliseconds⟩ := otherResult
      cases otherComputed
      exact sameOutcome_answer _ (alike.symm.trans otherAlike) _ _ _ _ _ _

end Service

end SpatialQuery
