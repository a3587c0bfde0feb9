import SpatialQuery.Model.Client

/-!
# What callers of a model may rely on

A model gives a text, or it fails in one of two ways that its callers foresee: it is not available, or its
answer is of no use.  Each of the two clients keeps to this except for a few lapses, which are listed here
with what callers get instead.  Bodies are any bytes, and statuses any numbers.
-/

set_option autoImplicit false

namespace SpatialQuery.Model

/-- The failures that callers foresee. -/
inductive Failure.IsForeseen : Failure → Prop
  | unavailable (message : Text) (remediation : List Text) : IsForeseen (.unavailable message remediation)
  | response (message : Text) : IsForeseen (.response message)

inductive IsForeseen : Except Failure Json → Prop
  | text (t : Text) : IsForeseen (.ok (.str t))
  | failure {failure : Failure} (foreseen : failure.IsForeseen) : IsForeseen (.error failure)

theorem isForeseen_ok_iff {value : Json} : IsForeseen (.ok value) ↔ ∃ t, value = .str t := by
  constructor
  · rintro ⟨t⟩
    exact ⟨t, rfl⟩
  · rintro ⟨t, rfl⟩
    exact .text t

theorem isForeseen_error_iff {failure : Failure} :
    IsForeseen (.error failure) ↔ failure.IsForeseen := by
  constructor
  · rintro ⟨⟩
    assumption
  · exact .failure

instance : DecidablePred Failure.IsForeseen
  | .unavailable message remediation => .isTrue (.unavailable message remediation)
  | .response message => .isTrue (.response message)
  | .notText | .noTextPart | .tooDeep _ | .address _ | .unwritable | .unencodable _ | .other _ _ =>
    .isFalse nofun

instance : DecidablePred IsForeseen
  | .ok (.str t) => .isTrue (.text t)
  | .ok .null | .ok (.bool _) | .ok (.num _) | .ok (.arr _) | .ok (.obj _) => .isFalse nofun
  | .error _ => decidable_of_iff _ isForeseen_error_iff.symm

/-! ## The local model -/

namespace Ollama

/-- What the network may bring so that callers get what they do not foresee, and what they get. -/
inductive Lapse [Stack] : Except TransportError Response → Except Failure Json → Prop
  /-- An error of the network that is neither a failed connection nor a timeout is handed on. -/
  | network {name message : Text} :
      Lapse (.error ⟨.other name, message⟩) (.error (.other name message))
  | unencodable {fault : Text.SurrogateFault} {message : Text} :
      Lapse (.error ⟨.unencodable fault, message⟩) (.error (.unencodable fault))
  | tooDeep {response : Response} {isArray : Bool} (served : response.status < 400)
      (nested : Json.readBytes (Stack.reading .completion) response.body =
        .error (.unreadable (.excessive (.nesting isArray)))) :
      Lapse (.ok response) (.error (.tooDeep isArray))
  | noObject {response : Response} {answer : Json} (served : response.status < 400)
      (decoded : Json.readBytes (Stack.reading .completion) response.body = .ok answer)
      (other : ∀ members, answer ≠ .obj members) :
      Lapse (.ok response) (.error .notText)
  /-- The completion is done and is a value that is no text. -/
  | noText {response : Response} {members : List (Text × Json)} {value : Json}
      (served : response.status < 400)
      (decoded : Json.readBytes (Stack.reading .completion) response.body = .ok (.obj members))
      (isDone : ((Json.member? members "done").getD .null).isVoid = false)
      (told : Json.member? members "response" = some value) (other : ∀ t, value ≠ .str t) :
      Lapse (.ok response) (.ok value)

variable {client : Client} {request : Request} {response : Response} {transport : Transport} {prompt : Text}
  {failure : Failure}

theorem sendable_error {body : Json} (refused : Client.sendable body = .error failure) :
    ¬ failure.IsForeseen := by
  unfold Client.sendable at refused
  split at refused
  · split at refused
    · cases refused
    · cases refused
      rintro ⟨⟩
  · cases refused
    rintro ⟨⟩

theorem request_error (refused : client.request transport prompt = .error failure) : ¬ failure.IsForeseen := by
  simp only [Client.request, bind, Except.bind] at refused
  cases addressed : transport.address client.baseUrl "/api/generate" with
  | error fault =>
    rw [addressed] at refused
    cases refused
    rintro ⟨⟩
  | ok url =>
    rw [addressed] at refused
    cases sent : Client.sendable (client.question prompt) with
    | error fault =>
      rw [sent] at refused
      cases refused
      exact sendable_error sent
    | ok body =>
      rw [sent] at refused
      cases refused

theorem complete_of_refused [Stack] (refused : client.request transport prompt = .error failure) :
    client.complete transport prompt = .error failure := by
  simp only [Client.complete, refused, bind, Except.bind]

theorem complete_of_lost [Stack] {e : TransportError}
    (made : client.request transport prompt = .ok request) (lost : transport.send request = .error e) :
    client.complete transport prompt = .error (client.transportFailure e) := by
  simp only [Client.complete, made, lost, bind, Except.bind]

theorem complete_of_delivered [Stack] (made : client.request transport prompt = .ok request)
    (delivered : transport.send request = .ok response) :
    client.complete transport prompt = client.readResponse response := by
  simp only [Client.complete, made, delivered, bind, Except.bind]

theorem readResponse_of_served [Stack] (served : response.status < 400) :
    client.readResponse response = match Json.readBytes (Stack.reading .completion) response.body with
      | .ok answer => Client.completionOf answer
      | .error (.unreadable (.excessive (.nesting isArray))) => .error (.tooDeep isArray)
      | .error e => .error (.response ("Ollama returned non-JSON body: " ++ e.message)) := by
  have isThere : response.status ≠ 404 := by omega
  have noFault : ¬ 400 ≤ response.status := by omega
  exact (if_neg isThere).trans (if_neg noFault)

theorem isForeseen_readResponse [Stack] (response : Response) :
    IsForeseen (client.readResponse response) ∨
      Lapse (.ok response) (client.readResponse response) := by
  by_cases served : response.status < 400
  · rw [readResponse_of_served served]
    split
    · rename_i answer decoded
      unfold Client.completionOf
      split
      · rename_i members
        split
        · exact Or.inl (.failure (.response _))
        · rename_i notVoid
          cases told : Json.member? members "response" with
          | none => exact Or.inl (.text "")
          | some value =>
            by_cases isText : ∃ t, value = .str t
            · exact Or.inl (isForeseen_ok_iff.mpr isText)
            · exact Or.inr (.noText served decoded (Bool.not_eq_true _ ▸ notVoid) told
                (not_exists.mp isText))
      · rename_i other
        exact Or.inr (.noObject served decoded other)
    · rename_i isArray nested
      exact Or.inr (.tooDeep served nested)
    · exact Or.inl (.failure (.response _))
  · left
    unfold Client.readResponse
    split
    · exact .failure (.unavailable _ _)
    · rw [if_pos (by omega)]
      exact .failure (.response _)

theorem isForeseen_complete [Stack] (made : client.request transport prompt = .ok request) :
    IsForeseen (client.complete transport prompt) ∨
      Lapse (transport.send request) (client.complete transport prompt) := by
  cases delivered : transport.send request with
  | error e =>
    obtain ⟨kind, message⟩ := e
    rw [complete_of_lost made delivered]
    cases kind with
    | connect => exact Or.inl (.failure (.unavailable _ _))
    | timeout => exact Or.inl (.failure (.unavailable _ _))
    | unencodable fault => exact Or.inr .unencodable
    | other name => exact Or.inr .network
  | ok response =>
    rw [complete_of_delivered made delivered]
    exact isForeseen_readResponse response

theorem complete_of_lapse [Stack] (made : client.request transport prompt = .ok request)
    {outcome : Except Failure Json} (lapse : Lapse (transport.send request) outcome) :
    client.complete transport prompt = outcome ∧ ¬ IsForeseen outcome := by
  generalize delivered : transport.send request = brought at lapse
  cases lapse with
  | network => exact ⟨complete_of_lost made delivered, by rintro (_ | ⟨⟨⟩⟩)⟩
  | unencodable => exact ⟨complete_of_lost made delivered, by rintro (_ | ⟨⟨⟩⟩)⟩
  | tooDeep served nested =>
    rw [complete_of_delivered made delivered, readResponse_of_served served, nested]
    exact ⟨rfl, by rintro (_ | ⟨⟨⟩⟩)⟩
  | @noObject response answer served decoded other =>
    rw [complete_of_delivered made delivered, readResponse_of_served served, decoded]
    refine ⟨?_, by rintro (_ | ⟨⟨⟩⟩)⟩
    cases answer with
    | obj members => exact absurd rfl (other members)
    | _ => rfl
  | noText served decoded isDone told other =>
    rw [complete_of_delivered made delivered, readResponse_of_served served, decoded]
    refine ⟨?_, fun foreseen => ?_⟩
    · simp only [Client.completionOf, isDone, told, Bool.false_eq_true, if_false, Option.getD_some]
    · obtain ⟨t, isText⟩ := isForeseen_ok_iff.mp foreseen
      exact other t isText

end Ollama

/-! ## The Claude API -/

namespace Anthropic

/-- What the service may bring so that callers get what they do not foresee, and what they get. -/
inductive Lapse : Except ApiError Reply → Failure → Prop
  /-- An answer that breaks the promises of the API is handed on as an error. -/
  | unexpected {name message : Text} :
      Lapse (.error ⟨.unexpected name, message⟩) (.other name message)
  /-- A text block of a whole reply has no text. -/
  | noText {reply : Reply} {block : Block} (isWhole : reply.stopReason ≠ some ("max_tokens" : Text))
      (isPart : block ∈ reply.blocks) (isText : block.kind = some ("text" : Text))
      (absent : block.text = none) : Lapse (.ok reply) .noTextPart

variable {client : Client} {reply : Reply} {send : Json → Except ApiError Reply} {prompt : Text}

theorem mapM_text_eq_none {parts : List Block} :
    parts.mapM Block.text = none ↔ ∃ block ∈ parts, block.text = none := by
  induction parts with
  | nil => simp
  | cons part parts ih =>
    rw [List.mapM_cons]
    cases told : part.text with
    | none => exact iff_of_true rfl ⟨part, List.mem_cons_self, told⟩
    | some t =>
      cases others : parts.mapM Block.text with
      | none =>
        obtain ⟨block, member, absent⟩ := ih.mp others
        exact iff_of_true rfl ⟨block, List.mem_cons_of_mem _ member, absent⟩
      | some texts =>
        refine iff_of_false nofun ?_
        rintro ⟨block, member, absent⟩
        rcases List.mem_cons.mp member with rfl | later
        · rw [told] at absent
          cases absent
        · rw [ih.mpr ⟨block, later, absent⟩] at others
          cases others

theorem text?_eq_none_iff : reply.text? = none ↔
    ∃ block ∈ reply.blocks, block.kind = some ("text" : Text) ∧ block.text = none := by
  unfold Reply.text?
  rw [Option.map_eq_none_iff, mapM_text_eq_none]
  simp only [List.mem_filter, beq_iff_eq, and_assoc]

theorem isForeseen_failure (e : ApiError) :
    e.failure.IsForeseen ∨ Lapse (.error e) e.failure := by
  obtain ⟨kind, message⟩ := e
  cases kind with
  | connection => exact Or.inl (.unavailable _ _)
  | authentication => exact Or.inl (.unavailable _ _)
  | permission => exact Or.inl (.unavailable _ _)
  | rateLimit => exact Or.inl (.unavailable _ _)
  | server => exact Or.inl (.unavailable _ _)
  | status code => exact Or.inl (.response _)
  | unexpected name => exact Or.inr .unexpected

theorem isForeseen_completion (reply : Reply) :
    IsForeseen (reply.completion.map .str) ∨
      ∃ failure, reply.completion = .error failure ∧ Lapse (.ok reply) failure := by
  unfold Reply.completion
  split
  · exact Or.inl (.failure (.response _))
  · rename_i isWhole
    split
    · rename_i absent
      obtain ⟨block, isPart, isText, none⟩ := text?_eq_none_iff.mp absent
      exact Or.inr ⟨_, rfl, .noText isWhole isPart isText none⟩
    · split
      · exact Or.inl (.failure (.response _))
      · exact Or.inl (.text _)

theorem isForeseen_complete (client : Client) (send : Json → Except ApiError Reply) (prompt : Text) :
    IsForeseen ((client.complete send prompt).map .str) ∨ client.hasKey = true ∧
      ∃ failure, client.complete send prompt = .error failure ∧
        Lapse (send (client.request prompt)) failure := by
  unfold Client.complete
  split
  · rename_i hasKey
    cases send (client.request prompt) with
    | ok reply => exact (isForeseen_completion reply).imp_right fun lapsed => ⟨hasKey, lapsed⟩
    | error e =>
      rcases isForeseen_failure e with foreseen | lapse
      · exact Or.inl (.failure foreseen)
      · exact Or.inr ⟨hasKey, e.failure, rfl, lapse⟩
  · exact Or.inl (.failure (.unavailable _ _))

theorem complete_of_lapse (hasKey : client.hasKey = true) {failure : Failure}
    (lapse : Lapse (send (client.request prompt)) failure) :
    client.complete send prompt = .error failure ∧ ¬ failure.IsForeseen := by
  rw [Client.complete, if_pos hasKey]
  generalize send (client.request prompt) = brought at lapse
  cases lapse with
  | unexpected => exact ⟨rfl, by rintro ⟨⟩⟩
  | noText isWhole isPart isText absent =>
    have none := text?_eq_none_iff.mpr ⟨_, isPart, isText, absent⟩
    exact ⟨by simp only [Reply.completion, if_neg isWhole, none], by rintro ⟨⟩⟩

end Anthropic

/-! ## Both clients -/

/-- A client gives a text or a failure that callers foresee, if its request can be made at all and the
network brings none of the lapses that are listed.  After a lapse callers get what is listed with it. -/
theorem completion_is_foreseen_unless_lapsed [Stack] (prompt : Text) (near : Ollama.Client)
    (transport : Ollama.Transport) (far : Anthropic.Client)
    (send : Json → Except Anthropic.ApiError Anthropic.Reply) :
    ((IsForeseen (near.complete transport prompt) ↔
        ∃ request, near.request transport prompt = .ok request ∧ ¬ ∃ outcome,
          Ollama.Lapse (transport.send request) outcome) ∧
      ∀ request outcome, near.request transport prompt = .ok request →
        Ollama.Lapse (transport.send request) outcome → near.complete transport prompt = outcome) ∧
    (IsForeseen ((far.complete send prompt).map .str) ↔
        ¬ (far.hasKey = true ∧ ∃ failure, Anthropic.Lapse (send (far.request prompt)) failure)) ∧
      ∀ failure, far.hasKey = true → Anthropic.Lapse (send (far.request prompt)) failure →
        far.complete send prompt = .error failure := by
  constructor
  · refine ⟨⟨fun foreseen => ?_, ?_⟩, ?_⟩
    · cases made : near.request transport prompt with
      | error failure =>
        rw [Ollama.complete_of_refused made] at foreseen
        exact absurd (isForeseen_error_iff.mp foreseen) (Ollama.request_error made)
      | ok request =>
        refine ⟨request, rfl, ?_⟩
        rintro ⟨outcome, lapse⟩
        obtain ⟨same, unforeseen⟩ := Ollama.complete_of_lapse made lapse
        exact unforeseen (same ▸ foreseen)
    · rintro ⟨request, made, none⟩
      exact (Ollama.isForeseen_complete made).resolve_right fun lapse => none ⟨_, lapse⟩
    · intro request outcome made lapse
      exact (Ollama.complete_of_lapse made lapse).1
  · refine ⟨⟨?_, fun none => ?_⟩, fun failure hasKey lapse =>
      (Anthropic.complete_of_lapse hasKey lapse).1⟩
    · rintro foreseen ⟨hasKey, failure, lapse⟩
      obtain ⟨same, unforeseen⟩ := Anthropic.complete_of_lapse hasKey lapse
      rw [same] at foreseen
      exact unforeseen (isForeseen_error_iff.mp foreseen)
    · refine (Anthropic.isForeseen_complete far send prompt).resolve_right ?_
      rintro ⟨hasKey, failure, _, lapse⟩
      exact none ⟨hasKey, failure, lapse⟩

def localClient : Ollama.Client :=
  ⟨"http://localhost:11434", "qwen2.5:7b", .real 0.1, .int 2000, .real 60⟩

def keyedClient : Anthropic.Client := ⟨true, "claude-test", .int 2000, .real 0.1⟩

def localTransport (brought : Except Ollama.TransportError Ollama.Response) : Ollama.Transport where
  address base path := .ok (base ++ path)
  send _ := brought

/-- A body that says that the completion is done, with a number for it. -/
def numberBody : Text.Bytes := "\x7b\"done\": true, \"response\": 5\x7d"

section

open Stack.Usual

/-- A timeout is foreseen, and a connection that breaks off is not. -/
theorem completion_is_foreseen_unless_lapsed_sample :
    ∃ request, localClient.request (localTransport (.error ⟨.timeout, ""⟩)) "p" = .ok request ∧
      IsForeseen (localClient.complete (localTransport (.error ⟨.timeout, ""⟩)) "p") ∧
      localClient.complete (localTransport (.error ⟨.other "ReadError", "reset"⟩)) "p" =
        .error (.other "ReadError" "reset") := by
  have isMade : (localClient.request (localTransport (.error ⟨.timeout, ""⟩)) "p").isOk = true := by
    decide +kernel
  cases made : localClient.request (localTransport (.error ⟨.timeout, ""⟩)) "p" with
  | error failure =>
    rw [made] at isMade
    cases isMade
  | ok request =>
    obtain ⟨⟨foreseen, _⟩, _⟩ := completion_is_foreseen_unless_lapsed "p" localClient
      (localTransport (.error ⟨.timeout, ""⟩)) keyedClient fun _ => .error ⟨.connection, ""⟩
    obtain ⟨⟨_, lapsed⟩, _⟩ := completion_is_foreseen_unless_lapsed "p" localClient
      (localTransport (.error ⟨.other "ReadError", "reset"⟩)) keyedClient
      fun _ => .error ⟨.connection, ""⟩
    refine ⟨request, rfl, foreseen.mpr ⟨request, made, ?_⟩, lapsed request _ made .network⟩
    rintro ⟨outcome, ⟨⟩⟩

/-- The number is handed on as if it were a completion, and an answer that breaks the promises of the API
as an error that is none of the two. -/
theorem number_is_handed_on :
    (localClient.request (localTransport (.ok ⟨200, numberBody⟩)) "p").isOk = true ∧
      ¬ IsForeseen (localClient.complete (localTransport (.ok ⟨200, numberBody⟩)) "p") ∧
      ¬ IsForeseen ((keyedClient.complete
        (fun _ => .error ⟨.ofName "APIResponseValidationError" 200, "Data returned is invalid"⟩)
        "p").map .str) := by
  decide +kernel

end

end SpatialQuery.Model
