import SpatialQuery.Model.Anthropic
import SpatialQuery.Model.Ollama

/-!
# Clients of language models

The client of whichever model is configured, and the network that it uses.
-/

set_option autoImplicit false

namespace SpatialQuery.Model

inductive Client where
  | anthropic (client : Anthropic.Client)
  | ollama (client : Ollama.Client)

structure Network where
  anthropic : Json → Except Anthropic.ApiError Anthropic.Reply
  anthropicHealth : Json → Except Anthropic.ApiError Unit
  ollama : Ollama.Transport

def completionOfValue : Except Failure Json → Completion
  | .error e => .error e
  | .ok (.str t) => .ok t
  | .ok _ => .error .notText

namespace Client

def complete [Stack] (network : Network) (prompt : Text) : Client → Completion
  | .anthropic client => client.complete network.anthropic prompt
  | .ollama client => completionOfValue (client.complete network.ollama prompt)

def isHealthy (network : Network) : Client → Except Failure Bool
  | .anthropic client => .ok (client.isHealthy network.anthropicHealth)
  | .ollama client => client.isHealthy network.ollama

end Client

end SpatialQuery.Model
