import SourceIndex.Event
import SourceIndex.Failure
import SourceIndex.Settings
import SourceIndex.Text.Case

/-! # Providers of embeddings

The name of a provider decides which client is made and what it is made with. -/
set_option autoImplicit false
namespace SourceIndex

inductive ClientPlan where
  | localModel (model : String) (batchSize : Nat)
  /-- A service behind a network interface; one that only resembles the usual service counts
  tokens in its own way. -/
  | service (model : String) (address key : Option String) (countsTokens : Bool)
  deriving DecidableEq, Repr

/-- Plan the client of a provider.  `installed` tells whether the clients are there at all. -/
def ClientPlan.make (settings : Settings) (installed : Bool) (provider model : Option String) :
    Except Failure ClientPlan × List Event :=
  let name := Text.lower (orElseText provider settings.embeddingProvider)
  let chosen := orElseText model settings.embeddingModel
  if name = "fastembed" then
    if installed then
      (.ok (.localModel chosen (atLeastOne settings.embeddingBatchSize)),
        [.info "initializing_fastembed_embeddings" [("model", .text chosen)]])
    else (.error .localProviderMissing, [])
  else if name = "lmstudio" ∨ "openai".toList <+: name.toList then
    if installed then
      (.ok (.service chosen (nonEmpty settings.embeddingApiBase)
          (nonEmpty settings.embeddingApiKey) (name = "openai")),
        [.info "initializing_openai_embeddings" [("model", .text chosen)]])
    else (.error .remoteProviderMissing, [])
  else (.error (.unknownProvider name), [])

end SourceIndex
