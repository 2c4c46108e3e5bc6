import Conformance.Reply.Envelope

/-!
Model listings and embeddings. Three protocols have both; Claude has neither.
-/

namespace Conformance.Reply

open Json (Decoder Record)

/-- The protocols with listings and embeddings. -/
inductive Catalogue where
  | openAI
  | gemini
  | ollama
deriving DecidableEq, Repr

namespace Catalogue

def protocol : Catalogue → Protocol
  | openAI => .openAI
  | gemini => .gemini
  | ollama => .ollama

/-- The member with the models, and what a complaint calls the listing. -/
def modelField : Catalogue → String
  | openAI => "data"
  | gemini => "models"
  | ollama => "models"

def listName : Catalogue → String
  | openAI => "OpenAI model list"
  | gemini => "Gemini model list"
  | ollama => "Ollama tag list"

/-- Models may be any values. -/
def models : Catalogue → Record (List Json)
  | openAI => .required "data" (Decoder.list Decoder.value)
  | gemini => .defaulted "models" (Decoder.list Decoder.value) []
  | ollama => .required "models" (Decoder.list Decoder.value)

/-- The members of which an embedding response has at least one. -/
def embeddingFields : Catalogue → List String
  | openAI => ["data"]
  | gemini => ["embedding"]
  | ollama => ["embeddings", "embedding"]

def vector : Decoder (List Number) :=
  Decoder.list Decoder.number

/-- The embedding: Ollama's first vector, or the single one where there is no list or an empty
one. -/
def embedding : Catalogue → Record (List Number)
  | openAI =>
    (Record.required "data" (Decoder.list
      ((Record.required "embedding" vector).decoder "struct EmbeddingData"))).map (·.headD [])
  | gemini =>
    .required "embedding" ((Record.required "values" vector).decoder "struct ContentEmbedding")
  | ollama =>
    (Record.defaulted "embeddings" (Decoder.nullable (Decoder.list vector)) none)
      |>.and (.defaulted "embedding" (Decoder.nullable vector) none)
      |>.map fun (vectors, single) => ((vectors.bind List.head?).or single).getD []

end Catalogue

/-- An object with at least one of some members. -/
def withOneOf (fields : List String) (subject : String) (members : Json.Members) :
    Except Complaint Unit :=
  if fields.any members.contains then .ok ()
  else .error (.missing (fields.headD "") subject)

/-- The verdict on a model listing. -/
def modelsVerdict (c : Catalogue) (status : Int) (body : String) : Verdict :=
  .ofExcept do
    let members ← object c.protocol status body
    withOneOf [c.modelField] c.listName members
    let models ← decode c.protocol c.models members
    pure (.pass s!"HTTP {status}, {models.length} models" (.count models.length))

/-- The verdict on an embedding, which has at least one dimension. -/
def embeddingVerdict (c : Catalogue) (status : Int) (body : String) : Verdict :=
  .ofExcept do
    let members ← object c.protocol status body
    withOneOf c.embeddingFields (c.protocol.displayName ++ " embedding response") members
    let vector ← decode c.protocol c.embedding members
    if vector.isEmpty then .error .emptyEmbedding
    else pure (.pass s!"Embedding OK, {vector.length} dimensions" (.count vector.length))

end Conformance.Reply
