import InputReplay.Document.Value
import InputReplay.Text.Utf8

/-! Requests to a backend, and what comes back. -/

namespace InputReplay

inductive FormPart where
  | field (name text : String)
  | file (name fileName mediaType : String) (content : List UInt8)

inductive HttpBody where
  | json (value : Value)
  | form (parts : List FormPart)

/-- A request that posts a body. -/
structure HttpRequest where
  url : String
  body : HttpBody

inductive HttpReply where
  | response (status : Int) (body : List UInt8)
  /-- No response came, for a reason. -/
  | noResponse (reason : String)

def HttpReply.isResponse : HttpReply → Bool
  | response .. => true
  | noResponse _ => false

end InputReplay
