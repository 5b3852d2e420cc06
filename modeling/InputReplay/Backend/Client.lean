import InputReplay.Backend.Origin
import InputReplay.Document.Json
import InputReplay.Session.Basic
import InputReplay.Text.Encoding

/-! The backend: it names a session and then, for each screenshot, answers with a JSON object that may
hold the next instruction. Whatever else it answers is a failure. -/

namespace InputReplay

/-- A backend at an address, written without slashes at its end. -/
structure Backend where
  address : String
  base : Url

namespace Backend

def invalidUrl (f : UrlFault) : Fault := .host "InvalidURL" f.message

def badOrigin (f : OriginFault) : Fault := .host f.kind f.message

def ofAddress (address : String) : Except Fault Backend := do
  let address := dropEnd (· = '/') address.toList
  let base ← ((Url.read address).bind Url.asBase).mapError invalidUrl
  return ⟨String.ofList address, base⟩

variable {τ : Type} (b : Backend)

def isSuccess (status : Int) : Bool := decide (200 ≤ status) && decide (status < 300)

/-- The JSON object of a reply, however deep it is nested. That a host may run out of room for one, and so
leave the session, is left out. -/
def readReply : HttpReply → Except BackendFailure Value
  | .noResponse reason => .error (.network reason)
  | .response status body =>
    if isSuccess status then
      match (Encoding.decode? body).map Json.parse with
      | some (.ok (.mapping entries)) => .ok (.mapping entries)
      | some (.ok other) => .error (.notObject other.kind)
      | _ => .error .notJson
    else .error (.status status)

def locate (place : String) : Except UrlFault Url := (Url.read place.toList).bind b.base.join

def post (place : String) (body : HttpBody) : Session τ Value := do
  let url ← Program.ofExcept ((b.locate place).mapError invalidUrl)
  Program.ofExcept (url.checkPlace.mapError badOrigin)
  let reply ← Session.send ⟨String.ofList url.text, body⟩
  if reply.isResponse then Program.ofExcept (url.checkOrigin.mapError badOrigin)
  Program.ofExcept ((readReply reply).mapError Fault.backend)

def info (h : HostInfo) : Value := .object [
  ("screen_size", .text s!"{h.width}x{h.height}"), ("os_info", .text h.system)]

/-- The text under a key, if it is one and not empty. -/
def word? (v : Value) (key : String) : Option String :=
  ((v.get? key).bind Value.text?).filter (· ≠ "")

/-- Starts a session for a prompt; the backend names it. -/
def startSession (prompt : String) (info : Value) : Session τ String := do
  let data ← b.post "/sessions"
    (.json (.object [("prompt", .text prompt), ("frontend_info", info)]))
  match word? data "session_id" with
  | some session => pure session
  | none => .throw (.backend (.noSession data.shown))

def sendScreenshot (session : String) (picture : List UInt8) (action actionTime time : String) :
    Session τ Value :=
  b.post s!"/sessions/{session}" (.form [
    .field "screenshot_timestamp" time,
    .field "last_action" action,
    .field "last_action_timestamp" actionTime,
    .file "screenshot" "screenshot.png" "image/png" picture])

end Backend

end InputReplay
