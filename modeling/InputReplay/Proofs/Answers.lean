import InputReplay.Proofs.Station

/-! What a backend answers, and what may keep it from being asked. A reply that counts is a good one with an
object, in which a text stands under a key. The other way round, a place may have no address, and an address
may be one that nothing can be sent to or taken from; a fault that comes of that is none of the backend. -/

namespace InputReplay

namespace Value

theorem text?_eq_some_iff {v : Value} {text : String} :
    v.text? = some text ↔ ∃ w : Wording, v = .ofWording w ∧ w.text = text := by
  constructor
  · intro h
    cases v with
    | text s => exact ⟨.whole s, rfl, Option.some.inj h⟩
    | broken codes => exact ⟨.broken codes, rfl, Option.some.inj h⟩
    | _ => cases h
  · rintro ⟨w, rfl, rfl⟩
    cases w <;> rfl

def isBroken : Value → Bool
  | broken _ => true
  | _ => false

end Value

namespace Backend

theorem word?_eq_some_iff {v : Value} {key text : String} :
    word? v key = some text ↔
      text ≠ "" ∧ ∃ w : Wording, v.get? key = some (.ofWording w) ∧ w.text = text := by
  unfold word?
  rw [Option.filter_eq_some_iff, Option.bind_eq_some_iff, decide_eq_true_iff, and_comm]
  refine and_congr_right fun _ => ⟨?_, ?_⟩
  · rintro ⟨x, found, h⟩
    obtain ⟨w, rfl, same⟩ := Value.text?_eq_some_iff.1 h
    exact ⟨w, found, same⟩
  · rintro ⟨w, found, same⟩
    exact ⟨_, found, Value.text?_eq_some_iff.2 ⟨w, rfl, same⟩⟩

theorem isSuccess_iff {status : Int} : isSuccess status = true ↔ 200 ≤ status ∧ status < 300 := by
  simp [isSuccess]

theorem readReply_eq_ok_iff {reply : HttpReply} {v : Value} :
    readReply reply = .ok v ↔
      ∃ status body entries, reply = .response status body ∧ (200 ≤ status ∧ status < 300) ∧
        (Encoding.decode? body).map Json.parse = some (.ok (.mapping entries)) ∧ v = .mapping entries := by
  cases reply with
  | noResponse reason => simp [readReply]
  | response status body =>
    unfold readReply
    constructor
    · intro h
      dsimp only at h
      split at h
      · next good =>
        split at h
        · next entries read =>
          exact ⟨status, body, entries, rfl, isSuccess_iff.1 good, read, (Except.ok.inj h).symm⟩
        all_goals cases h
      · cases h
    · rintro ⟨_, _, entries, same, good, read, rfl⟩
      cases same
      dsimp only
      rw [if_pos (isSuccess_iff.2 good), read]

/-- Requests to a place of the backend get as far as the backend, and its replies back. -/
structure Reaches (b : Backend) (place : String) (url : Url) : Prop where
  named : b.locate place = .ok url
  there : url.checkPlace = .ok ()
  back : url.checkOrigin = .ok ()

/-- The fault with which a request to a place leaves a session, if it does: there is no way to ask there, or
none to take a response from there. -/
def obstacle? (b : Backend) (place : String) (reply : HttpReply) : Option Fault :=
  faultOf do
    let url ← (b.locate place).mapError invalidUrl
    url.checkPlace.mapError badOrigin
    if reply.isResponse then url.checkOrigin.mapError badOrigin

section Obstacle

variable {b : Backend} {place : String} {url : Url} {reply : HttpReply} {fault : Fault}

theorem obstacle?_of_locate_error {f : UrlFault} (h : b.locate place = .error f) :
    b.obstacle? place reply = some (invalidUrl f) := by
  unfold obstacle?
  rw [h]
  rfl

theorem obstacle?_of_locate_ok (h : b.locate place = .ok url) :
    b.obstacle? place reply = (faultOf (url.checkPlace.mapError badOrigin)).or
      (if reply.isResponse then faultOf (url.checkOrigin.mapError badOrigin) else none) := by
  unfold obstacle?
  rw [h]
  change faultOf (url.checkPlace.mapError badOrigin >>= fun _ => _) = _
  cases url.checkPlace with
  | error => rfl
  | ok _ =>
    change faultOf (if reply.isResponse = true then _ else _) = _
    split <;> rfl

theorem obstacle?_eq_none_iff :
    b.obstacle? place reply = none ↔ ∃ url, b.locate place = .ok url ∧ url.checkPlace = .ok () ∧
      (reply.isResponse = true → url.checkOrigin = .ok ()) := by
  cases located : b.locate place with
  | error f => simp [obstacle?_of_locate_error located]
  | ok url =>
    rw [obstacle?_of_locate_ok located]
    have clear : ∀ x : Except OriginFault Unit, faultOf (x.mapError badOrigin) = none ↔ x = .ok () := by
      rintro (_ | _) <;> simp [Except.mapError, faultOf]
    simp [clear]

theorem Reaches.clear (h : b.Reaches place url) (reply : HttpReply) : b.obstacle? place reply = none :=
  obstacle?_eq_none_iff.2 ⟨url, h.named, h.there, fun _ => h.back⟩

/-- An obstacle is no failure of the backend. -/
theorem host_of_obstacle? (h : b.obstacle? place reply = some fault) :
    ∃ kind reason, fault = .host kind reason := by
  have bad : ∀ x : Except OriginFault Unit, faultOf (x.mapError badOrigin) = some fault →
      ∃ kind reason, fault = .host kind reason := by
    rintro (f | _) h
    · exact ⟨_, _, (Option.some.inj h).symm⟩
    · cases h
  cases located : b.locate place with
  | error f =>
    rw [obstacle?_of_locate_error located] at h
    exact ⟨_, _, (Option.some.inj h).symm⟩
  | ok url =>
    rw [obstacle?_of_locate_ok located, Option.or_eq_some_iff] at h
    rcases h with h | ⟨-, h⟩
    · exact bad _ h
    · split at h
      · exact bad _ h
      · cases h

end Obstacle

end Backend

namespace HttpReply

/-- Whether no text with a code that no character has stands under a key of a reply's object. -/
def isWholeAt (key : String) (reply : HttpReply) : Bool :=
  match Backend.readReply reply with
  | .ok v => (v.get? key).all (!·.isBroken)
  | .error _ => true

/-- A good reply holds an object, and in it a text under a key, which is not empty. -/
def Holds (reply : HttpReply) (key text : String) : Prop :=
  text ≠ "" ∧ ∃ status body entries, reply = .response status body ∧ (200 ≤ status ∧ status < 300) ∧
    (Encoding.decode? body).map Json.parse = some (.ok (.mapping entries)) ∧
    (Value.mapping entries).get? key = some (.text text)

theorem holds_iff_word? {reply : HttpReply} {key text : String} (whole : reply.isWholeAt key = true) :
    reply.Holds key text ↔ ∃ v, Backend.readReply reply = .ok v ∧ Backend.word? v key = some text := by
  constructor
  · rintro ⟨full, status, body, entries, same, good, parsed, found⟩
    exact ⟨_, Backend.readReply_eq_ok_iff.2 ⟨status, body, entries, same, good, parsed, rfl⟩,
      Backend.word?_eq_some_iff.2 ⟨full, .whole text, found, rfl⟩⟩
  · rintro ⟨v, read, word⟩
    obtain ⟨full, w, found, rfl⟩ := Backend.word?_eq_some_iff.1 word
    unfold isWholeAt at whole
    simp only [read, found, Option.all_some] at whole
    cases w with
    | broken codes => cases whole
    | whole text =>
      obtain ⟨status, body, entries, same, good, parsed, rfl⟩ := Backend.readReply_eq_ok_iff.1 read
      exact ⟨full, status, body, entries, same, good, parsed, found⟩

end HttpReply

namespace TickOutcome

/-- The instruction that comes of a tick, if one does. -/
def instruction? (t : TickOutcome) : Option String :=
  t.picture?.bind fun _ =>
    match Backend.readReply t.reply with
    | .ok answer => Backend.word? answer "next_action"
    | .error _ => none

theorem instruction?_eq_some {t : TickOutcome} {command : String} :
    t.instruction? = some command ↔ t.picture? ≠ none ∧
      ∃ v, Backend.readReply t.reply = .ok v ∧ Backend.word? v "next_action" = some command := by
  unfold instruction?
  cases t.picture? with
  | none => simp
  | some picture =>
    rw [Option.bind_some]
    cases Backend.readReply t.reply <;> simp

/-- An instruction is the text that the reply to an upload holds. -/
theorem instruction?_eq_some_iff {t : TickOutcome} {command : String}
    (whole : t.reply.isWholeAt "next_action" = true) :
    t.instruction? = some command ↔ t.picture? ≠ none ∧ t.reply.Holds "next_action" command := by
  rw [instruction?_eq_some, HttpReply.holds_iff_word? whole]

/-- The fault with which the upload at a tick leaves a session, if it does. -/
def obstacle? (t : TickOutcome) (b : Backend) (place : String) : Option Fault :=
  t.picture?.bind fun _ => b.obstacle? place t.reply

variable {t : TickOutcome} {b : Backend} {place : String}

theorem obstacle?_of_pictured {picture : List UInt8} (pictured : t.picture? = some picture) :
    t.obstacle? b place = b.obstacle? place t.reply := by
  unfold obstacle?
  rw [pictured, Option.bind_some]

theorem obstacle?_of_unpictured (unpictured : t.picture? = none) : t.obstacle? b place = none := by
  unfold obstacle?
  rw [unpictured, Option.bind_none]

theorem obstacle?_of_reaches {url : Url} (reaches : b.Reaches place url) (t : TickOutcome) :
    t.obstacle? b place = none :=
  Option.bind_eq_none_iff.2 fun _ _ => reaches.clear t.reply

/-- Where one instruction came from, every upload is made and answered. -/
theorem clear_of_instruction {command : String} (clear : t.obstacle? b place = none)
    (h : t.instruction? = some command) (t' : TickOutcome) : t'.obstacle? b place = none := by
  obtain ⟨pictured, v, read, -⟩ := instruction?_eq_some.1 h
  obtain ⟨picture, taken⟩ := Option.ne_none_iff_exists'.1 pictured
  obtain ⟨status, body, -, same, -⟩ := Backend.readReply_eq_ok_iff.1 read
  rw [obstacle?_of_pictured taken, same] at clear
  obtain ⟨url, named, there, back⟩ := Backend.obstacle?_eq_none_iff.1 clear
  exact t'.obstacle?_of_reaches ⟨named, there, back rfl⟩

end TickOutcome

end InputReplay
