import MultipartUpload.Options.UploadOptions
import MultipartUpload.Slice

/-!
# Storage services

A service answers one request at a time from a state of its own. An upload is a conversation with a
service: what it comes to, the state it leaves the service in, and every request with its reply in
the order they were made.
-/

namespace MultipartUpload

instance decidableEqExcept [DecidableEq ε] [DecidableEq α] : DecidableEq (Except ε α)
  | .error a, .error b => decidable_of_iff (a = b) (by simp)
  | .ok a, .ok b => decidable_of_iff (a = b) (by simp)
  | .error _, .ok _ => isFalse (by simp)
  | .ok _, .error _ => isFalse (by simp)

inductive ServiceError where
  /-- The service does not see the upload or the key, or not yet. -/
  | keyNotFound (container key : String) (uploadId? : Option String)
  | rejected (code message : String)
  deriving DecidableEq, Repr

namespace ServiceError

def message : ServiceError → String
  | .keyNotFound container key uploadId? =>
    "key " ++ key ++ " in " ++ container ++ " not found (upload " ++ uploadId?.getD "-" ++ ")"
  | .rejected code message => code ++ ": " ++ message

/-- Whether the same request may succeed when it is made again at once. -/
def isTransient : ServiceError → Bool
  | .keyNotFound .. => true
  | .rejected .. => false

end ServiceError

/-- The checksums of parts under their numbers. -/
abbrev Manifest := Std.ExtTreeMap Nat String

inductive Request where
  | initiate (container : String) (metadata : Metadata) (options : UploadOptions)
  | uploadPart (container key : String) (number : Nat) (uploadId : String) (part : Part)
    (options : UploadOptions)
  | complete (container key uploadId : String) (manifest : Manifest)
  | abort (container key uploadId : String)
  | putObject (container : String) (blob : Blob) (options : UploadOptions)
  deriving DecidableEq

namespace Request

def container : Request → String
  | .initiate container .. => container
  | .uploadPart container .. => container
  | .complete container .. => container
  | .abort container .. => container
  | .putObject container .. => container

def key : Request → String
  | .initiate _ metadata _ => metadata.name
  | .uploadPart _ key .. => key
  | .complete _ key .. => key
  | .abort _ key _ => key
  | .putObject _ blob _ => blob.name

def number? : Request → Option Nat
  | .uploadPart _ _ number .. => some number
  | _ => none

/-- The options sent with a request. Completing and aborting an upload takes none. -/
def options : Request → UploadOptions
  | .initiate _ _ options => options
  | .uploadPart _ _ _ _ _ options => options
  | .complete .. => {}
  | .abort .. => {}
  | .putObject _ _ options => options

end Request

/-- What a service grants: the identifier of an upload, the checksum of a part or the identifier of
an object. An abort is granted with no text. -/
abbrev Reply := Except ServiceError String

structure Exchange where
  request : Request
  reply : Reply
  deriving DecidableEq

structure Service (σ : Type) where
  answer : Request → σ → Reply × σ

/-- A conversation with a service. -/
structure Talk (σ α : Type) where
  outcome : α
  state : σ
  exchanges : List Exchange

namespace Talk

/-- Nothing is said. -/
def silent (outcome : α) (state : σ) : Talk σ α :=
  ⟨outcome, state, []⟩

@[simp]
theorem silent_outcome (outcome : α) (state : σ) : (silent outcome state).outcome = outcome := rfl

@[simp]
theorem silent_state (outcome : α) (state : σ) : (silent outcome state).state = state := rfl

@[simp]
theorem silent_exchanges (outcome : α) (state : σ) : (silent outcome state).exchanges = [] := rfl

/-- Goes on from where a conversation ended. -/
def followedBy (talk : Talk σ α) (next : α → σ → Talk σ β) : Talk σ β :=
  let rest := next talk.outcome talk.state
  { rest with exchanges := talk.exchanges ++ rest.exchanges }

@[simp]
theorem followedBy_outcome (talk : Talk σ α) (next : α → σ → Talk σ β) :
    (talk.followedBy next).outcome = (next talk.outcome talk.state).outcome := rfl

@[simp]
theorem followedBy_state (talk : Talk σ α) (next : α → σ → Talk σ β) :
    (talk.followedBy next).state = (next talk.outcome talk.state).state := rfl

@[simp]
theorem followedBy_exchanges (talk : Talk σ α) (next : α → σ → Talk σ β) :
    (talk.followedBy next).exchanges =
      talk.exchanges ++ (next talk.outcome talk.state).exchanges := rfl

/-- What matters is only how a conversation goes on from where it ended. -/
theorem followedBy_congr {talk : Talk σ α} {next other : α → σ → Talk σ β}
    (h : next talk.outcome talk.state = other talk.outcome talk.state) :
    talk.followedBy next = talk.followedBy other := by
  rw [followedBy, followedBy, h]

def map (f : α → β) (talk : Talk σ α) : Talk σ β :=
  { talk with outcome := f talk.outcome }

@[simp]
theorem map_outcome (f : α → β) (talk : Talk σ α) : (talk.map f).outcome = f talk.outcome := rfl

@[simp]
theorem map_state (f : α → β) (talk : Talk σ α) : (talk.map f).state = talk.state := rfl

@[simp]
theorem map_exchanges (f : α → β) (talk : Talk σ α) :
    (talk.map f).exchanges = talk.exchanges := rfl

theorem map_followedBy (f : β → γ) (talk : Talk σ α) (next : α → σ → Talk σ β) :
    (talk.followedBy next).map f = talk.followedBy fun outcome state ↦ (next outcome state).map f :=
  rfl

theorem followedBy_map (f : α → β) (talk : Talk σ α) (next : β → σ → Talk σ γ) :
    (talk.map f).followedBy next = talk.followedBy fun outcome state ↦ next (f outcome) state :=
  rfl

theorem followedBy_silent (f : α → β) (talk : Talk σ α) :
    (talk.followedBy fun outcome state ↦ silent (f outcome) state) = talk.map f := by
  simp [followedBy, silent, map]

end Talk

/-- Makes one request. -/
def Service.ask (service : Service σ) (request : Request) (state : σ) : Talk σ Reply :=
  let answered := service.answer request state
  ⟨answered.1, answered.2, [⟨request, answered.1⟩]⟩

namespace Service

variable (service : Service σ) (request : Request) (state : σ)

@[simp]
theorem ask_outcome :
    (service.ask request state).outcome = (service.answer request state).1 := rfl

@[simp]
theorem ask_state : (service.ask request state).state = (service.answer request state).2 := rfl

@[simp]
theorem ask_exchanges : (service.ask request state).exchanges =
    [⟨request, (service.answer request state).1⟩] := rfl

end Service

end MultipartUpload
