import PathPolicy.Config
import PathPolicy.Decision.Decide
import PathPolicy.Operation
import PathPolicy.Storage.PolicyFile

/-!
# The service

A service holds at most one document and answers operations from it.  While it
holds none, each question that needs one loads the policy file of its settings;
once it holds one it keeps it until another is published.  An operation is
granted when all its requests are allowed.  Otherwise it is denied if the service
has the last word, and declined, that is left to others, if it has not.
-/

namespace PathPolicy

/-- What becomes of an operation. -/
inductive Outcome
  | granted
  | denied
  | declined
  deriving DecidableEq, Repr

/-- The word for an outcome. -/
def Outcome.word : Outcome → String
  | .granted => "granted"
  | .denied => "denied"
  | .declined => "declined"

/-- The settings of a service and the document that it holds. -/
structure Service where
  config : Config
  document : Option Document
  deriving DecidableEq

/-- How a policy file is loaded. -/
abbrev Loader := FileName → Traced Record (Except LoadError Document)

namespace Service

/-- What happens while a service works. -/
inductive Event
  | loading (record : Record)
  | published (sections : Nat)
  | loadFailed (error : LoadError)
  | destinationMissing (missing : MissingDestination)
  | deciding (step : Step)
  | granted (operation : Operation)
  | denied (operation : Operation)
  deriving DecidableEq, Repr

/-- Who does what, in words. -/
def deed (operation : Operation) : String :=
  "'" ++ operation.identity.text ++ "' " ++ operation.describe

/-- The record of an event. -/
def Event.record : Event → Record
  | .loading record => record
  | .published sections =>
      ⟨.info, .service, "Published policy with " ++ toString sections ++ " sections"⟩
  | .loadFailed error => ⟨.error, .service, error.message⟩
  | .destinationMissing missing => ⟨.debug, .service, missing.message⟩
  | .deciding step => step.record
  | .granted operation => ⟨.info, .service, "Access granted: " ++ deed operation⟩
  | .denied operation => ⟨.error, .service, "Access denied: " ++ deed operation⟩

/-- Why a service has no answer: no policy file is set, or it cannot be loaded. -/
inductive Fault
  | notConfigured
  | load (error : LoadError)
  deriving DecidableEq, Repr

/-- The fault in words. -/
def Fault.message : Fault → String
  | .notConfigured => "No access file configured"
  | .load error =>
      if error.isReported then error.message else error.fault.message error.name

/-- A service after it was asked something, and its answer. -/
structure Reply (α : Type) where
  service : Service
  answer : Except Fault α

/-- A service that holds no document yet. -/
def ofConfig (config : Config) : Service :=
  ⟨config, none⟩

/-- The service with a document to answer from. -/
def publish (service : Service) (document : Document) : Traced Event Service := do
  Traced.note (.published document.sections.length)
  pure { service with document := some document }

/-- Loads the policy file again and publishes its document; if that fails the service
keeps what it holds. -/
def reload (service : Service) (load : Loader) : Traced Event (Reply Document) :=
  match service.config.accessFile with
  | none => pure ⟨service, .error .notConfigured⟩
  | some name => do
      match ← (load name).mapEvents Event.loading with
      | .error error => pure ⟨service, .error (.load error)⟩
      | .ok document => do
          let service ← service.publish document
          pure ⟨service, .ok document⟩

/-- The document that the service holds, loaded if it holds none. -/
def currentDocument (service : Service) (load : Loader) : Traced Event (Reply Document) :=
  match service.document with
  | some document => pure ⟨service, .ok document⟩
  | none => service.reload load

/-- Whether the current document allows a request. -/
def canAccess (service : Service) (load : Loader) (request : Request) :
    Traced Event (Reply Bool) := do
  let reply ← service.currentDocument load
  match reply.answer with
  | .error fault => pure ⟨reply.service, .error fault⟩
  | .ok document => do
      let allowed ← (document.check request).mapEvents Event.deciding
      pure ⟨reply.service, .ok allowed⟩

/-- Whether a document allows all requests; none is looked at behind the first that is
not allowed. -/
def allowsAll (document : Document) : List Request → Traced Event Bool
  | [] => pure true
  | request :: rest => do
      if ← (document.check request).mapEvents Event.deciding then allowsAll document rest
      else pure false

/-- The outcome of an operation that is not granted. -/
def refuse (config : Config) (operation : Operation) : Traced Event Outcome := do
  if config.authoritative then
    Traced.note (.denied operation)
    pure .denied
  else pure .declined

/-- The outcome of an operation on a document. -/
def decide (config : Config) (document : Document) (operation : Operation) :
    Traced Event Outcome :=
  match operation.requests with
  | .error missing => do
      Traced.note (.destinationMissing missing)
      refuse config operation
  | .ok requests => do
      if ← allowsAll document requests then
        Traced.note (.granted operation)
        pure .granted
      else refuse config operation

/-- Whether an operation is left to others without a look at any document: nothing is
held or set, or the operation has no name and the service does not look at those. -/
def passesBy (service : Service) (operation : Operation) : Bool :=
  (service.document.isNone && service.config.accessFile.isNone) ||
    (operation.identity.isAnonymous && !service.config.anonymous)

/-- The outcome of an operation.  A policy file that is reported as unreadable refuses
it; any other fault has no outcome. -/
def authorize (service : Service) (load : Loader) (operation : Operation) :
    Traced Event (Reply Outcome) :=
  if service.passesBy operation then pure ⟨service, .ok .declined⟩
  else do
    let reply ← service.currentDocument load
    match reply.answer with
    | .ok document => do
        let outcome ← decide service.config document operation
        pure ⟨reply.service, .ok outcome⟩
    | .error (.load error) =>
        if error.isReported then do
          Traced.note (.loadFailed error)
          let outcome ← refuse service.config operation
          pure ⟨reply.service, .ok outcome⟩
        else pure ⟨reply.service, .error (.load error)⟩
    | .error .notConfigured => pure ⟨reply.service, .error .notConfigured⟩

/-! ## What a service holds -/

@[simp]
theorem document_publish (service : Service) (document : Document) :
    (service.publish document).value.document = some document :=
  rfl

@[simp]
theorem config_publish (service : Service) (document : Document) :
    (service.publish document).value.config = service.config :=
  rfl

/-- A document that is held is the current one, without a look at any file. -/
theorem currentDocument_of_held {service : Service} {document : Document}
    (held : service.document = some document) (load : Loader) :
    service.currentDocument load = pure ⟨service, .ok document⟩ := by
  rw [currentDocument, held]

/-- Without a document the current one is loaded. -/
theorem currentDocument_of_none {service : Service} (missing : service.document = none)
    (load : Loader) : service.currentDocument load = service.reload load := by
  rw [currentDocument, missing]

/-- Without a policy file there is nothing to load. -/
theorem reload_of_not_configured {service : Service} (missing : service.config.accessFile = none)
    (load : Loader) : service.reload load = pure ⟨service, .error .notConfigured⟩ := by
  rw [reload, missing]

/-- An operation that passes by is declined, and nothing changes or is noted. -/
theorem authorize_of_passesBy {service : Service} {operation : Operation}
    (passes : service.passesBy operation = true) (load : Loader) :
    service.authorize load operation = pure ⟨service, .ok .declined⟩ := by
  rw [authorize, if_pos passes]

/-- What is not granted is denied exactly when the service has the last word. -/
@[simp]
theorem value_refuse (config : Config) (operation : Operation) :
    (refuse config operation).value = if config.authoritative then .denied else .declined := by
  cases final : config.authoritative <;> simp [refuse, final]

end Service

end PathPolicy
