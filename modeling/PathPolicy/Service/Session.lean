import PathPolicy.Service

/-!
# Sessions

A service is asked one thing after the other, and the files around it may change at any
time.  Whoever takes its engine keeps the document that the service had then, and can go
on asking it whatever becomes of the service.
-/

namespace PathPolicy.Service

/-- What is done with a service, or around it. -/
inductive Action
  | publish (document : Document)
  | reload
  | authorize (operation : Operation)
  | canAccess (request : Request)
  | takeEngine
  | askEngine (number : Nat) (request : Request)
  | changeFiles (files : FileTree)

/-- What an action gives back. -/
inductive Answer
  | nothing
  | document (document : Document)
  | outcome (outcome : Outcome)
  | access (allowed : Bool)
  deriving DecidableEq

/-- A service, the files around it, and the documents of the engines that were taken. -/
structure Session where
  service : Service
  files : FileTree
  engines : List Document

/-- A session after an action, and what the action gave back. -/
structure Turn where
  session : Session
  answer : Except Fault Answer

namespace Session

/-- A service that has just been set up among some files. -/
def start (config : Config) (files : FileTree) : Session :=
  ⟨.ofConfig config, files, []⟩

/-- The turn in which a service replies. -/
def turn {α : Type} (session : Session) (answer : α → Answer) (reply : Reply α) : Turn :=
  ⟨{ session with service := reply.service }, reply.answer.map answer⟩

/-- Keeps the document of a turn as that of an engine. -/
def keepEngine (turn : Turn) : Turn :=
  match turn.answer with
  | .ok (.document document) =>
      { turn with session.engines := turn.session.engines ++ [document] }
  | _ => turn

/-- One action. -/
def step (session : Session) : Action → Traced Event Turn
  | .publish document =>
      (fun service => ⟨{ session with service := service }, .ok .nothing⟩) <$>
        session.service.publish document
  | .reload => session.turn .document <$> session.service.reload session.files.load
  | .authorize operation =>
      session.turn .outcome <$> session.service.authorize session.files.load operation
  | .canAccess request =>
      session.turn .access <$> session.service.canAccess session.files.load request
  | .takeEngine =>
      (keepEngine ∘ session.turn .document) <$>
        session.service.currentDocument session.files.load
  | .askEngine number request =>
      match session.engines[number]? with
      | none => pure ⟨session, .ok .nothing⟩
      | some document =>
          (fun allowed => ⟨session, .ok (.access allowed)⟩) <$>
            (document.check request).mapEvents Event.deciding
  | .changeFiles files => pure ⟨{ session with files := files }, .ok .nothing⟩

/-- The session after an action. -/
def after (session : Session) (action : Action) : Session :=
  (session.step action).value.session

/-- The session after some actions. -/
def run (session : Session) (actions : List Action) : Session :=
  actions.foldl after session

@[simp]
theorem run_append (session : Session) (first second : List Action) :
    session.run (first ++ second) = (session.run first).run second :=
  List.foldl_append

@[simp]
theorem run_nil (session : Session) : session.run [] = session :=
  rfl

@[simp]
theorem run_singleton (session : Session) (action : Action) :
    session.run [action] = session.after action :=
  rfl

end Session

end PathPolicy.Service
