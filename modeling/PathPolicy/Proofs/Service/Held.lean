import Mathlib.Data.List.Induction
import PathPolicy.Proofs.Service.Outcomes
import PathPolicy.Service.Session

/-!
# The document that is held

Over any run of a session the service holds the document that was published last, whichever
way that was, and answers from it whatever becomes of the files.  Nothing that fails changes
it.  An engine that was taken goes on answering from the document that was held then.
-/

namespace PathPolicy.Service

namespace Session

variable {session : Session} {action : Action} {document : Document}

/-- An action that replaces the document: a publication, or a reload that loads. -/
inductive Replaces (session : Session) : Action → Document → Prop
  | publish (document : Document) : Replaces session (.publish document) document
  | reload {name : FileName} {document : Document}
      (configured : session.service.config.accessFile = some name)
      (loads : (session.files.load name).value = .ok document) : Replaces session .reload document

/-- An action that needs the document: all questions do, but for an operation without a name
at a service that is closed to those. -/
inductive NeedsDocument (session : Session) : Action → Prop
  | authorize {operation : Operation}
      (welcome : operation.identity = .anonymous → session.service.config.anonymous = true) :
      NeedsDocument session (.authorize operation)
  | canAccess (request : Request) : NeedsDocument session (.canAccess request)
  | takeEngine : NeedsDocument session .takeEngine

/-- An action publishes a document when it replaces the one that is held, or when it needs
one, none is held and one is loaded. -/
inductive Publishes (session : Session) (action : Action) (document : Document) : Prop
  | replaces (replaces : session.Replaces action document)
  | firstUse {name : FileName} (needs : session.NeedsDocument action)
      (missing : session.service.document = none)
      (configured : session.service.config.accessFile = some name)
      (loads : (session.files.load name).value = .ok document)

/-- At no point of a run an action does something with a document. -/
def Never (does : Session → Action → Document → Prop) (first : Session) (actions : List Action) :
    Prop :=
  ∀ before action behind, actions = before ++ action :: behind →
    ∀ document, ¬ does (first.run before) action document

/-- A document was published in a run, and none was after it. -/
def LastPublished (first : Session) (actions : List Action) (document : Document) : Prop :=
  ∃ before action behind, actions = before ++ action :: behind ∧
    (first.run before).Publishes action document ∧
    Never Publishes (first.run (before ++ [action])) behind

/-! ## Questions -/

theorem minded_of_welcome {operation : Operation}
    (welcome : operation.identity = .anonymous → session.service.config.anonymous = true)
    (policy : session.service.document = none → session.service.config.accessFile ≠ none) :
    ¬ session.service.LeavesAlone operation := by
  intro alone
  cases alone with
  | noPolicy missing unset => exact policy missing unset
  | nameless anonymous closed =>
      rw [welcome anonymous] at closed
      cases closed

/-- What an action that needs the document is answered on one. -/
def answerOn (config : Config) (document : Document) : Action → Answer
  | .authorize operation => .outcome (decide config document operation).value
  | .canAccess request => .access (document.check request).value
  | .takeEngine => .document document
  | _ => .nothing

/-- What an action that needs the document is answered without one. -/
def answerWithout (config : Config) (fault : Fault) : Action → Except Fault Answer
  | .authorize operation =>
      match fault with
      | .notConfigured => .ok (.outcome .declined)
      | .load error =>
          if error.isReported then .ok (.outcome (refuse config operation).value)
          else .error (.load error)
  | _ => .error fault

theorem NeedsDocument.congr {other : Session} (needs : session.NeedsDocument action)
    (sameConfig : session.service.config = other.service.config) :
    other.NeedsDocument action := by
  cases needs with
  | authorize welcome => exact .authorize (by rw [← sameConfig]; exact welcome)
  | canAccess request => exact .canAccess request
  | takeEngine => exact .takeEngine

/-- An action that needs the document is answered on the one that the service answers from,
which it holds from then on. -/
theorem step_of_answersFrom (needs : session.NeedsDocument action)
    (answers : session.service.AnswersFrom session.files.load document) :
    (session.after action).service = { session.service with document := some document } ∧
      (session.step action).value.answer =
        .ok (answerOn session.service.config document action) := by
  cases needs with
  | authorize welcome =>
      have minded := minded_of_welcome welcome fun missing unset =>
        (Lacks.notConfigured missing unset).not_answersFrom answers
      simp only [after, step, authorize_of_answersFrom minded answers]
      exact ⟨rfl, rfl⟩
  | canAccess request =>
      have current := value_currentDocument_of_answersFrom answers
      simp only [after, step, canAccess, Traced.bind_of_value current]
      exact ⟨rfl, rfl⟩
  | takeEngine =>
      have current := value_currentDocument_of_answersFrom answers
      simp only [after, step, Traced.value_map, current]
      exact ⟨rfl, rfl⟩

/-- An action that needs the document leaves a service that lacks one as it is. -/
theorem step_of_lacks (needs : session.NeedsDocument action) {fault : Fault}
    (lacks : session.service.Lacks session.files.load fault) :
    (session.after action).service = session.service ∧
      (session.step action).value.answer = answerWithout session.service.config fault action := by
  cases needs with
  | @authorize operation welcome =>
      cases lacks with
      | notConfigured missing unset =>
          have alone : session.service.LeavesAlone operation := .noPolicy missing unset
          have passes := passesBy_eq_true_iff.2 alone
          simp only [after, step, authorize_of_passesBy passes]
          exact ⟨rfl, rfl⟩
      | @load name error missing configured fails =>
          have minded := minded_of_welcome welcome (by simp [configured])
          have lacks := Lacks.load missing configured fails
          cases reported : error.isReported with
          | true =>
              simp only [after, step, authorize_of_reported minded lacks reported, answerWithout,
                reported, if_true]
              exact ⟨rfl, rfl⟩
          | false =>
              simp only [after, step, authorize_of_unreported minded lacks reported, answerWithout,
                reported, Bool.false_eq_true, if_false]
              exact ⟨rfl, rfl⟩
  | canAccess request =>
      have current := value_currentDocument_of_lacks lacks
      simp only [after, step, canAccess, Traced.bind_of_value current]
      exact ⟨rfl, rfl⟩
  | takeEngine =>
      have current := value_currentDocument_of_lacks lacks
      simp only [after, step, Traced.value_map, current]
      exact ⟨rfl, rfl⟩

/-! ## One action -/

/-- An action that needs the document publishes one exactly when one is loaded for it. -/
theorem publishes_iff_of_needs (needs : session.NeedsDocument action) :
    session.Publishes action document ↔
      session.service.document = none ∧
        session.service.AnswersFrom session.files.load document := by
  constructor
  · intro publishes
    cases publishes with
    | replaces replaces => cases replaces <;> cases needs
    | firstUse _ missing configured loads => exact ⟨missing, .loaded missing configured loads⟩
  · rintro ⟨missing, answers⟩
    cases answers with
    | held holding =>
        rw [missing] at holding
        cases holding
    | loaded _ configured loads => exact .firstUse needs missing configured loads

theorem not_publishes (noNeed : ¬ session.NeedsDocument action)
    (noReplacement : ∀ document, ¬ session.Replaces action document) :
    ∀ document, ¬ session.Publishes action document := by
  intro document publishes
  cases publishes with
  | replaces replaces => exact noReplacement document replaces
  | firstUse needs => exact noNeed needs

theorem publishes_reload_iff :
    session.Publishes .reload document ↔
      ∃ name, session.service.config.accessFile = some name ∧
        (session.files.load name).value = .ok document := by
  constructor
  · intro publishes
    cases publishes with
    | replaces replaces =>
        cases replaces with
        | reload configured loads => exact ⟨_, configured, loads⟩
    | firstUse needs => cases needs
  · rintro ⟨name, configured, loads⟩
    exact .replaces (.reload configured loads)

/-- What a reload gives, and what it leaves. -/
theorem value_reload_cases (service : Service) (load : Loader) :
    (∃ name document, service.config.accessFile = some name ∧
        (load name).value = .ok document ∧
        (service.reload load).value = ⟨{ service with document := some document }, .ok document⟩) ∨
      ∃ fault, (∀ name document, service.config.accessFile = some name →
          (load name).value ≠ .ok document) ∧
        (service.reload load).value = ⟨service, .error fault⟩ := by
  cases configured : service.config.accessFile with
  | none =>
      right
      refine ⟨.notConfigured, by simp, ?_⟩
      rw [reload_of_not_configured configured]
      rfl
  | some name =>
      cases outcome : (load name).value with
      | ok document =>
          left
          refine ⟨name, document, rfl, outcome, ?_⟩
          rw [reload, configured]
          simp only [Traced.value_bind, Traced.value_mapEvents, outcome]
          rfl
      | error error =>
          right
          refine ⟨.load error, ?_, ?_⟩
          · rintro _ document ⟨⟩
            simp [outcome]
          · rw [reload, configured]
            simp only [Traced.value_bind, Traced.value_mapEvents, outcome]
            rfl

/-- An action publishes a document, which the service then holds, and has an answer, or it
leaves the service as it is. -/
theorem step_cases (session : Session) (action : Action) :
    (∃ document answer, session.Publishes action document ∧
        (session.after action).service = { session.service with document := some document } ∧
        (session.step action).value.answer = .ok answer) ∨
      (∀ document, ¬ session.Publishes action document) ∧
        (session.after action).service = session.service := by
  by_cases needs : session.NeedsDocument action
  · rcases answersFrom_or_lacks session.service session.files.load with ⟨document, answers⟩ |
      ⟨fault, lacks⟩
    · obtain ⟨held, answered⟩ := step_of_answersFrom needs answers
      cases holding : session.service.document with
      | none =>
          left
          exact ⟨document, _, (publishes_iff_of_needs needs).2 ⟨holding, answers⟩, held, answered⟩
      | some present =>
          right
          have same : document = present := answers.unique (.held holding)
          constructor
          · intro other publishes
            have missing := ((publishes_iff_of_needs needs).1 publishes).1
            rw [holding] at missing
            cases missing
          · rw [held, same, ← holding]
    · right
      constructor
      · intro document publishes
        exact lacks.not_answersFrom ((publishes_iff_of_needs needs).1 publishes).2
      · exact (step_of_lacks needs lacks).1
  · cases action with
    | publish document =>
        left
        exact ⟨document, .nothing, .replaces (.publish document), rfl, rfl⟩
    | reload =>
        rcases value_reload_cases session.service session.files.load with
          ⟨name, document, configured, loads, reloaded⟩ | ⟨fault, unloaded, failed⟩
        · left
          refine ⟨document, .document document, publishes_reload_iff.2 ⟨name, configured, loads⟩,
            ?_, ?_⟩
          · simp only [after, step, Traced.value_map, reloaded, turn]
          · simp only [step, Traced.value_map, reloaded, turn]
            rfl
        · right
          constructor
          · intro document publishes
            obtain ⟨name, configured, loads⟩ := publishes_reload_iff.1 publishes
            exact unloaded name document configured loads
          · simp only [after, step, Traced.value_map, failed, turn]
    | authorize operation =>
        right
        refine ⟨not_publishes needs (by rintro document ⟨⟩), ?_⟩
        have nameless : operation.identity = .anonymous ∧
            session.service.config.anonymous = false := by
          by_contra known
          exact needs (.authorize (by simpa using known))
        have alone : session.service.LeavesAlone operation := .nameless nameless.1 nameless.2
        simp only [after, step, authorize_of_passesBy (passesBy_eq_true_iff.2 alone)]
        rfl
    | canAccess request => exact absurd (.canAccess request) needs
    | takeEngine => exact absurd .takeEngine needs
    | askEngine number request =>
        right
        refine ⟨not_publishes needs (by rintro document ⟨⟩), ?_⟩
        simp only [after, step]
        split <;> rfl
    | changeFiles files => exact Or.inr ⟨not_publishes needs (by rintro document ⟨⟩), rfl⟩

/-- An action publishes one document only. -/
theorem Publishes.unique {other : Document} (publishes : session.Publishes action document)
    (publishesOther : session.Publishes action other) : document = other := by
  by_cases needs : session.NeedsDocument action
  · have answers := ((publishes_iff_of_needs needs).1 publishes).2
    exact answers.unique ((publishes_iff_of_needs needs).1 publishesOther).2
  · cases publishes with
    | firstUse needsIt => exact absurd needsIt needs
    | replaces replaces =>
        cases publishesOther with
        | firstUse needsIt => exact absurd needsIt needs
        | replaces replacesOther =>
            cases replaces with
            | publish =>
                cases replacesOther
                rfl
            | reload configured loads =>
                obtain ⟨name, configuredOther, loadsOther⟩ :=
                  publishes_reload_iff.1 (.replaces replacesOther)
                cases configured.symm.trans configuredOther
                exact Except.ok.inj (loads.symm.trans loadsOther)

/-- After an action the service holds what the action published, or what it held before. -/
theorem document_after_iff :
    (session.after action).service.document = some document ↔
      session.Publishes action document ∨
        session.service.document = some document ∧ ∀ other, ¬ session.Publishes action other := by
  rcases step_cases session action with ⟨published, answer, publishes, kept, _⟩ | ⟨nothing, kept⟩
  · rw [kept]
    constructor
    · intro same
      cases same
      exact Or.inl publishes
    · rintro (publishesIt | ⟨_, nothing⟩)
      · rw [publishes.unique publishesIt]
      · exact absurd publishes (nothing published)
  · rw [kept]
    constructor
    · intro held
      exact Or.inr ⟨held, nothing⟩
    · rintro (publishes | ⟨held, _⟩)
      · exact absurd publishes (nothing document)
      · exact held

theorem document_after_of_held (held : session.service.document = some document)
    (noReplacement : ∀ other, ¬ session.Replaces action other) :
    (session.after action).service.document = some document := by
  refine document_after_iff.2 (Or.inr ⟨held, ?_⟩)
  intro other publishes
  cases publishes with
  | replaces replaces => exact noReplacement other replaces
  | firstUse _ missing =>
      rw [held] at missing
      cases missing

theorem config_after (session : Session) (action : Action) :
    (session.after action).service.config = session.service.config := by
  rcases step_cases session action with ⟨document, answer, _, kept, _⟩ | ⟨_, kept⟩ <;> rw [kept]

/-- An action leaves the engines that were taken. -/
theorem engines_after (session : Session) (action : Action) :
    ∃ taken, (session.after action).engines = session.engines ++ taken := by
  cases action with
  | takeEngine =>
      simp only [after, step, Traced.value_map, Function.comp, keepEngine]
      split
      · exact ⟨_, rfl⟩
      · exact ⟨[], by simp [turn]⟩
  | askEngine number request =>
      simp only [after, step]
      split <;> exact ⟨[], by simp⟩
  | _ => exact ⟨[], by simp [after, step, turn]⟩

/-! ## Runs -/

variable {first : Session} {actions : List Action} {last : Action}
  {does : Session → Action → Document → Prop}

/-- A run that ends with an action is taken apart at that one or before it. -/
theorem split_concat_iff {before behind : List Action} :
    actions ++ [last] = before ++ action :: behind ↔
      (actions = before ∧ last = action ∧ behind = []) ∨
        ∃ earlier, actions = before ++ action :: earlier ∧ behind = earlier ++ [last] := by
  constructor
  · intro split
    rcases List.eq_nil_or_concat behind with rfl | ⟨earlier, final, rfl⟩
    · obtain ⟨sameActions, sameLast⟩ := List.append_inj' split rfl
      exact Or.inl ⟨sameActions, (List.cons.inj sameLast).1, rfl⟩
    · rw [List.concat_eq_append, ← List.cons_append, ← List.append_assoc] at split
      obtain ⟨sameActions, sameLast⟩ := List.append_inj' split rfl
      cases sameLast
      exact Or.inr ⟨earlier, sameActions, List.concat_eq_append⟩
  · rintro (⟨rfl, rfl, rfl⟩ | ⟨earlier, rfl, rfl⟩)
    · rfl
    · simp

theorem never_nil : Never does first [] := by
  rintro before action behind split
  simp at split

/-- Nothing is done in a run when nothing is before its last action, nor by that one. -/
theorem never_concat_iff :
    Never does first (actions ++ [last]) ↔
      Never does first actions ∧ ∀ document, ¬ does (first.run actions) last document := by
  constructor
  · intro never
    constructor
    · rintro before action behind rfl
      exact never before action (behind ++ [last]) (by simp)
    · exact never actions last [] rfl
  · rintro ⟨never, notLast⟩ before action behind split
    rcases split_concat_iff.1 split with ⟨rfl, rfl, _⟩ | ⟨earlier, rfl, _⟩
    · exact notLast
    · exact never before action earlier rfl

/-- The last publication is by the last action, or before it and that one publishes nothing. -/
theorem lastPublished_concat_iff :
    LastPublished first (actions ++ [last]) document ↔
      (first.run actions).Publishes last document ∨
        LastPublished first actions document ∧
          ∀ other, ¬ (first.run actions).Publishes last other := by
  constructor
  · rintro ⟨before, action, behind, split, publishes, never⟩
    rcases split_concat_iff.1 split with ⟨rfl, rfl, _⟩ | ⟨earlier, rfl, rfl⟩
    · exact Or.inl publishes
    · obtain ⟨neverEarlier, notLast⟩ := never_concat_iff.1 never
      rw [← run_append, List.append_assoc, List.singleton_append] at notLast
      exact Or.inr ⟨⟨before, action, earlier, rfl, publishes, neverEarlier⟩, notLast⟩
  · rintro (publishes | ⟨⟨before, action, behind, rfl, publishes, never⟩, notLast⟩)
    · exact ⟨actions, last, [], rfl, publishes, never_nil⟩
    · refine ⟨before, action, behind ++ [last], by simp, publishes, ?_⟩
      rw [never_concat_iff, ← run_append, List.append_assoc, List.singleton_append]
      exact ⟨never, notLast⟩

/-- Nothing is published in a run when no document is published last. -/
theorem never_publishes_iff :
    Never Publishes first actions ↔ ∀ document, ¬ LastPublished first actions document := by
  constructor
  · rintro never document ⟨before, action, behind, split, publishes, _⟩
    exact never before action behind split document publishes
  · induction actions using List.reverseRecOn with
    | nil => exact fun _ => never_nil
    | append_singleton earlier last inductionHypothesis =>
        intro noLatest
        have notLast : ∀ document, ¬ (first.run earlier).Publishes last document := by
          intro document publishes
          exact noLatest document (lastPublished_concat_iff.2 (Or.inl publishes))
        refine never_concat_iff.2 ⟨inductionHypothesis ?_, notLast⟩
        intro document latest
        exact noLatest document (lastPublished_concat_iff.2 (Or.inr ⟨latest, notLast⟩))

/-- After a run the service holds what was published last, or what it held before the run. -/
theorem document_run_iff :
    (first.run actions).service.document = some document ↔
      LastPublished first actions document ∨
        first.service.document = some document ∧ Never Publishes first actions := by
  induction actions using List.reverseRecOn generalizing document with
  | nil =>
      constructor
      · intro held
        exact Or.inr ⟨held, never_nil⟩
      · rintro (⟨before, action, behind, split, _⟩ | ⟨held, _⟩)
        · simp at split
        · exact held
  | append_singleton earlier last inductionHypothesis =>
      rw [run_append, run_singleton, document_after_iff, inductionHypothesis,
        lastPublished_concat_iff, never_concat_iff]
      tauto

theorem document_run_of_held (held : first.service.document = some document)
    (kept : Never Replaces first actions) :
    (first.run actions).service.document = some document := by
  induction actions using List.reverseRecOn with
  | nil => exact held
  | append_singleton earlier last inductionHypothesis =>
      obtain ⟨keptEarlier, notLast⟩ := never_concat_iff.1 kept
      rw [run_append, run_singleton]
      exact document_after_of_held (inductionHypothesis keptEarlier) notLast

theorem config_run (first : Session) (actions : List Action) :
    (first.run actions).service.config = first.service.config := by
  induction actions using List.reverseRecOn with
  | nil => rfl
  | append_singleton earlier last inductionHypothesis =>
      rw [run_append, run_singleton, config_after, inductionHypothesis]

/-- A document that is held answers, until it is replaced, whatever the files are then. -/
theorem answer_of_held (held : first.service.document = some document)
    (kept : Never Replaces first actions) (needs : first.NeedsDocument action) (files : FileTree) :
    ({ first.run actions with files := files }.step action).value.answer =
      .ok (answerOn first.service.config document action) := by
  have sameConfig := config_run first actions
  have needsThen : NeedsDocument { first.run actions with files := files } action :=
    needs.congr sameConfig.symm
  have answers : (first.run actions).service.AnswersFrom files.load document :=
    .held (document_run_of_held held kept)
  rw [← sameConfig]
  exact (step_of_answersFrom needsThen answers).2

theorem engines_run (first : Session) (actions : List Action) :
    ∃ taken, (first.run actions).engines = first.engines ++ taken := by
  induction actions using List.reverseRecOn with
  | nil => exact ⟨[], by simp⟩
  | append_singleton earlier last inductionHypothesis =>
      obtain ⟨taken, kept⟩ := inductionHypothesis
      obtain ⟨more, keptLast⟩ := engines_after (first.run earlier) last
      refine ⟨taken ++ more, ?_⟩
      rw [run_append, run_singleton, keptLast, kept, List.append_assoc]

theorem step_askEngine_run {number : Nat} (taken : first.engines[number]? = some document)
    (actions : List Action) (request : Request) :
    ((first.run actions).step (.askEngine number request)).value.answer =
      .ok (.access (document.check request).value) := by
  obtain ⟨more, kept⟩ := engines_run first actions
  obtain ⟨bound, isEngine⟩ := List.getElem?_eq_some_iff.1 taken
  have still : (first.run actions).engines[number]? = some document := by
    rw [kept, List.getElem?_append_left bound, taken]
  simp only [step, still]
  rfl

/-- Taking the engine gives that of the document which the service then holds. -/
theorem step_takeEngine
    (taken : (session.step .takeEngine).value.answer = .ok (.document document)) :
    (session.after .takeEngine).service.document = some document ∧
      (session.after .takeEngine).engines = session.engines ++ [document] := by
  rcases answersFrom_or_lacks session.service session.files.load with ⟨current, answers⟩ |
    ⟨fault, lacks⟩
  · obtain ⟨kept, answered⟩ := step_of_answersFrom .takeEngine answers
    rw [answered] at taken
    cases taken
    constructor
    · rw [kept]
    · have replied := value_currentDocument_of_answersFrom answers
      simp only [after, step, Traced.value_map, replied]
      rfl
  · rw [(step_of_lacks .takeEngine lacks).2] at taken
    cases taken

/-! ## The whole run -/

/-- What a service holds and answers after some actions. -/
structure HoldsLatest (first : Session) (actions : List Action) (reached : Session) : Prop where
  /-- The document that is held is the one that was published last. -/
  latest : ∀ document,
    reached.service.document = some document ↔ LastPublished first actions document
  /-- None is held exactly if none has been published. -/
  empty : reached.service.document = none ↔ Never Publishes first actions
  /-- An action that has no answer leaves the document as it is. -/
  failed : ∀ action fault, (reached.step action).value.answer = .error fault →
    (reached.after action).service.document = reached.service.document
  /-- While none is held, an action that needs one tries the files as they are, and holds
  and answers from what they give. -/
  loaded : ∀ action name document, reached.NeedsDocument action →
    reached.service.document = none → reached.service.config.accessFile = some name →
    (reached.files.load name).value = .ok document →
    (reached.after action).service.document = some document ∧
      (reached.step action).value.answer =
        .ok (answerOn reached.service.config document action)
  /-- If they give none it is refused or has no answer, and still none is held. -/
  unloaded : ∀ action name error, reached.NeedsDocument action →
    reached.service.document = none → reached.service.config.accessFile = some name →
    (reached.files.load name).value = .error error →
    (reached.after action).service.document = none ∧
      (reached.step action).value.answer =
        answerWithout reached.service.config (.load error) action
  /-- Once a document is held, all that need one are answered from it, until it is replaced,
  whatever the files are then. -/
  held : ∀ document later files action, reached.service.document = some document →
    Never Replaces reached later → reached.NeedsDocument action →
    ({ reached.run later with files := files }.step action).value.answer =
      .ok (answerOn reached.service.config document action)
  /-- An engine that was taken goes on answering as its document does. -/
  engines : ∀ number document later request, reached.engines[number]? = some document →
    ((reached.run later).step (.askEngine number request)).value.answer =
      .ok (.access (document.check request).value)
  /-- The engine that is taken is that of the document which is then held. -/
  taken : ∀ document, (reached.step .takeEngine).value.answer = .ok (.document document) →
    (reached.after .takeEngine).service.document = some document ∧
      (reached.after .takeEngine).engines = reached.engines ++ [document]

/-- After any actions a service that was set up among some files holds the document that was
published last. -/
theorem run_holdsLatest (config : Config) (files : FileTree) (actions : List Action) :
    HoldsLatest (start config files) actions ((start config files).run actions) where
  latest := by
    intro document
    rw [document_run_iff]
    simp [start, ofConfig]
  empty := by
    rw [never_publishes_iff, Option.eq_none_iff_forall_ne_some]
    simp [document_run_iff, start, ofConfig]
  failed := by
    intro action fault unanswered
    rcases step_cases ((start config files).run actions) action with
      ⟨document, answer, _, _, answered⟩ | ⟨_, kept⟩
    · rw [answered] at unanswered
      cases unanswered
    · rw [kept]
  loaded := by
    intro action name document needs missing configured loads
    have answers : AnswersFrom _ _ document := .loaded missing configured loads
    obtain ⟨kept, answered⟩ := step_of_answersFrom needs answers
    exact ⟨by rw [kept], answered⟩
  unloaded := by
    intro action name error needs missing configured fails
    obtain ⟨kept, answered⟩ := step_of_lacks needs (.load missing configured fails)
    exact ⟨by rw [kept, missing], answered⟩
  held := by
    intro document later files action held kept needs
    exact answer_of_held held kept needs files
  engines := by
    intro number document later request taken
    exact step_askEngine_run taken later request
  taken := by
    intro document taken
    exact step_takeEngine taken

/-- A document that was loaded on first use stays when its file is gone, and with the engine
that was taken also when another one is published. -/
example :
    let files : FileTree := [(["authz"], .file (Text.Utf8.encode "[/]\n* = r\n"))]
    let request : Request := ⟨"repo", some "/a", .anonymous, .read⟩
    let session := (start ⟨some (.ofText "authz"), true, true⟩ files).run
      [.canAccess request, .changeFiles [], .reload, .takeEngine, .publish .empty]
    (session.step (.askEngine 0 request)).value.answer = .ok (.access true) ∧
      (session.step (.canAccess request)).value.answer = .ok (.access false) := by
  decide +kernel

end Session

end PathPolicy.Service
