import PathPolicy.Proofs.Operation.Needs
import PathPolicy.Proofs.Service.Current
import PathPolicy.Proofs.Storage.Escapes

/-!
# Outcomes

What becomes of an operation, said without the way in which a service finds out, and what
the log tells of it.
-/

namespace PathPolicy

theorem Traced.bind_of_value {ε α β : Type} {first : Traced ε α} {value : α}
    (known : first.value = value) (next : α → Traced ε β) :
    first >>= next = first >>= fun _ => next value := by
  subst known
  rfl

/-- What the log tells of an operation after its outcome. -/
def Outcome.records (operation : Operation) : Outcome → List Record
  | .granted => [⟨.info, .service, "Access granted: " ++ Service.deed operation⟩]
  | .denied => [⟨.error, .service, "Access denied: " ++ Service.deed operation⟩]
  | .declined => []

/-- A record of a service that tells of access granted or denied. -/
def Record.tellsAccess (record : Record) : Bool :=
  record.origin == .service &&
    ("Access granted".toList.isPrefixOf record.message.toList ||
      "Access denied".toList.isPrefixOf record.message.toList)

/-- A loader serves a service that holds no document if it reports whatever is wrong with
the policy file, and does not speak for the service. -/
structure Loader.Serves (load : Loader) (service : Service) : Prop where
  reports : ∀ name ∈ service.config.accessFile, ∀ error, (load name).value = .error error →
    error.isReported = true
  keepsToItself : ∀ name ∈ service.config.accessFile, ∀ record ∈ (load name).events,
    record.origin ≠ .service

namespace Service

/-- An operation is no business of a service that has no policy at all, or, if it has no
name, of one that is closed to those. -/
inductive LeavesAlone (service : Service) (operation : Operation) : Prop
  | noPolicy (missing : service.document = none) (unset : service.config.accessFile = none)
  | nameless (anonymous : operation.identity = .anonymous)
      (closed : service.config.anonymous = false)

/-- What becomes of an operation. -/
inductive Settles (service : Service) (load : Loader) (operation : Operation) : Outcome → Prop
  | leftAlone (alone : service.LeavesAlone operation) : Settles service load operation .declined
  | granted {document : Document} (minded : ¬ service.LeavesAlone operation)
      (answers : service.AnswersFrom load document) (permitted : operation.IsPermittedBy document) :
      Settles service load operation .granted
  | denied (minded : ¬ service.LeavesAlone operation)
      (refused : ∀ document, service.AnswersFrom load document →
        ¬ operation.IsPermittedBy document)
      (final : service.config.authoritative = true) : Settles service load operation .denied
  | declined (minded : ¬ service.LeavesAlone operation)
      (refused : ∀ document, service.AnswersFrom load document →
        ¬ operation.IsPermittedBy document)
      (deferring : service.config.authoritative = false) :
      Settles service load operation .declined

variable {service : Service} {load : Loader} {operation : Operation}

theorem passesBy_eq_true_iff :
    service.passesBy operation = true ↔ service.LeavesAlone operation := by
  have nameless : operation.identity.isAnonymous = true ↔ operation.identity = .anonymous := by
    cases operation.identity <;> simp [Identity.isAnonymous]
  simp only [passesBy, Bool.or_eq_true, Bool.and_eq_true, Option.isNone_iff_eq_none, nameless,
    Bool.not_eq_true']
  constructor
  · rintro (⟨missing, unset⟩ | ⟨anonymous, closed⟩)
    · exact .noPolicy missing unset
    · exact .nameless anonymous closed
  · intro alone
    cases alone with
    | noPolicy missing unset => exact Or.inl ⟨missing, unset⟩
    | nameless anonymous closed => exact Or.inr ⟨anonymous, closed⟩

/-! ## On a document -/

theorem value_allowsAll {document : Document} {requests : List Request} :
    (allowsAll document requests).value = true ↔
      ∀ request ∈ requests, (document.check request).value = true := by
  induction requests with
  | nil => simp [allowsAll]
  | cons first rest inductionHypothesis =>
      rw [List.forall_mem_cons, ← inductionHypothesis]
      cases allowed : (document.check first).value <;> simp [allowsAll, allowed]

/-- On a document that permits it an operation is granted, on another one refused. -/
theorem value_decide (config : Config) (document : Document) (operation : Operation) :
    (operation.IsPermittedBy document ∧ (decide config document operation).value = .granted) ∨
      (¬ operation.IsPermittedBy document ∧
        (decide config document operation).value = (refuse config operation).value) := by
  rw [Operation.isPermittedBy_iff, decide]
  cases made : operation.requests with
  | error missing => simp
  | ok requests =>
      simp only [Except.ok.injEq, exists_eq_left', ← value_allowsAll]
      cases allowed : (allowsAll document requests).value <;> simp [allowed]

/-! ## With a document and without -/

theorem authorize_of_answersFrom {document : Document} (minded : ¬ service.LeavesAlone operation)
    (answers : service.AnswersFrom load document) :
    service.authorize load operation = (do
      let _ ← service.currentDocument load
      let outcome ← decide service.config document operation
      pure ⟨{ service with document := some document }, .ok outcome⟩) := by
  rw [authorize, if_neg (mt passesBy_eq_true_iff.1 minded),
    Traced.bind_of_value (value_currentDocument_of_answersFrom answers)]

/-- An operation that a service minds is refused where its policy file is reported. -/
theorem authorize_of_reported {error : LoadError} (minded : ¬ service.LeavesAlone operation)
    (lacks : service.Lacks load (.load error)) (reported : error.isReported = true) :
    service.authorize load operation = (do
      let _ ← service.currentDocument load
      Traced.note (.loadFailed error)
      let outcome ← refuse service.config operation
      pure ⟨service, .ok outcome⟩) := by
  rw [authorize, if_neg (mt passesBy_eq_true_iff.1 minded),
    Traced.bind_of_value (value_currentDocument_of_lacks lacks)]
  simp only [if_pos reported]

/-- An operation that a service minds has no answer where the fault of its policy file is not
reported. -/
theorem authorize_of_unreported {error : LoadError} (minded : ¬ service.LeavesAlone operation)
    (lacks : service.Lacks load (.load error)) (unreported : error.isReported = false) :
    service.authorize load operation = (do
      let _ ← service.currentDocument load
      pure ⟨service, .error (.load error)⟩) := by
  rw [authorize, if_neg (mt passesBy_eq_true_iff.1 minded),
    Traced.bind_of_value (value_currentDocument_of_lacks lacks)]
  simp only [unreported, Bool.false_eq_true, if_false]

theorem Lacks.exists_load {fault : Fault} (lacks : service.Lacks load fault)
    (minded : ¬ service.LeavesAlone operation) :
    ∃ name error, service.config.accessFile = some name ∧ (load name).value = .error error ∧
      fault = .load error := by
  cases lacks with
  | notConfigured missing unset => exact absurd (.noPolicy missing unset) minded
  | load missing configured fails => exact ⟨_, _, configured, fails, rfl⟩

/-! ## The log -/

/-- The records that tell of access among those of some events. -/
def accessRecords (events : List Event) : List Record :=
  (events.map Event.record).filter Record.tellsAccess

@[simp]
theorem accessRecords_append (first second : List Event) :
    accessRecords (first ++ second) = accessRecords first ++ accessRecords second := by
  simp [accessRecords]

theorem accessRecords_eq_nil {events : List Event}
    (silent : ∀ event ∈ events, event.record.origin ≠ .service) : accessRecords events = [] := by
  rw [accessRecords, List.filter_eq_nil_iff]
  intro record member
  obtain ⟨event, isEvent, rfl⟩ := List.mem_map.1 member
  simp [Record.tellsAccess, silent event isEvent]

theorem accessRecords_deciding (steps : List Step) :
    accessRecords (steps.map Event.deciding) = [] := by
  apply accessRecords_eq_nil
  intro event member
  obtain ⟨step, _, rfl⟩ := List.mem_map.1 member
  cases step <;> simp [Event.record, Step.record]

theorem accessRecords_published (sections : Nat) : accessRecords [.published sections] = [] := by
  simp [accessRecords, Event.record, Record.tellsAccess]

theorem accessRecords_loadFailed (error : LoadError) : accessRecords [.loadFailed error] = [] := by
  obtain ⟨rest, starts⟩ : ∃ rest, error.message = "Could not load policy from " ++ rest := by
    rw [LoadError.message]
    generalize error.fault.message error.name = reason
    by_cases noReason : reason = ""
    · rw [noReason, LoadError.report_empty, LoadError.report_none, String.append_assoc]
      exact ⟨_, rfl⟩
    · have told : LoadError.report error.name (some reason) =
          "Could not load policy from " ++ error.name.text ++ "." ++ " " ++ reason :=
        if_neg noReason
      refine ⟨error.name.text ++ "." ++ " " ++ reason, ?_⟩
      rw [told]
      simp only [String.append_assoc]
  simp [accessRecords, Event.record, starts, Record.tellsAccess]

theorem accessRecords_destinationMissing {missing : MissingDestination}
    (absent : operation.requests = .error missing) :
    accessRecords [.destinationMissing missing] = [] := by
  obtain ⟨twoPlaces, _, rfl⟩ := Operation.requests_eq_error_iff.1 absent
  rcases twoPlaces with move | copy
  · rw [move]
    rfl
  · rw [copy]
    rfl

theorem accessRecords_granted (operation : Operation) :
    accessRecords [.granted operation] = Outcome.granted.records operation := by
  simp [accessRecords, Event.record, Record.tellsAccess, Outcome.records]

theorem accessRecords_refuse (config : Config) (operation : Operation) :
    accessRecords (refuse config operation).events =
      (refuse config operation).value.records operation := by
  cases final : config.authoritative <;>
    simp [refuse, final, accessRecords, Event.record, Record.tellsAccess, Outcome.records]

theorem accessRecords_allowsAll (document : Document) (requests : List Request) :
    accessRecords (allowsAll document requests).events = [] := by
  induction requests with
  | nil => rfl
  | cons first rest inductionHypothesis =>
      cases allowed : (document.check first).value <;>
        simp [allowsAll, allowed, accessRecords_deciding, inductionHypothesis]

theorem accessRecords_decide (config : Config) (document : Document) (operation : Operation) :
    accessRecords (decide config document operation).events =
      (decide config document operation).value.records operation := by
  rw [decide]
  cases made : operation.requests with
  | error missing =>
      simp only [Traced.events_bind, Traced.events_note, Traced.value_bind, accessRecords_append,
        accessRecords_destinationMissing made, accessRecords_refuse, List.nil_append]
  | ok requests =>
      cases allowed : (allowsAll document requests).value <;>
        simp [allowed, accessRecords_allowsAll, accessRecords_refuse, accessRecords_granted]

/-- The log tells of no access while a document is loaded. -/
theorem accessRecords_currentDocument (serves : service.document = none → load.Serves service) :
    accessRecords (service.currentDocument load).events = [] := by
  cases holding : service.document with
  | some document =>
      rw [currentDocument_of_held holding]
      rfl
  | none =>
      rw [currentDocument_of_none holding, reload]
      cases configured : service.config.accessFile with
      | none => rfl
      | some name =>
          have silent : accessRecords ((load name).events.map Event.loading) = [] := by
            apply accessRecords_eq_nil
            intro event member
            obtain ⟨record, isRecord, rfl⟩ := List.mem_map.1 member
            exact (serves holding).keepsToItself name (by rw [configured]; rfl) record isRecord
          cases outcome : (load name).value <;>
            simp [outcome, silent, publish, accessRecords_published]

/-! ## What becomes of an operation -/

theorem settles_granted_iff :
    service.Settles load operation .granted ↔
      ¬ service.LeavesAlone operation ∧
        ∃ document, service.AnswersFrom load document ∧ operation.IsPermittedBy document := by
  constructor
  · intro settles
    cases settles with
    | granted minded answers permitted => exact ⟨minded, _, answers, permitted⟩
  · rintro ⟨minded, document, answers, permitted⟩
    exact .granted minded answers permitted

/-- Only one thing becomes of an operation. -/
theorem Settles.unique {outcome other : Outcome} (settles : service.Settles load operation outcome)
    (settlesOther : service.Settles load operation other) : outcome = other := by
  cases settles with
  | leftAlone alone =>
      cases settlesOther with
      | leftAlone => rfl
      | declined => rfl
      | granted minded => exact absurd alone minded
      | denied minded => exact absurd alone minded
  | granted minded answers permitted =>
      cases settlesOther with
      | leftAlone alone => exact absurd alone minded
      | granted => rfl
      | denied _ refused => exact absurd permitted (refused _ answers)
      | declined _ refused => exact absurd permitted (refused _ answers)
  | denied minded refused final =>
      cases settlesOther with
      | leftAlone alone => exact absurd alone minded
      | granted _ answers permitted => exact absurd permitted (refused _ answers)
      | denied => rfl
      | declined _ _ deferring =>
          rw [final] at deferring
          cases deferring
  | declined minded refused deferring =>
      cases settlesOther with
      | leftAlone => rfl
      | granted _ answers permitted => exact absurd permitted (refused _ answers)
      | denied _ _ final =>
          rw [deferring] at final
          cases final
      | declined => rfl

theorem settles_refuse (minded : ¬ service.LeavesAlone operation)
    (refused : ∀ document, service.AnswersFrom load document → ¬ operation.IsPermittedBy document) :
    service.Settles load operation (refuse service.config operation).value := by
  rw [value_refuse]
  cases final : service.config.authoritative with
  | true => exact .denied minded refused final
  | false => exact .declined minded refused final

/-- An operation is settled, and the log tells what became of it. -/
theorem authorize_spec (operation : Operation)
    (serves : service.document = none → load.Serves service) :
    ∃ outcome, (service.authorize load operation).value.answer = .ok outcome ∧
      service.Settles load operation outcome ∧
      accessRecords (service.authorize load operation).events = outcome.records operation := by
  by_cases alone : service.LeavesAlone operation
  · rw [authorize_of_passesBy (passesBy_eq_true_iff.2 alone)]
    exact ⟨.declined, rfl, .leftAlone alone, rfl⟩
  · have quiet := accessRecords_currentDocument serves
    rcases answersFrom_or_lacks service load with ⟨document, answers⟩ | ⟨fault, lacks⟩
    · rw [authorize_of_answersFrom alone answers]
      refine ⟨(decide service.config document operation).value, rfl, ?_, ?_⟩
      · rcases value_decide service.config document operation with ⟨permitted, granted⟩ |
          ⟨unpermitted, refused⟩
        · rw [granted]
          exact .granted alone answers permitted
        · rw [refused]
          apply settles_refuse alone
          intro other answersOther
          rw [answersOther.unique answers]
          exact unpermitted
      · simp [quiet, accessRecords_decide]
    · obtain ⟨name, error, configured, fails, rfl⟩ := lacks.exists_load alone
      have reported := (serves lacks.document_eq_none).reports name (by rw [configured]; rfl) error
        fails
      rw [authorize_of_reported alone lacks reported]
      refine ⟨(refuse service.config operation).value, rfl, ?_, ?_⟩
      · apply settles_refuse alone
        intro document answers
        exact absurd answers lacks.not_answersFrom
      · simp only [Traced.events_bind, Traced.events_note, Traced.events_pure,
          accessRecords_append, quiet, accessRecords_loadFailed, accessRecords_refuse,
          List.nil_append, List.append_nil]

/-- The service with the last word or without it. -/
def withFinality (service : Service) (authoritative : Bool) : Service :=
  { service with config := { service.config with authoritative := authoritative } }

/-- Whether an operation is granted has nothing to do with who has the last word. -/
theorem settles_granted_withFinality_iff (authoritative : Bool) :
    (service.withFinality authoritative).Settles load operation .granted ↔
      service.Settles load operation .granted := by
  have alone : (service.withFinality authoritative).LeavesAlone operation ↔
      service.LeavesAlone operation := by
    rw [← passesBy_eq_true_iff, ← passesBy_eq_true_iff]
    rfl
  have answers : ∀ document, (service.withFinality authoritative).AnswersFrom load document ↔
      service.AnswersFrom load document := by
    intro document
    constructor
    · intro answers
      cases answers with
      | held held => exact .held held
      | loaded missing configured loads => exact .loaded missing configured loads
    · intro answers
      cases answers with
      | held held => exact .held held
      | loaded missing configured loads => exact .loaded missing configured loads
  simp only [settles_granted_iff, alone, answers]

/-- What becomes of an operation, for every service, loader and operation.  It comes to one
outcome, with one record of access in the log, or none if it is declined.  Who has the last
word makes no difference to what is granted.  Nothing is loaded for an operation that is left
alone, nor by a service that holds a document. -/
theorem authorize_settles (service : Service) (load : Loader) (operation : Operation)
    (serves : service.document = none → load.Serves service) :
    ∃ outcome,
      (service.authorize load operation).value.answer = .ok outcome ∧
      (∀ other, service.Settles load operation other ↔ other = outcome) ∧
      accessRecords (service.authorize load operation).events = outcome.records operation ∧
      (∀ authoritative,
        ((service.withFinality authoritative).authorize load operation).value.answer =
          .ok .granted ↔ outcome = .granted) ∧
      (service.LeavesAlone operation →
        ∀ other, service.authorize other operation = pure ⟨service, .ok .declined⟩) ∧
      (service.document.isSome →
        ∀ other, service.authorize other operation = service.authorize load operation) := by
  obtain ⟨outcome, answered, settles, told⟩ := authorize_spec operation serves
  refine ⟨outcome, answered, ?_, told, ?_, ?_, ?_⟩
  · intro other
    constructor
    · intro settlesOther
      exact settlesOther.unique settles
    · rintro rfl
      exact settles
  · intro authoritative
    have servesFlipped : (service.withFinality authoritative).document = none →
        load.Serves (service.withFinality authoritative) := by
      intro missing
      obtain ⟨reports, keepsToItself⟩ := serves missing
      exact ⟨reports, keepsToItself⟩
    obtain ⟨flipped, answeredFlipped, settlesFlipped, _⟩ := authorize_spec operation servesFlipped
    rw [answeredFlipped]
    constructor
    · intro granted
      cases granted
      exact settles.unique (settles_granted_withFinality_iff authoritative |>.1 settlesFlipped)
    · rintro rfl
      rw [settlesFlipped.unique (settles_granted_withFinality_iff authoritative |>.2 settles)]
  · intro alone other
    exact authorize_of_passesBy (passesBy_eq_true_iff.2 alone) other
  · intro held other
    obtain ⟨document, holding⟩ := Option.isSome_iff_exists.1 held
    rw [authorize, authorize, currentDocument_of_held holding, currentDocument_of_held holding]

end Service

/-! ## Files -/

/-- No record of loading a file is one of a service. -/
theorem origin_ne_service_of_mem_loadContent {name : FileName}
    {content : Except FileFault (List UInt8)} {record : Record}
    (member : record ∈ (loadContent name content).events) : record.origin ≠ .service := by
  cases content with
  | error fault =>
      rw [loadContent_error] at member
      cases member
  | ok bytes =>
      simp only [loadContent, Traced.events_map] at member
      split at member
      · obtain ⟨skipped, _, rfl⟩ := List.mem_map.1 member
        simp [Snapshot.Skipped.record]
      · obtain ⟨event, _, rfl⟩ := List.mem_map.1 member
        cases event <;> simp [PolicyText.Event.record]

theorem FileTree.load_serves {tree : FileTree} {service : Service}
    (sound : ∀ name ∈ service.config.accessFile, ¬ Escapes name (tree.read name.text)) :
    Loader.Serves tree.load service := by
  constructor
  · intro name configured error fails
    by_contra unreported
    exact sound name configured
      (loadContent_unreported_iff.1 ⟨error, fails, by simpa using unreported⟩)
  · intro name _ record member
    exact origin_ne_service_of_mem_loadContent member

/-! ## A copy -/

namespace Service

/-- A policy text by which alice reads one directory and writes another. -/
def copyPolicy : List UInt8 :=
  Text.Utf8.encode "[/a]\nalice = r\n[/b]\nalice = w\n"

/-- The policy text in a file. -/
def copyFiles : FileTree :=
  [(["authz"], .file copyPolicy)]

/-- A service that enforces the file. -/
def copyService : Service :=
  .ofConfig ⟨some (.ofText "authz"), true, true⟩

/-- Alice copies from the one directory to the other. -/
def copyOperation : Operation :=
  ⟨"copy", ⟨"repo", some "a/"⟩, .named "alice", some ⟨"repo", some "/b/c"⟩⟩

theorem copyFiles_serve : Loader.Serves copyFiles.load copyService := by
  apply FileTree.load_serves
  intro name named escapes
  have isText : name.isSnapshot = false := by
    cases named
    decide
  have readable : copyFiles.read name.text = .ok copyPolicy := by
    cases named
    decide +kernel
  rw [readable] at escapes
  cases escapes with
  | stream isSnapshot => simp [isText] at isSnapshot
  | members isSnapshot => simp [isText] at isSnapshot
  | permissions isSnapshot => simp [isText] at isSnapshot

/-- The copy is granted on the policy that is loaded for it. -/
theorem copyOperation_granted :
    (copyService.document = none → Loader.Serves copyFiles.load copyService) ∧
      (copyService.authorize copyFiles.load copyOperation).value.answer = .ok .granted ∧
      accessRecords (copyService.authorize copyFiles.load copyOperation).events =
        [⟨.info, .service, "Access granted: 'alice' COPY repo:a/ repo:/b/c"⟩] := by
  have serves : copyService.document = none → Loader.Serves copyFiles.load copyService :=
    fun _ => copyFiles_serve
  have granted : (copyService.authorize copyFiles.load copyOperation).value.answer =
      .ok .granted := by decide +kernel
  obtain ⟨outcome, answered, _, told, _⟩ :=
    authorize_settles copyService copyFiles.load copyOperation serves
  have isGranted : outcome = .granted := Except.ok.inj (answered.symm.trans granted)
  refine ⟨serves, granted, ?_⟩
  rw [told, isGranted]
  decide +kernel

end Service

end PathPolicy
