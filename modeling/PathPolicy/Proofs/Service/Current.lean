import PathPolicy.Service

/-!
# The current document

A service answers from the document that it holds, or else from the one in its policy file.
Where there is neither it lacks a document, for one of two reasons.
-/

namespace PathPolicy.Service

/-- The document that a service answers from: the one that it holds, or, while it holds none,
the one in its policy file. -/
inductive AnswersFrom (service : Service) (load : Loader) : Document → Prop
  | held {document : Document} (held : service.document = some document) :
      AnswersFrom service load document
  | loaded {name : FileName} {document : Document} (missing : service.document = none)
      (configured : service.config.accessFile = some name)
      (loads : (load name).value = .ok document) : AnswersFrom service load document

/-- Why a service that holds no document has none to answer from. -/
inductive Lacks (service : Service) (load : Loader) : Fault → Prop
  | notConfigured (missing : service.document = none)
      (unset : service.config.accessFile = none) : Lacks service load .notConfigured
  | load {name : FileName} {error : LoadError} (missing : service.document = none)
      (configured : service.config.accessFile = some name)
      (fails : (load name).value = .error error) : Lacks service load (.load error)

variable {service : Service} {load : Loader} {document : Document} {fault : Fault}

/-- A service has a document to answer from or lacks one. -/
theorem answersFrom_or_lacks (service : Service) (load : Loader) :
    (∃ document, service.AnswersFrom load document) ∨ ∃ fault, service.Lacks load fault := by
  cases holding : service.document with
  | some document => exact Or.inl ⟨document, .held holding⟩
  | none =>
      cases configured : service.config.accessFile with
      | none => exact Or.inr ⟨_, .notConfigured holding configured⟩
      | some name =>
          cases outcome : (load name).value with
          | ok document => exact Or.inl ⟨document, .loaded holding configured outcome⟩
          | error error => exact Or.inr ⟨_, .load holding configured outcome⟩

/-- A service answers from one document only. -/
theorem AnswersFrom.unique {other : Document} (answers : service.AnswersFrom load document)
    (answersOther : service.AnswersFrom load other) : document = other := by
  cases answers with
  | held holding =>
      cases answersOther with
      | held holdingOther => exact Option.some.inj (holding.symm.trans holdingOther)
      | loaded missing =>
          rw [holding] at missing
          cases missing
  | loaded missing configured loads =>
      cases answersOther with
      | held holding =>
          rw [holding] at missing
          cases missing
      | loaded _ configuredOther loadsOther =>
          cases configured.symm.trans configuredOther
          exact Except.ok.inj (loads.symm.trans loadsOther)

theorem Lacks.document_eq_none (lacks : service.Lacks load fault) : service.document = none := by
  cases lacks <;> assumption

/-- A service that lacks a document answers from none. -/
theorem Lacks.not_answersFrom (lacks : service.Lacks load fault) :
    ¬ service.AnswersFrom load document := by
  intro answers
  cases answers with
  | held holding =>
      rw [lacks.document_eq_none] at holding
      cases holding
  | loaded _ configured loads =>
      cases lacks with
      | notConfigured _ unset =>
          rw [configured] at unset
          cases unset
      | load _ configuredOther fails =>
          cases configured.symm.trans configuredOther
          rw [loads] at fails
          cases fails

/-- Asked for its document a service gives the one that it answers from, and holds it from
then on. -/
theorem value_currentDocument_of_answersFrom (answers : service.AnswersFrom load document) :
    (service.currentDocument load).value =
      ⟨{ service with document := some document }, .ok document⟩ := by
  cases answers with
  | held holding =>
      rw [currentDocument_of_held holding, ← holding]
      rfl
  | loaded missing configured loads =>
      rw [currentDocument_of_none missing, reload, configured]
      simp only [Traced.value_bind, Traced.value_mapEvents, loads]
      rfl

/-- A service that lacks a document says so and stays as it is. -/
theorem value_currentDocument_of_lacks (lacks : service.Lacks load fault) :
    (service.currentDocument load).value = ⟨service, .error fault⟩ := by
  rw [currentDocument_of_none lacks.document_eq_none]
  cases lacks with
  | notConfigured _ unset =>
      rw [reload_of_not_configured unset]
      rfl
  | load _ configured fails =>
      rw [reload, configured]
      simp only [Traced.value_bind, Traced.value_mapEvents, fails]
      rfl

end PathPolicy.Service
