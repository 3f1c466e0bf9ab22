import PathPolicy.Decision.Explanation
import PathPolicy.Proofs.Path.Slashes
import PathPolicy.Proofs.Service.Outcomes

/-!
# Paths spelled otherwise

Everything that a policy says about a path it says about its segments, so slashes that say nothing
make no difference: not to a decision, not to its explanation, and not to what becomes of an
operation at either of its places.
-/

namespace PathPolicy

variable {first second : String}

namespace Operation

/-- One operation is another one with a path spelled otherwise, at its source or at its
destination. -/
inductive Respells (first second : String) : Operation → Operation → Prop
  | source (method repository : String) (identity : Identity) (destination : Option Location) :
      Respells first second ⟨method, ⟨repository, some first⟩, identity, destination⟩
        ⟨method, ⟨repository, some second⟩, identity, destination⟩
  | destination (method : String) (source : Location) (identity : Identity)
      (repository : String) :
      Respells first second ⟨method, source, identity, some ⟨repository, some first⟩⟩
        ⟨method, source, identity, some ⟨repository, some second⟩⟩

variable {operation respelled : Operation}

theorem Respells.identity_eq (respells : Respells first second operation respelled) :
    operation.identity = respelled.identity := by
  cases respells <;> rfl

/-- The requests of an operation have their paths in the normal spelling. -/
theorem Respells.requests_eq (same : Path.ofText first = Path.ofText second)
    (respells : Respells first second operation respelled) :
    operation.requests = respelled.requests := by
  have normal (repository : String) :
      (⟨repository, some first⟩ : Location).normalPath =
        (⟨repository, some second⟩ : Location).normalPath := by
    rw [Location.normalPath, Location.normalPath, Option.map_some, Option.map_some, same]
  cases respells with
  | source method repository identity destination =>
      simp only [requests, sourceRequest, sourcePath, normal repository]
      rfl
  | destination method source identity repository =>
      simp only [requests, destinationRequest, normal repository]
      rfl

end Operation

namespace Document

theorem denyingSection_respelled (document : Document)
    (same : Path.ofText first = Path.ofText second) (repository : String) (identity : Identity)
    (access : Access) :
    document.denyingSection repository first identity access =
      document.denyingSection repository second identity access := by
  simp only [denyingSection, same]

theorem decideTraced_respelled (document : Document) (same : Path.ofText first = Path.ofText second)
    (repository : String) (identity : Identity) (kind : AccessKind) :
    document.decideTraced repository (some first) identity kind =
      document.decideTraced repository (some second) identity kind := by
  simp only [decideTraced, resolve, anyBelowDenies, same,
    document.denyingSection_respelled same]

/-- The explanation of a path is that of its segments, but for the request that it repeats. -/
theorem value_explain_respelled (document : Document)
    (same : Path.ofText first = Path.ofText second) (repository : String) (identity : Identity)
    (kind : AccessKind) :
    (document.explain ⟨repository, some second, identity, kind⟩).value =
      { (document.explain ⟨repository, some first, identity, kind⟩).value with
        request := ⟨repository, some second, identity, kind⟩ } := by
  simp only [explain, resolve, same, document.denyingSection_respelled same, Traced.value_bind]
  cases (document.resolvePath repository (Path.ofText second) identity kind.required).value with
  | silent => rfl
  | pathUnknown => rfl
  | decided sectionName allowed =>
      cases allowed with
      | false => rfl
      | true =>
          by_cases recursive : kind = .readRecursive
          · simp only [if_pos recursive, Traced.value_bind]
            cases (document.denyingSection repository second identity kind.required).value <;> rfl
          · simp only [if_neg recursive]
            rfl

end Document

namespace Service

variable {operation respelled : Operation}

theorem value_decide_congr (config : Config) (document : Document)
    (sameRequests : operation.requests = respelled.requests) :
    (decide config document operation).value = (decide config document respelled).value := by
  rw [decide, decide, sameRequests]
  cases respelled.requests with
  | error missing => simp
  | ok requests => cases allowed : (allowsAll document requests).value <;> simp [allowed]

/-- What becomes of an operation is a matter of who asks and of its requests. -/
theorem value_authorize_congr (service : Service) (load : Loader)
    (sameIdentity : operation.identity = respelled.identity)
    (sameRequests : operation.requests = respelled.requests) :
    (service.authorize load operation).value = (service.authorize load respelled).value := by
  rw [authorize, authorize, passesBy, passesBy, sameIdentity]
  split
  · rfl
  · rw [Traced.value_bind, Traced.value_bind]
    cases (service.currentDocument load).value.answer with
    | ok document =>
        simp only [Traced.value_bind, value_decide_congr service.config document sameRequests]
    | error fault =>
        cases fault with
        | notConfigured => rfl
        | load error => cases reported : error.isReported <;> simp [reported]

/-- Two texts have the same segments exactly when slashes that say nothing lead from the one to
the other.  Then every document decides on both alike, step by step, and explains both by the same
reason and the same sections, and nothing else becomes of an operation when one takes the place of
the other, whatever service is asked. -/
theorem respelled_path_answered_alike (first second : String) :
    (Path.segmentsOf first = Path.segmentsOf second ↔
      Relation.EqvGen Path.SlashAdded first.toList second.toList) ∧
    (Path.segmentsOf first = Path.segmentsOf second →
      (∀ (document : Document) (repository : String) (identity : Identity) (kind : AccessKind),
        document.decideTraced repository (some first) identity kind =
          document.decideTraced repository (some second) identity kind) ∧
      (∀ (document : Document) (repository : String) (identity : Identity) (kind : AccessKind),
        let explanation := (document.explain ⟨repository, some first, identity, kind⟩).value
        let other := (document.explain ⟨repository, some second, identity, kind⟩).value
        explanation.isAllowed = other.isAllowed ∧ explanation.deciding = other.deciding ∧
          explanation.vetoing = other.vetoing ∧ explanation.reason = other.reason) ∧
      ∀ (service : Service) (load : Loader) (operation respelled : Operation),
        operation.Respells first second respelled →
          (service.authorize load operation).value =
            (service.authorize load respelled).value) := by
  refine ⟨Path.segmentsOf_eq_iff_eqvGen, ?_⟩
  intro sameSegments
  have same := Path.ofText_eq_of_segmentsOf_eq sameSegments
  refine ⟨?_, ?_, ?_⟩
  · intro document repository identity kind
    exact document.decideTraced_respelled same repository identity kind
  · intro document repository identity kind
    simp only [document.value_explain_respelled same, Explanation.isAllowed, and_self]
  · intro service load operation respelled respells
    exact service.value_authorize_congr load respells.identity_eq (respells.requests_eq same)

/-- A copy from a directory that is spelled with two slashes in front is granted as well. -/
theorem copyOperation_respelled_granted :
    Path.segmentsOf "a/" = Path.segmentsOf "//a" ∧
      (copyService.authorize copyFiles.load
          { copyOperation with source := ⟨"repo", some "//a"⟩ }).value.answer = .ok .granted := by
  have sameSegments : Path.segmentsOf "a/" = Path.segmentsOf "//a" := by decide +kernel
  have respells : copyOperation.Respells "a/" "//a"
      { copyOperation with source := ⟨"repo", some "//a"⟩ } := .source ..
  have granted : (copyService.authorize copyFiles.load copyOperation).value.answer =
      .ok .granted := by decide +kernel
  obtain ⟨_, _, alike⟩ := (respelled_path_answered_alike "a/" "//a").2 sameSegments
  refine ⟨sameSegments, ?_⟩
  rw [← alike copyService copyFiles.load _ _ respells]
  exact granted

end Service

end PathPolicy
