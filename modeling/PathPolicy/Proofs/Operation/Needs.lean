import PathPolicy.Decision.Decide
import PathPolicy.Operation

/-!
# What an operation needs

Which requests an operation stands for, method by method, and when a document permits it:
when every one of them is allowed, and a method with two places was given both.
-/

namespace PathPolicy.Operation

/-- What a method in upper case needs at its source.  Four methods only look, a copy reads
all that is below, and any other method, known or not, writes. -/
inductive NeedsKind : String → AccessKind → Prop
  | options : NeedsKind "OPTIONS" .read
  | get : NeedsKind "GET" .read
  | propfind : NeedsKind "PROPFIND" .read
  | report : NeedsKind "REPORT" .read
  | copy : NeedsKind "COPY" .readRecursive
  | other {verb : String} (noReader : verb ∉ ["OPTIONS", "GET", "PROPFIND", "REPORT"])
      (noCopy : verb ≠ "COPY") : NeedsKind verb .write

/-- A move and a copy go from one place to another. -/
def HasTwoPlaces (operation : Operation) : Prop :=
  operation.verb = "MOVE" ∨ operation.verb = "COPY"

/-- A request that must be allowed.  The path of a merge counts as unknown. -/
inductive Needs (operation : Operation) : Request → Prop
  | source {kind : AccessKind} (needsKind : NeedsKind operation.verb kind)
      (noMerge : operation.verb ≠ "MERGE") :
      Needs operation
        ⟨operation.source.repository, operation.source.normalPath, operation.identity, kind⟩
  | merge (isMerge : operation.verb = "MERGE") :
      Needs operation ⟨operation.source.repository, none, operation.identity, .write⟩
  | destination {location : Location} (twoPlaces : operation.HasTwoPlaces)
      (given : operation.destination = some location) :
      Needs operation ⟨location.repository, location.normalPath, operation.identity, .write⟩

/-- A document permits an operation when a destination that it needs is given and all its
requests are allowed. -/
structure IsPermittedBy (operation : Operation) (document : Document) : Prop where
  complete : operation.HasTwoPlaces → operation.destination.isSome
  allowed : ∀ request, operation.Needs request → (document.check request).value = true

variable {operation : Operation}

/-- Methods are told apart as listed. -/
theorem kindOf_eq_iff {verb : String} {kind : AccessKind} :
    kindOf verb = kind ↔ NeedsKind verb kind := by
  constructor
  · rintro rfl
    rw [kindOf]
    split
    · rename_i reads
      simp only [readingMethods, List.mem_cons, List.not_mem_nil, or_false] at reads
      rcases reads with rfl | rfl | rfl | rfl
      · exact .options
      · exact .get
      · exact .propfind
      · exact .report
    · rename_i noReader
      split
      · rename_i copies
        rw [List.mem_singleton.1 copies]
        exact .copy
      · rename_i noCopy
        exact .other noReader (by simpa [recursiveMethods] using noCopy)
  · intro needsKind
    cases needsKind with
    | other noReader noCopy =>
        have noReading : verb ∉ readingMethods := noReader
        have noRecursion : verb ∉ recursiveMethods := by simpa [recursiveMethods] using noCopy
        rw [kindOf, if_neg noReading, if_neg noRecursion]
    | _ => rfl

theorem mem_twoPathMethods_iff : operation.verb ∈ twoPathMethods ↔ operation.HasTwoPlaces := by
  simp [twoPathMethods, HasTwoPlaces]

/-- What an operation needs at its source is what it asks for there. -/
theorem needs_sourceRequest : operation.Needs operation.sourceRequest := by
  have needsKind : NeedsKind operation.verb operation.kind := kindOf_eq_iff.1 rfl
  by_cases isMerge : operation.verb = "MERGE"
  · have pathless : operation.sourcePath = none := by simp [sourcePath, pathlessMethods, isMerge]
    have writes : operation.kind = .write := by
      rw [kind, isMerge]
      rfl
    rw [sourceRequest, pathless, writes]
    exact .merge isMerge
  · have named : operation.sourcePath = operation.source.normalPath := by
      simp [sourcePath, pathlessMethods, isMerge]
    rw [sourceRequest, named]
    exact .source needsKind isMerge

/-- An operation needs what it asks for at its source and, with two places, at its
destination. -/
theorem needs_iff {request : Request} :
    operation.Needs request ↔
      request = operation.sourceRequest ∨
        operation.HasTwoPlaces ∧ ∃ location, operation.destination = some location ∧
          request = operation.destinationRequest location := by
  constructor
  · intro needs
    cases needs with
    | source needsKind noMerge =>
        left
        simp [sourceRequest, kind, kindOf_eq_iff.2 needsKind, sourcePath, pathlessMethods, noMerge]
    | merge isMerge =>
        left
        simp [sourceRequest, kind, sourcePath, pathlessMethods, isMerge, kindOf, readingMethods,
          recursiveMethods]
    | destination twoPlaces given => exact Or.inr ⟨twoPlaces, _, given, rfl⟩
  · rintro (rfl | ⟨twoPlaces, location, given, rfl⟩)
    · exact needs_sourceRequest
    · exact .destination twoPlaces given

/-- Only a destination can be missing. -/
theorem requests_eq_error_iff {missing : MissingDestination} :
    operation.requests = .error missing ↔
      operation.HasTwoPlaces ∧ operation.destination = none ∧ missing = ⟨operation.verb⟩ := by
  rw [requests]
  by_cases twoPlaces : operation.HasTwoPlaces
  · rw [if_pos (mem_twoPathMethods_iff.2 twoPlaces)]
    cases operation.destination with
    | none => simp [twoPlaces, eq_comm]
    | some location => simp
  · rw [if_neg (mt mem_twoPathMethods_iff.1 twoPlaces)]
    simp [twoPlaces]

/-- The requests of an operation are those that it needs. -/
theorem mem_requests_iff {requests : List Request} (made : operation.requests = .ok requests)
    {request : Request} : request ∈ requests ↔ operation.Needs request := by
  rw [Operation.requests] at made
  rw [needs_iff]
  by_cases twoPlaces : operation.HasTwoPlaces
  · rw [if_pos (mem_twoPathMethods_iff.2 twoPlaces)] at made
    cases given : operation.destination with
    | none =>
        rw [given] at made
        cases made
    | some location =>
        rw [given] at made
        cases made
        simp [twoPlaces]
  · rw [if_neg (mt mem_twoPathMethods_iff.1 twoPlaces)] at made
    cases made
    simp [twoPlaces]

/-- An operation is permitted when it has requests and all of them are allowed. -/
theorem isPermittedBy_iff {document : Document} :
    operation.IsPermittedBy document ↔
      ∃ requests, operation.requests = .ok requests ∧
        ∀ request ∈ requests, (document.check request).value = true := by
  constructor
  · intro permitted
    cases made : operation.requests with
    | error missing =>
        obtain ⟨twoPlaces, absent, _⟩ := requests_eq_error_iff.1 made
        have given := permitted.complete twoPlaces
        rw [absent] at given
        cases given
    | ok requests =>
        refine ⟨requests, rfl, ?_⟩
        intro request member
        exact permitted.allowed request ((mem_requests_iff made).1 member)
  · rintro ⟨requests, made, allowed⟩
    constructor
    · intro twoPlaces
      rw [Option.isSome_iff_ne_none]
      intro absent
      have missing := requests_eq_error_iff.2 ⟨twoPlaces, absent, rfl⟩
      rw [made] at missing
      cases missing
    · intro request needs
      exact allowed request ((mem_requests_iff made).2 needs)

end PathPolicy.Operation
