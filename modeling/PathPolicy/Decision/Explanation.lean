import PathPolicy.Decision.Decide

/-!
# Explanations

An explanation says whether a request is allowed and why, and names the section
that decides and the section below the path that vetoes.
-/

namespace PathPolicy

/-- Why a request is allowed or not. -/
inductive Reason
  | pathUnknown
  | noRule
  | denied
  | deniedBelow
  | allowed
  deriving DecidableEq, Repr

/-- The reason in words. -/
def Reason.message : Reason → String
  | .pathUnknown => "Path unknown, left to path-specific checks"
  | .noRule => "No rule for this path or any parent"
  | .denied => "Explicitly denied"
  | .deniedBelow => "Read is denied somewhere below this path"
  | .allowed => "Explicitly allowed"

/-- Whether a request that ends for this reason is allowed. -/
def Reason.isAllowed : Reason → Bool
  | .pathUnknown => true
  | .allowed => true
  | _ => false

/-- A request, what becomes of it, and the sections on which that rests. -/
structure Explanation where
  request : Request
  reason : Reason
  deciding : Option String
  vetoing : Option String
  deriving DecidableEq, Repr

namespace Explanation

/-- Whether the request is allowed. -/
def isAllowed (explanation : Explanation) : Bool :=
  explanation.reason.isAllowed

/-- The line that names a section; there is none for a name that is missing or empty. -/
def sectionLine (label : String) : Option String → List String
  | none => []
  | some name => if name = "" then [] else ["  " ++ label ++ " section: [" ++ name ++ "]"]

/-- The explanation in full, several lines long. -/
def text (explanation : Explanation) : String :=
  let request := explanation.request
  let path := request.path.getD Text.missingWord
  String.intercalate "\n" <|
    [request.kind.name ++ " on '" ++ request.repository ++ ":" ++ path ++ "' (user: " ++
        request.identity.text ++ ")",
      "  Allowed: " ++ Text.truthWord explanation.isAllowed ++ " — " ++
        explanation.reason.message] ++
      sectionLine "Deciding" explanation.deciding ++ sectionLine "Vetoing" explanation.vetoing

end Explanation

/-- Why a document allows a request or does not. -/
def Document.explain (document : Document) (request : Request) : Traced Step Explanation :=
  match request.path with
  | none => pure ⟨request, .pathUnknown, none, none⟩
  | some path => do
      let access := request.kind.required
      match ← document.resolve request.repository (some path) request.identity access with
      | .pathUnknown => pure ⟨request, .noRule, none, none⟩
      | .silent => pure ⟨request, .noRule, none, none⟩
      | .decided sectionName false => pure ⟨request, .denied, some sectionName, none⟩
      | .decided sectionName true =>
          if request.kind = .readRecursive then do
            match ← document.denyingSection request.repository path request.identity access with
            | some vetoing => pure ⟨request, .deniedBelow, some sectionName, some vetoing⟩
            | none => pure ⟨request, .allowed, some sectionName, none⟩
          else pure ⟨request, .allowed, some sectionName, none⟩

end PathPolicy
