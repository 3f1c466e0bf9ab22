import PathPolicy.Path
import PathPolicy.Request
import PathPolicy.Text.UpperCase

/-!
# Operations

An operation is a method on a location, sometimes with a second location as its
destination.  It is answered by one or two requests.  Methods that discover need
to read, a copy reads everything below its source, and every other method, known
or not, writes.  A move and a copy also write their destination.
-/

namespace PathPolicy

/-- A place in a repository; its path may be unknown. -/
structure Location where
  repository : String
  path : Option String
  deriving DecidableEq, Repr

namespace Location

/-- The location in words, its path as it was spelled. -/
def text (location : Location) : String :=
  location.repository ++ ":" ++ location.path.getD "(unknown)"

/-- The path of a location in its normal spelling. -/
def normalPath (location : Location) : Option String :=
  location.path.map fun path => (Path.ofText path).text

end Location

/-- A method on a source, asked for by an identity. -/
structure Operation where
  method : String
  source : Location
  identity : Identity
  destination : Option Location
  deriving DecidableEq, Repr

/-- An operation with two locations was asked for with one. -/
structure MissingDestination where
  method : String
  deriving DecidableEq, Repr

/-- The fault in words. -/
def MissingDestination.message (missing : MissingDestination) : String :=
  missing.method ++ " request has no destination"

namespace Operation

/-- The methods that only look. -/
def readingMethods : List String :=
  ["OPTIONS", "GET", "PROPFIND", "REPORT"]

/-- The methods that read everything below their source. -/
def recursiveMethods : List String :=
  ["COPY"]

/-- The methods that have a destination. -/
def twoPathMethods : List String :=
  ["MOVE", "COPY"]

/-- The methods whose path says nothing about what they change. -/
def pathlessMethods : List String :=
  ["MERGE"]

/-- The kind of access that a method in upper case needs. -/
def kindOf (verb : String) : AccessKind :=
  if verb ∈ readingMethods then .read
  else if verb ∈ recursiveMethods then .readRecursive
  else .write

/-- The method in upper case. -/
def verb (operation : Operation) : String :=
  Text.upperCase operation.method

/-- The kind of access that an operation needs to its source. -/
def kind (operation : Operation) : AccessKind :=
  kindOf operation.verb

/-- The path of the source, unless it is unknown or says nothing. -/
def sourcePath (operation : Operation) : Option String :=
  if operation.verb ∈ pathlessMethods then none else operation.source.normalPath

/-- The request for the source. -/
def sourceRequest (operation : Operation) : Request :=
  ⟨operation.source.repository, operation.sourcePath, operation.identity, operation.kind⟩

/-- The request for a destination. -/
def destinationRequest (operation : Operation) (destination : Location) : Request :=
  ⟨destination.repository, destination.normalPath, operation.identity, .write⟩

/-- The requests that must all be allowed, the one for the source first. -/
def requests (operation : Operation) : Except MissingDestination (List Request) :=
  if operation.verb ∈ twoPathMethods then
    match operation.destination with
    | none => .error ⟨operation.verb⟩
    | some destination =>
        .ok [operation.sourceRequest, operation.destinationRequest destination]
  else .ok [operation.sourceRequest]

/-- The operation in words: its method and its locations. -/
def describe (operation : Operation) : String :=
  String.intercalate " " <|
    [operation.verb, operation.source.text] ++ (operation.destination.map Location.text).toList

end Operation

end PathPolicy
