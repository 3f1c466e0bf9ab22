import PathPolicy.Draft
import PathPolicy.Storage.FileName

/-!
# Settings

The settings of a service come from keywords and from the environment; a keyword
beats the environment, and what neither gives has a default.  Names are compared
without regard to case, and those in the environment have a prefix of their own.
-/

namespace PathPolicy

/-- Which policy file to enforce, whether refusals are final, and whether requests
without a name are looked at. -/
structure Config where
  accessFile : Option FileName
  authoritative : Bool
  anonymous : Bool
  deriving DecidableEq, Repr

namespace Config

/-- A name with its ASCII letters in lower case. -/
def foldCase (name : String) : String :=
  String.ofList (name.toList.map Char.toLower)

/-- The name of the policy file setting. -/
def accessFileName : String :=
  "access_file"

/-- The name of the setting that makes refusals final. -/
def authoritativeName : String :=
  "authoritative"

/-- The name of the setting that lets anonymous requests in. -/
def anonymousName : String :=
  "anonymous"

/-- The settings in the order in which their faults are listed. -/
def names : List String :=
  [accessFileName, authoritativeName, anonymousName]

/-- What stands in front of the name of a setting in the environment. -/
def environmentPrefix : String :=
  "path_authz_"

/-- The words that stand for true. -/
def trueWords : List String :=
  ["1", "true", "t", "yes", "y", "on"]

/-- The words that stand for false. -/
def falseWords : List String :=
  ["0", "false", "f", "no", "n", "off"]

/-- Reads a word, in any case, as a truth value. -/
def readWord (word : String) : Except FieldProblem Bool :=
  if foldCase word ∈ trueWords then .ok true
  else if foldCase word ∈ falseWords then .ok false
  else .error .unreadableBoolean

/-- Reads a number as a truth value: only one and zero are. -/
def readNumber (number : Int) : Except FieldProblem Bool :=
  if number = 1 then .ok true
  else if number = 0 then .ok false
  else .error .unreadableBoolean

/-- Integers beyond 64 bits are not looked at as truth values. -/
def isSmall (number : Int) : Bool :=
  decide (-Int.pow 2 63 ≤ number ∧ number < Int.pow 2 63)

/-- A real number that equals the least integer of 64 bits is beyond them too. -/
def isSmallReal (number : Int) : Bool :=
  decide (number.natAbs < Nat.pow 2 63)

/-- Reads data as a truth value. -/
def readBoolean : Value → Except FieldProblem Bool
  | .scalar (.boolean truth) => .ok truth
  | .scalar (.text word) => readWord word
  | .scalar (.integer number) =>
      if isSmall number then readNumber number else .error .notBoolean
  | .scalar (.real number) =>
      match number.integer?.filter isSmallReal with
      | some whole => readNumber whole
      | none => .error .notBoolean
  | _ => .error .notBoolean

/-- Reads data as a file name; null stands for no file. -/
def readFileName : Value → Except FieldProblem (Option FileName)
  | .scalar .null => .ok none
  | .scalar (.text name) => .ok (some (.ofText name))
  | _ => .error .notPath

/-- The data given for a setting.  Of the keywords that differ in case alone the first
counts, of the names in the environment the last. -/
def given? (keywords : List (String × Value)) (environment : List (String × String))
    (name : String) : Option Value :=
  let keyword? := keywords.find? fun (given, _) => foldCase given == name
  let exported? := environment.reverse.find? fun (given, _) =>
    foldCase given == environmentPrefix ++ name
  match keyword? with
  | some (_, value) => some value
  | none => exported?.map fun (_, word) => .ofText word

/-- Reads what is given for a setting, or takes the default. -/
def readOr {α : Type} (default : α) (read : Value → Except FieldProblem α) :
    Option Value → Except FieldProblem α
  | none => .ok default
  | some value => read value

/-- The faults of keywords that name no setting. -/
def needless (keywords : List (String × Value)) : List FieldFault :=
  keywords.filterMap fun (given, _) =>
    if foldCase given ∈ names then none else some ⟨given, .notPermitted⟩

/-- The settings that keywords and an environment give. -/
def ofSources (keywords : List (String × Value)) (environment : List (String × String)) :
    Except Invalid Config :=
  let given := given? keywords environment
  let accessFile := readOr none readFileName (given accessFileName)
  let authoritative := readOr true readBoolean (given authoritativeName)
  let anonymous := readOr true readBoolean (given anonymousName)
  match accessFile, authoritative, anonymous, needless keywords with
  | .ok accessFile, .ok authoritative, .ok anonymous, [] =>
      .ok ⟨accessFile, authoritative, anonymous⟩
  | _, _, _, extra =>
      .error <| .fields .settings <|
        [faultOf accessFileName accessFile, faultOf authoritativeName authoritative,
          faultOf anonymousName anonymous].filterMap id ++ extra

end Config

end PathPolicy
