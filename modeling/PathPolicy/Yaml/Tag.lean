import PathPolicy.Text.Pieces
import PathPolicy.Yaml.Timestamp

/-!
# Tags

A tag says what a node stands for.  A scalar without quotes and without a tag may
stand for null, a truth value, a number, a date, or for itself: which of these it is
follows from its characters alone, and the same rule tells a writer when a text
needs quotes.
-/

namespace PathPolicy.Yaml

/-- What a node stands for.  Merging and the default value have a meaning of their own as
keys of a mapping; nothing is known about other tags. -/
inductive Tag
  | text
  | null
  | boolean
  | integer
  | real
  | timestamp
  | binary
  | merge
  | default
  | sequence
  | mapping
  | set
  | orderedMapping
  | pairs
  | unknown
  deriving DecidableEq, Repr

namespace Tag

/-- The full names of the tags begin with this. -/
def standardStart : String :=
  "tag:yaml.org,2002:"

/-- The tags by the ends of their names. -/
def names : List (String × Tag) :=
  [("str", .text), ("null", .null), ("bool", .boolean), ("int", .integer), ("float", .real),
    ("timestamp", .timestamp), ("binary", .binary), ("merge", .merge), ("value", .default),
    ("seq", .sequence), ("map", .mapping), ("set", .set), ("omap", .orderedMapping),
    ("pairs", .pairs)]

/-- The tag of a full name. -/
def ofName (name : String) : Tag :=
  ((names.find? fun entry => standardStart ++ entry.1 == name).map Prod.snd).getD .unknown

/-! ## Plain scalars -/

/-- The words for null. -/
def nullWords : List String :=
  ["", "~", "null", "Null", "NULL"]

/-- The words for true. -/
def trueWords : List String :=
  ["yes", "Yes", "YES", "true", "True", "TRUE", "on", "On", "ON"]

/-- The words for false. -/
def falseWords : List String :=
  ["no", "No", "NO", "false", "False", "FALSE", "off", "Off", "OFF"]

/-- The characters without the sign in front. -/
def unsigned (characters : List Char) : List Char :=
  (Number.takeSign characters).2

/-- A digit, or an underscore among digits. -/
def isDigitOrBar (c : Char) : Bool :=
  c.isDigit || c == '_'

/-- A digit that is not the first of a number may be followed by underscores. -/
def isDigits : List Char → Bool
  | [] => false
  | c :: rest => c.isDigit && rest.all isDigitOrBar

/-- A part of a number in base sixty behind the first: one digit, or two of which the
first is below six. -/
def isSixtieth : List Char → Bool
  | [ones] => ones.isDigit
  | [tens, ones] => '0' ≤ tens && tens ≤ '5' && ones.isDigit
  | _ => false

/-- A number with colons: the first part is any number, the others are sixtieths. -/
def isSexagesimal (characters : List Char) : Bool :=
  match Text.splitAt ':' characters with
  | first :: second :: rest => isDigits first && (second :: rest).all isSixtieth
  | _ => false

/-- An integer: binary, octal, decimal, hexadecimal or in base sixty. -/
def isInteger (characters : List Char) : Bool :=
  match unsigned characters with
  | [] => false
  | first :: rest =>
      if first = '0' then
        match rest with
        | [] => true
        | mark :: digits =>
            (mark == 'b' && !digits.isEmpty && digits.all fun c => c == '0' || c == '1' || c == '_') ||
            (mark == 'x' && !digits.isEmpty &&
              digits.all fun c => (Text.hexValue? c).isSome || c == '_') ||
            rest.all fun c => ('0' ≤ c && c ≤ '7') || c == '_'
      else isDigits (first :: rest) || isSexagesimal (first :: rest)

/-- An exponent with a sign, or none. -/
def isExponent : List Char → Bool
  | [] => true
  | [_] => false
  | mark :: sign :: digits =>
      (mark == 'e' || mark == 'E') && (sign == '-' || sign == '+') && !digits.isEmpty &&
        digits.all Char.isDigit

/-- The digits behind the point and the exponent. -/
def isFraction (characters : List Char) : Bool :=
  isExponent (characters.dropWhile isDigitOrBar)

/-- A number with a point, the part in front of which may have colons. -/
def isPointed (characters : List Char) : Bool :=
  match Text.breakFirst (· == '.') characters with
  | some (whole, fraction) =>
      (isDigits whole && isFraction fraction) ||
        (isSexagesimal whole && fraction.all isDigitOrBar)
  | none => false

/-- A number that begins with its point, and has no sign. -/
def isLeadingPoint : List Char → Bool
  | point :: first :: rest => point == '.' && first.isDigit && isFraction rest
  | _ => false

/-- A real number: with a point, infinite, or no number. -/
def isReal (characters : List Char) : Bool :=
  isPointed (unsigned characters) || isLeadingPoint characters ||
    [".inf", ".Inf", ".INF"].contains (String.ofList (unsigned characters)) ||
    [".nan", ".NaN", ".NAN"].contains (String.ofList characters)

/-- The tag of the characters of one line. -/
def ofLine (characters : List Char) : Tag :=
  let word := String.ofList characters
  if nullWords.contains word then .null
  else if trueWords.contains word || falseWords.contains word then .boolean
  else if isReal characters then .real
  else if isInteger characters then .integer
  else if (Timestamp.ofText? characters).any Timestamp.isPlain then .timestamp
  else if word = "<<" then .merge
  else if word = "=" then .default
  else if ["!", "&", "*"].contains word then .unknown
  else .text

/-- The tag of a plain scalar; a line feed at its end does not count, unless it is all
there is. -/
def ofPlain (characters : List Char) : Tag :=
  if characters = ['\n'] then .text else ofLine (Timestamp.withoutFinalBreak characters)

end Tag

end PathPolicy.Yaml
