import PathPolicy.Number.Numeral
import PathPolicy.Text.Printable

/-!
# Texts as they are shown

What is missing and what is true or false have words of their own.  A warning or an error
shows a text between quotes: single ones unless the text holds a single quote and no double
quote.  Backslashes, the quote in use and everything that is not printable are escaped.  A
control sequence asks a terminal for a colour or a movement, with an escape character and an
opening bracket, parameters, intermediate characters and one final character; where no
terminal listens it is left out.
-/

namespace PathPolicy.Text

/-! ## Words -/

/-- The word for what is missing. -/
def missingWord : String :=
  "None"

/-- The words for true and false. -/
def truthWord (truth : Bool) : String :=
  if truth then "True" else "False"

/-! ## Quoted words -/

/-- The quote that surrounds a text: the single one where that spares an escape
or costs none. -/
def quoteFor (characters : List Char) : Char :=
  if characters.contains '\'' && !characters.contains '"' then '"' else '\''

/-- An unprintable character is written by its code point, with as few digits
out of two, four and eight as hold it. -/
def escapeCode (c : Char) : List Char :=
  let code := c.toNat
  if code < 0x100 then '\\' :: 'x' :: LetterCase.lower.hexDigits 2 code
  else if code < 0x10000 then '\\' :: 'u' :: LetterCase.lower.hexDigits 4 code
  else '\\' :: 'U' :: LetterCase.lower.hexDigits 8 code

/-- One character of a quoted word. -/
def escapeQuoted (quote c : Char) : List Char :=
  if c = quote ∨ c = '\\' then ['\\', c]
  else if c = '\t' then ['\\', 't']
  else if c = '\n' then ['\\', 'n']
  else if c = '\r' then ['\\', 'r']
  else if isPrintable c then [c]
  else escapeCode c

/-- A byte of a quoted word stands for the character of its number. -/
def escapeByte (quote : Char) (byte : UInt8) : List Char :=
  let c := Char.ofNat byte.toNat
  if byte < 0x80 then escapeQuoted quote c else escapeCode c

/-- Bytes between quotes, escaped, behind a letter that tells them from a text. -/
def quotedBytes (bytes : List UInt8) : String :=
  let quote := quoteFor (bytes.map fun byte => Char.ofNat byte.toNat)
  String.ofList ('b' :: quote :: bytes.flatMap (escapeByte quote) ++ [quote])

/-- The text between quotes, escaped. -/
def quoted (text : String) : String :=
  let characters := text.toList
  let quote := quoteFor characters
  String.ofList (quote :: characters.flatMap (escapeQuoted quote) ++ [quote])

/-! ## Control sequences -/

/-- The character that opens a control sequence, in front of a bracket. -/
def escapeCharacter : Char := '\x1b'

/-- The parameters of a control sequence. -/
def isParameter (c : Char) : Bool :=
  '0' ≤ c && c ≤ '?'

/-- The characters between the parameters and the end of a control sequence. -/
def isIntermediate (c : Char) : Bool :=
  ' ' ≤ c && c ≤ '/'

/-- The characters that end a control sequence. -/
def isFinal (c : Char) : Bool :=
  '@' ≤ c && c ≤ '~'

/-- What follows the control sequence that begins at a place, if one does. -/
def behindSequence? : List Char → Option (List Char)
  | first :: second :: rest =>
      if first = escapeCharacter ∧ second = '[' then
        match (rest.dropWhile isParameter).dropWhile isIntermediate with
        | [] => none
        | c :: behind => if isFinal c then some behind else none
      else none
  | _ => none

/-- The characters without control sequences, at most so many of them. -/
def dropSequences : Nat → List Char → List Char
  | 0, characters => characters
  | _ + 1, [] => []
  | steps + 1, c :: rest =>
      match behindSequence? (c :: rest) with
      | some behind => dropSequences steps behind
      | none => c :: dropSequences steps rest

/-- The text without control sequences. -/
def withoutSequences (text : String) : String :=
  String.ofList (dropSequences text.length text.toList)

/-- No control sequence begins with another character than the escape character. -/
theorem behindSequence?_of_ne {c : Char} (different : c ≠ escapeCharacter) (rest : List Char) :
    behindSequence? (c :: rest) = none := by
  cases rest <;> simp [behindSequence?, different]

/-- Characters without an escape character hold no control sequence. -/
theorem dropSequences_of_not_mem {characters : List Char} (absent : escapeCharacter ∉ characters)
    (steps : Nat) : dropSequences steps characters = characters := by
  induction characters generalizing steps with
  | nil => cases steps <;> rfl
  | cons c rest inductionHypothesis =>
      rw [List.mem_cons, not_or] at absent
      cases steps with
      | zero => rfl
      | succ steps =>
          rw [dropSequences, behindSequence?_of_ne (Ne.symm absent.1)]
          simp [inductionHypothesis absent.2]

end PathPolicy.Text
