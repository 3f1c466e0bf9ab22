import PathPolicy.Number.Numeral
import PathPolicy.Yaml.Source
import PathPolicy.Yaml.Tag

/-!
# Styles of a written text

A text is written plain when it reads back as itself, between single quotes when
its characters allow that, and otherwise between double quotes, where every
character that is not printable ASCII is escaped.  Lines that grow too long are
folded at spaces; what the fold adds is taken away again by a reader.
-/

namespace PathPolicy.Yaml

/-- The three styles of a text. -/
inductive Style
  | plain
  | single
  | double
  deriving DecidableEq, Repr

namespace Style

/-- The printable characters of ASCII. -/
def isPrintable (c : Char) : Bool :=
  ' ' ≤ c && c ≤ '~'

/-- The characters that make a text something else when they are in front of it. -/
def leadingIndicators : List Char :=
  ['#', ',', '[', ']', '\x7b', '\x7d', '&', '*', '!', '|', '>', '\'', '"', '%', '@', '\x60']

/-- Whether a text begins like something else: with an indicator, with one that needs
a space behind it, or like a separator of documents. -/
def beginsLikeIndicator : List Char → Bool
  | [] => false
  | c :: rest =>
      leadingIndicators.contains c ||
        ((c == '-' || c == '?' || c == ':') && endsField rest) ||
        ['-', '-', '-'].isPrefixOf (c :: rest) || ['.', '.', '.'].isPrefixOf (c :: rest)

/-- Whether a comment or a value would begin inside a text. -/
def holdsIndicator (afterSpace : Bool) : List Char → Bool
  | [] => false
  | c :: rest =>
      (c == '#' && afterSpace) || (c == ':' && endsField rest) || holdsIndicator (c == ' ') rest

/-- Whether a space is next to a line feed. -/
def holdsSpaceAtBreak : List Char → Bool
  | first :: second :: rest =>
      (first == ' ' && second == '\n') || (first == '\n' && second == ' ') ||
        holdsSpaceAtBreak (second :: rest)
  | _ => false

/-- Whether a text can be written plain. -/
def allowsPlain (characters : List Char) : Bool :=
  characters.all isPrintable && characters.head? != some ' ' &&
    characters.getLast? != some ' ' && !beginsLikeIndicator characters &&
    !holdsIndicator false characters && Tag.ofPlain characters == .text

/-- Whether a text can be written between single quotes. -/
def allowsSingle (characters : List Char) : Bool :=
  characters.all (fun c => c == '\n' || isPrintable c) && !holdsSpaceAtBreak characters

/-- The style of a text: the first that it allows. -/
def ofText (characters : List Char) : Style :=
  if allowsPlain characters then .plain
  else if allowsSingle characters then .single
  else .double

end Style

/-! ## Folding -/

/-- A written line may be this long before it is folded. -/
def lineWidth : Nat := 80

/-- Where a text is written: the column that its later lines begin at, and whether it
may have later lines. -/
structure Frame where
  margin : Nat
  folds : Bool
  deriving DecidableEq, Repr

namespace Frame

/-- A new line up to the margin. -/
def newLine (frame : Frame) : List Char :=
  '\n' :: List.replicate frame.margin ' '

/-- Writes characters from a column on.  A single space between two words becomes a new
line when it is behind the width of a line, and line feeds in a row are written as
one more, because the first of them folds. -/
def writeFolded (frame : Frame) (column : Nat) (previous : Option Char) :
    List Char → List Char
  | [] => []
  | c :: rest =>
      let next := rest.head?
      if c = '\n' then
        let first := if previous = some '\n' then [] else ['\n']
        let last := if next = some '\n' then [] else List.replicate frame.margin ' '
        first ++ '\n' :: last ++ frame.writeFolded frame.margin (some c) rest
      else if c = ' ' ∧ frame.folds ∧ lineWidth < column ∧ previous ≠ none ∧
          previous ≠ some ' ' ∧ next ≠ none ∧ next ≠ some ' ' then
        frame.newLine ++ frame.writeFolded frame.margin (some c) rest
      else c :: frame.writeFolded (column + 1) (some c) rest

/-- A text between single quotes; a quote inside is doubled. -/
def writeSingle (frame : Frame) (column : Nat) (characters : List Char) : List Char :=
  let doubled := characters.flatMap fun c => if c = '\'' then ['\'', '\''] else [c]
  '\'' :: frame.writeFolded (column + 1) none doubled ++ ['\'']

/-- The letters that stand for a character behind a backslash. -/
def escapeLetters : List (Char × Char) :=
  [('\x00', '0'), ('\x07', 'a'), ('\x08', 'b'), ('\t', 't'), ('\n', 'n'), ('\x0b', 'v'),
    ('\x0c', 'f'), ('\r', 'r'), ('\x1b', 'e'), ('"', '"'), ('\\', '\\'), ('\u0085', 'N'),
    ('\u00a0', '_'), ('\u2028', 'L'), ('\u2029', 'P')]

/-- The escape of a character between double quotes, if it needs one. -/
def escape? (c : Char) : Option (List Char) :=
  match escapeLetters.lookup c with
  | some letter => some ['\\', letter]
  | none =>
      let code := c.toNat
      if Style.isPrintable c then none
      else if code < 0x100 then some ('\\' :: 'x' :: Text.LetterCase.upper.hexDigits 2 code)
      else if code < 0x10000 then some ('\\' :: 'u' :: Text.LetterCase.upper.hexDigits 4 code)
      else some ('\\' :: 'U' :: Text.LetterCase.upper.hexDigits 8 code)

/-- Writes characters between double quotes from a column on.  Behind the width of a
line a backslash and a new line come in front of a space, and around an escape; a
space that begins a line is escaped itself. -/
def writeEscaped (frame : Frame) (column : Nat) (inside afterEscape : Bool) :
    List Char → List Char
  | [] => []
  | c :: rest =>
      let mayFold := frame.folds && inside && !rest.isEmpty
      match escape? c with
      | some written =>
          let behind := column + written.length
          if mayFold ∧ lineWidth + 1 < behind then
            let guard := if rest.head? = some ' ' then ['\\'] else []
            written ++ '\\' :: frame.newLine ++ guard ++
              frame.writeEscaped (frame.margin + guard.length) true true rest
          else written ++ frame.writeEscaped behind true true rest
      | none =>
          if mayFold ∧ (c = ' ' ∨ afterEscape) ∧ lineWidth < column then
            let guard := if c = ' ' then ['\\'] else []
            '\\' :: frame.newLine ++ guard ++
              c :: frame.writeEscaped (frame.margin + guard.length + 1) true false rest
          else c :: frame.writeEscaped (column + 1) true false rest

/-- A text between double quotes. -/
def writeDouble (frame : Frame) (column : Nat) (characters : List Char) : List Char :=
  '"' :: frame.writeEscaped (column + 1) false false characters ++ ['"']

/-- A text in its style, from a column on. -/
def write (frame : Frame) (column : Nat) (characters : List Char) : List Char :=
  match Style.ofText characters with
  | .plain => frame.writeFolded column none characters
  | .single => frame.writeSingle column characters
  | .double => frame.writeDouble column characters

end Frame

end PathPolicy.Yaml
