import PathPolicy.Number.Numeral
import PathPolicy.Yaml.Source

/-!
# Scalars and names in a stream

Scalars are written plain, between quotes or as indented blocks; anchors, tags
and directives have names.  Each reader takes the characters from a place on and
gives back what it read and where it stopped.  Inside plain and quoted scalars a
line break folds into a space, and further breaks directly behind it are kept.
-/

namespace PathPolicy.Yaml

/-- What was read, and the characters that follow it. -/
structure Lexeme where
  text : List Char
  rest : List Char
  deriving DecidableEq, Repr

/-- What a break and the breaks behind it leave in a folded scalar. -/
def foldBreaks (first : Char) (later : List Char) : List Char :=
  if first ≠ '\n' then first :: later else if later.isEmpty then [' '] else later

/-! ## Plain scalars -/

/-- Whether a plain scalar stops before a character. -/
def plainStops (inFlow : Bool) (c : Char) (rest : List Char) : Bool :=
  isGap c || isBreak c ||
    (c == ':' && (endsWord rest || (inFlow && rest.head?.any isFlowIndicator))) ||
    (inFlow && (isFlowIndicator c || c == '?'))

/-- The characters up to where a plain scalar stops. -/
def plainRun (inFlow : Bool) : List Char → Lexeme
  | [] => ⟨[], []⟩
  | c :: rest =>
      if plainStops inFlow c rest then ⟨[], c :: rest⟩
      else
        let tail := plainRun inFlow rest
        ⟨c :: tail.text, tail.rest⟩

/-- A stretch of blanks inside a plain scalar: what it leaves if the scalar goes on,
how many characters it has, and whether a line ended in it. -/
structure PlainGap where
  text : List Char
  length : Nat
  brokeLine : Bool
  deriving DecidableEq, Repr

/-- The breaks in a stretch of spaces and breaks, and its length; no breaks if a line in it
separates documents, in which case the stretch stops there. -/
def plainBreaks : List Char → Option (List Char) × Nat
  | [] => (some [], 0)
  | c :: rest =>
      if c = ' ' then
        let (breaks?, length) := plainBreaks rest
        (breaks?, length + 1)
      else if isBreak c then
        if atSeparator rest then (none, 1)
        else
          let (breaks?, length) := plainBreaks rest
          (breaks?.map (breakText c :: ·), length + 1)
      else (some [], 0)

/-- The stretch of blanks at a place. -/
def plainGap (characters : List Char) : PlainGap :=
  let spaces := characters.takeWhile (· == ' ')
  match characters.dropWhile (· == ' ') with
  | [] => ⟨spaces, spaces.length, false⟩
  | c :: rest =>
      if isBreak c then
        if atSeparator rest then ⟨[], spaces.length + 1, true⟩
        else
          match plainBreaks rest with
          | (none, length) => ⟨[], spaces.length + 1 + length, true⟩
          | (some breaks, length) =>
              ⟨foldBreaks (breakText c) breaks, spaces.length + 1 + length, true⟩
      else ⟨spaces, spaces.length, false⟩

/-- A plain scalar: its text, the place behind it and whether the last line before
that place ended. -/
structure PlainScalar where
  text : List Char
  behind : Cursor
  brokeLine : Bool
  deriving DecidableEq, Repr

/-- Reads a plain scalar whose later lines must reach a column, in at most so many
stretches. -/
def plainStretches (inFlow : Bool) (leastColumn : Int) : Nat → Cursor → PlainScalar
  | 0, cursor => ⟨[], cursor, false⟩
  | stretches + 1, cursor =>
      let run := plainRun inFlow cursor.rest
      let gap := plainGap run.rest
      let behind := cursor.advance (run.text.length + gap.length)
      let ended : PlainScalar := ⟨run.text, behind, gap.brokeLine⟩
      if run.text.isEmpty then ⟨[], cursor, false⟩
      else if gap.text.isEmpty || behind.rest.head? == some '#' ||
          (!inFlow && decide ((behind.column : Int) < leastColumn)) then ended
      else
        let more := plainStretches inFlow leastColumn stretches behind
        if more.text.isEmpty then ended
        else ⟨run.text ++ gap.text ++ more.text, more.behind, more.brokeLine⟩

/-- Reads a plain scalar whose later lines must reach a column. -/
def readPlain (inFlow : Bool) (leastColumn : Int) (cursor : Cursor) : PlainScalar :=
  plainStretches inFlow leastColumn (cursor.size + 1) cursor

/-! ## Quoted scalars -/

/-- The two quotes; only double quotes know escapes. -/
inductive Quote
  | single
  | double
  deriving DecidableEq, Repr

/-- The character of a quote. -/
def Quote.mark : Quote → Char
  | .single => '\''
  | .double => '"'

/-- Where the reader of a quoted scalar is: among characters, in blanks on a line,
behind a break that folds, behind a break that was escaped, at the second of two
quotes, behind a backslash, or in the digits of a code point. -/
inductive QuotedState
  | inside
  | blanks (pending : List Char)
  | folded (first : Char) (later : List Char)
  | joined (breaks : List Char)
  | doubled
  | escape
  | code (missing value : Nat)
  deriving DecidableEq, Repr

namespace QuotedState

/-- What a state leaves in the scalar when another character follows. -/
def flush : QuotedState → List Char
  | .blanks pending => pending
  | .folded first later => foldBreaks first later
  | .joined breaks => breaks
  | _ => []

/-- The state behind one more blank. -/
def afterBlank (state : QuotedState) (c : Char) : QuotedState :=
  match state with
  | .blanks pending => .blanks (pending ++ [c])
  | .folded first later => .folded first later
  | .joined breaks => .joined breaks
  | _ => .blanks [c]

/-- The state behind one more break. -/
def afterBreak (state : QuotedState) (c : Char) : QuotedState :=
  match state with
  | .folded first later => .folded first (later ++ [breakText c])
  | .joined breaks => .joined (breaks ++ [breakText c])
  | _ => .folded (breakText c) []

end QuotedState

/-- The characters that a letter behind a backslash stands for. -/
def escapeTable : List (Char × Char) :=
  [('0', '\x00'), ('a', '\x07'), ('b', '\x08'), ('t', '\t'), ('\t', '\t'), ('n', '\n'),
    ('v', '\x0b'), ('f', '\x0c'), ('r', '\r'), ('e', '\x1b'), (' ', ' '), ('"', '"'),
    ('\\', '\\'), ('/', '/'), ('N', '\u0085'), ('_', '\u00a0'), ('L', '\u2028'),
    ('P', '\u2029')]

/-- How many digits of a code point follow a letter behind a backslash. -/
def escapeDigits : List (Char × Nat) :=
  [('x', 2), ('u', 4), ('U', 8)]

/-- The character of a code point; half of a surrogate pair is refused, as no text holds one. -/
def characterOf (code : Nat) : Except Fault Char :=
  if 0x110000 ≤ code then .error (.noCharacter code)
  else if code.isValidChar then .ok (Char.ofNat code)
  else .error .malformed

/-- Reads a quoted scalar from behind its opening quote. -/
def readQuoted (quote : Quote) (state : QuotedState) : List Char → Except Fault Lexeme
  | [] => .error .unfinished
  | c :: rest =>
      let goOn := fun (text : List Char) (next : Except Fault Lexeme) =>
        next.map fun tail => (⟨text ++ tail.text, tail.rest⟩ : Lexeme)
      match state with
      | .doubled => goOn [c] (readQuoted quote .inside rest)
      | .escape =>
          match escapeTable.lookup c, escapeDigits.lookup c with
          | some character, _ => goOn [character] (readQuoted quote .inside rest)
          | none, some missing => readQuoted quote (.code missing 0) rest
          | none, none =>
              if isBreak c && !atSeparator rest then readQuoted quote (.joined []) rest
              else .error .malformed
      | .code missing value =>
          match Text.hexValue? c with
          | none => .error .malformed
          | some digit =>
              if 1 < missing then
                readQuoted quote (.code (missing - 1) (value * 16 + digit)) rest
              else
                (characterOf (value * 16 + digit)).bind fun character =>
                  goOn [character] (readQuoted quote .inside rest)
      | open_ =>
          if isGap c then readQuoted quote (open_.afterBlank c) rest
          else if isBreak c then
            if atSeparator rest then .error .malformed
            else readQuoted quote (open_.afterBreak c) rest
          else if c = quote.mark then
            if quote = .single ∧ rest.head? = some '\'' then
              goOn open_.flush (readQuoted quote .doubled rest)
            else .ok ⟨open_.flush, rest⟩
          else if quote = .double ∧ c = '\\' then
            goOn open_.flush (readQuoted quote .escape rest)
          else goOn (open_.flush ++ [c]) (readQuoted quote .inside rest)

/-! ## Block scalars -/

/-- What becomes of the breaks at the end of a block scalar. -/
inductive Chomping
  | strip
  | clip
  | keep
  deriving DecidableEq, Repr

/-- The header of a block scalar: what to do with final breaks and how far the block
is indented, if it says so. -/
structure BlockHeader where
  chomping : Chomping
  indentation : Option Nat
  deriving DecidableEq, Repr

/-- The chomping that a character asks for. -/
def chompingOf? (c : Char) : Option Chomping :=
  if c = '+' then some .keep else if c = '-' then some .strip else none

/-- The indentation that a character asks for. -/
def indentationOf? (c : Char) : Option Nat :=
  if c.isDigit then some (c.toNat - '0'.toNat) else none

/-- Reads the header of a block scalar: at most one chomping character and at most
one digit, in any order. -/
def readBlockHeader (characters : List Char) : BlockHeader × List Char :=
  match characters with
  | [] => (⟨.clip, none⟩, [])
  | c :: rest =>
      match chompingOf? c, indentationOf? c with
      | some chomping, _ =>
          match rest.head?.bind indentationOf? with
          | some size => (⟨chomping, some size⟩, rest.drop 1)
          | none => (⟨chomping, none⟩, rest)
      | none, some size =>
          match rest.head?.bind chompingOf? with
          | some chomping => (⟨chomping, some size⟩, rest.drop 1)
          | none => (⟨.clip, some size⟩, rest)
      | none, none => (⟨.clip, none⟩, c :: rest)

/-- The place behind the rest of a line that may hold a comment and nothing else. -/
def skipRestOfLine (characters : List Char) : Except Fault (List Char) :=
  let behind := characters.dropWhile (· == ' ')
  let ended := if behind.head? = some '#' then behind.dropWhile (!isBreak ·) else behind
  match ended with
  | [] => .ok []
  | c :: rest => if isBreak c then .ok rest else .error .malformed

/-- The breaks of the blank lines in front of a block, and the greatest number of
spaces in a row there. -/
def leadingBlanks (column widest : Nat) : List Char → List Char × Nat × List Char
  | [] => ([], widest, [])
  | c :: rest =>
      if c = ' ' then leadingBlanks (column + 1) (max widest (column + 1)) rest
      else if isBreak c then
        let (breaks, widest, behind) := leadingBlanks 0 widest rest
        (breakText c :: breaks, widest, behind)
      else ([], widest, c :: rest)

/-- The breaks of blank lines, and the spaces of the indentation, from a column on. -/
def blockBreaks (indentation column : Nat) : List Char → Lexeme
  | [] => ⟨[], []⟩
  | c :: rest =>
      if c = ' ' ∧ column < indentation then blockBreaks indentation (column + 1) rest
      else if isBreak c then
        let tail := blockBreaks indentation 0 rest
        ⟨breakText c :: tail.text, tail.rest⟩
      else ⟨[], c :: rest⟩

/-- Reads the lines of a block scalar that are indented as it demands, at most so many
of them; the breaks in front of the first are given. -/
def blockLines (folded : Bool) (chomping : Chomping) (indentation : Nat) :
    Nat → List Char → Cursor → List Char × Cursor
  | 0, _, cursor => ([], cursor)
  | lines + 1, breaks, cursor =>
      let content := cursor.rest.takeWhile (!isBreak ·)
      let behind := cursor.rest.dropWhile (!isBreak ·)
      let lineBreak := (behind.head?.map breakText).toList
      let next := blockBreaks indentation 0 (behind.drop 1)
      let place := cursor.moveTo next.rest
      let startsWithText := fun characters : List Char => !characters.head?.any isGap
      if place.column = indentation ∧ place.rest ≠ [] then
        let glue :=
          if folded && lineBreak == ['\n'] && startsWithText cursor.rest &&
              startsWithText place.rest then
            if next.text.isEmpty then [' '] else []
          else lineBreak
        let (tail, final) := blockLines folded chomping indentation lines next.text place
        (breaks ++ content ++ glue ++ tail, final)
      else
        let ending :=
          match chomping with
          | .strip => []
          | .clip => lineBreak
          | .keep => lineBreak ++ next.text
        (breaks ++ content ++ ending, place)

/-- Reads a block scalar from behind its indicator, inside a block of an indentation. -/
def readBlock (folded : Bool) (outer : Int) (cursor : Cursor) :
    Except Fault (List Char × Cursor) := do
  let (header, rest) := readBlockHeader cursor.rest
  if header.indentation = some 0 ∨ !endsField rest then throw .malformed
  let body := cursor.moveTo (← skipRestOfLine rest)
  let least := max (outer + 1) 1
  let (breaks, indentation, first) :=
    match header.indentation with
    | some size =>
        let indentation := (least + size - 1).toNat
        let blank := blockBreaks indentation 0 body.rest
        (blank.text, indentation, body.moveTo blank.rest)
    | none =>
        let (breaks, widest, behind) := leadingBlanks 0 0 body.rest
        (breaks, max least.toNat widest, body.moveTo behind)
  if first.column = indentation ∧ first.rest ≠ [] then
    pure (blockLines folded header.chomping indentation (first.size + 1) breaks first)
  else pure (if header.chomping = .keep then breaks else [], first)

/-! ## Names, tags and directives -/

/-- Reads the name of an anchor or of an alias. -/
def readAnchor (characters : List Char) : Except Fault Lexeme :=
  let name := characters.takeWhile isNameCharacter
  let rest := characters.dropWhile isNameCharacter
  let closed := endsWord rest || rest.head?.any fun c => "?:,]\x7d%@\x60".toList.contains c
  if name.isEmpty || !closed then .error .malformed else .ok ⟨name, rest⟩

/-- The characters of a tag. -/
def isTagCharacter (c : Char) : Bool :=
  c.isAlphanum || "-;/?:@&=+$,_.!~*'()[]%".toList.contains c

/-- The bytes that the escapes in a tag stand for, other characters by their encoding. -/
def tagBytes : List Char → Except Fault (List UInt8)
  | [] => .ok []
  | c :: rest =>
      if c = '%' then
        match rest with
        | high :: low :: behind =>
            match Text.hexValue? high, Text.hexValue? low with
            | some h, some l => (tagBytes behind).map (UInt8.ofNat (h * 16 + l) :: ·)
            | _, _ => .error .malformed
        | _ => .error .malformed
      else (tagBytes rest).map (Text.Utf8.encode (String.singleton c) ++ ·)

/-- Reads the characters of a tag, which may hold escapes. -/
def readTagUri (characters : List Char) : Except Fault Lexeme := do
  let written := characters.takeWhile isTagCharacter
  if written.isEmpty then throw .malformed
  match Text.Utf8.decode (← tagBytes written) with
  | .ok text => pure ⟨text, characters.dropWhile isTagCharacter⟩
  | .error _ => throw .malformed

/-- Reads the handle of a tag: an exclamation mark, or a name between two of them. -/
def readTagHandle (characters : List Char) : Except Fault Lexeme :=
  match characters with
  | [] => .error .malformed
  | first :: rest =>
      let name := rest.takeWhile isNameCharacter
      let behind := rest.dropWhile isNameCharacter
      if first ≠ '!' then .error .malformed
      else if rest.head? = some ' ' then .ok ⟨['!'], rest⟩
      else if behind.head? = some '!' then .ok ⟨'!' :: name ++ ['!'], behind.drop 1⟩
      else .error .malformed

/-- A tag as it is written: with a handle, or complete. -/
structure WrittenTag where
  handle : Option String
  suffix : String
  deriving DecidableEq, Repr

/-- Whether a handle with a name comes before the end of the word. -/
def hasNamedHandle (characters : List Char) : Bool :=
  (characters.takeWhile fun c => !(c == ' ' || isBreak c)).contains '!'

/-- Reads a tag from behind its exclamation mark. -/
def readTag (characters : List Char) : Except Fault (WrittenTag × List Char) := do
  let (tag, rest) ←
    if characters.head? = some '<' then do
      let uri ← readTagUri (characters.drop 1)
      if uri.rest.head? ≠ some '>' then throw .malformed
      pure (⟨none, String.ofList uri.text⟩, uri.rest.drop 1)
    else if endsWord characters then pure (⟨none, "!"⟩, characters)
    else if hasNamedHandle characters then do
      let handle ← readTagHandle ('!' :: characters)
      let uri ← readTagUri handle.rest
      pure (⟨some (String.ofList handle.text), String.ofList uri.text⟩, uri.rest)
    else do
      let uri ← readTagUri characters
      pure (⟨some "!", String.ofList uri.text⟩, uri.rest)
  if endsField rest then pure (tag, rest) else throw .malformed

/-- What a directive says. -/
inductive Directive
  | version (major : Nat)
  | tag (handle start : String)
  | other
  deriving DecidableEq, Repr

/-- Reads a number of a version. -/
def readVersionNumber (characters : List Char) : Except Fault (Nat × List Char) :=
  match (characters.takeWhile Char.isDigit), characters.dropWhile Char.isDigit with
  | [], _ => .error .malformed
  | digits, rest =>
      if Number.longestDecimal < digits.length then .error (.tooManyDigits digits.length)
      else
        .ok (digits.foldl (fun number digit => number * 10 + (digit.toNat - '0'.toNat)) 0, rest)

/-- Reads a directive from behind its percent sign; it takes the whole line. -/
def readDirective (characters : List Char) : Except Fault (Directive × List Char) := do
  let name := characters.takeWhile isNameCharacter
  let rest := characters.dropWhile isNameCharacter
  if name.isEmpty || !endsField rest then throw .malformed
  let skipSpaces := List.dropWhile (· == ' ')
  if name = "YAML".toList then
    let (major, behind) ← readVersionNumber (skipSpaces rest)
    if behind.head? ≠ some '.' then throw .malformed
    let (_, behind) ← readVersionNumber (behind.drop 1)
    if !endsField behind then throw .malformed
    pure (.version major, ← skipRestOfLine behind)
  else if name = "TAG".toList then
    let handle ← readTagHandle (skipSpaces rest)
    if handle.rest.head? ≠ some ' ' then throw .malformed
    let start ← readTagUri (skipSpaces handle.rest)
    if !endsField start.rest then throw .malformed
    pure (.tag (String.ofList handle.text) (String.ofList start.text), ← skipRestOfLine start.rest)
  else pure (.other, ← skipRestOfLine (rest.dropWhile (!isBreak ·)))

end PathPolicy.Yaml
