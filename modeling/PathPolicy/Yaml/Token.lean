import PathPolicy.Table
import PathPolicy.Yaml.Lexeme
import PathPolicy.Yaml.Source

/-!
# Tokens

A stream becomes tokens, one at a time and no earlier than they are asked for, so
that of two faults the one in front is found.  In block context the columns of keys and of
hyphens open and close collections.  A key is known to be one only when the colon
behind it is found: until then the place in front of it is kept, for each level of
flow collections, and the tokens that make it a key are put there afterwards.  A
key must end on the line that it begins on, and within 1024 characters.
-/

namespace PathPolicy.Yaml

/-- A token of a stream. -/
inductive Token
  | directive (directive : Directive)
  | documentStart
  | documentEnd
  | blockSequenceStart
  | blockMappingStart
  | blockEnd
  | flowSequenceStart
  | flowSequenceEnd
  | flowMappingStart
  | flowMappingEnd
  | blockEntry
  | flowEntry
  | key
  | value
  | alias (name : String)
  | anchor (name : String)
  | tag (tag : WrittenTag)
  | scalar (content : List Char) (plain : Bool)
  | streamEnd
  deriving DecidableEq, Repr

/-- A token and the tokens that were put in front of it afterwards. -/
structure Slot where
  before : List Token
  token : Token
  deriving DecidableEq, Repr

/-- A place at which a key may have begun. -/
structure PossibleKey where
  slot : Nat
  required : Bool
  index : Nat
  line : Nat
  column : Nat
  deriving DecidableEq, Repr

/-- The state of the reader: its place, the fault behind the characters, the tokens so far
and how many slots of them were handed over, the depth of flow collections, the
indentation of the open blocks with the innermost in front, whether a key may begin, for
each depth where one may have begun, and whether the stream has ended. -/
structure Lexer where
  cursor : Cursor
  fault : Option Fault
  slots : Array Slot
  taken : Nat
  depth : Nat
  indentation : Int
  outer : List Int
  keyAllowed : Bool
  possibleKeys : Table Nat PossibleKey
  ended : Bool

namespace Lexer

/-- The reader in front of a stream. -/
def start (source : Source) : Lexer where
  cursor := .start source.characters
  fault := source.fault
  slots := #[]
  taken := 0
  depth := 0
  indentation := -1
  outer := []
  keyAllowed := true
  possibleKeys := []
  ended := false

/-- Whether a flow collection is open. -/
def inFlow (lexer : Lexer) : Bool :=
  lexer.depth != 0

/-- Adds a token. -/
def emit (lexer : Lexer) (token : Token) : Lexer :=
  { lexer with slots := lexer.slots.push ⟨[], token⟩ }

/-- Moves the place. -/
def moveTo (lexer : Lexer) (rest : List Char) : Lexer :=
  { lexer with cursor := lexer.cursor.moveTo rest }

/-- Moves the place behind some characters. -/
def skip (lexer : Lexer) (count : Nat) : Lexer :=
  { lexer with cursor := lexer.cursor.advance count }

/-- Says whether a key may begin. -/
def allowKey (lexer : Lexer) (allowed : Bool) : Lexer :=
  { lexer with keyAllowed := allowed }

/-- How many characters spaces, comments and breaks have at a place, behind some more of
them, and whether there was a break. -/
def blanks (inComment brokeLine : Bool) (count : Nat) : List Char → Nat × Bool
  | [] => (count, brokeLine)
  | c :: rest =>
      if isBreak c then blanks false true (count + 1) rest
      else if inComment || c == ' ' then blanks inComment brokeLine (count + 1) rest
      else if c = '#' then blanks true brokeLine (count + 1) rest
      else (count, brokeLine)

/-- Moves to the next token; a new line allows a key in block context. -/
def toNextToken (lexer : Lexer) : Lexer :=
  let characters := lexer.cursor.rest
  let hasMark := lexer.cursor.index == 0 && characters.head? == some '\ufeff'
  let mark := if hasMark then 1 else 0
  let (count, brokeLine) := blanks false false mark (characters.drop mark)
  let moved := lexer.skip count
  if brokeLine && !lexer.inFlow then moved.allowKey true else moved

/-- How many characters a key may have when its colon is found. -/
def longestKey : Nat := 1024

/-- Forgets the places at which no key can have begun any more; one that has to be a
key is an error. -/
def dropStaleKeys (lexer : Lexer) : Except Fault Lexer :=
  let isStale := fun key : PossibleKey =>
    key.line != lexer.cursor.line || decide (longestKey < lexer.cursor.index - key.index)
  if lexer.possibleKeys.any fun entry => isStale entry.2 && entry.2.required then
    .error .malformed
  else
    .ok { lexer with possibleKeys := lexer.possibleKeys.filter fun entry => !isStale entry.2 }

/-- Forgets the place at this depth; one that has to be a key is an error. -/
def dropKey (lexer : Lexer) : Except Fault Lexer :=
  match lexer.possibleKeys.get? lexer.depth with
  | none => .ok lexer
  | some key =>
      if key.required then .error .malformed
      else .ok { lexer with possibleKeys := lexer.possibleKeys.remove lexer.depth }

/-- Keeps the place as one at which a key may begin. -/
def saveKey (lexer : Lexer) : Except Fault Lexer :=
  if lexer.keyAllowed then do
    let cleared ← lexer.dropKey
    let cursor := lexer.cursor
    let required := !lexer.inFlow && lexer.indentation == (cursor.column : Int)
    let key : PossibleKey :=
      ⟨lexer.slots.size, required, cursor.index, cursor.line, cursor.column⟩
    pure { cleared with possibleKeys := cleared.possibleKeys.put lexer.depth key }
  else .ok lexer

/-- Closes the blocks, given from the innermost outwards, that are indented further
than a column. -/
def closeBlocks (column : Int) (lexer : Lexer) : List Int → Lexer
  | [] => lexer
  | outer :: rest =>
      if column < lexer.indentation then
        closeBlocks column { lexer.emit .blockEnd with indentation := outer, outer := rest } rest
      else lexer

/-- Closes the blocks that are indented further than a column; a flow collection has
no indentation. -/
def unwind (lexer : Lexer) (column : Int) : Lexer :=
  if lexer.inFlow then lexer else closeBlocks column lexer lexer.outer

/-- Opens a block at a column that is indented further than the blocks around it. -/
def indent? (lexer : Lexer) (column : Int) : Option Lexer :=
  if lexer.indentation < column then
    some { lexer with indentation := column, outer := lexer.indentation :: lexer.outer }
  else none

/-- Opens a block at the present column, unless one is open there. -/
def openBlock (lexer : Lexer) (token : Token) : Lexer :=
  match lexer.indent? lexer.cursor.column with
  | some indented => indented.emit token
  | none => lexer

/-- In block context a hyphen, a question mark or a colon needs a place at which a key
may begin, and opens a block. -/
def openBlockEntry (lexer : Lexer) (token : Token) : Except Fault Lexer :=
  if lexer.inFlow then .ok lexer
  else if lexer.keyAllowed then .ok (lexer.openBlock token)
  else .error .malformed

/-- Puts tokens in front of the one in a slot. -/
def putBefore (lexer : Lexer) (slot : Nat) (tokens : List Token) : Lexer :=
  { lexer with
    slots := lexer.slots.modify slot fun old => ⟨tokens ++ old.before, old.token⟩ }

/-- A directive takes its line. -/
def takeDirective (lexer : Lexer) : Except Fault Lexer := do
  let ready ← (lexer.unwind (-1)).dropKey
  let (directive, rest) ← readDirective (ready.cursor.rest.drop 1)
  pure ((ready.moveTo rest).allowKey false |>.emit (.directive directive))

/-- A separator of documents closes every block. -/
def takeSeparator (lexer : Lexer) (token : Token) : Except Fault Lexer := do
  let ready ← (lexer.unwind (-1)).dropKey
  pure ((ready.skip 3).allowKey false |>.emit token)

/-- A flow collection may be a key, and may begin with one. -/
def openFlow (lexer : Lexer) (token : Token) : Except Fault Lexer := do
  let ready ← lexer.saveKey
  let opened := (ready.emit token).skip 1
  pure ({ opened with depth := opened.depth + 1 }.allowKey true)

/-- Closes a flow collection. -/
def closeFlow (lexer : Lexer) (token : Token) : Except Fault Lexer := do
  let ready ← lexer.dropKey
  let closed := (ready.emit token).skip 1
  pure ({ closed with depth := closed.depth - 1 }.allowKey false)

/-- A comma between the items of a flow collection. -/
def takeFlowEntry (lexer : Lexer) : Except Fault Lexer := do
  let ready ← (lexer.allowKey true).dropKey
  pure ((ready.emit .flowEntry).skip 1)

/-- A hyphen in front of an item. -/
def takeBlockEntry (lexer : Lexer) : Except Fault Lexer := do
  let opened ← lexer.openBlockEntry .blockSequenceStart
  let ready ← (opened.allowKey true).dropKey
  pure ((ready.emit .blockEntry).skip 1)

/-- A question mark in front of a key. -/
def takeKey (lexer : Lexer) : Except Fault Lexer := do
  let opened ← lexer.openBlockEntry .blockMappingStart
  let ready ← (opened.allowKey (!opened.inFlow)).dropKey
  pure ((ready.emit .key).skip 1)

/-- A colon makes what began at the kept place a key; without such a place it follows
a key with a question mark. -/
def takeValue (lexer : Lexer) : Except Fault Lexer := do
  match lexer.possibleKeys.get? lexer.depth with
  | some key =>
      let known := { lexer with possibleKeys := lexer.possibleKeys.remove lexer.depth }
      let opened :=
        match if lexer.inFlow then none else known.indent? key.column with
        | some indented => indented.putBefore key.slot [.blockMappingStart, .key]
        | none => known.putBefore key.slot [.key]
      pure (((opened.allowKey false).emit .value).skip 1)
  | none =>
      let opened ← lexer.openBlockEntry .blockMappingStart
      let ready ← (opened.allowKey (!opened.inFlow)).dropKey
      pure ((ready.emit .value).skip 1)

/-- A token that may be a key: it is read, and no key may begin directly behind it. -/
def takeNode (lexer : Lexer) (token : Token) (rest : List Char) : Except Fault Lexer := do
  let ready ← lexer.saveKey
  pure (((ready.emit token).allowKey false).moveTo rest)

/-- An anchor or an alias. -/
def takeAnchor (lexer : Lexer) (token : String → Token) : Except Fault Lexer := do
  let name ← readAnchor (lexer.cursor.rest.drop 1)
  lexer.takeNode (token (String.ofList name.text)) name.rest

/-- A tag. -/
def takeTag (lexer : Lexer) : Except Fault Lexer := do
  let (tag, rest) ← readTag (lexer.cursor.rest.drop 1)
  lexer.takeNode (.tag tag) rest

/-- A scalar between quotes. -/
def takeQuoted (lexer : Lexer) (quote : Quote) : Except Fault Lexer := do
  let scalar ← readQuoted quote .inside (lexer.cursor.rest.drop 1)
  lexer.takeNode (.scalar scalar.text false) scalar.rest

/-- A block scalar; behind it a key may begin. -/
def takeBlock (lexer : Lexer) (folded : Bool) : Except Fault Lexer := do
  let ready ← (lexer.allowKey true).dropKey
  let (text, behind) ← readBlock folded ready.indentation (ready.cursor.advance 1)
  pure { ready.emit (.scalar text false) with cursor := behind }

/-- A plain scalar; behind it a key may begin only on a new line. -/
def takePlain (lexer : Lexer) : Except Fault Lexer := do
  let ready ← lexer.saveKey
  let scalar := readPlain ready.inFlow (ready.indentation + 1) ready.cursor
  pure ({ ready.emit (.scalar scalar.text true) with cursor := scalar.behind }.allowKey
    scalar.brokeLine)

/-- The characters that never begin a plain scalar. -/
def isIndicator (c : Char) : Bool :=
  "-?:,[]\x7b\x7d#&*!|>'\"%@\x60".toList.contains c

/-- Whether a plain scalar begins with a character; a hyphen, and outside of flow
collections a question mark or a colon, may begin one if a word follows. -/
def beginsPlain (lexer : Lexer) (c : Char) (rest : List Char) : Bool :=
  !(isGap c || isBreak c || isIndicator c) ||
    (!endsWord rest && (c == '-' || (!lexer.inFlow && (c == '?' || c == ':'))))

/-- Reads the token that begins with a character. -/
def takeToken (lexer : Lexer) (c : Char) (rest : List Char) : Except Fault Lexer :=
  let column := lexer.cursor.column
  let separates := column == 0 && atSeparator (c :: rest)
  let standsAlone := lexer.inFlow || endsWord rest
  if c = '%' ∧ column = 0 then lexer.takeDirective
  else if c = '-' ∧ separates then lexer.takeSeparator .documentStart
  else if c = '.' ∧ separates then lexer.takeSeparator .documentEnd
  else if c = '[' then lexer.openFlow .flowSequenceStart
  else if c = '\x7b' then lexer.openFlow .flowMappingStart
  else if c = ']' then lexer.closeFlow .flowSequenceEnd
  else if c = '\x7d' then lexer.closeFlow .flowMappingEnd
  else if c = ',' then lexer.takeFlowEntry
  else if c = '-' ∧ endsWord rest then lexer.takeBlockEntry
  else if c = '?' ∧ standsAlone then lexer.takeKey
  else if c = ':' ∧ standsAlone then lexer.takeValue
  else if c = '*' then lexer.takeAnchor .alias
  else if c = '&' then lexer.takeAnchor .anchor
  else if c = '!' then lexer.takeTag
  else if c = '|' ∧ !lexer.inFlow then lexer.takeBlock false
  else if c = '>' ∧ !lexer.inFlow then lexer.takeBlock true
  else if c = '\'' then lexer.takeQuoted .single
  else if c = '"' then lexer.takeQuoted .double
  else if lexer.beginsPlain c rest then lexer.takePlain
  else .error .malformed

/-- The end of the stream closes every block. -/
def takeEnd (lexer : Lexer) : Except Fault Lexer := do
  let closed ← (lexer.unwind (-1)).dropKey
  pure { (closed.allowKey false).emit .streamEnd with possibleKeys := [], ended := true }

/-- A reader whose characters are used up meets the fault behind them. -/
def checkFault (lexer : Lexer) : Except Fault Lexer :=
  match lexer.cursor.rest, lexer.fault with
  | [], some fault => .error fault
  | _, _ => .ok lexer

/-- A token that does not end meets the fault behind the characters, if there is one. -/
def orFaultBehind (behind : Option Fault) (fault : Fault) : Fault :=
  if fault = .unfinished then behind.getD fault else fault

/-- Reads one more token. -/
def fetch (lexer : Lexer) : Except Fault Lexer := do
  let ready ← (← lexer.toNextToken.checkFault).dropStaleKeys
  let placed := ready.unwind ready.cursor.column
  match placed.cursor.rest with
  | [] => placed.takeEnd
  | c :: rest =>
      let behind := placed.fault
      ((placed.takeToken c rest).mapError (orFaultBehind behind)).bind checkFault

/-- The next token, if it has been read. -/
def head? (lexer : Lexer) : Option Token :=
  lexer.slots[lexer.taken]?.map fun slot => slot.before.head?.getD slot.token

/-- Whether the next token may still turn out to be a key. -/
def headMayBeKey (lexer : Lexer) : Bool :=
  lexer.slots[lexer.taken]?.any (·.before.isEmpty) &&
    lexer.possibleKeys.any fun entry => entry.2.slot == lexer.taken

/-- Reads tokens until the next one is certain, at most so many. -/
def settleWithin (lexer : Lexer) : Nat → Except Fault Lexer
  | 0 => .error .malformed
  | steps + 1 =>
      if lexer.ended then .ok lexer
      else if lexer.head?.isNone then do
        let next ← lexer.fetch
        next.settleWithin steps
      else do
        let ready ← lexer.dropStaleKeys
        if ready.headMayBeKey then
          let next ← ready.fetch
          next.settleWithin steps
        else pure ready

/-- Reads tokens until the next one is certain; every token but the last takes at least
one character. -/
def settle (lexer : Lexer) : Except Fault Lexer :=
  lexer.settleWithin (lexer.cursor.size + 2)

/-- The next token of a reader that knows it; behind all tokens is the end. -/
def head (lexer : Lexer) : Token :=
  lexer.head?.getD .streamEnd

/-- Hands over the next token. -/
def pass (lexer : Lexer) : Lexer :=
  match lexer.slots[lexer.taken]? with
  | some ⟨_ :: before, _⟩ =>
      { lexer with
        slots := lexer.slots.modify lexer.taken fun slot => ⟨before, slot.token⟩ }
  | _ => { lexer with taken := lexer.taken + 1 }

end Lexer

end PathPolicy.Yaml
