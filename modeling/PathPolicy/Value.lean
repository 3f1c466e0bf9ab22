import PathPolicy.Calendar
import PathPolicy.Number.Integer
import PathPolicy.Number.Shortest
import PathPolicy.Table
import PathPolicy.Text.Quoted

/-!
# Snapshot data

An outline is text in lists and maps, with texts as keys: what is written to a file.  A
snapshot that is read holds plain data: scalars, lists, sets and maps whose keys are scalars.
Data that stand at several places, or inside themselves, are kept once under a label.
A document expects text in most places; other data are turned into their text, so
this module also says what that text is.  Inside other data texts stand between
quotes, and data inside themselves are not written out again.  An integer with too
many digits has no text, nor has what holds it or what is nested too deep.
-/

namespace PathPolicy

/-- A text, a list of outlines, or a map from texts to outlines. -/
inductive Text.Outline
  | text (content : String)
  | list (items : List Outline)
  | map (entries : List (String × Outline))
  deriving Repr, Inhabited

/-- A single datum. -/
inductive Scalar
  | null
  | boolean (truth : Bool)
  | integer (number : Int)
  | real (number : Number.Binary64)
  | text (content : String)
  | bytes (content : List UInt8)
  | date (day : Date)
  | moment (instant : Moment)
  deriving Repr, Inhabited

/-- A datum, a list of data, a pair, a set of scalars or a map from scalars to data; or
the data that are kept under a label. -/
inductive Value
  | scalar (datum : Scalar)
  | list (items : List Value)
  | pair (first second : Value)
  | set (members : List Scalar)
  | map (entries : List (Scalar × Value))
  | shared (label : Nat)
  deriving Repr, Inhabited

/-- Why data have no text: an integer has too many digits, or too many data lie inside
each other. -/
inductive TextFault
  | tooManyDigits
  | tooDeep
  deriving DecidableEq, Repr

/-- The fault in words. -/
def TextFault.message : TextFault → String
  | .tooManyDigits => Number.tooManyDigits none
  | .tooDeep => "maximum recursion depth exceeded while getting the repr of an object"

namespace Scalar

/-- Reals have the fewest digits that read back; from ten to the sixteenth on and
below a ten-thousandth an exponent of at least two digits is written. -/
def realStyle : Number.DecimalStyle :=
  ⟨-4, 15, 2⟩

/-- The text that a scalar stands for. -/
def plainText : Scalar → Except TextFault String
  | .null => .ok Text.missingWord
  | .boolean truth => .ok (Text.truthWord truth)
  | .integer number =>
      match Number.decimalText? number with
      | some digits => .ok digits
      | none => .error .tooManyDigits
  | .real number => .ok (number.text realStyle)
  | .text content => .ok content
  | .bytes content => .ok (Text.quotedBytes content)
  | .date day => .ok day.text
  | .moment instant => .ok instant.text

/-- The text of a scalar inside other data. -/
def quotedText : Scalar → Except TextFault String
  | .text content => .ok (Text.quoted content)
  | .date day => .ok day.quotedText
  | .moment instant => .ok instant.quotedText
  | other => other.plainText

/-- The number that a scalar counts as when keys are compared; truth values count
as one and zero. -/
def integerKey? : Scalar → Option Int
  | .boolean truth => some (if truth then 1 else 0)
  | .integer number => some number
  | .real number => number.integer?
  | _ => none

/-- Two scalars are the same key of a map when they are the same text or bytes, both
null, the same date or moment, or equal as numbers. -/
def sameKey (left right : Scalar) : Bool :=
  match left, right with
  | .null, .null => true
  | .text a, .text b => a == b
  | .bytes a, .bytes b => a == b
  | .date a, .date b => a == b
  | .moment a, .moment b => a.same b
  | .real a, .real b => a.equals b
  | a, b =>
      match a.integerKey?, b.integerKey? with
      | some m, some n => m == n
      | _, _ => false

instance : BEq Scalar :=
  ⟨sameKey⟩

/-- A scalar is void when it is null, false, zero, the empty text or no bytes. -/
def isVoid : Scalar → Bool
  | .null => true
  | .boolean truth => !truth
  | .integer number => number == 0
  | .real number => number.isZero
  | .text content => content == ""
  | .bytes content => content.isEmpty
  | .date _ => false
  | .moment _ => false

/-- The word for the kind of a scalar, as messages use it. -/
def kindName : Scalar → String
  | .null => "NoneType"
  | .boolean _ => "bool"
  | .integer _ => "int"
  | .real _ => "float"
  | .text _ => "str"
  | .bytes _ => "bytes"
  | .date _ => "datetime.date"
  | .moment _ => "datetime.datetime"

end Scalar

namespace Value

/-- The map that results when the pairs are put one after the other: a repeated
key keeps its place and takes its last value. -/
def ofPairs (pairs : List (Scalar × Value)) : Value :=
  .map (Table.ofPairs pairs)

/-- The natural number that a scalar counts as, if it counts as one. -/
def naturalKey? (datum : Scalar) : Option Nat :=
  match datum.integerKey? with
  | some (.ofNat number) => some number
  | _ => none

/-- The set of some members, which are distinct.  Natural numbers are in ascending order,
other members in the order in which they are given. -/
def ofMembers (members : List Scalar) : Value :=
  match members.mapM naturalKey? with
  | none => .set members
  | some numbers =>
      .set (((members.zip numbers).mergeSort fun left right => left.2 ≤ right.2).map Prod.fst)

/-- Null. -/
def null : Value :=
  .scalar .null

/-- A text. -/
def ofText (content : String) : Value :=
  .scalar (.text content)

mutual

/-- An outline as data. -/
def ofOutline : Text.Outline → Value
  | .text content => ofText content
  | .list items => .list (ofOutlines items)
  | .map entries => .map (ofOutlineEntries entries)

/-- The items of an outline as data. -/
def ofOutlines : List Text.Outline → List Value
  | [] => []
  | item :: rest => ofOutline item :: ofOutlines rest

/-- The entries of an outline as data. -/
def ofOutlineEntries : List (String × Text.Outline) → List (Scalar × Value)
  | [] => []
  | (key, value) :: rest => (.text key, ofOutline value) :: ofOutlineEntries rest

end

@[simp]
theorem ofOutline_text (content : String) : ofOutline (.text content) = ofText content := by
  rw [ofOutline]

@[simp]
theorem ofOutlines_eq_map (items : List Text.Outline) :
    ofOutlines items = items.map ofOutline := by
  induction items with
  | nil => rw [ofOutlines, List.map_nil]
  | cons item rest inductionHypothesis => rw [ofOutlines, inductionHypothesis, List.map_cons]

@[simp]
theorem ofOutlineEntries_eq_map (entries : List (String × Text.Outline)) :
    ofOutlineEntries entries = entries.map fun entry => (.text entry.1, ofOutline entry.2) := by
  induction entries with
  | nil => rw [ofOutlineEntries, List.map_nil]
  | cons entry rest inductionHypothesis =>
      rw [ofOutlineEntries, inductionHypothesis, List.map_cons]

@[simp]
theorem ofOutline_list (items : List Text.Outline) :
    ofOutline (.list items) = .list (items.map ofOutline) := by
  rw [ofOutline, ofOutlines_eq_map]

@[simp]
theorem ofOutline_map (entries : List (String × Text.Outline)) :
    ofOutline (.map entries) =
      .map (entries.map fun entry => (.text entry.1, ofOutline entry.2)) := by
  rw [ofOutline, ofOutlineEntries_eq_map]

/-- Void data count as missing: void scalars, and lists, sets and maps that hold
nothing. -/
def isVoid : Value → Bool
  | .scalar datum => datum.isVoid
  | .list items => items.isEmpty
  | .set members => members.isEmpty
  | .map entries => entries.isEmpty
  | .pair _ _ => false
  | .shared _ => false

/-- The value under a key. -/
def entry? (entries : Table Scalar Value) (name : String) : Option Value :=
  entries.get? (.text name)

/-- The word for the kind of data, as messages use it. -/
def kindName : Value → String
  | .scalar datum => datum.kindName
  | .list _ => "list"
  | .pair _ _ => "tuple"
  | .set _ => "set"
  | .map _ => "dict"
  | .shared _ => "object"

/-- The words that data write into the brackets of another kind of data. -/
def bracketed (opening closing : String) (texts : List String) : String :=
  opening ++ String.intercalate ", " texts ++ closing

/-- What is written for data of a kind inside themselves. -/
def ellipsis : Value → String
  | .map _ => bracketed "\x7b" "\x7d" ["..."]
  | .pair _ _ => bracketed "(" ")" ["..."]
  | _ => bracketed "[" "]" ["..."]

/-- The text of data inside other data, of which the parts are written in a given way. -/
def textWith (write : Value → Except TextFault String) : Value → Except TextFault String
  | .scalar datum => datum.quotedText
  | .list items => (items.mapM write).map (bracketed "[" "]")
  | .pair first second => ([first, second].mapM write).map (bracketed "(" ")")
  | .set members =>
      if members.isEmpty then .ok "set()"
      else (members.mapM fun member => write (.scalar member)).map (bracketed "\x7b" "\x7d")
  | .map entries =>
      (entries.mapM fun (key, value) => do
        let name ← write (.scalar key)
        let text ← write value
        pure (name ++ ": " ++ text)).map (bracketed "\x7b" "\x7d")
  | .shared label => .ok (Value.shared label).ellipsis

end Value

/-- Data with what is kept under labels; no label stands for another one. -/
structure Data where
  root : Value
  labelled : Array Value
  deriving Repr

namespace Data

/-- Data without labels. -/
def ofValue (value : Value) : Data :=
  ⟨value, #[]⟩

/-- The data without fields. -/
def empty : Data :=
  .ofValue (.map [])

/-- What is kept under a label. -/
def under (data : Data) (label : Nat) : Value :=
  data.labelled.getD label .null

/-- What a value stands for, which is no label. -/
def content (data : Data) : Value → Value
  | .shared label => data.under label
  | value => value

/-- The text of a value inside the data of some labels, if at most so many data lie inside
each other; each of them takes a call inside the call for what holds it. -/
def quotedText (data : Data) : Nat → List Nat → Value → Except TextFault String
  | 0, _, _ => .error .tooDeep
  | levels + 1, around, .shared label =>
      if around.contains label then .ok (data.under label).ellipsis
      else (data.under label).textWith (data.quotedText levels (label :: around))
  | levels + 1, around, value => value.textWith (data.quotedText levels around)

/-- So many data may lie inside each other where a text is made of them: no more than a
thousand calls are open at once, and about fifteen are when a policy file is read. -/
def deepest : Nat :=
  1000 - 15

/-- The text that a value stands for; only a text by itself is not quoted. -/
def text (data : Data) : Value → Except TextFault String
  | .scalar datum => datum.plainText
  | other => data.quotedText deepest [] other

@[simp]
theorem content_scalar (data : Data) (datum : Scalar) :
    data.content (.scalar datum) = .scalar datum :=
  rfl

@[simp]
theorem content_list (data : Data) (items : List Value) :
    data.content (.list items) = .list items :=
  rfl

@[simp]
theorem content_map (data : Data) (entries : List (Scalar × Value)) :
    data.content (.map entries) = .map entries :=
  rfl

end Data

end PathPolicy
