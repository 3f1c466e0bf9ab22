import PathPolicy.Yaml.Tag
import PathPolicy.Yaml.Token

/-!
# Nodes

The tokens of a stream with one document form a graph of nodes: scalars, sequences
and mappings, each with a tag.  An anchor gives a node a name under which it stands
again, also inside itself; a name is given once.  Where a node may be missing an
empty plain scalar stands.
-/

namespace PathPolicy.Yaml

/-- What a node consists of; other nodes are named by their numbers. -/
inductive Content
  | scalar (characters : List Char)
  | sequence (items : List Nat)
  | mapping (pairs : List (Nat × Nat))
  deriving DecidableEq, Repr, Inhabited

/-- A node of a document. -/
structure Node where
  tag : Tag
  content : Content
  deriving DecidableEq, Repr

/-- The nodes of a document by their numbers, and the number of the outermost one. -/
structure Graph where
  nodes : Array Node
  root : Nat
  deriving DecidableEq, Repr

namespace Graph

/-- The tokens to come, the nodes that have a name, and the nodes so far. -/
structure State where
  lexer : Lexer
  anchors : Table String Nat
  nodes : Array Node

/-- Reads from the tokens or fails. -/
abbrev Reader := StateT State (Except Fault)

/-- Handles of tags with what they stand for. -/
abbrev Handles := Table String String

/-- The handles that every document knows. -/
def standardHandles : Handles :=
  [("!", "!"), ("!!", Tag.standardStart)]

/-- The stream is not well formed. -/
def fail {α : Type} : Reader α :=
  throw .malformed

/-- The next token. -/
def peek : Reader Token := do
  let ⟨unsettled, anchors, nodes⟩ ← get
  let lexer ← unsettled.settle
  set (State.mk lexer anchors nodes)
  pure lexer.head

/-- Passes over the next token. -/
def pass : Reader Unit :=
  modify fun state => { state with lexer := state.lexer.pass }

/-- Whether the next token is one of some tokens. -/
def stands (tokens : List Token) : Reader Bool := do
  return tokens.contains (← peek)

/-- Passes over the next token if it is a given one, and says whether it was. -/
def passIf (token : Token) : Reader Bool := do
  if (← peek) = token then
    pass
    pure true
  else pure false

/-- Where a node stands: whether blocks may stand there, and whether the items of a
sequence may stand there without a block of their own. -/
structure Place where
  block : Bool
  indentless : Bool

/-- Inside a flow collection. -/
def Place.flow : Place := ⟨false, false⟩

/-- Behind a hyphen, or as a document. -/
def Place.block_ : Place := ⟨true, false⟩

/-- As a key or a value of a block mapping. -/
def Place.pair : Place := ⟨true, true⟩

/-- What is known inside a collection: the handles of tags, and in how many collections a
node lies. -/
structure Scope where
  handles : Handles
  depth : Nat

/-- The outermost scope. -/
def Scope.outermost (handles : Handles) : Scope :=
  ⟨handles, 0⟩

/-- The scope of what lies in a collection. -/
def Scope.inside (scope : Scope) : Scope :=
  { scope with depth := scope.depth + 1 }

/-- The anchor and the tag of a node, both or one of them or none; a tag by its full
name. -/
structure Properties where
  anchor : Option String
  tag : Option String

/-- The anchor that stands next, if one does. -/
def readAnchorName : Reader (Option String) := do
  match ← peek with
  | .anchor name =>
      pass
      pure (some name)
  | _ => pure none

/-- The tag that stands next, if one does. -/
def readWrittenTag : Reader (Option WrittenTag) := do
  match ← peek with
  | .tag tag =>
      pass
      pure (some tag)
  | _ => pure none

/-- The full name that a written tag stands for. -/
def resolve (handles : Handles) : Option WrittenTag → Reader (Option String)
  | none => pure none
  | some ⟨none, suffix⟩ => pure (some suffix)
  | some ⟨some handle, suffix⟩ =>
      match handles.get? handle with
      | some start => pure (some (start ++ suffix))
      | none => fail

/-- The properties of a node, in any order. -/
def readProperties (handles : Handles) : Reader Properties := do
  match ← readAnchorName with
  | some name => return ⟨some name, ← resolve handles (← readWrittenTag)⟩
  | none =>
      match ← readWrittenTag with
      | some tag =>
          let anchor ← readAnchorName
          return ⟨anchor, ← resolve handles (some tag)⟩
      | none => pure ⟨none, none⟩

/-- A lone exclamation mark leaves the tag open. -/
def isOpen (tag : Option String) : Bool :=
  tag == none || tag == some "!"

/-- The tag of a collection whose tag may be open. -/
def collectionTag (tag : Option String) (open_ : Tag) : Tag :=
  if isOpen tag then open_ else (tag.map Tag.ofName).getD open_

/-- The tag of a scalar.  A plain one without a tag has the tag of its characters, and so
has each one with a lone exclamation mark. -/
def scalarTag (tag : Option String) (plain : Bool) (characters : List Char) : Tag :=
  match tag with
  | none => if plain then .ofPlain characters else .text
  | some name => if name = "!" then .ofPlain characters else .ofName name

/-- Adds a node, perhaps under a name, which must be new. -/
def add (anchor : Option String) (node : Node) : Reader Nat := do
  let state ← get
  let number := state.nodes.size
  let anchors ←
    match anchor with
    | none => pure state.anchors
    | some name =>
        if (state.anchors.get? name).isSome then fail
        else pure (state.anchors.put name number)
  set { state with anchors, nodes := state.nodes.push node }
  pure number

/-- Adds the node that stands where one is missing. -/
def addAbsent : Reader Nat :=
  add none ⟨.ofPlain [], .scalar []⟩

/-- So many collections may lie inside each other: no more than a thousand calls are open at
once, a collection takes two, and about twenty-six are open around them when a policy file is
read. -/
def deepest : Nat :=
  (1000 - 26) / 2

/-- Adds a collection and fills it with what is read in its scope. -/
def addCollection (anchor : Option String) (tag : Tag) (scope : Scope) (empty : Content)
    (read : Reader Content) : Reader Nat := do
  let number ← add anchor ⟨tag, empty⟩
  if deepest < scope.depth then throw .tooDeep
  let content ← read
  modify fun state => { state with nodes := state.nodes.setIfInBounds number ⟨tag, content⟩ }
  pure number

mutual

/-- Reads a node at a place. -/
def readNode (scope : Scope) (place : Place) : Nat → Reader Nat
  | 0 => fail
  | steps + 1 => do
      match ← peek with
      | .alias name =>
          pass
          match (← get).anchors.get? name with
          | some number => pure number
          | none => fail
      | _ =>
          let properties ← readProperties scope.handles
          readContent scope.inside place properties steps

/-- Reads a node behind its properties. -/
def readContent (scope : Scope) (place : Place) (properties : Properties) :
    Nat → Reader Nat
  | 0 => fail
  | steps + 1 => do
      let anchor := properties.anchor
      let tag := properties.tag
      let addSequence := fun items : Reader (List Nat) =>
        addCollection anchor (collectionTag tag .sequence) scope (.sequence [])
          (.sequence <$> items)
      let addMapping := fun pairs : Reader (List (Nat × Nat)) =>
        addCollection anchor (collectionTag tag .mapping) scope (.mapping []) (.mapping <$> pairs)
      match ← peek with
      | .scalar characters plain =>
          pass
          add anchor ⟨scalarTag tag plain characters, .scalar characters⟩
      | .flowSequenceStart => addSequence (pass *> readFlowItems scope true steps)
      | .flowMappingStart => addMapping (pass *> readFlowPairs scope true steps)
      | next =>
          if next = .blockEntry ∧ place.indentless then
            addSequence (readBlockItems scope false steps)
          else if next = .blockSequenceStart ∧ place.block then
            addSequence (pass *> readBlockItems scope true steps)
          else if next = .blockMappingStart ∧ place.block then
            addMapping (pass *> readBlockPairs scope steps)
          else if anchor.isSome || tag.isSome then
            add anchor ⟨scalarTag tag true [], .scalar []⟩
          else fail

/-- Reads the items of a sequence with hyphens; one with a block of its own ends with
that block. -/
def readBlockItems (scope : Scope) (enclosed : Bool) :
    Nat → Reader (List Nat)
  | 0 => fail
  | steps + 1 => do
      if ← passIf .blockEntry then
        let enders := if enclosed then [.blockEntry, .blockEnd]
          else [.blockEntry, .key, .value, .blockEnd]
        let item ← if ← stands enders then addAbsent else readNode scope .block_ steps
        return item :: (← readBlockItems scope enclosed steps)
      else if enclosed then
        if ← passIf .blockEnd then pure [] else fail
      else pure []

/-- Reads the pairs of a block mapping. -/
def readBlockPairs (scope : Scope) : Nat → Reader (List (Nat × Nat))
  | 0 => fail
  | steps + 1 => do
      let enders := [Token.key, .value, .blockEnd]
      if ← passIf .key then
        let key ← if ← stands enders then addAbsent else readNode scope .pair steps
        let value ←
          if ← passIf .value then
            if ← stands enders then addAbsent else readNode scope .pair steps
          else addAbsent
        return (key, value) :: (← readBlockPairs scope steps)
      else if ← passIf .blockEnd then pure []
      else fail

/-- Reads the items of a flow sequence; an item may be a single pair. -/
def readFlowItems (scope : Scope) (first : Bool) : Nat → Reader (List Nat)
  | 0 => fail
  | steps + 1 => do
      if ← passIf .flowSequenceEnd then pure []
      else
        if !first then
          if !(← passIf .flowEntry) then fail
        if ← stands [.key] then
          let item ← addCollection none .mapping scope.inside (.mapping []) (do
            pass
            let key ←
              if ← stands [.value, .flowEntry, .flowSequenceEnd] then addAbsent
              else readNode scope.inside .flow steps
            let value ← readFlowValue scope.inside .flowSequenceEnd steps
            pure (.mapping [(key, value)]))
          return item :: (← readFlowItems scope false steps)
        else if ← passIf .flowSequenceEnd then pure []
        else
          let item ← readNode scope .flow steps
          return item :: (← readFlowItems scope false steps)

/-- Reads the value of a pair in a flow collection that a token closes. -/
def readFlowValue (scope : Scope) (closer : Token) : Nat → Reader Nat
  | 0 => fail
  | steps + 1 => do
      if ← passIf .value then
        if ← stands [.flowEntry, closer] then addAbsent else readNode scope .flow steps
      else addAbsent

/-- Reads the pairs of a flow mapping; a node by itself is a key without a value. -/
def readFlowPairs (scope : Scope) (first : Bool) :
    Nat → Reader (List (Nat × Nat))
  | 0 => fail
  | steps + 1 => do
      if ← passIf .flowMappingEnd then pure []
      else
        if !first then
          if !(← passIf .flowEntry) then fail
        if ← passIf .key then
          let key ←
            if ← stands [.value, .flowEntry, .flowMappingEnd] then addAbsent
            else readNode scope .flow steps
          let value ← readFlowValue scope .flowMappingEnd steps
          return (key, value) :: (← readFlowPairs scope false steps)
        else if ← passIf .flowMappingEnd then pure []
        else
          let key ← readNode scope .flow steps
          let value ← addAbsent
          return (key, value) :: (← readFlowPairs scope false steps)

end

/-- Reads the directives in front of a document: at most one version, which must be of
the first generation, and handles that differ. -/
def readDirectives (versionSeen : Bool) (handles : Handles) : Nat → Reader Handles
  | 0 => fail
  | steps + 1 => do
      match ← peek with
      | .directive directive =>
          pass
          match directive with
          | .other => readDirectives versionSeen handles steps
          | .version major =>
              if versionSeen || major != 1 then fail else readDirectives true handles steps
          | .tag handle start =>
              if (handles.get? handle).isSome then fail
              else readDirectives versionSeen (handles.put handle start) steps
      | _ => pure handles

/-- The handles of a document: the standard ones as far as it does not define them. -/
def handlesWith (own : Handles) : Handles :=
  standardHandles.foldl
    (fun handles pair => if (handles.get? pair.1).isSome then handles else handles.put pair.1 pair.2)
    own

/-- Passes over the marks that end a document. -/
def passEnds : Nat → Reader Unit
  | 0 => fail
  | steps + 1 => do
      if ← passIf .documentEnd then passEnds steps

/-- Reads the node behind the start of a document, which may be missing. -/
def readRoot (handles : Handles) (steps : Nat) : Reader Nat := do
  match ← peek with
  | .directive _ | .documentStart | .documentEnd | .streamEnd => addAbsent
  | _ => readNode (.outermost handles) .block_ steps

/-- Reads the node of the only document of a stream, if there is one.  The directives of
another document are read before it is refused. -/
def readStream (steps : Nat) : Reader (Option Nat) := do
  let finish := fun root : Nat => do
    passEnds steps
    if ← stands [.streamEnd] then pure (some root)
    else
      let _ ← readDirectives false [] steps
      fail
  match ← peek with
  | .streamEnd => pure none
  | .directive _ | .documentStart =>
      let own ← readDirectives false [] steps
      if ← passIf .documentStart then finish (← readRoot (handlesWith own) steps)
      else fail
  | _ => finish (← readNode (.outermost standardHandles) .block_ steps)

/-- The nodes of the only document of a stream, if there is one.  No character makes more
than four tokens, and no token takes more than three steps. -/
def ofSource (source : Source) : Except Fault (Option Graph) := do
  let steps := 16 * (source.characters.length + 1)
  let (root?, state) ← (readStream steps).run ⟨.start source, [], #[]⟩
  pure (root?.map fun root => ⟨state.nodes, root⟩)

end Graph

end PathPolicy.Yaml
