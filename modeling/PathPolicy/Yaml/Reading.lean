import PathPolicy.Yaml.Datum
import PathPolicy.Yaml.Merge

/-!
# Data from a stream

A stream with one document stands for data.  Scalars are read as their tags say, and
each collection is kept under the number of its node, so that it may stand at several
places and inside itself.  The outermost collection is filled first, and one that is
met on the way after those that were met before.
-/

namespace PathPolicy.Yaml

namespace Graph

/-- The state of the work: the nodes, how many steps replacing merge keys may take, what
was made of the nodes and pairs behind them, and the collections that have been met. -/
structure Work where
  nodes : Array Node
  steps : Nat
  built : Array (Option Value)
  met : Array Nat

/-- Makes data of nodes or fails. -/
abbrev Builder := StateT Work (Except Fault)

/-- The characters that a node stands for where a scalar is expected: a mapping stands for
the value under its equals sign, through at most so many of them. -/
def charactersOf (nodes : Array Node) : Nat → Nat → Except Fault (List Char)
  | 0, _ => .error .tooDeep
  | steps + 1, number =>
      match nodes[number]? with
      | some ⟨_, .scalar characters⟩ => .ok characters
      | some ⟨_, .mapping pairs⟩ =>
          match pairs.find? fun pair => tagOf nodes pair.1 == .default with
          | some (_, value) => charactersOf nodes steps value
          | none => .error .malformed
      | _ => .error .malformed

/-- The characters of a node where a scalar is expected. -/
def scalarCharacters (nodes : Array Node) (number : Nat) : Except Fault (List Char) :=
  charactersOf nodes longestWay number

/-- The empty collection of a tag, if it is the tag of a collection. -/
def emptyOf? : Tag → Option Value
  | .sequence => some (.list [])
  | .orderedMapping => some (.list [])
  | .pairs => some (.list [])
  | .mapping => some (.map [])
  | .set => some (.set [])
  | _ => none

/-- The datum of a node with the tag of a scalar.  A time is looked for in a node of its
own. -/
def scalarOf (nodes : Array Node) (number : Nat) : Except Fault Scalar := do
  let tag := tagOf nodes number
  if tag = .merge ∨ tag = .default ∨ tag = .unknown then throw .malformed
  let characters ← scalarCharacters nodes number
  if tag = .timestamp ∧ (pairsOf? nodes number).isSome then throw .noText
  datumOf tag characters

/-- The value of a node.  A collection is only met, and filled later. -/
def valueOf (number : Nat) : Builder Value := do
  let work ← get
  match work.built[number]?.join with
  | some (.scalar datum) => pure (.scalar datum)
  | some _ => pure (.shared number)
  | none =>
      match emptyOf? (tagOf work.nodes number) with
      | some empty =>
          set { work with
            built := work.built.setIfInBounds number (some empty)
            met := work.met.push number }
          pure (.shared number)
      | none =>
          let datum ← scalarOf work.nodes number
          set { work with built := work.built.setIfInBounds number (some (.scalar datum)) }
          pure (.scalar datum)

/-- A key of a mapping.  What is no number equals nothing, but is the same key where it
comes from the same source. -/
structure Key where
  datum : Scalar
  source : Option Nat

instance : BEq Key :=
  ⟨fun left right => left.datum == right.datum ||
    (left.source.isSome && left.source == right.source)⟩

/-- The source of what is no number: the word for it, or the node. -/
def sourceOf (nodes : Array Node) (number : Nat) : Scalar → Option Nat
  | .real .nan =>
      match scalarCharacters nodes number with
      | .ok characters => some (if isNotANumber characters then 0 else number + 1)
      | .error _ => none
  | _ => none

/-- The key that a node stands for, which must be a scalar. -/
def keyOf (number : Nat) : Builder Key := do
  match ← valueOf number with
  | .scalar datum => return ⟨datum, sourceOf (← get).nodes number datum⟩
  | _ => throw .malformed

/-- The entries of some pairs: a repeated key keeps its place and takes its last value. -/
def entriesOf (pairs : List (Nat × Nat)) : Builder (Table Key Value) :=
  pairs.foldlM
    (fun table pair => do
      let key ← keyOf pair.1
      let value ← valueOf pair.2
      pure (table.put key value))
    []

/-- The entries of a mapping, whose merge keys are replaced before. -/
def mappingEntries (number : Nat) : Builder (Table Key Value) := do
  let work ← get
  if (pairsOf? work.nodes number).isNone then throw .malformed
  let ((), nodes) ← (replaceMerges number [] 0 work.steps).run work.nodes
  set { work with nodes }
  entriesOf ((pairsOf? nodes number).getD [])

/-- The items of a sequence. -/
def itemsOf (number : Nat) : Builder (List Nat) := do
  match (← get).nodes[number]? with
  | some ⟨_, .sequence items⟩ => pure items
  | _ => throw .malformed

/-- A pair under a number of its own, which is the number of no node. -/
def addPair (first second : Value) : Builder Value :=
  modifyGet fun work =>
    (.shared work.built.size, { work with built := work.built.push (some (.pair first second)) })

/-- The pair in a mapping with one pair. -/
def onlyPair (number : Nat) : Builder Value := do
  match pairsOf? (← get).nodes number with
  | some [(key, value)] =>
      let first ← valueOf key
      let second ← valueOf value
      addPair first second
  | _ => throw .malformed

/-- What a collection holds. -/
def contentOf (number : Nat) : Builder Value := do
  match tagOf (← get).nodes number with
  | .mapping =>
      return .map ((← mappingEntries number).map fun (key, value) => (key.datum, value))
  | .set => return .ofMembers ((← mappingEntries number).map fun entry => entry.1.datum)
  | .sequence => return .list (← (← itemsOf number).mapM valueOf)
  | _ => return .list (← (← itemsOf number).mapM onlyPair)

/-- Fills the collections that are met, from one of them on; at most so many. -/
def fillFrom (next : Nat) : Nat → Builder Unit
  | 0 => pure ()
  | count + 1 => do
      match (← get).met[next]? with
      | none => pure ()
      | some number =>
          let content ← contentOf number
          modify fun work =>
            { work with built := work.built.setIfInBounds number (some content) }
          fillFrom (next + 1) count

/-- The data that the nodes stand for; no collection is filled twice. -/
def toData (graph : Graph) : Except Fault Data := do
  let build : Builder Value := do
    let root ← valueOf graph.root
    fillFrom 0 graph.nodes.size
    pure root
  let nodes := graph.nodes
  let (root, work) ←
    build.run ⟨nodes, mergeSteps nodes, Array.replicate nodes.size none, #[]⟩
  pure ⟨root, work.built.map (·.getD .null)⟩

end Graph

/-- The data of a stream; an empty stream stands for null. -/
def read (bytes : List UInt8) : Except Fault Data := do
  match ← Graph.ofSource (.ofBytes bytes) with
  | some graph => graph.toData
  | none => pure (.ofValue .null)

end PathPolicy.Yaml
