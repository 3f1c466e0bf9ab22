import PathPolicy.Yaml.Node

/-!
# Merge keys

A merge key brings the pairs of other mappings into its own: of one mapping, or of the
mappings in a sequence, of which an earlier one comes later.  What is brought in stands
in front of the other pairs, so that these have the last word.  A mapping that is
brought in has its own merge keys replaced before.
-/

namespace PathPolicy.Yaml.Graph

/-- Changes the nodes of a document or fails. -/
abbrev Editor := StateT (Array Node) (Except Fault)

/-- The tag of a node. -/
def tagOf (nodes : Array Node) (number : Nat) : Tag :=
  (nodes[number]?.map Node.tag).getD .unknown

/-- The pairs of a node, if it is a mapping. -/
def pairsOf? (nodes : Array Node) (number : Nat) : Option (List (Nat × Nat)) :=
  match nodes[number]? with
  | some ⟨_, .mapping pairs⟩ => some pairs
  | _ => none

/-- The nodes with other pairs in a mapping. -/
def setPairs (nodes : Array Node) (number : Nat) (pairs : List (Nat × Nat)) : Array Node :=
  nodes.modify number fun node => { node with content := .mapping pairs }

/-- The nodes with the equals sign as a text where it is a key among some pairs. -/
def nameDefaults (nodes : Array Node) (pairs : List (Nat × Nat)) : Array Node :=
  pairs.foldl
    (fun nodes pair =>
      if tagOf nodes pair.1 = .default then
        nodes.modify pair.1 fun node => { node with tag := .text }
      else nodes)
    nodes

/-- The value of the first merge key of some pairs, and the pairs without it. -/
def firstMerge? (nodes : Array Node) (pairs : List (Nat × Nat)) :
    Option (Nat × List (Nat × Nat)) :=
  let isMerge := fun pair : Nat × Nat => tagOf nodes pair.1 = .merge
  (pairs.find? fun pair => isMerge pair).map fun found =>
    (found.2, pairs.eraseP fun pair => isMerge pair)

/-- So many mappings may be looked into for one of them, each from inside the one before: no
more than a thousand calls are open at once, each takes one, and about twenty are open around
them. -/
def longestWay : Nat :=
  1000 - 20

mutual

/-- Replaces the merge keys of a mapping, which so many others bring in, by what they bring
in, behind what was brought in before. -/
def replaceMerges (number : Nat) (merged : List (Nat × Nat)) (depth : Nat) : Nat → Editor Unit
  | 0 => throw .malformed
  | steps + 1 => do
      let nodes ← get
      let pairs := (pairsOf? nodes number).getD []
      match firstMerge? nodes pairs with
      | some (value, others) =>
          set (setPairs nodes number others)
          let brought ← bring value (depth + 1) steps
          replaceMerges number (merged ++ brought) depth steps
      | none => set (nameDefaults (setPairs nodes number (merged ++ pairs)) pairs)
termination_by structural steps => steps

/-- The pairs that the value of a merge key brings in. -/
def bring (value depth : Nat) : Nat → Editor (List (Nat × Nat))
  | 0 => throw .malformed
  | steps + 1 => do
      match (← get)[value]? with
      | some ⟨_, .mapping _⟩ => bringMapping value depth steps
      | some ⟨_, .sequence items⟩ => bringItems items depth steps
      | _ => throw .malformed
termination_by structural steps => steps

/-- The pairs of a mapping without merge keys. -/
def bringMapping (value depth : Nat) : Nat → Editor (List (Nat × Nat))
  | 0 => throw .malformed
  | steps + 1 => do
      if (pairsOf? (← get) value).isNone then throw .malformed
      if longestWay < depth then throw .tooDeep
      replaceMerges value [] depth steps
      return (pairsOf? (← get) value).getD []
termination_by structural steps => steps

/-- The pairs of some mappings, those of an earlier one behind those of a later one. -/
def bringItems (items : List Nat) (depth : Nat) : Nat → Editor (List (Nat × Nat))
  | 0 => throw .malformed
  | steps + 1 => do
      match items with
      | [] => pure []
      | item :: rest =>
          let own ← bringMapping item depth steps
          let later ← bringItems rest depth steps
          return later ++ own
termination_by structural steps => steps

end

/-- How many steps it takes at most to replace merge keys: each of them is taken away
before its value is looked at, which takes a few steps and one for each item. -/
def mergeSteps (nodes : Array Node) : Nat :=
  let (items, pairs) := nodes.foldl
    (fun (items, pairs) node =>
      match node.content with
      | .scalar _ => (items, pairs)
      | .sequence members => (items + members.length, pairs)
      | .mapping members => (items, pairs + members.length))
    (0, 0)
  (items + 4) * (pairs + 1)

end PathPolicy.Yaml.Graph
