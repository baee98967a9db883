import Flowchart.Yaml.Node

/-! Merge keys, under which an object takes members from other objects. Merging changes the nodes,
so an object that was merged once has no merge keys any more. -/

namespace Flowchart

namespace Yaml

namespace Node

/-- The members of an object; any other node has none. -/
def members : Node → List (Nat × Nat)
  | object _ members => members
  | _ => []

/-- Whether a node is an object. -/
def isObject : Node → Bool
  | object _ _ => true
  | _ => false

/-- An object with other members. -/
def withMembers (members : List (Nat × Nat)) : Node → Node
  | object tag _ => .object tag members
  | node => node

/-- A node with another tag. -/
def withTag (tag : Tag) : Node → Node
  | scalar _ text => .scalar tag text
  | list _ items => .list tag items
  | object _ members => .object tag members

end Node

/-- The node of a number. -/
def nodeAt (nodes : Array Node) (number : Nat) : Node := nodes.getD number Node.missing

/-- Gives a key that stands for a scalar the tag of a text. -/
def plainKey (nodes : Array Node) (key : Nat) : Array Node :=
  if (nodeAt nodes key).tag = .fallback then nodes.modify key (Node.withTag .text) else nodes

/-- The objects that a node under a merge key stands for: itself, or the items of a list. -/
def mergeSources? (nodes : Array Node) (number : Nat) : Option (List Nat) :=
  match nodeAt nodes number with
  | .object _ _ => some [number]
  | .list _ items => if items.all fun item => (nodeAt nodes item).isObject then some items else none
  | .scalar _ _ => none

/-- Merges into an object, given the members taken from elsewhere so far. What is taken comes before
the members of the object itself. The fuel bounds the merge keys of the document. -/
def mergeFrom : (fuel : Nat) → (taken : List (Nat × Nat)) → (number : Nat) → Array Node →
    Option (Array Node)
  | 0, _, _, _ => none
  | fuel + 1, taken, number, nodes =>
    let members := (nodeAt nodes number).members
    match members.findIdx? fun (key, _) => (nodeAt nodes key).tag = .merge with
    | none =>
      let nodes := members.foldl (fun nodes (key, _) => plainKey nodes key) nodes
      some (nodes.modify number (Node.withMembers (taken ++ members)))
    | some index => do
      let (_, value) := members.getD index (0, 0)
      -- The key goes before its objects are looked at, since they may lead back here.
      let nodes := nodes.modify number (Node.withMembers (members.eraseIdx index))
      let sources ← mergeSources? nodes value
      let (nodes, gained) ← sources.foldlM (fun (nodes, gained) source => do
        let nodes ← mergeFrom fuel [] source nodes
        return (nodes, (nodeAt nodes source).members :: gained)) (nodes, [])
      -- An earlier object counts more, so its members come last.
      mergeFrom fuel (taken ++ gained.flatten) number nodes

/-- How many members all objects have together. -/
def memberCount (nodes : Array Node) : Nat :=
  nodes.foldl (fun count node => count + node.members.length) 0

end Yaml

end Flowchart
