/-! Tags, which say what kinds of values nodes stand for. -/

namespace Flowchart

namespace Yaml

/-- The kinds of values that nodes stand for. -/
inductive Tag where
  | null
  | flag
  | whole
  | double
  | binary
  | moment
  | text
  | list
  /-- A list of pairs, written as objects of one member each. -/
  | pairs
  | set
  | object
  /-- A key under which an object takes members from elsewhere. -/
  | merge
  /-- A key under which an object holds the scalar that it stands for. -/
  | fallback
  /-- No value has the tag. -/
  | other
deriving DecidableEq, Inhabited

namespace Tag

/-- What standard tags start with. -/
def standardStart : String := "tag:yaml.org,2002:"

/-- The ends of the standard tags. -/
def standard : List (String × Tag) :=
  [("null", null), ("bool", flag), ("int", whole), ("float", double), ("binary", binary),
    ("timestamp", moment), ("str", text), ("seq", list), ("omap", pairs), ("pairs", pairs),
    ("set", set), ("map", object), ("merge", merge), ("value", fallback)]

/-- The tag of a name in full. -/
def ofName (name : String) : Tag :=
  match standard.find? fun entry => standardStart ++ entry.1 == name with
  | some (_, tag) => tag
  | none => other

end Tag

end Yaml

end Flowchart
