import Flowchart.Checked
import Flowchart.Json.Display
import Flowchart.Json.Writer

/-! Objects given as lists of pairs of a key and a value. -/

namespace Flowchart

/-- Why a value is no list of pairs. -/
inductive PairsFault where
  /-- It, or one of its entries, cannot be gone through, or a key is a list or an object. -/
  | wrongKind
  /-- An entry has another length than two. -/
  | notPair (position length : Nat)
deriving DecidableEq

/-- The wording of an entry that is no pair. -/
def notPairMessage (position length : Nat) : String :=
  "dictionary update sequence element #" ++ toString position ++ " has length " ++
    toString length ++ "; 2 is required"

/-- The wording of a fault. -/
def PairsFault.message : PairsFault → String
  | wrongKind => "Not a list of pairs"
  | notPair position length => notPairMessage position length

/-- The key and value of one entry of a list of pairs. -/
def pairOf {V : Type} [Readable V] (position : Nat) (entry : V) : Except PairsFault (V × V) :=
  match Readable.items? entry with
  | some [key, value] => if Readable.isFixed key then .ok (key, value) else .error .wrongKind
  | some items => .error (.notPair position items.length)
  | none => .error .wrongKind

/-- The pairs of a list of pairs; the first fault ends the reading. -/
def pairsOf {V : Type} [Readable V] (value : V) : Except PairsFault (List (V × V)) :=
  match Readable.items? value with
  | some entries => (entries.mapIdx pairOf).mapM id
  | none => .error .wrongKind

namespace Json

/-- Puts a value under a key: in the place of the old one, or else at the end. -/
def setPair : List (Json × Json) → Json → Json → List (Json × Json)
  | [], key, value => [(key, value)]
  | (k, v) :: rest, key, value =>
    if k.isSame key then (k, value) :: rest else (k, v) :: setPair rest key value

/-- The text that a key is written as. -/
def keyText : Json → String
  | .str text => text
  | key => key.compact

/-- The step to the member under a key that is no text; a text is a key as it should be. -/
def oddStep? (key : Json) : Option PathStep :=
  match key, key.number? with
  | .str _, _ => none
  | _, some (.int value) => some (.ofWhole value)
  | key, _ => some (.key key.inspect)

/-- The pairs of an object, or of a list of pairs. A key that comes again takes the later value
in the earlier place. -/
def dictionaryPairs : Json → Except PairsFault (List (Json × Json))
  | .obj members => .ok (members.map fun (key, value) => (.str key, value))
  | value => do
    return (← pairsOf value).foldl (fun pairs pair => setPair pairs pair.1 pair.2) []

/-- The members of an object, or of a list of pairs. -/
def dictionary (value : Json) : Except PairsFault Members :=
  value.dictionaryPairs.map fun pairs => pairs.map fun pair => (pair.1.keyText, pair.2)

end Json

end Flowchart
