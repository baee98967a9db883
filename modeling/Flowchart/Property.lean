import Flowchart.Operator
import Flowchart.Pairs

/-! Properties that conditions can be about, brought to the types known here. -/

namespace Flowchart

/-- A property of the process, with the name of its type before it was sorted into one of ours. -/
structure Property where
  id : String
  label : String
  type : PropertyType
  foreignType : Option String
deriving DecidableEq, Inhabited

namespace Property

/-- Why a value is no property. -/
inductive Fault where
  /-- It is neither an object nor a list of pairs. -/
  | notPairs (fault : PairsFault)
  /-- It has no id. -/
  | missingId
  /-- The name of its type is neither a text nor blank. -/
  | typeNotText
  /-- The name of its type is given in bytes. -/
  | typeInBytes
  | invalid (issues : List Issue)
deriving DecidableEq

/-- The wording of a fault. -/
def Fault.message : Fault → String
  | notPairs fault => fault.message
  | missingId => "A property has no id"
  | typeNotText => "The type of a property is not a text"
  | typeInBytes => "The type of a property is not a text"
  | invalid issues => describeIssues issues

/-- A property as a value. -/
def toJson (property : Property) : Json :=
  .obj [("id", .str property.id), ("label", .str property.label),
    ("type", .str property.type.name), ("original_type", .ofText? property.foreignType)]

/-- The type that a foreign type stands for; a blank one is a string. -/
def typeOf {V : Type} [Readable V] (foreign : V) : Except Fault PropertyType :=
  if Readable.isTruthy foreign then
    match Readable.view foreign with
    | .text name => .ok (.ofForeign name)
    | .bytes _ => .error .typeInBytes
    | _ => .error .typeNotText
  else .ok .string

/-- The name of a type as given elsewhere. One that was kept from an earlier sorting comes first,
unless it is blank. -/
def foreignTypeOf {V : Type} [Readable V] (get : String → Option V) : Option V :=
  match get "original_type" with
  | some kept => if Readable.isTruthy kept then some kept else get "type"
  | none => get "type"

/-- A property from the values under its names. Its label is its id when none is given. -/
def ofFields {V : Type} [Readable V] (get : String → Option V) : Except Fault Property :=
  match get "id" with
  | none => .error .missingId
  | some id => do
    let foreign := foreignTypeOf get
    let type ← match foreign with
      | some foreign => typeOf foreign
      | none => .ok .string
    -- The id is copied before it is checked, so both are faulted alike.
    let label := (get "label").getD id
    let checked :=
      Checked.build (fun id label foreignType => Property.mk id label type foreignType)
        |> Checked.part (Shape.required Shape.text ⟨"id", some id⟩)
        |> Checked.part (Shape.required Shape.text ⟨"label", some label⟩)
        |> Checked.part
            (Shape.withDefault (Shape.optional Shape.text) none ⟨"original_type", foreign⟩)
    checked.mapError .invalid

/-- The value under a name in a list of pairs; of several the last one counts. -/
def lookupPair {V : Type} [Readable V] (pairs : List (V × V)) (name : String) : Option V :=
  (pairs.reverse.find? fun (key, _) =>
    match Readable.view key with
    | .text text => text == name
    | _ => false).map Prod.snd

/-- A property from a value: an object, or a list of pairs. -/
def ofValue {V : Type} [Readable V] (value : V) : Except Fault Property :=
  match Readable.view value with
  | .object get _ => ofFields get
  | _ => do
    let pairs ← (pairsOf value).mapError .notPairs
    ofFields (lookupPair pairs)

/-- Properties from a list of values; the first fault ends the reading. -/
def normalize {V : Type} [Readable V] (raw : List V) : Except Fault (List Property) :=
  raw.mapM ofValue

/-- The first property with an id. -/
def find? (properties : List Property) (id : String) : Option Property :=
  properties.find? fun property => property.id == id

end Property

end Flowchart
