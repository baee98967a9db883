import Flowchart.Proofs.Logic.Steps
import Flowchart.Proofs.Validation

/-! What a complete document has, told of each of its parts without going through them. Nothing is
found lacking exactly in a complete document. In any other the first thing that is lacking is found:
nodes go in document order and their fields in the order of the form, and the start comes last. -/

namespace Flowchart

section First

variable {α : Type}

/-- An item is the first one in a list of which something holds. -/
def IsFirst (holds : α → Prop) (items : List α) (item : α) : Prop :=
  ∃ before after, items = before ++ item :: after ∧ holds item ∧ ∀ earlier ∈ before, ¬ holds earlier

/-- A search ends at the first item that passes its test. -/
theorem find?_eq_some_iff {test : α → Bool} {holds : α → Prop} {items : List α} {item : α}
    (same : ∀ item, test item = true ↔ holds item) :
    items.find? test = some item ↔ IsFirst holds items item := by
  -- The library says the same of tests that compute.
  rw [List.find?_eq_some_iff_append, same]
  simp only [Bool.not_eq_true', ← Bool.not_eq_true, same]
  constructor
  · rintro ⟨held, before, after, split, earlier⟩
    exact ⟨before, after, split, held, earlier⟩
  · rintro ⟨before, after, split, held, earlier⟩
    exact ⟨held, before, after, split, earlier⟩

end First

namespace Json

/-- A value says something: it is there, and it is not the empty text. -/
def SaysSomething (value : Json) : Prop := value ≠ .null ∧ value ≠ .str ""

/-- A value fills in a field: it says something, and it is not the empty list. -/
def FillsIn (value : Json) : Prop := value ≠ .null ∧ value ≠ .str "" ∧ value ≠ .arr []

/-- What is unset says nothing. -/
theorem isUnset_iff {value : Json} : value.isUnset = true ↔ ¬ value.SaysSomething := by
  cases value <;> simp [isUnset, SaysSomething]

/-- What is blank fills in nothing. -/
theorem isBlank_iff {value : Json} : Flowchart.isBlank value = true ↔ ¬ value.FillsIn := by
  cases value <;> simp [Flowchart.isBlank, FillsIn]

end Json

section Conditions

variable (condition : Json.Members) (properties : List Property)

/-- A condition names the id of a property and a comparison. -/
def NamesComparison : Prop :=
  (condition.getOrNull "propertyId").isTruthy = true ∧
    (condition.getOrNull "operator").isTruthy = true

/-- A condition is about a property: the first one with the id that it names. -/
def IsAbout : Property → Prop :=
  IsFirst (fun property => condition.getOrNull "propertyId" = .str property.id) properties

/-- A condition is set: it names a comparison, and the property that it is about is compared with
something, unless it is a flag. -/
structure ConditionSet : Prop where
  names : NamesComparison condition
  value : ∀ property, IsAbout condition properties property → property.type ≠ .boolean →
    (condition.getOrNull "value").SaysSomething

/-- What the user is told to be missing of a condition, the first thing if several are. -/
inductive ConditionLacks : String → Prop where
  /-- It names no comparison. -/
  | comparison (unnamed : ¬ NamesComparison condition) : ConditionLacks "Configure the IF rule."
  /-- It names one, and there is nothing to compare the property with. -/
  | value {property : Property} (names : NamesComparison condition)
    (about : IsAbout condition properties property) (valued : property.type ≠ .boolean)
    (unset : ¬ (condition.getOrNull "value").SaysSomething) :
    ConditionLacks ("Enter a value to compare \"" ++ property.label ++ "\" against.")

variable {condition properties}

/-- The property that is looked up is the one that the condition is about. -/
theorem isAbout_iff {property : Property} :
    (condition.getOrNull "propertyId").text?.bind (Property.find? properties) = some property ↔
      IsAbout condition properties property := by
  cases held : condition.getOrNull "propertyId" with
  | str id =>
    rw [Json.text?, Option.bind_some, Property.find?, IsAbout, held]
    exact find?_eq_some_iff fun property => by rw [beq_iff_eq, Json.str.injEq, eq_comm]
  | _ =>
    -- Only a text is the id of a property.
    simp [Json.text?, IsAbout, IsFirst, held]

/-- A condition that names no comparison is not set. -/
theorem conditionLack?_of_unnamed (unnamed : ¬ NamesComparison condition) :
    conditionLack? condition properties = some .condition := by
  -- Either of the two names may be missing, and the check asks for both at once.
  rw [NamesComparison, not_and_or, Bool.not_eq_true, Bool.not_eq_true] at unnamed
  rw [conditionLack?]
  exact if_pos (by simpa using unnamed)

/-- A condition that names a comparison is looked into with the property that it is about. -/
theorem conditionLack?_of_names (names : NamesComparison condition) {lack : Lack} :
    conditionLack? condition properties = some lack ↔
      ∃ property, IsAbout condition properties property ∧ property.type ≠ .boolean ∧
        ¬ (condition.getOrNull "value").SaysSomething ∧ .comparedValue property.label = lack := by
  simp only [conditionLack?, names.1, names.2, Bool.not_true, Bool.or_false, Bool.false_eq_true,
    if_false, ← isAbout_iff, ← Json.isUnset_iff]
  -- The id may be no property's, and then nothing is compared.
  cases (condition.getOrNull "propertyId").text?.bind (Property.find? properties) with
  | none => simp
  | some property => simp [and_assoc]

/-- No condition at all does not do as one. -/
theorem conditionLack?_nil : conditionLack? [] properties = some .condition := rfl

/-- Of a condition the user is told what is missing of it first. -/
theorem conditionLack?_says {text : String} :
    (∃ lack, conditionLack? condition properties = some lack ∧ lack.message = text) ↔
      ConditionLacks condition properties text := by
  constructor
  · rintro ⟨lack, found, rfl⟩
    -- A value is only asked for once a property and a comparison are named.
    by_cases names : NamesComparison condition
    · obtain ⟨property, about, valued, unset, rfl⟩ := (conditionLack?_of_names names).mp found
      exact .value names about valued unset
    · rw [conditionLack?_of_unnamed names] at found
      cases found
      exact .comparison names
  · intro missing
    cases missing with
    | comparison unnamed => exact ⟨_, conditionLack?_of_unnamed unnamed, rfl⟩
    | value names about valued unset =>
      exact ⟨_, (conditionLack?_of_names names).mpr ⟨_, about, valued, unset, rfl⟩, rfl⟩

/-- A condition lacks nothing exactly if it is set. -/
theorem conditionLack?_eq_none :
    conditionLack? condition properties = none ↔ ConditionSet condition properties := by
  -- Nothing is found exactly if there is nothing to tell.
  have silent : conditionLack? condition properties = none ↔
      ∀ text, ¬ ConditionLacks condition properties text := by
    simp only [← conditionLack?_says]
    cases conditionLack? condition properties <;> simp
  rw [silent]
  constructor
  · intro nothing
    -- Whatever the condition did not have would be lacking.
    have names : NamesComparison condition := by
      by_contra unnamed
      exact nothing _ (.comparison unnamed)
    refine ⟨names, fun property about valued => ?_⟩
    by_contra unset
    exact nothing _ (.value names about valued unset)
  · intro set text missing
    cases missing with
    | comparison unnamed => exact unnamed set.names
    | value names about valued unset => exact unset (set.value _ about valued)

end Conditions

/-- The schema of a type is the first one of the type. -/
theorem schemaOf?_iff {schemas : List Schema} {type : Json} {schema : Schema} :
    schemaOf? schemas type = some schema ↔
      IsFirst (fun schema => type = .str schema.type) schemas schema :=
  find?_eq_some_iff fun schema => by rw [beq_iff_eq, eq_comm]

namespace Node

section Specification

variable (node : Node) (schemas : List Schema) (properties : List Property) (startType : Json)

/-- A node is filled in by a schema: the first one of its type. -/
def HasSchema : Schema → Prop := IsFirst (fun schema => node.type = .str schema.type) schemas

/-- What is asked of a node, unless documents start with its type. -/
structure IsComplete : Prop where
  /-- A branch stores a condition that is set. -/
  condition : node.type.equals startType = false → node.isBranch = true →
    ∃ settings condition : Json.Members, node.config = .obj settings ∧
      settings.getOrNull conditionKey = .obj condition ∧ ConditionSet condition properties
  /-- In any other node every required field is filled in. -/
  fields : node.type.equals startType = false → node.isBranch = false →
    ∀ schema, node.HasSchema schemas schema → ∀ field ∈ schema.allFields, field.required = true →
      ∃ settings : Json.Members, node.config = .obj settings ∧
        (settings.getOrNull field.key).FillsIn

/-- What the user is told to be missing of a node with an object for its settings, the first thing if
several are. -/
inductive Lacks : String → Prop where
  /-- A branch stores no condition. -/
  | stored {settings : Json.Members} (apart : node.type.equals startType = false)
    (branches : node.isBranch = true) (configured : node.config = .obj settings)
    (nothing : ∀ condition, settings.getOrNull conditionKey ≠ .obj condition) :
    Lacks "Configure the IF rule."
  /-- A branch stores a condition that is not set. -/
  | condition {settings condition : Json.Members} {text : String}
    (apart : node.type.equals startType = false) (branches : node.isBranch = true)
    (configured : node.config = .obj settings)
    (stored : settings.getOrNull conditionKey = .obj condition)
    (missing : ConditionLacks condition properties text) : Lacks text
  /-- In any other node a required field is not filled in, and those before it are. It is told by its
  label, or by its key if it has none. -/
  | field {settings : Json.Members} {schema : Schema} {field : Field}
    (apart : node.type.equals startType = false) (plain : node.isBranch = false)
    (configured : node.config = .obj settings) (offered : node.HasSchema schemas schema)
    (first : IsFirst (fun field => field.required = true ∧
      ¬ (settings.getOrNull field.key).FillsIn) schema.allFields field) :
    Lacks ("Field \"" ++ (if field.label = "" then field.key else field.label) ++ "\" is required.")

end Specification

variable {node : Node} {schemas : List Schema} {properties : List Property} {startType : Json}

/-- The schema of a node is the first one of its type. -/
theorem schemaOf?_eq_some {schema : Schema} :
    schemaOf? schemas node.type = some schema ↔ node.HasSchema schemas schema := schemaOf?_iff

/-- The field that settings leave blank is the first one that is required and not filled in. -/
theorem blank_eq_some {settings : Json.Members} {schema : Schema} {field : Field} :
    (schema.requiredFields.find? fun field => isBlank (settings.getOrNull field.key)) = some field ↔
      IsFirst (fun field => field.required = true ∧ ¬ (settings.getOrNull field.key).FillsIn)
        schema.allFields field := by
  -- The required fields are a filtered list, so the first blank one is the first of all with both
  -- properties.
  rw [Schema.requiredFields, List.find?_filter]
  exact find?_eq_some_iff fun field => by
    rw [decide_eq_true_iff, Json.isBlank_iff]

/-- The condition of a branch is looked into in settings that are an object. -/
theorem conditionLack?_eq_ok {result : Option Lack} :
    node.conditionLack? properties = .ok result ↔
      ∃ settings : Json.Members, node.config = .obj settings ∧
        Flowchart.conditionLack? ((settings.getOrNull conditionKey).members?.getD []) properties =
          result := by
  simp only [conditionLack?, condition?, bind_eq_ok, map_eq_ok, settings_eq_ok, Pure.pure,
    Except.pure, Except.ok.injEq]
  -- The condition is looked up in the settings, which have to be an object.
  constructor
  · rintro ⟨_, ⟨settings, configured, rfl⟩, same⟩
    exact ⟨settings, configured, same⟩
  · rintro ⟨settings, configured, same⟩
    exact ⟨_, ⟨settings, configured, rfl⟩, same⟩

/-- A branch lacks what is missing of the condition that it stores, or any condition at all. -/
theorem conditionLack?_says {text : String} :
    (∃ lack, node.conditionLack? properties = .ok (some lack) ∧ lack.message = text) ↔
      ∃ settings : Json.Members, node.config = .obj settings ∧
        ((∀ condition, settings.getOrNull conditionKey ≠ .obj condition) ∧
            "Configure the IF rule." = text ∨
          ∃ condition, settings.getOrNull conditionKey = .obj condition ∧
            ConditionLacks condition properties text) := by
  -- The settings are one object, whatever is lacking.
  have opened : (∃ lack, node.conditionLack? properties = .ok (some lack) ∧ lack.message = text) ↔
      ∃ settings : Json.Members, node.config = .obj settings ∧
        ∃ lack, Flowchart.conditionLack? ((settings.getOrNull conditionKey).members?.getD [])
          properties = some lack ∧ lack.message = text := by
    simp only [conditionLack?_eq_ok]
    constructor
    · rintro ⟨lack, ⟨settings, configured, found⟩, said⟩
      exact ⟨settings, configured, lack, found, said⟩
    · rintro ⟨settings, configured, lack, found, said⟩
      exact ⟨lack, ⟨settings, configured, found⟩, said⟩
  rw [opened]
  refine exists_congr fun settings => and_congr_right fun _ => ?_
  -- What is stored is a condition only if it is an object.
  cases settings.getOrNull conditionKey with
  | obj condition => simp [Json.members?, Flowchart.conditionLack?_says]
  | _ =>
    have wording : Lack.condition.message = "Configure the IF rule." := rfl
    simp [Json.members?, conditionLack?_nil, wording]

/-- A branch lacks nothing of a condition if it stores one that is set. -/
theorem conditionLack?_eq_none :
    node.conditionLack? properties = .ok none ↔
      ∃ settings condition : Json.Members, node.config = .obj settings ∧
        settings.getOrNull conditionKey = .obj condition ∧ ConditionSet condition properties := by
  rw [conditionLack?_eq_ok]
  refine exists_congr fun settings => ?_
  rw [exists_and_left]
  refine and_congr_right fun _ => ?_
  -- What is stored under the key but no object counts as an empty condition, and that always lacks
  -- something.
  cases settings.getOrNull conditionKey with
  | obj condition => simp [Json.members?, Flowchart.conditionLack?_eq_none]
  | _ => simp [Json.members?, conditionLack?_nil]

/-- A node is short of the first required field that its settings leave blank. -/
theorem fieldLack?_eq_some {lack : Lack} :
    node.fieldLack? schemas = .ok (some lack) ↔
      ∃ (settings : Json.Members) (schema : Schema) (field : Field), node.config = .obj settings ∧
        node.HasSchema schemas schema ∧
        IsFirst (fun field => field.required = true ∧
          ¬ (settings.getOrNull field.key).FillsIn) schema.allFields field ∧
        .fieldValue field.displayLabel = lack := by
  -- Told by the searches: for the schema of the type, and in it for a blank field.
  simp only [fieldLack?, ← schemaOf?_eq_some, ← blank_eq_some]
  cases schemaOf? schemas node.type with
  | none => simp
  | some schema =>
    cases required : schema.requiredFields with
    | nil => simp [required]
    | cons first rest =>
      simp [bind_eq_ok, settings_eq_ok, Pure.pure, Except.pure, Flowchart.fieldLack?, required]

/-- A node is short of no field if its settings fill in all that are required. -/
theorem fieldLack?_eq_none :
    node.fieldLack? schemas = .ok none ↔
      ∀ schema, node.HasSchema schemas schema → ∀ field ∈ schema.allFields, field.required = true →
        ∃ settings : Json.Members, node.config = .obj settings ∧
          (settings.getOrNull field.key).FillsIn := by
  have listed {schema : Schema} {holds : Field → Prop} :
      (∀ field ∈ schema.allFields, field.required = true → holds field) ↔
        ∀ field ∈ schema.requiredFields, holds field := by
    simp [Schema.requiredFields]
  simp only [fieldLack?, ← schemaOf?_eq_some, listed]
  cases schemaOf? schemas node.type with
  | none => simp
  | some schema =>
    -- Without required fields the settings are not looked at, so they may be of any kind.
    cases required : schema.requiredFields with
    | nil => simp [required]
    | cons first rest =>
      simp only [required, bind_eq_ok, settings_eq_ok, Pure.pure, Except.pure, Except.ok.injEq,
        Flowchart.fieldLack?, Option.map_eq_none_iff, List.find?_eq_none, Json.isBlank_iff, not_not,
        Option.some.injEq, forall_eq']
      constructor
      · rintro ⟨settings, configured, filled⟩ field member
        exact ⟨settings, configured, filled field member⟩
      · intro filled
        -- There is one object for all the fields, the settings of the node.
        obtain ⟨settings, configured, -⟩ := filled first List.mem_cons_self
        refine ⟨settings, configured, fun field member => ?_⟩
        obtain ⟨same, held, done⟩ := filled field member
        rw [configured, Json.obj.injEq] at held
        rwa [held]

/-- Of a node the user is told what is missing of it first. -/
theorem lack?_says {text : String} :
    (∃ lack, node.lack? schemas properties startType = .ok (some lack) ∧ lack.message = text) ↔
      node.Lacks schemas properties startType text := by
  constructor
  · rintro ⟨lack, found, rfl⟩
    rw [lack?] at found
    -- A branch is asked for its condition, and any other node for its fields.
    split at found
    · cases found
    · next other =>
      have apart := Bool.eq_false_iff.mpr other
      split at found
      · next branches =>
        obtain ⟨settings, configured, ⟨nothing, same⟩ | ⟨condition, stored, missing⟩⟩ :=
          conditionLack?_says.mp ⟨lack, found, rfl⟩
        · rw [← same]
          exact .stored apart branches configured nothing
        · exact .condition apart branches configured stored missing
      · next plain =>
        obtain ⟨settings, schema, field, configured, offered, first, rfl⟩ :=
          fieldLack?_eq_some.mp found
        exact .field apart (Bool.eq_false_iff.mpr plain) configured offered first
  -- Each way to lack something is found behind the two questions that its node has answered.
  · intro missing
    rw [lack?]
    cases missing with
    | stored apart branches configured nothing =>
      rw [apart, if_neg Bool.false_ne_true, if_pos branches, conditionLack?_says]
      exact ⟨_, configured, .inl ⟨nothing, rfl⟩⟩
    | condition apart branches configured stored missing =>
      rw [apart, if_neg Bool.false_ne_true, if_pos branches, conditionLack?_says]
      exact ⟨_, configured, .inr ⟨_, stored, missing⟩⟩
    | field apart plain configured offered first =>
      rw [apart, plain, if_neg Bool.false_ne_true, if_neg Bool.false_ne_true]
      exact ⟨_, fieldLack?_eq_some.mpr ⟨_, _, _, configured, offered, first, rfl⟩, rfl⟩

/-- A node lacks nothing exactly if it is complete. -/
theorem lack?_eq_none :
    node.lack? schemas properties startType = .ok none ↔
      node.IsComplete schemas properties startType := by
  rw [lack?]
  cases starts : node.type.equals startType with
  | true =>
    -- Nothing is asked of a node that documents start with.
    rw [if_pos rfl]
    refine ⟨fun _ => ⟨?_, ?_⟩, fun _ => rfl⟩
    · simp [starts]
    · simp [starts]
  | false =>
    rw [if_neg Bool.false_ne_true]
    -- A branch needs nothing but its condition, and any other node nothing but its fields.
    cases branches : node.isBranch with
    | true =>
      rw [if_pos rfl, conditionLack?_eq_none]
      refine ⟨fun stored => ⟨fun _ _ => stored, ?_⟩, fun complete => ?_⟩
      · simp [branches]
      · exact complete.condition starts branches
    | false =>
      rw [if_neg Bool.false_ne_true, fieldLack?_eq_none]
      refine ⟨fun filled => ⟨?_, fun _ _ => filled⟩, fun complete => ?_⟩
      · simp [branches]
      · exact complete.fields starts branches

end Node

namespace Document

/-- A node is a root: no edge points at it. -/
def IsRoot (document : Document) (node : Node) : Prop :=
  ∀ edge ∈ document.edges, edge.target.isSame node.id = false

instance (document : Document) : DecidablePred document.IsRoot :=
  fun _ => inferInstanceAs (Decidable (∀ _ ∈ _, _))

/-- A document has one root: one of its nodes is a root, and none of those before and after it. -/
def HasOneRoot (document : Document) : Prop :=
  ∃ before root after, document.nodes = before ++ root :: after ∧ document.IsRoot root ∧
    ∀ other ∈ before ++ after, ¬ document.IsRoot other

section Specification

variable (document : Document) (schemas : List Schema) (properties : List Property)
  (startType : Json) (singleStart : Bool)

/-- A document is complete: all of its nodes are, and if there has to be a single start, one node is
a root, unless there are no nodes at all. -/
structure IsComplete : Prop where
  nodes : ∀ node ∈ document.nodes, node.IsComplete schemas properties startType
  start : singleStart = true → document.nodes ≠ [] → document.HasOneRoot

/-- The node that the user is led to, and what is told to be lacking in a document, the first thing
if several are. -/
inductive FirstLack : Option Json → String → Prop where
  /-- The first node that is not complete lacks something. -/
  | node {before after : List Node} {node : Node} {text : String}
    (split : document.nodes = before ++ node :: after)
    (earlier : ∀ other ∈ before, other.IsComplete schemas properties startType)
    (missing : node.Lacks schemas properties startType text) : FirstLack (some node.id) text
  /-- All nodes are complete, there are some, and none is a root. -/
  | noRoot (nodes : ∀ node ∈ document.nodes, node.IsComplete schemas properties startType)
    (strict : singleStart = true) (occupied : document.nodes ≠ [])
    (aimed : ∀ node ∈ document.nodes, ¬ document.IsRoot node) :
    FirstLack none "The flow has no starting step."
  /-- All nodes are complete, and there is a second root. -/
  | secondRoot {before between after : List Node} {first second : Node}
    (nodes : ∀ node ∈ document.nodes, node.IsComplete schemas properties startType)
    (strict : singleStart = true)
    (split : document.nodes = before ++ first :: (between ++ second :: after))
    (roots : document.IsRoot first ∧ document.IsRoot second)
    (others : ∀ other ∈ before ++ between, ¬ document.IsRoot other) :
    FirstLack (some second.id) ("The flow has " ++
      toString (document.nodes.countP (document.IsRoot ·)) ++
      " starting steps; connect them into one.")

end Specification

variable {document : Document} {schemas : List Schema} {properties : List Property}
  {startType : Json} {singleStart : Bool} {finding : Finding}

/-- The unaimed nodes are the roots. -/
theorem unaimed_eq_filter : document.unaimed = document.nodes.filter (document.IsRoot ·) := by
  refine List.filter_congr fun node _ => ?_
  -- Either no edge points at the node, or one of them does.
  rw [Bool.eq_iff_iff, decide_eq_true_iff]
  simp [IsRoot]

/-- There is one root exactly if one node is unaimed. -/
theorem hasOneRoot_iff : document.HasOneRoot ↔ ∃ root, document.unaimed = [root] := by
  simp only [unaimed_eq_filter, List.filter_eq_cons_iff, decide_eq_true_iff, List.filter_eq_nil_iff]
  -- The one root splits the nodes in front of it and behind it, and neither part has another root.
  constructor
  · intro one
    obtain ⟨before, root, after, split, rooted, others⟩ := one
    rw [List.forall_mem_append] at others
    exact ⟨root, before, after, split, others.1, rooted, others.2⟩
  · intro found
    obtain ⟨root, before, after, split, earlier, rooted, later⟩ := found
    exact ⟨before, root, after, split, rooted, List.forall_mem_append.mpr ⟨earlier, later⟩⟩

/-- There is no root exactly if no node is unaimed. -/
theorem unaimed_eq_nil :
    document.unaimed = [] ↔ ∀ node ∈ document.nodes, ¬ document.IsRoot node := by
  simp only [unaimed_eq_filter, List.filter_eq_nil_iff, decide_eq_true_iff]

/-- There is a second root exactly if two nodes or more are unaimed. -/
theorem second_unaimed_iff {second : Node} :
    (∃ first rest, document.unaimed = first :: second :: rest) ↔
      ∃ before first between after,
        document.nodes = before ++ first :: (between ++ second :: after) ∧
        (document.IsRoot first ∧ document.IsRoot second) ∧
        ∀ other ∈ before ++ between, ¬ document.IsRoot other := by
  simp only [unaimed_eq_filter, List.filter_eq_cons_iff, decide_eq_true_iff]
  -- The first two roots split the nodes into three parts, and only the last may hold more roots.
  constructor
  · intro found
    obtain ⟨first, rest, before, later, split, earlier, rooted, between, after, rfl, apart, again,
      -⟩ := found
    exact ⟨before, first, between, after, split, ⟨rooted, again⟩,
      List.forall_mem_append.mpr ⟨earlier, apart⟩⟩
  · intro found
    obtain ⟨before, first, between, after, split, ⟨rooted, again⟩, others⟩ := found
    rw [List.forall_mem_append] at others
    exact ⟨first, _, before, _, split, others.1, rooted, between, after, rfl, others.2, again, rfl⟩

/-- What is found among nodes is what the first of them lacks that lacks anything. -/
theorem nodeFinding?_eq_some {nodes : List Node} :
    nodeFinding? schemas properties startType nodes = .ok (some finding) ↔
      ∃ before node after lack, nodes = before ++ node :: after ∧
        (∀ other ∈ before, other.lack? schemas properties startType = .ok none) ∧
        node.lack? schemas properties startType = .ok (some lack) ∧
        finding = ⟨some node.id, lack⟩ := by
  -- The search goes on to the next node as long as nothing is found.
  induction nodes with
  | nil => simp [nodeFinding?]
  | cons first rest ih =>
    rw [nodeFinding?, bind_eq_ok]
    constructor
    -- Something is found at the first node, or at a later one that it lets the search pass to.
    · intro found
      obtain ⟨lack, told, next⟩ := found
      cases lack with
      | some lack =>
        cases next
        exact ⟨[], first, rest, lack, rfl, by simp, told, rfl⟩
      | none =>
        obtain ⟨before, node, after, lack, rfl, earlier, missing, same⟩ := ih.mp next
        exact ⟨first :: before, node, after, lack, rfl,
          List.forall_mem_cons.mpr ⟨told, earlier⟩, missing, same⟩
    · intro found
      obtain ⟨before, node, after, lack, split, earlier, missing, rfl⟩ := found
      cases before with
      | nil =>
        cases split
        exact ⟨some lack, missing, rfl⟩
      | cons other before =>
        cases split
        rw [List.forall_mem_cons] at earlier
        exact ⟨none, earlier.1, ih.mpr ⟨before, node, after, lack, rfl, earlier.2, missing, rfl⟩⟩

/-- Where ids can be keys, nothing is found of the start if there is one root or no node. -/
theorem Keyed.startFinding?_eq_none (keyed : document.Keyed) :
    document.startFinding? = .ok none ↔ (document.nodes ≠ [] → document.HasOneRoot) := by
  -- No nodes or one root, told as an implication.
  rw [Document.startFinding?_eq_none, keyed.roots_eq, hasOneRoot_iff]
  simp only [Except.ok.injEq, ne_eq, or_iff_not_imp_left]

/-- Where ids can be keys, what is found of the start is that there is no root or that there is a
second one. -/
theorem Keyed.startFinding?_eq_some (keyed : document.Keyed) :
    document.startFinding? = .ok (some finding) ↔ document.nodes ≠ [] ∧
      (document.unaimed = [] ∧ finding = ⟨none, .start⟩ ∨
        ∃ first second rest, document.unaimed = first :: second :: rest ∧
          finding = ⟨some second.id, .singleStart document.unaimed.length⟩) := by
  rw [startFinding?, keyed.roots_eq]
  -- No root, one, or at least two, of which the second one is named.
  by_cases empty : document.nodes = []
  · simp [empty]
  · rw [if_neg (by simpa using empty), and_iff_right empty]
    cases roots : document.unaimed with
    | nil => simp [Bind.bind, Except.bind, Pure.pure, Except.pure, eq_comm]
    | cons first others =>
      cases others with
      | nil => simp [Bind.bind, Except.bind, Pure.pure, Except.pure]
      | cons second rest => simp [Bind.bind, Except.bind, Pure.pure, Except.pure, eq_comm]

/-- No node lacks anything exactly if all of them are complete. -/
theorem forall_lack?_eq_none :
    (∀ node ∈ document.nodes, node.lack? schemas properties startType = .ok none) ↔
      ∀ node ∈ document.nodes, node.IsComplete schemas properties startType :=
  forall₂_congr fun _ _ => Node.lack?_eq_none

/-- Nothing is found lacking exactly in a complete document, where ids can be keys if the start
counts. -/
theorem finding?_eq_none (keyed : singleStart = true → document.Keyed) :
    document.finding? schemas properties startType singleStart = .ok none ↔
      document.IsComplete schemas properties startType singleStart := by
  rw [finding?_eq_ok, forall_lack?_eq_none]
  constructor
  · intro passed
    -- The search ends without a finding at the roots, or at the nodes if roots do not matter.
    rcases passed with ⟨_, _, found⟩ | ⟨nodes, ⟨strict, passed⟩ | ⟨lax, -⟩⟩
    · cases found
    · exact ⟨nodes, fun _ => (keyed strict).startFinding?_eq_none.mp passed⟩
    · refine ⟨nodes, fun strict => ?_⟩
      rw [lax] at strict
      cases strict
  · intro complete
    refine .inr ⟨complete.nodes, ?_⟩
    cases singleStart with
    | true => exact .inl ⟨rfl, (keyed rfl).startFinding?_eq_none.mpr (complete.start rfl)⟩
    | false => exact .inr ⟨rfl, rfl⟩

/-- The user is led to what is lacking first and told so, where ids can be keys if the start
counts. -/
theorem finding?_says (keyed : singleStart = true → document.Keyed) {id : Option Json}
    {text : String} :
    (∃ finding, document.finding? schemas properties startType singleStart = .ok (some finding) ∧
        finding.node = id ∧ finding.lack.message = text) ↔
      document.FirstLack schemas properties startType singleStart id text := by
  simp only [finding?_eq_ok, forall_lack?_eq_none]
  constructor
  · rintro ⟨finding, found, rfl, rfl⟩
    -- A node lacks something, or the start does, or nothing is found.
    rcases found with ⟨_, told, same⟩ | ⟨nodes, ⟨strict, told⟩ | ⟨-, same⟩⟩
    · cases same
      obtain ⟨before, node, after, lack, split, earlier, missing, rfl⟩ :=
        nodeFinding?_eq_some.mp told
      exact .node split (fun other member => Node.lack?_eq_none.mp (earlier other member))
        (Node.lack?_says.mp ⟨lack, missing, rfl⟩)
    -- A complete document can still fail by its roots, having none or more than one.
    · obtain ⟨occupied, ⟨none, rfl⟩ | ⟨first, second, rest, roots, rfl⟩⟩ :=
        (keyed strict).startFinding?_eq_some.mp told
      · exact .noRoot nodes strict occupied (unaimed_eq_nil.mp none)
      · obtain ⟨before, first, between, after, split, rooted, others⟩ :=
          second_unaimed_iff.mp ⟨first, rest, roots⟩
        rw [unaimed_eq_filter, ← List.countP_eq_length_filter]
        exact .secondRoot nodes strict split rooted others
    · cases same
  -- Conversely a first lack is found by whichever of the two searches looks for it.
  · intro first
    cases first with
    | node split earlier missing =>
      obtain ⟨lack, found, rfl⟩ := Node.lack?_says.mpr missing
      refine ⟨_, .inl ⟨_, nodeFinding?_eq_some.mpr ⟨_, _, _, lack, split, ?_, found, rfl⟩, rfl⟩,
        rfl, rfl⟩
      exact fun other member => Node.lack?_eq_none.mpr (earlier other member)
    | noRoot nodes strict occupied aimed =>
      refine ⟨_, .inr ⟨nodes, .inl ⟨strict, (keyed strict).startFinding?_eq_some.mpr
        ⟨occupied, .inl ⟨unaimed_eq_nil.mpr aimed, rfl⟩⟩⟩⟩, rfl, rfl⟩
    | secondRoot nodes strict split rooted others =>
      obtain ⟨first, rest, roots⟩ := second_unaimed_iff.mpr ⟨_, _, _, _, split, rooted, others⟩
      refine ⟨_, .inr ⟨nodes, .inl ⟨strict, (keyed strict).startFinding?_eq_some.mpr
        ⟨?_, .inr ⟨first, _, rest, roots, rfl⟩⟩⟩⟩, rfl, ?_⟩
      · rw [split]
        exact List.append_ne_nil_of_right_ne_nil _ (List.cons_ne_nil _ _)
      · rw [unaimed_eq_filter, ← List.countP_eq_length_filter]
        rfl

/-- Nothing is found lacking exactly if a document is complete, and otherwise the user is led to the
first thing that is lacking and told what it is. Where settings are objects there is a verdict. Only
if the start counts do ids have to be texts, or other values that can be keys. -/
theorem finding?_exact (document : Document) (schemas : List Schema) (properties : List Property)
    (startType : Json) (singleStart : Bool) (keyed : singleStart = true → document.Keyed) :
    (document.finding? schemas properties startType singleStart = .ok none ↔
      document.IsComplete schemas properties startType singleStart) ∧
    (∀ id text,
      (∃ finding, document.finding? schemas properties startType singleStart = .ok (some finding) ∧
          finding.node = id ∧ finding.lack.message = text) ↔
        document.FirstLack schemas properties startType singleStart id text) ∧
    ((∀ node ∈ document.nodes, ∃ settings, node.config = .obj settings) →
      ∃ verdict, document.finding? schemas properties startType singleStart = .ok verdict) :=
  -- One lemma for each part: nothing found, what is found, and that something is told at all.
  ⟨finding?_eq_none keyed, fun _ _ => finding?_says keyed,
    fun configured => exists_finding configured keyed⟩

/-- A start, a mail with a recipient, a question about a total that is compared with nothing, and a
mail without a recipient. -/
def unfinished : Document where
  nodes := [
    .fresh .default (.str "a") (.str "start") .null 0 0,
    { Node.fresh .default (.str "b") (.str "mail") .null 0 0 with
      config := .obj [("to", .str "host")] },
    { Node.fresh .default (.str "c") (.str "if") .null 0 0 with
      config := .obj [(conditionKey, .obj [("propertyId", .str "total"),
        ("operator", .str "gt"), ("value", .str "")])] },
    .fresh .default (.str "d") (.str "mail") .null 0 0]
  edges := [⟨.str "1", .str "a", .str "out", .str "b", .str "in"⟩]
  viewport := homeViewport

/-- The form of a mail, with a recipient that is required. -/
def mailSchema : Schema :=
  ⟨"mail", none, some [⟨"Mail", [⟨"to", "To", .text, true, "", none, none, [], none⟩], true⟩]⟩

/-- The question is what is found first of the unfinished document, and nothing is found in a
document of its first two nodes. -/
theorem unfinished_found :
    unfinished.Keyed ∧
      unfinished.FirstLack [mailSchema] [⟨"total", "Total", .number, none⟩] (.str "start") true
        (some (.str "c")) "Enter a value to compare \"Total\" against." ∧
      { unfinished with nodes := unfinished.nodes.take 2 }.IsComplete [mailSchema] [] (.str "start")
        true := by
  have keyed : unfinished.Keyed := ⟨by decide, by decide⟩
  have fewer : { unfinished with nodes := unfinished.nodes.take 2 }.Keyed :=
    ⟨by decide, by decide⟩
  -- The third node is the first to lack something; the two before it are complete.
  obtain ⟨-, found, -⟩ := finding?_exact unfinished [mailSchema]
    [⟨"total", "Total", .number, none⟩] (.str "start") true fun _ => keyed
  obtain ⟨passed, -, -⟩ := finding?_exact { unfinished with nodes := unfinished.nodes.take 2 }
    [mailSchema] [] (.str "start") true fun _ => fewer
  exact ⟨keyed, (found _ _).mp ⟨_, by rfl, rfl, rfl⟩, passed.mp (by rfl)⟩

end Document

end Flowchart
