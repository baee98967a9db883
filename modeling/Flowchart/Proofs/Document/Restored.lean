import Flowchart.Document.Saved
import Flowchart.Logic
import Flowchart.Proofs.Outcome

/-! Documents from values that nobody has checked. What is left out is filled in, and what it is
filled in with is taken as it is the next time, so that one restoring is enough: from then on a
document comes back as it was written. -/

namespace Flowchart

/-- Members, or a fallback for an empty object. -/
def membersElse (fallback members : Json.Members) : Json.Members :=
  if members.isEmpty then fallback else members

/-- Nothing in the place of nothing changes nothing. -/
@[simp] theorem membersElse_nil (members : Json.Members) : membersElse [] members = members := by
  cases members <;> rfl

/-- Members that are there do not give way to a fallback. -/
theorem membersElse_of_ne_nil {fallback members : Json.Members} (filled : members ≠ []) :
    membersElse fallback members = members := by
  -- The fallback is for the empty object alone.
  cases members with
  | nil => exact absurd rfl filled
  | cons first rest => rfl

/-- A fallback stands in for itself. -/
theorem membersElse_self (fallback : Json.Members) : membersElse fallback fallback = fallback :=
  ite_self fallback

namespace Json

/-- A value that counts as present holds something, if it can be gone through at all. -/
theorem items?_ne_nil {value : Json} {items : List Json} (present : value.isTruthy = true)
    (held : value.items? = some items) : items ≠ [] := by
  -- The empty list, text and object all count as false.
  rintro rfl
  cases value <;> simp_all [items?, isTruthy]

/-- Once a value has been put under a key there is a key. -/
theorem setPair_ne_nil (pairs : List (Json × Json)) (key value : Json) :
    setPair pairs key value ≠ [] := by
  -- A pair is put in the place of another one or behind all.
  cases pairs with
  | nil => nofun
  | cons first rest =>
    rw [setPair]
    split <;> nofun

/-- A list of pairs has as many pairs as it has entries. -/
theorem length_of_pairsOf {value : Json} {pairs : List (Json × Json)}
    (read : pairsOf value = .ok pairs) :
    ∃ items, value.items? = some items ∧ items.length = pairs.length := by
  -- Only a list can be read as pairs, item by item.
  unfold pairsOf at read
  split at read
  · next items held =>
    have beside := (mapM_eq_ok.mp read).length_eq
    exact ⟨items, held, by simpa using beside⟩
  · cases read

/-- An object that is made from something has a member. -/
theorem dictionary_ne_nil {value : Json} {members : Members} (present : value.isTruthy = true)
    (read : value.dictionary = .ok members) : members ≠ [] := by
  obtain ⟨pairs, paired, rfl⟩ := map_eq_ok.mp read
  rw [ne_eq, List.map_eq_nil_iff]
  unfold dictionaryPairs at paired
  split at paired
  · -- The members of an object are its pairs.
    cases paired
    simpa [isTruthy] using present
  · obtain ⟨entries, listed, put⟩ := bind_eq_ok.mp paired
    obtain ⟨items, held, long⟩ := length_of_pairsOf listed
    have some_listed : entries ≠ [] := by
      rw [← List.length_pos_iff, ← long, List.length_pos_iff]
      exact items?_ne_nil present held
    -- The last pair that was put in has left at least its own key.
    obtain ⟨early, last, rfl⟩ := List.eq_nil_or_concat entries |>.resolve_left some_listed
    rw [List.concat_eq_append, List.foldl_concat] at put
    cases put
    exact setPair_ne_nil _ _ _

end Json

namespace Saved

variable {fallback members : Json.Members}

/-- An object that is present is taken as it is, and an empty one counts as absent. -/
@[simp] theorem membersOr_obj (fallback members : Json.Members) :
    membersOr fallback (.obj members) = .ok (membersElse fallback members) := by
  cases members with
  | nil => rfl
  | cons first rest =>
    -- Keys that are texts are written as they are.
    have read : Json.dictionary (.obj (first :: rest)) = .ok (first :: rest) := by
      simp [Json.dictionary, Json.dictionaryPairs, Except.map, Function.comp_def, Json.keyText]
    have present : (Json.obj (first :: rest)).isTruthy = true := rfl
    rw [membersOr, if_pos present, read]
    rfl

/-- Members that have been filled in do not give way to the fallback again. -/
theorem membersElse_of_membersOr {value : Json} (read : membersOr fallback value = .ok members) :
    membersElse fallback members = members := by
  -- Members that were read are not empty, and the fallback stands in for itself.
  unfold membersOr at read
  split at read
  · next present =>
    exact membersElse_of_ne_nil (Json.dictionary_ne_nil present (mapError_eq_ok.mp read))
  · cases read
    exact membersElse_self fallback

/-- What stands in for an absent value stands in for itself, whether it counts as present or not. -/
theorem standIn_again (fallback value : Json) :
    let filled := if value.isTruthy then value else fallback
    (if filled.isTruthy then filled else fallback) = filled := by
  -- A value that stands is kept. Otherwise the fallback is tried, and it falls back on itself.
  by_cases present : value.isTruthy = true
  · simp only [present, if_true]
  · simp only [present, Bool.false_eq_true, if_false, ite_self]

/-- A text that has been filled in is taken as it is. -/
theorem textOrEmpty_textOrEmpty (value : Json) :
    textOrEmpty (textOrEmpty value) = textOrEmpty value := standIn_again _ value

/-- An object is taken as it is. -/
@[simp] theorem objectOrEmpty_obj (members : Json.Members) :
    objectOrEmpty (.obj members) = .obj members := by
  cases members <;> rfl

/-- Settings that have been filled in are taken as they are. -/
theorem objectOrEmpty_objectOrEmpty (value : Json) :
    objectOrEmpty (objectOrEmpty value) = objectOrEmpty value := standIn_again _ value

/-- A list is gone through as it is. -/
@[simp] theorem collectionOrEmpty_arr (items : List Json) :
    collectionOrEmpty (.arr items) = .ok items := by
  cases items <;> rfl

end Saved

/-- Each group is found by its name. -/
@[simp] theorem PortGroup.ofName?_name (group : PortGroup) : ofName? group.name = some group := by
  cases group <;> rfl

/-- A port that is written reads back. -/
theorem Port.ofJson_toJson (port : Port) : Port.ofJson port.toJson = .ok port := by
  -- Each member is found under the name that it was written under.
  simp [Port.ofJson, Port.toJson, Saved.member, Json.Members.get?, Json.text?, Bind.bind,
    Except.bind, Pure.pure, Except.pure]

/-- An edge that is written reads back. -/
theorem Edge.ofJson_toJson (edge : Edge) : Edge.ofJson edge.toJson = .ok edge := by
  -- Each member is found under the name that it was written under.
  simp [Edge.ofJson, Edge.toJson, Saved.member, Json.Members.get?, Bind.bind, Except.bind,
    Pure.pure, Except.pure]

/-- Every type has ports of its own. -/
theorem defaultPorts_ne_nil (type : Json) : defaultPorts type ≠ [] := by
  -- Every type has an input at least.
  rw [defaultPorts, ne_eq, List.map_eq_nil_iff, defaultGroups]
  split <;> nofun

namespace Node

/-- A node has nothing left to fill in: each of its parts is what its own fallback makes of it. -/
structure IsFilled (node : Node) : Prop where
  label : Saved.textOrEmpty node.label = node.label
  text : Saved.textOrEmpty node.text = node.text
  position : membersElse homePosition node.position = node.position
  width : sizeOr defaultWidth node.width = node.width
  height : sizeOr defaultHeight node.height = node.height
  ports : node.ports ≠ []
  config : Saved.objectOrEmpty node.config = node.config
  /-- The keys of a saved condition are texts. -/
  oddSteps : node.oddSteps = []

/-- A size that has been filled in is taken as it is, zero included. -/
theorem sizeOr_sizeOr (fallback size : Json) :
    sizeOr fallback (sizeOr fallback size) = sizeOr fallback size := by
  -- Only null falls back, and what it falls back on is kept, or is null again.
  cases size with
  | null => cases fallback <;> rfl
  | _ => rfl

/-- A node from a saved value has nothing left to fill in. -/
theorem isFilled_of_ofJson {raw : Json} {node : Node} (restored : ofJson raw = .ok node) :
    node.IsFilled := by
  simp only [ofJson, bind_eq_ok, Pure.pure, Except.pure, Except.ok.injEq] at restored
  -- All that the node holds is what reading puts in the place of something that is missing.
  obtain ⟨id, -, type, -, position, placed, listed, -, ports, -, style, styled, rfl⟩ := restored
  constructor
  case label => exact Saved.textOrEmpty_textOrEmpty _
  case text => exact Saved.textOrEmpty_textOrEmpty _
  case position => exact Saved.membersElse_of_membersOr placed
  case width => exact sizeOr_sizeOr _ _
  case height => exact sizeOr_sizeOr _ _
  case ports =>
    cases ports with
    | nil => exact defaultPorts_ne_nil type
    | cons first rest => nofun
  case config => exact Saved.objectOrEmpty_objectOrEmpty _
  case oddSteps => rfl

/-- A node with nothing left to fill in reads back as it was written. -/
theorem IsFilled.ofJson_toJson {node : Node} (filled : node.IsFilled) :
    ofJson node.toJson = .ok node := by
  have ports : (node.ports.map Port.toJson).mapM Port.ofJson = .ok node.ports :=
    mapM_map_eq_self fun port _ => Port.ofJson_toJson port
  -- All keys of a saved condition are texts, so no odd steps are lost.
  have keyed : { node with oddSteps := [] } = node := by rw [← filled.oddSteps]
  simpa [ofJson, toJson, Saved.member, Json.Members.get?, Json.Members.getOrNull, Json.members?,
    ports, filled.label, filled.text, filled.position, filled.width, filled.height, filled.ports,
    filled.config, Bind.bind, Except.bind, Pure.pure, Except.pure] using keyed

end Node

namespace Document

/-- A document has nothing left to fill in. Its edges may still dangle and its ids repeat. -/
structure IsFilled (document : Document) : Prop where
  nodes : ∀ node ∈ document.nodes, node.IsFilled
  viewport : membersElse homeViewport document.viewport = document.viewport

/-- A document from a saved value has nothing left to fill in. -/
theorem isFilled_of_ofJson {raw : Json} {document : Document} (restored : ofJson raw = .ok document) :
    document.IsFilled := by
  -- Only an object is read as a document.
  cases raw with
  | obj members =>
    simp only [ofJson, ofMembers, bind_eq_ok, Pure.pure, Except.pure, Except.ok.injEq] at restored
    obtain ⟨listed, -, nodes, read, drawn, -, edges, -, viewport, viewed, rfl⟩ := restored
    constructor
    case nodes =>
      intro node member
      obtain ⟨_, -, made⟩ := exists_of_forall₂_right (mapM_eq_ok.mp read) member
      exact Node.isFilled_of_ofJson made
    case viewport => exact Saved.membersElse_of_membersOr viewed
  | _ => cases restored

/-- A document with nothing left to fill in reads back as it was written. -/
theorem IsFilled.ofJson_toJson {document : Document} (filled : document.IsFilled) :
    ofJson document.toJson = .ok document := by
  -- Reading goes node by node and edge by edge, and each of them is filled on its own.
  have nodes : (document.nodes.map Node.toJson).mapM Node.ofJson = .ok document.nodes :=
    mapM_map_eq_self fun node member => (filled.nodes node member).ofJson_toJson
  have edges : (document.edges.map Edge.toJson).mapM Edge.ofJson = .ok document.edges :=
    mapM_map_eq_self fun edge _ => Edge.ofJson_toJson edge
  simp [ofJson, ofMembers, toJson, Saved.collection, Json.items?, Json.Members.get?,
    Json.Members.getOrNull, nodes, edges, filled.viewport, Bind.bind, Except.bind, Pure.pure,
    Except.pure]

/-- The documents with nothing left to fill in are those that are restored from some value. -/
theorem isFilled_iff {document : Document} :
    document.IsFilled ↔ ∃ raw, ofJson raw = .ok document := by
  -- Reading gives filled documents, and each filled document is read from its own saved form.
  constructor
  · exact fun filled => ⟨document.toJson, filled.ofJson_toJson⟩
  · rintro ⟨raw, restored⟩
    exact isFilled_of_ofJson restored

/-- Restoring comes to its end in one step. Whatever was restored can be written and restored
again; it is then written in the same way and comes to the same logic, if it came to any. -/
theorem ofJson_again {raw : Json} {document : Document} (restored : ofJson raw = .ok document) :
    ∃ again, ofJson document.toJson = .ok again ∧ again.toJson = document.toJson ∧
      ∀ logic, document.compile = .ok logic → again.compile = .ok logic :=
  ⟨document, (isFilled_of_ofJson restored).ofJson_toJson, rfl, fun _ compiled => compiled⟩

/-- A draft with much left out: a branch without ports, label and height, its width zero, and two
steps that share an id, one of them placed by pairs and given an output and an input under one id.
One edge leads to no node, and another one leaves the shared id. -/
def draft : Json :=
  .obj [
    ("nodes", .arr [
      .obj [("id", .str "a"), ("type", .str "if"), ("label", .null), ("width", .int 0),
        ("height", .null), ("ports", .arr []), ("config", .obj [(conditionKey, .str "none yet")])],
      .obj [("id", .str "b"), ("type", .str "step"), ("label", .str "Ask"),
        ("position", .arr [.arr [.str "x", .int 1], .arr [.str "y", .int 2], .arr [.str "x", .int 3]]),
        ("config", .obj [("last", .null), ("replies", .arr [.obj [("at", .null)]])]),
        ("ports", .arr [(Port.mk (.str "p") .output).toJson, (Port.mk (.str "p") .input).toJson])],
      .obj [("id", .str "b"), ("type", .str "step"), ("text", .str ""), ("position", .obj []),
        ("config", .null), ("style", .arr [])]]),
    ("edges", .arr [
      Edge.toJson ⟨.str "e", .str "a", .str "trueOut", .str "b", .str "in"⟩,
      Edge.toJson ⟨.str "e", .str "b", .str "p", .str "gone", .str "in"⟩]),
    ("viewport", .obj [])]

/-- The draft with everything filled in. -/
def fairCopy : Document where
  nodes := [
    { id := .str "a", type := .str "if", label := .str "", text := .str ""
      position := Node.homePosition, width := .int 0, height := Node.defaultHeight
      ports := [.ofGroup .input, .ofGroup .trueOutput, .ofGroup .falseOutput]
      config := .obj [(conditionKey, .str "none yet")], style := [] },
    { id := .str "b", type := .str "step", label := .str "Ask", text := .str ""
      position := [("x", .int 3), ("y", .int 2)]
      width := Node.defaultWidth, height := Node.defaultHeight
      ports := [⟨.str "p", .output⟩, ⟨.str "p", .input⟩]
      config := .obj [("last", .null), ("replies", .arr [.obj [("at", .null)]])], style := [] },
    { id := .str "b", type := .str "step", label := .str "", text := .str ""
      position := Node.homePosition, width := Node.defaultWidth, height := Node.defaultHeight
      ports := [.ofGroup .input, .ofGroup .output], config := .obj [], style := [] }]
  edges := [⟨.str "e", .str "a", .str "trueOut", .str "b", .str "in"⟩,
    ⟨.str "e", .str "b", .str "p", .str "gone", .str "in"⟩]
  viewport := homeViewport

/-- What the fair copy comes to. -/
def fairCopyLogic : Logic where
  start := some "a"
  steps := [⟨"a", "if", none, [], none, some "b", none⟩,
    ⟨"b", "step", some "Ask", [("last", .null), ("replies", .arr [.obj [("at", .null)]])],
      some "gone", none, none⟩,
    ⟨"b", "step", none, [], some "gone", none, none⟩]

/-- The fair copy comes to logic, whatever its edges lead to. -/
theorem compile_fairCopy : fairCopy.compile = .ok fairCopyLogic := by decide +kernel

/-- The draft is restored as its fair copy, which comes to the same logic when it is restored. -/
theorem draft_again :
    ofJson draft = .ok fairCopy ∧ fairCopy.compile = .ok fairCopyLogic ∧
      ∃ again, ofJson fairCopy.toJson = .ok again ∧ again.toJson = fairCopy.toJson ∧
        again.compile = .ok fairCopyLogic := by
  -- The draft is read by computation, and the rest follows from that it was read.
  have restored : ofJson draft = .ok fairCopy := by decide +kernel
  obtain ⟨again, read, written, same⟩ := ofJson_again restored
  exact ⟨restored, compile_fairCopy, again, read, written, same fairCopyLogic compile_fairCopy⟩

end Document

end Flowchart
