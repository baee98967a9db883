import Mathlib.Data.List.TFAE
import Flowchart.Proofs.Editor.Session
import Flowchart.Proofs.Export.Writable
import Flowchart.Proofs.Payload.Filled
import Flowchart.Proofs.Validation
import Flowchart.Proofs.Yaml.Blocks

/-! The ways to get something out of a document, which all go through one gate. Either nothing is
lacking and each of them gives out the same logic, or none of them gives out anything, and an editor
leads its host to what is lacking. -/

namespace Flowchart

section Findings

variable (schemas : List Schema) (properties : List Property) (startType : Json)

namespace Document

variable {document : Document}

/-- What a document of parts of the declared kinds lacks can be told. -/
theorem Declared.exists_finding (declared : document.Declared) (singleStart : Bool) :
    ∃ finding, document.finding? schemas properties startType singleStart = .ok finding :=
  -- Settings are objects and ids are keys, which is all that looking for faults needs.
  Document.exists_finding (fun node listed => (declared.typed node listed).configured)
    fun _ => declared.keyed

variable {schemas properties startType} {finding : Finding} {id : Json}

/-- What is found among nodes is about one of them. -/
theorem mem_of_nodeFinding? {nodes : List Node}
    (found : nodeFinding? schemas properties startType nodes = .ok (some finding)) :
    ∃ node ∈ nodes, finding.node = some node.id := by
  -- The finding splits the list at its node.
  obtain ⟨before, node, after, lack, rfl, -, -, rfl⟩ := nodeFinding?_eq_some.mp found
  exact ⟨node, List.mem_append_right _ List.mem_cons_self, rfl⟩

/-- What keeps a document from having a single start is about one of its nodes, or about none. -/
theorem mem_of_startFinding? (found : document.startFinding? = .ok (some finding))
    (about : finding.node = some id) : ∃ node ∈ document.nodes, node.id = id := by
  rw [startFinding?] at found
  split at found
  · cases found
  · obtain ⟨roots, given, next⟩ := bind_eq_ok.mp found
    -- Roots are some of the nodes, so the second root is one of them.
    have among : roots ⊆ document.nodes := by
      rw [Document.roots] at given
      split at given
      · cases given
        exact List.filter_sublist.subset
      · cases given
    rcases roots with _ | ⟨first, _ | ⟨second, rest⟩⟩
    · cases next
      cases about
    · cases next
    · cases next
      cases about
      exact ⟨second, among (by simp), rfl⟩

/-- What is found in a document is about one of its nodes, or about none. -/
theorem mem_of_finding? {singleStart : Bool}
    (found : document.finding? schemas properties startType singleStart = .ok (some finding))
    (about : finding.node = some id) : ∃ node ∈ document.nodes, node.id = id := by
  obtain ⟨among, told, next⟩ := bind_eq_ok.mp found
  -- What is lacking was found at a node, or at the roots if the document has to start with one.
  cases among with
  | some first =>
    cases next
    obtain ⟨node, member, same⟩ := mem_of_nodeFinding? told
    exact ⟨node, member, Option.some.inj (same.symm.trans about)⟩
  | none =>
    cases singleStart with
    | false => cases next
    | true => exact mem_of_startFinding? next about

end Document

end Findings

/-- What an editor tells its host when something is lacking: where, if there is a node to go to, and
what. -/
def Finding.calls (finding : Finding) : List HostCall :=
  (finding.node.toList.filter Json.isTruthy).map HostCall.focus ++
    [.notice "Attention" finding.lack.message .warning]

namespace Compiler

/-- A text that is given out of a value: what the writer makes of it, unless it holds a whole number
with too many digits. -/
def textOf (write : Json → String) (value : Json) : Except DocumentFault (Option String) :=
  if value.isWritable then .ok (some (write value)) else .error (.unwritable .tooManyDigits)

/-- Some text is given out of a value that can be written. -/
theorem textOf_of_writable {write : Json → String} {value : Json}
    (writable : value.isWritable = true) : textOf write value = .ok (some (write value)) :=
  if_pos writable

/-- A value never comes to no text. -/
theorem textOf_ne_none {write : Json → String} {value : Json} : textOf write value ≠ .ok none := by
  -- A value is written or refused, and neither is nothing.
  unfold textOf
  split <;> simp

/-- What a format writes is the text of its writer. -/
theorem bind_write_eq_textOf {format : ExportFormat} {write : Json → String} {value : Json}
    (same : format.write value = value.writtenBy write) :
    (do return some (← (format.write value).mapError DocumentFault.unwritable)) =
      textOf write value := by
  -- Both sides ask for the same limit.
  rw [same, Json.writtenBy, textOf]
  split <;> rfl

/-- A document is given out as logic in every way: nothing is lacking, and each way gives out the
logic that the document comes to, on its own or beside the saved document. -/
structure Releases (compiler : Compiler) (document : Document) (logic : Logic) : Prop where
  complete : compiler.finding? document = .ok none
  compiled : document.compile = .ok logic
  alone : compiler.logic? document = .ok (some logic)
  bundled : compiler.data? document =
    .ok (some (.obj [("logic", logic.toJson), ("graph", document.toJson)]))
  json : compiler.text? document .json =
    textOf Json.indented (.obj [("logic", logic.toJson), ("graph", document.toJson)])
  yaml : compiler.text? document .yaml = textOf Yaml.render logic.toJson
  editor : ∀ editor : Editor, editor.compiler = compiler → editor.document = document →
    editor.exportData =
      editor.quietly (.ok (some (.obj [("logic", logic.toJson), ("graph", document.toJson)])))

/-- A document is not given out in any way because of something that is lacking. An editor stays as
it is, and its host is told. -/
structure Withholds (compiler : Compiler) (document : Document) (finding : Finding) : Prop where
  incomplete : compiler.finding? document = .ok (some finding)
  alone : compiler.logic? document = .ok none
  bundled : compiler.data? document = .ok none
  text : ∀ format, compiler.text? document format = .ok none
  editor : ∀ editor : Editor, editor.compiler = compiler → editor.document = document →
    editor.exportData = ⟨editor, editor.tell finding.calls, .ok none⟩

variable {compiler : Compiler} {document : Document}

/-- Where nothing is lacking every way is open. -/
theorem releases_of_complete {logic : Logic} (complete : compiler.finding? document = .ok none)
    (compiled : document.compile = .ok logic) : compiler.Releases document logic := by
  -- Nothing is found, so both kinds of data are there.
  have given : compiler.logic? document = .ok (some logic) :=
    logic?_eq_some.mpr ⟨complete, compiled⟩
  have bundled : compiler.data? document = .ok (some (bundle document logic)) :=
    data?_eq_some.mpr ⟨complete, logic, compiled, rfl⟩
  refine ⟨complete, compiled, given, bundled, ?_, ?_, ?_⟩
  · -- JSON is written of the logic and the document together.
    rw [text?, content?, bundled]
    exact bind_write_eq_textOf rfl
  · -- YAML is written of the logic alone.
    rw [text?, content?, given]
    exact bind_write_eq_textOf rfl
  · rintro editor rfl rfl
    rw [Editor.exportData, complete, compiled]
    rfl

/-- Where something is lacking no way is open. -/
theorem withholds_of_incomplete {finding : Finding}
    (incomplete : compiler.finding? document = .ok (some finding)) :
    compiler.Withholds document finding := by
  -- The ways are built on one another, so the first one closes all but the editor's.
  have nothing : compiler.logic? document = .ok none := by
    rw [logic?, incomplete]
    rfl
  have unbundled : compiler.data? document = .ok none := by
    rw [data?, nothing]
    rfl
  refine ⟨incomplete, nothing, unbundled, fun format => ?_, ?_⟩
  · cases format with
    | json =>
      rw [text?, content?, unbundled]
      rfl
    | yaml =>
      rw [text?, content?, nothing]
      rfl
  · rintro editor rfl rfl
    rw [Editor.exportData, incomplete]
    rfl

/-- A document of parts of the declared kinds is given out in every way or in none. -/
theorem releases_or_withholds (compiler : Compiler) (declared : document.Declared) :
    (∃ logic, compiler.Releases document logic) ∨
      ∃ finding, compiler.Withholds document finding := by
  obtain ⟨finding, found⟩ := declared.exists_finding compiler.schemas compiler.properties
    (.str compiler.settings.startNodeType) compiler.settings.strictStartNode
  -- What is lacking decides, and it can always be told.
  cases finding with
  | some finding => exact .inr ⟨finding, withholds_of_incomplete found⟩
  | none =>
    obtain ⟨logic, compiled⟩ := declared.exists_compile
    exact .inl ⟨logic, releases_of_complete found compiled⟩

/-- For a document of parts of the declared kinds, one way is open exactly if all are. -/
theorem gates_tfae (declared : document.Declared) {editor : Editor}
    (same : editor.compiler = compiler) (held : editor.document = document) :
    List.TFAE [compiler.finding? document = .ok none,
      ∃ logic, compiler.logic? document = .ok (some logic),
      ∃ data, compiler.data? document = .ok (some data),
      compiler.text? document .json ≠ .ok none,
      compiler.text? document .yaml ≠ .ok none,
      ∃ data, editor.exportData.result = .ok (some data)] := by
  -- Either each of the statements is true or each of them is false.
  rcases compiler.releases_or_withholds declared with ⟨logic, released⟩ | ⟨finding, withheld⟩
  · have shown := released.editor editor same held
    refine List.tfae_of_forall True _ ?_
    simp [released.complete, released.alone, released.bundled, released.json, released.yaml, shown,
      textOf_ne_none, Editor.quietly]
  · have hidden := withheld.editor editor same held
    refine List.tfae_of_forall False _ ?_
    simp [withheld.incomplete, withheld.alone, withheld.bundled, withheld.text, hidden]

/-- A document that can be written is given out as a text of each format, if it is given out. -/
theorem exists_text (declared : document.Declared) (writable : document.toJson.isWritable = true)
    (format : ExportFormat) : ∃ text, compiler.text? document format = .ok text := by
  rcases compiler.releases_or_withholds declared with ⟨logic, released⟩ | ⟨finding, withheld⟩
  · -- The logic holds no number that the document does not hold.
    have logicWritable := Document.isWritable_compile released.compiled
      (Document.isWritable_config writable)
    cases format with
    | json =>
      refine ⟨_, released.json.trans (textOf_of_writable ?_)⟩
      simp [Json.isWritable, Json.haveWritable, logicWritable, writable]
    | yaml => exact ⟨_, released.yaml.trans (textOf_of_writable logicWritable)⟩
  -- Nothing to write is no failure either.
  · exact ⟨none, withheld.text format⟩

/-- From what is given out as JSON the logic and the document are read back, if nothing is lost of the
document in its text. -/
theorem read_text {text : String} (told : document.toJson.IsTold)
    (given : compiler.text? document .json = .ok (some text)) :
    ∃ logic, document.compile = .ok logic ∧
      Json.read text = .ok (.obj [("logic", logic.toJson), ("graph", document.toJson)]) := by
  obtain ⟨content, came, rest⟩ := bind_eq_ok.mp given
  -- No text comes of nothing.
  cases content with
  | none => cases rest
  | some content =>
    obtain ⟨-, logic, compiled, rfl⟩ := data?_eq_some.mp came
    obtain ⟨written, wrote, same⟩ := bind_eq_ok.mp rest
    cases same
    obtain ⟨-, rfl⟩ := Json.writtenBy_eq_ok.mp (mapError_eq_ok.mp wrote)
    refine ⟨logic, compiled, Json.read_indented_of_told ?_⟩
    rw [bundle, Json.IsTold]
    exact ⟨by simp, Document.isTold_compile compiled told, told, trivial⟩

/-- What is given out as YAML is the line of the start with a block for each step of the logic. -/
theorem blocks_text {text : String} (given : compiler.text? document .yaml = .ok (some text)) :
    ∃ logic, document.compile = .ok logic ∧
      text = Yaml.render (.obj [("startNodeId", .ofText? logic.start)]) ++
        Logic.blocks logic.steps := by
  obtain ⟨content, came, rest⟩ := bind_eq_ok.mp given
  obtain ⟨found, told, same⟩ := bind_eq_ok.mp came
  cases same
  -- No text comes of nothing.
  cases found with
  | none => cases rest
  | some logic =>
    obtain ⟨written, wrote, same⟩ := bind_eq_ok.mp rest
    cases same
    obtain ⟨-, rfl⟩ := Json.writtenBy_eq_ok.mp (mapError_eq_ok.mp wrote)
    exact ⟨logic, (logic?_eq_some.mp told).2, logic.render_toJson⟩

end Compiler

/-- An imported node has an id. -/
theorem ImportSource.id_isTruthy {source : ImportSource} {document : Document}
    (imported : source.document = .ok document) :
    ∀ node ∈ document.nodes, node.id.isTruthy = true := by
  obtain ⟨payload, read, -, rfl⟩ := document_eq_ok.mp imported
  obtain ⟨value, -, rest⟩ := bind_eq_ok.mp read
  obtain ⟨members, -, shaped⟩ := bind_eq_ok.mp rest
  -- The payload has been checked, and a checked node has an id that is not empty.
  have acceptable := Payload.acceptable_of_shape (mapError_eq_ok.mp shaped)
  intro node member
  obtain ⟨given, listed, rfl⟩ := List.mem_map.mp member
  exact decide_eq_true (acceptable.nodes given listed).named

/-- A host that does more than edit steps is told everything. -/
theorem Editor.tell_of_attentive {editor : Editor} {host : Host} (hosted : editor.host = some host)
    (attentive : host.editsOnly = false) (calls : List HostCall) : editor.tell calls = calls := by
  -- Such a host hears every kind of call.
  have hears : ∀ call ∈ calls, host.hears call = true := by
    intro call _
    cases call <;> simp [Host.hears, attentive]
  rw [tell, hosted]
  exact List.filter_eq_self.mpr hears

namespace EditorSession

/-- Whatever is done in an editor, nodes that are added have ids, and so have imported ones. -/
theorem run_named {session : EditorSession}
    (named : ∀ node ∈ session.editor.document.nodes, node.id.isTruthy = true)
    (actions : List EditorAction) :
    ∀ node ∈ (session.run actions).editor.document.nodes, node.id.isTruthy = true := by
  -- Updates keep the ids of nodes, so only nodes that come in have to be looked at.
  let property (space : Workspace) : Prop :=
    ∀ node ∈ space.document.nodes, node.id.isTruthy = true
  have start : property session.editor.space := named
  refine run_keeps ?_ start
  intro action listed session next effect before
  refine effect.nodes_forall (fun operation asked step => ?_)
    (fun source document named read => ImportSource.id_isTruthy read) before
  refine step.nodes_forall ?_ ?_ ?_ before
  · exact fun _ _ _ _ _ _ => decide_eq_true (session.editor.space.supply.idAfter_ne_empty _)
  · intro _ _ _ old changed _ merged held
    rwa [show changed.id = old.id from congrArg Prod.fst (Node.update_frame merged)]
  · intro _ _ _ old changed _ stored held
    rwa [show changed.id = old.id from congrArg Prod.fst (Node.withCondition_frame stored)]

/-- In an editing session the host is led to the very node that something is lacking of, if it is
about one, and nothing changes. -/
theorem run_focus {session : EditorSession}
    (named : ∀ node ∈ session.editor.document.nodes, node.id.isTruthy = true)
    (actions : List EditorAction) {editor : Editor}
    (reached : (session.run actions).editor = editor) {finding : Finding}
    (found : editor.compiler.finding? editor.document = .ok (some finding)) :
    let calls := finding.node.toList.map HostCall.focus ++
      [.notice "Attention" finding.lack.message .warning]
    editor.exportData = ⟨editor, editor.tell calls, .ok none⟩ ∧
      ∀ host, editor.host = some host → host.editsOnly = false →
        editor.exportData.told = calls := by
  intro calls
  subst reached
  -- A host is led to any id but an empty one, and no node has an empty one.
  have there : ∀ id ∈ finding.node.toList, id.isTruthy = true := by
    intro id about
    obtain ⟨node, member, rfl⟩ := Document.mem_of_finding? found (Option.mem_toList.mp about)
    exact run_named named actions node member
  have turn : (session.run actions).editor.exportData =
      ⟨(session.run actions).editor, (session.run actions).editor.tell calls, .ok none⟩ := by
    rw [(Compiler.withholds_of_incomplete found).editor _ rfl rfl, Finding.calls,
      List.filter_eq_self.mpr there]
  refine ⟨turn, fun host hosted attentive => ?_⟩
  rw [turn]
  exact Editor.tell_of_attentive hosted attentive calls

end EditorSession

end Flowchart
