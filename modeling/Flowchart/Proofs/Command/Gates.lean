import Flowchart.Proofs.Command.Words
import Flowchart.Proofs.Editor.Import
import Flowchart.Proofs.Export.Gates
import Flowchart.Proofs.Files
import Flowchart.Proofs.Logic.Reach

/-! The commands that validate and compile a document stand at the same gate as every export: they
do what they are asked for on the same files, and what is compiled is the logic that is exported. -/

namespace Flowchart

namespace Verb

/-- A switch with its value, if there is one. -/
def entry (switch : Switch) (value : Option String) : List (Switch × String) :=
  (value.map fun value => (switch, value)).toList

/-- The switches for the files that a document is held against. -/
def sourceEntries (schemas properties : Option String) : List (Switch × String) :=
  entry schemasSwitch schemas ++ entry propertiesSwitch properties

/-- The switches for what is written, and where. -/
def targetEntries (format : Option ExportFormat) (withGraph : Bool) (output : Option String) :
    List (Switch × String) :=
  entry formatSwitch (format.map ExportFormat.name) ++
    entry graphSwitch (if withGraph then some "" else none) ++ entry outputSwitch output

section Entries

variable {switch : Switch} {value schemas properties output : Option String}
  {format : Option ExportFormat} {withGraph : Bool}

/-- A switch is named no more than once. -/
theorem entry_names :
    ((entry switch value).map fun entry => entry.1.name).Sublist [switch.name] := by
  -- A switch that is not given leaves no entry.
  cases value with
  | none => exact List.nil_sublist _
  | some value => exact .refl _

/-- A switch with a value, or with an empty one if it takes none, is known where it is listed. -/
theorem entry_known {switches : List Switch} (listed : switch ∈ switches)
    (bare : switch.value = none → ∀ given ∈ value, given = "") :
    ∀ given ∈ entry switch value, given.1 ∈ switches ∧ (given.1.value = none → given.2 = "") := by
  -- An entry is there only with its value, and a bare switch has an empty one.
  cases value with
  | none => exact nofun
  | some value =>
    exact List.forall_mem_singleton.mpr ⟨listed, fun takesNone => bare takesNone value rfl⟩

/-- Among the entries of one name are those of the switch with that name. -/
@[simp]
theorem filter_entry {name : String} :
    (entry switch value).filter (fun given => given.1.name == name) =
      if switch.name = name then entry switch value else [] := by
  -- The one entry there may be has the name of its switch.
  cases value with
  | none => simp [entry]
  | some value => simp [entry, List.filter_cons]

/-- The last entry of a switch holds its value. -/
@[simp]
theorem getLast?_entry :
    (entry switch value).getLast? = value.map fun value => (switch, value) := by
  cases value <;> rfl

/-- The switches for the files that a document is held against are given once each. -/
theorem sourceEntries_names :
    ((sourceEntries schemas properties).map fun entry => entry.1.name).Sublist
      [schemasSwitch.name, propertiesSwitch.name] := by
  -- Each switch comes once at most, schemas before properties.
  rw [sourceEntries, List.map_append]
  exact entry_names.append entry_names

/-- The switches for what is written are given once each. -/
theorem targetEntries_names :
    ((targetEntries format withGraph output).map fun entry => entry.1.name).Sublist
      [formatSwitch.name, graphSwitch.name, outputSwitch.name] := by
  -- Each switch comes once at most, in the order of the command.
  rw [targetEntries, List.map_append, List.map_append]
  exact (entry_names.append entry_names).append entry_names

/-- A command that knows the switches knows what is given for the files that a document is held
against. -/
theorem sourceEntries_known {switches : List Switch} (schemasListed : schemasSwitch ∈ switches)
    (propertiesListed : propertiesSwitch ∈ switches) :
    ∀ given ∈ sourceEntries schemas properties,
      given.1 ∈ switches ∧ (given.1.value = none → given.2 = "") :=
  -- Neither switch is bare, so nothing is asked of the values.
  List.forall_mem_append.mpr
    ⟨entry_known schemasListed nofun, entry_known propertiesListed nofun⟩

/-- A command that knows the switches knows what is given for what is written. -/
theorem targetEntries_known {switches : List Switch} (formatListed : formatSwitch ∈ switches)
    (graphListed : graphSwitch ∈ switches) (outputListed : outputSwitch ∈ switches) :
    ∀ given ∈ targetEntries format withGraph output,
      given.1 ∈ switches ∧ (given.1.value = none → given.2 = "") := by
  -- The graph is the one bare switch, and it is given with an empty value.
  refine List.forall_mem_append.mpr ⟨List.forall_mem_append.mpr
    ⟨entry_known formatListed nofun, entry_known graphListed fun _ => ?_⟩,
    entry_known outputListed nofun⟩
  cases withGraph <;> simp

/-- The name of a format leads to the format. -/
theorem bind_ofName?_name :
    (format.map ExportFormat.name).bind ExportFormat.ofName? = format := by
  rcases format with _ | _ | _ <;> rfl

/-- The words of a validation stand for it. -/
theorem command_validate {document : String} :
    validate.command ⟨sourceEntries schemas properties, [document]⟩ =
      .validate (.ofText document) ⟨schemas.map .ofText, properties.map .ofText⟩ := by
  -- The command looks its entries up by name, and each name has one entry at most.
  simp [command, sourcesOf, path?, Given.value?, Given.last?_eq, sourceEntries, schemasSwitch,
    propertiesSwitch, Function.comp_def]

/-- The words for compiling a document stand for it. -/
theorem command_compile {document : String} :
    compile.command ⟨sourceEntries schemas properties ++ targetEntries format withGraph output,
        [document]⟩ =
      .compile (.ofText document) ⟨schemas.map .ofText, properties.map .ofText⟩
        (format.getD .json) withGraph (output.map .ofText) := by
  have asked : (if withGraph then some "" else none : Option String).isSome = withGraph := by
    cases withGraph <;> rfl
  -- What stands under each switch is looked up among the entries, which are written in a fixed
  -- order.
  simp [command, sourcesOf, path?, Given.value?, Given.last?_eq, Given.has, sourceEntries,
    targetEntries, schemasSwitch, propertiesSwitch, formatSwitch, graphSwitch, outputSwitch,
    Function.comp_def, bind_ofName?_name, asked, -Option.map_if]

end Entries

end Verb

/-- The words that ask for the validation of a document. -/
def validateLine (document : String) (schemas properties : Option String) : List String :=
  commandLine .workflow .validate (Verb.sourceEntries schemas properties) document

/-- The words that ask for the logic of a document. -/
def compileLine (document : String) (schemas properties : Option String)
    (format : Option ExportFormat) (withGraph : Bool) (output : Option String) : List String :=
  commandLine .workflow .compile
    (Verb.sourceEntries schemas properties ++ Verb.targetEntries format withGraph output) document

/-- No error ends a run with zero. -/
theorem CommandError.exitCode_ne_zero (error : CommandError) : error.exitCode ≠ 0 := by
  -- Usage errors have a code of their own, and it is no zero either.
  unfold exitCode
  split <;> decide

namespace Surroundings

variable {surroundings : Surroundings} {path : FilePath} {sources : Sources} {report : Report}

/-- The files of a document and of what it is held against are there. -/
def HasAll (surroundings : Surroundings) (document : String) (schemas properties : Option String) :
    Prop :=
  surroundings.files.hasText document = true ∧
    (∀ path ∈ schemas, surroundings.files.hasText path = true) ∧
    ∀ path ∈ properties, surroundings.files.hasText path = true

/-- The code that a run of the program ends with. -/
def exitCode (surroundings : Surroundings) (words : List String) : Nat :=
  match surroundings.run words with
  | .ok _ => 0
  | .error error => error.exitCode

/-- A run ends with zero exactly if it does what was asked for. -/
theorem exitCode_eq_zero {words : List String} :
    surroundings.exitCode words = 0 ↔ ∃ report, surroundings.run words = .ok report := by
  -- Only an error sets another code.
  rw [exitCode]
  cases surroundings.run words with
  | ok report => simp
  | error error => simp [error.exitCode_ne_zero]

/-- What a command gives out a text as: it is printed, or it is the content of a file. -/
def Emits (surroundings : Surroundings) (text : String) : Option FilePath → Report → Prop
  | none, report => report = surroundings.report [text]
  | some target, report => report.files.read target = .ok text.toUTF8

/-- The text that a document comes to: its logic in YAML or in JSON, and in JSON beside the saved
document if that is asked for. -/
def compiledText (document : Document) (logic : Logic) (format : ExportFormat) (withGraph : Bool) :
    String :=
  match format, withGraph with
  | .yaml, _ => Yaml.render logic.toJson
  | .json, false => logic.toJson.indented
  | .json, true => (Json.obj [("logic", logic.toJson), ("graph", document.toJson)]).indented

/-- A document is valid exactly if its files can be read and nothing is lacking. -/
theorem validate_isOk_iff : (∃ report, surroundings.validate path sources = .ok report) ↔
    ∃ compiler document, surroundings.compiler sources = .ok compiler ∧
      surroundings.document path = .ok document ∧ compiler.finding? document = .ok none := by
  simp only [validate, bind_eq_ok, mapError_eq_ok]
  constructor
  -- The command comes to its end only if nothing is found.
  · rintro ⟨report, compiler, made, document, read, finding, found, rest⟩
    cases finding with
    | none => exact ⟨compiler, document, made, read, found⟩
    | some finding => cases rest
  · rintro ⟨compiler, document, made, read, found⟩
    exact ⟨_, compiler, made, document, read, none, found, rfl⟩

/-- A document that is read can be written, and so can its logic. -/
theorem document_writable {document : Document} (read : surroundings.document path = .ok document) :
    document.toJson.isWritable = true := by
  -- What comes out of a file was read from its text, and the reader takes no number that is too
  -- long.
  obtain ⟨text, -, imported⟩ := bind_eq_ok.mp read
  exact ImportSource.isWritable_document (mapError_eq_ok.mp imported) (by simp)

/-- Nothing that is compiled of a document that was read stops the writers. -/
theorem write_compiled {document : Document} {logic : Logic}
    (read : surroundings.document path = .ok document) (came : document.compile = .ok logic)
    (format : ExportFormat) (withGraph : Bool) :
    format.write (compiled document logic format withGraph) =
      .ok (compiledText document logic format withGraph) := by
  have whole := document_writable read
  have part := Document.isWritable_compile came (Document.isWritable_config whole)
  -- Only JSON may hold the document as well.
  cases format with
  | yaml => exact Json.writtenBy_of_writable part
  | json =>
    cases withGraph with
    | false => exact Json.writtenBy_of_writable part
    | true =>
      refine Json.writtenBy_of_writable ?_
      simp [compiled, Compiler.bundle, Json.isWritable, Json.haveWritable, part, whole]

/-- What is compiled is the logic that is exported, and its text is given out. -/
theorem compile_emits {format : ExportFormat} {withGraph : Bool} {target : Option FilePath}
    (done : surroundings.compile path sources format withGraph target = .ok report) :
    ∃ compiler document logic, surroundings.compiler sources = .ok compiler ∧
      surroundings.document path = .ok document ∧ compiler.logic? document = .ok (some logic) ∧
      surroundings.Emits (compiledText document logic format withGraph) target report := by
  simp only [compile, bind_eq_ok, mapError_eq_ok] at done
  obtain ⟨compiler, made, document, read, finding, found, rest⟩ := done
  -- Where something is lacking the command has failed by now.
  cases finding with
  | some finding => cases rest
  | none =>
    obtain ⟨logic, came, rest⟩ := bind_eq_ok.mp rest
    have compiled := mapError_eq_ok.mp came
    have given := Compiler.logic?_eq_some.mpr ⟨found, compiled⟩
    refine ⟨compiler, document, logic, made, read, given, ?_⟩
    rw [write_compiled read compiled] at rest
    obtain ⟨text, made, rest⟩ := bind_eq_ok.mp rest
    obtain rfl := Except.ok.inj (mapError_eq_ok.mp made)
    -- The text is there, and goes to one of two places.
    cases target with
    | none => exact (Except.ok.inj rest).symm
    | some target =>
      obtain ⟨written, wrote, same⟩ := bind_eq_ok.mp rest
      rw [← Except.ok.inj same]
      exact Files.read_of_write (mapError_eq_ok.mp wrote)

/-- A document is compiled if its files can be read, its logic is exported, and there is a place to
write it to. -/
theorem compile_isOk {format : ExportFormat} {withGraph : Bool} {target : Option FilePath}
    {compiler : Compiler} {document : Document} {logic : Logic}
    (made : surroundings.compiler sources = .ok compiler)
    (read : surroundings.document path = .ok document)
    (given : compiler.logic? document = .ok (some logic))
    (writable : ∀ place ∈ target, surroundings.files.CanWrite place) :
    ∃ report, surroundings.compile path sources format withGraph target = .ok report := by
  obtain ⟨complete, came⟩ := Compiler.logic?_eq_some.mp given
  rw [compile, made]
  simp only [Bind.bind, Except.bind, read, complete, Except.mapError, came,
    write_compiled read came]
  cases target with
  | none => exact ⟨_, rfl⟩
  | some place =>
    -- Any content can be written to the place, so this one can.
    obtain ⟨written, wrote⟩ :=
      writable place rfl (compiledText document logic format withGraph).toUTF8
    simp only [wrote]
    exact ⟨_, rfl⟩

/-- A document that is read has parts of the declared kinds. -/
theorem document_declared {document : Document} (read : surroundings.document path = .ok document) :
    document.Declared := by
  -- What comes out of a file was imported, so its edges are linked and its parts are typed.
  obtain ⟨text, -, imported⟩ := bind_eq_ok.mp read
  obtain ⟨linked, typed⟩ := ImportSource.document_linked (mapError_eq_ok.mp imported)
  exact linked.declared typed

/-- The same documents are valid and can be compiled. -/
theorem validate_isOk_iff_compile {format : ExportFormat} {withGraph : Bool}
    {target : Option FilePath} (writable : ∀ place ∈ target, surroundings.files.CanWrite place) :
    (∃ report, surroundings.validate path sources = .ok report) ↔
      ∃ report, surroundings.compile path sources format withGraph target = .ok report := by
  rw [validate_isOk_iff]
  constructor
  · rintro ⟨compiler, document, made, read, complete⟩
    -- A document that lacks nothing comes to logic, so compiling gets as far as writing.
    obtain ⟨logic, came⟩ := (document_declared read).exists_compile
    exact compile_isOk made read (Compiler.logic?_eq_some.mpr ⟨complete, came⟩) writable
  · rintro ⟨report, done⟩
    -- What compiling has given out was found complete before.
    obtain ⟨compiler, document, logic, made, read, given, -⟩ := compile_emits done
    exact ⟨compiler, document, made, read, (Compiler.logic?_eq_some.mp given).1⟩

section Lines

variable {document : String} {schemas properties output : Option String}
  {format : Option ExportFormat} {withGraph : Bool}

/-- A path that has to be there passes its check exactly if something is there. -/
theorem existingPath_eq_ok {hint text : String} :
    ValueRule.existingPath.check surroundings.files.hasText hint text = .ok () ↔
      surroundings.files.hasText text = true := by
  -- A text with a null character is refused on its own, but nothing is ever there, either.
  rw [ValueRule.check, checkPath]
  by_cases there : surroundings.files.hasText text = true
  · have clean : FilePath.holdsNull text = false := by
      rw [← Bool.not_eq_true]
      intro held
      simp [Files.hasText, FilePath.textFault?, held] at there
    simp [there, clean, Bind.bind, Except.bind, Pure.pure, Except.pure]
  · by_cases held : FilePath.holdsNull text = true
    · simp [there, held, Bind.bind, Except.bind]
    · simp [there, held, Bind.bind, Except.bind]

/-- The switches for files pass their checks exactly if the files are there. -/
theorem sourceEntries_eq_ok :
    (∀ entry ∈ Verb.sourceEntries schemas properties,
      (entry.1.value.getD .anything).check surroundings.files.hasText entry.1.hint entry.2 =
        .ok ()) ↔
      (∀ path ∈ schemas, surroundings.files.hasText path = true) ∧
        ∀ path ∈ properties, surroundings.files.hasText path = true := by
  rw [Verb.sourceEntries, List.forall_mem_append]
  -- A switch that is not given is not checked, and one that is given has to name a file.
  refine and_congr ?_ ?_
  · cases schemas with
    | none => simp [Verb.entry]
    | some path => simp [Verb.entry, Verb.schemasSwitch, existingPath_eq_ok]
  · cases properties with
    | none => simp [Verb.entry]
    | some path => simp [Verb.entry, Verb.propertiesSwitch, existingPath_eq_ok]

/-- The switches for what is written pass their checks if a path can be written to. -/
theorem targetEntries_eq_ok
    (writable : ∀ place ∈ output, surroundings.files.CanWrite (.ofText place)) :
    ∀ entry ∈ Verb.targetEntries format withGraph output,
      (entry.1.value.getD .anything).check surroundings.files.hasText entry.1.hint entry.2 =
        .ok () := by
  rw [Verb.targetEntries, List.forall_mem_append, List.forall_mem_append]
  -- None of the three switches has a value that the checks can refuse.
  refine ⟨⟨?_, ?_⟩, ?_⟩
  · rcases format with _ | _ | _
    · exact nofun
    · simp [Verb.entry, Verb.formatSwitch, ValueRule.check, ExportFormat.all]
    · simp [Verb.entry, Verb.formatSwitch, ValueRule.check, ExportFormat.all]
  · cases withGraph with
    | false => exact nofun
    | true => simp [Verb.entry, Verb.graphSwitch, ValueRule.check]
  · cases output with
    | none => exact nofun
    | some place =>
      -- A place that can be written has no null in its name, which is all that is asked of it.
      have clean := (writable place rfl).holdsNull_eq_false
      simp [Verb.entry, Verb.outputSwitch, ValueRule.check, checkPath, clean]

/-- The words of a validation do what they say. -/
theorem run_validateLine :
    surroundings.run (validateLine document schemas properties) = .ok report ↔
    surroundings.checkLevel = .ok () ∧ surroundings.HasAll document schemas properties ∧
      surroundings.validate (.ofText document) ⟨schemas.map .ofText, properties.map .ofText⟩ =
        .ok report := by
  -- No switch is given twice, so none is overruled by a later one.
  have distinct : ((Verb.sourceEntries schemas properties).map fun entry => entry.1.name).Nodup :=
    Verb.sourceEntries_names.nodup (by decide)
  -- The checks of the words come down to the files being there.
  have kept : Verb.validate.grammar.check surroundings.files.hasText
      ⟨Verb.sourceEntries schemas properties, [document]⟩ = .ok () ↔
        surroundings.HasAll document schemas properties := by
    rw [Grammar.check_eq_ok rfl (by decide) distinct, sourceEntries_eq_ok, HasAll, and_comm]
    exact and_congr_left' existingPath_eq_ok
  rw [validateLine, surroundings.run_commandLine (Verb.sourceEntries_known (by decide) (by decide))
    document (by decide), kept, Verb.command_validate]
  rfl

/-- The words for compiling a document do what they say if they name a place to write to. -/
theorem run_compileLine (writable : ∀ place ∈ output, surroundings.files.CanWrite (.ofText place)) :
    surroundings.run (compileLine document schemas properties format withGraph output) =
        .ok report ↔
      surroundings.checkLevel = .ok () ∧ surroundings.HasAll document schemas properties ∧
        surroundings.compile (.ofText document) ⟨schemas.map .ofText, properties.map .ofText⟩
          (format.getD .json) withGraph (output.map .ofText) = .ok report := by
  -- What is read beside a validation passes its checks, so the same files have to be there.
  let entries := Verb.sourceEntries schemas properties ++
    Verb.targetEntries format withGraph output
  have known : ∀ given ∈ entries,
      given.1 ∈ Verb.compile.grammar.switches ∧ (given.1.value = none → given.2 = "") :=
    List.forall_mem_append.mpr ⟨Verb.sourceEntries_known (by decide) (by decide),
      Verb.targetEntries_known (by decide) (by decide) (by decide)⟩
  have distinct : (entries.map fun entry => entry.1.name).Nodup := by
    rw [List.map_append]
    exact (Verb.sourceEntries_names.append Verb.targetEntries_names).nodup (by decide)
  have kept : Verb.compile.grammar.check surroundings.files.hasText ⟨entries, [document]⟩ =
      .ok () ↔ surroundings.HasAll document schemas properties := by
    rw [Grammar.check_eq_ok rfl (by decide) distinct, List.forall_mem_append, sourceEntries_eq_ok,
      and_iff_left (targetEntries_eq_ok writable), HasAll, and_comm]
    exact and_congr_left' existingPath_eq_ok
  rw [compileLine, surroundings.run_commandLine known document (by decide), kept,
    Verb.command_compile]
  rfl

/-- A document file is valid for the program exactly if the program compiles it, whatever is asked
for beside it, as long as there is a place to write to. -/
theorem exitCode_validateLine
    (writable : ∀ place ∈ output, surroundings.files.CanWrite (.ofText place)) :
    surroundings.exitCode (validateLine document schemas properties) = 0 ↔
      surroundings.exitCode (compileLine document schemas properties format withGraph output) =
        0 := by
  have places : ∀ place ∈ output.map FilePath.ofText, surroundings.files.CanWrite place := by
    intro place given
    obtain ⟨text, member, rfl⟩ := Option.map_eq_some_iff.mp given
    exact writable text member
  rw [exitCode_eq_zero, exitCode_eq_zero]
  -- Both lines pass the same checks of their words before either command starts.
  simp only [run_validateLine, run_compileLine writable, exists_and_left]
  rw [validate_isOk_iff_compile places]

end Lines

end Surroundings

/-- A home with a file for a flow of one step. -/
def Surroundings.oneStepHome : Surroundings where
  files := .ofList ["home"]
    [("flow.json", "\x7b\"nodes\": [\x7b\"id\": \"a\", \"type\": \"start\"\x7d]\x7d".toUTF8)]
  environment := []

end Flowchart
