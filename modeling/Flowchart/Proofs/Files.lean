import Flowchart.Files
import Flowchart.Proofs.Outcome

/-! A file that was written is read back: the way to it leads through folders, and a file that is
put somewhere leaves all folders where they are. A path that leads to a place to write at can be
given as a text. -/

namespace Flowchart

namespace Files

variable {files : Files} {place : List String} {content : ByteArray}

/-- A folder is a place that no file has, and at which something is known: the top, a part of the
way home, a folder, or what holds a folder or a file. -/
theorem entry?_eq_folder :
    files.entry? place = some .folder ↔
      (∀ file ∈ files.files, file.1 ≠ place) ∧
        (place.isEmpty = true ∨ place.isPrefixOf files.home = true ∨
          (∃ folder ∈ files.folders, place.isPrefixOf folder = true) ∨
          ∃ file ∈ files.files, place.isPrefixOf file.1 = true) := by
  -- Files are looked for first, so that a file's place is no folder, whatever lies below it.
  unfold entry?
  split
  · rename_i file found
    have member := List.mem_of_find?_eq_some found
    have same := List.find?_some found
    simp only [beq_iff_eq] at same
    simp only [Option.some.injEq, reduceCtorEq, false_iff, not_and_or, not_forall, not_not]
    exact .inl ⟨file, member, same⟩
  · rename_i absent
    simp only [List.find?_eq_none, beq_iff_eq] at absent
    refine Iff.trans ?_ (and_iff_right absent).symm
    simp only [ite_eq_left_iff, reduceCtorEq, imp_false, not_not, Bool.or_eq_true, List.any_eq_true,
      or_assoc]

/-- A file that is put at a place stands there. -/
theorem entry?_put_self : Files.entry? (files.put place content) place = some (.file content) := by
  -- Older files of that name are dropped, and the new one stands at the end.
  have others : (files.files.filter fun file => file.1 != place).find?
      (fun file => file.1 == place) = none := by
    simp [List.find?_eq_none]
  simp [put, entry?, List.find?_append, others]

/-- A folder stays where it is when a file is put at a place that is no folder. -/
theorem entry?_put_folder {folder : List String} (free : files.entry? place ≠ some .folder)
    (held : files.entry? folder = some .folder) :
    Files.entry? (files.put place content) folder = some .folder := by
  -- The place is free, so it is not the folder.
  have distinct : place ≠ folder := by
    rintro rfl
    exact free held
  obtain ⟨noFile, known⟩ := entry?_eq_folder.mp held
  refine entry?_eq_folder.mpr ⟨?_, ?_⟩
  · simp only [put, List.mem_append, List.mem_filter, List.mem_singleton]
    rintro file (⟨earlier, -⟩ | rfl)
    · exact noFile file earlier
    · exact distinct
  · -- A file that made the folder known is still there, or the new one takes its place.
    refine known.imp_right (Or.imp_right (Or.imp_right ?_))
    rintro ⟨file, member, inside⟩
    by_cases same : file.1 = place
    · exact ⟨(place, content), by simp [put], same ▸ inside⟩
    · exact ⟨file, by simp [put, member, same], inside⟩

/-- The way along folders is the same when a file is put at a place that is no folder. -/
theorem follow_put (free : files.entry? place ≠ some .folder) {names start reached : List String}
    (way : files.follow start names = .ok reached) :
    (files.put place content).follow start names = .ok reached := by
  -- By induction on the names: what the way has led through so far is a folder still.
  induction names generalizing start with
  | nil => exact way
  | cons name rest ih =>
    unfold follow at way ⊢
    split at way
    · cases way
    · cases way
    · rename_i folder
      simp only [entry?_put_folder free folder]
      split_ifs at way ⊢
      · exact ih way
      · exact ih way
      · exact ih way

/-- A file that was written is read back. -/
theorem read_of_write {written : Files} {path : FilePath}
    (wrote : files.write path content = .ok written) : written.read path = .ok content := by
  -- The place that was found for writing is found again for reading, as it was no folder.
  obtain ⟨place, located, made⟩ := bind_eq_ok.mp wrote
  have free : files.entry? place ≠ some .folder := by
    intro folder
    simp [folder] at made
  have same : files.put place content = written := by
    cases entry : files.entry? place with
    | none => simpa [entry, Pure.pure, Except.pure] using made
    | some found =>
      cases found with
      | file => simpa [entry, Pure.pure, Except.pure] using made
      | folder => exact absurd entry free
  have relocated : (files.put place content).locate path = .ok place := by
    unfold locate at located ⊢
    split at located
    · cases located
    · exact follow_put free located
  rw [← same]
  exact bind_eq_ok.mpr ⟨place, relocated, by rw [entry?_put_self]; rfl⟩

end Files

namespace FilePath

/-- Every character but the slash is in one of the parts between slashes. -/
theorem mem_splitSlashes {chars : List Char} {c : Char} (member : c ∈ chars) (apart : c ≠ '/') :
    ∃ part ∈ splitSlashes chars, c ∈ part := by
  -- The parts are found from the end, and each letter joins the first of them or starts a new one.
  induction chars with
  | nil => cases member
  | cons first rest ih =>
    rw [splitSlashes]
    cases split : splitSlashes rest with
    | nil =>
      rcases List.mem_cons.mp member with rfl | later
      · simp
      · obtain ⟨part, listed, -⟩ := ih later
        simp [split] at listed
    | cons part parts =>
      rcases List.mem_cons.mp member with rfl | later
      · simp [apart]
      · obtain ⟨found, listed, inside⟩ := ih later
        rw [split] at listed
        -- In front of a slash the parts stay, and any other letter is put to the first of them.
        by_cases slash : first = '/'
        · simp only [slash, if_true]
          exact ⟨found, List.mem_cons_of_mem _ listed, inside⟩
        · simp only [slash, if_false]
          rcases List.mem_cons.mp listed with rfl | others
          · exact ⟨_, List.mem_cons_self, List.mem_cons_of_mem _ inside⟩
          · exact ⟨found, List.mem_cons_of_mem _ others, inside⟩

/-- What is in a name is in the names that are put together. -/
theorem mem_intercalate {names : List String} {name separator : String} {c : Char}
    (listed : name ∈ names) (inside : c ∈ name.toList) :
    c ∈ (String.intercalate separator names).toList := by
  -- The first name stands in front of a separator and the others.
  induction names with
  | nil => cases listed
  | cons first rest ih =>
    cases rest with
    | nil =>
      rw [List.mem_singleton.mp listed] at inside
      rwa [String.intercalate_singleton]
    | cons second others =>
      rw [String.intercalate_cons_cons, String.toList_append, String.toList_append]
      rcases List.mem_cons.mp listed with rfl | later
      · simp [inside]
      · exact List.mem_append_right _ (ih later)

/-- A null character in a text is in the text of its path, too. -/
theorem holdsNull_ofText {text : String} (held : holdsNull text = true) :
    holdsNull (ofText text).toText = true := by
  have member : '\x00' ∈ text.toList := by simpa [holdsNull] using held
  obtain ⟨part, listed, inside⟩ := mem_splitSlashes member (by decide)
  -- The name with the character leads somewhere, and so it is kept.
  have named : String.ofList part ∈ (ofText text).names := by
    refine List.mem_filter.mpr ⟨List.mem_map_of_mem listed, ?_⟩
    have apart (other : String) (free : '\x00' ∉ other.toList) : String.ofList part ≠ other := by
      rintro rfl
      exact free (by simpa using inside)
    simp [leadsNowhere, apart "" (by simp), apart "." (by decide)]
  have joined : '\x00' ∈ (String.intercalate "/" (ofText text).names).toList :=
    mem_intercalate named (by simpa using inside)
  simp only [holdsNull, List.contains_iff_mem, toText]
  split_ifs with top empty
  · rw [String.toList_append]
    exact List.mem_append_right _ joined
  · rw [List.isEmpty_iff.mp empty] at named
    cases named
  · exact joined

end FilePath

/-- A file can be written at a path, whatever its content. -/
def Files.CanWrite (files : Files) (path : FilePath) : Prop :=
  ∀ content, ∃ written, files.write path content = .ok written

/-- A path at which a file can be written has no null character. -/
theorem Files.CanWrite.holdsNull_eq_false {files : Files} {text : String}
    (writable : files.CanWrite (.ofText text)) : FilePath.holdsNull text = false := by
  obtain ⟨written, wrote⟩ := writable .empty
  obtain ⟨place, located, -⟩ := bind_eq_ok.mp wrote
  rw [← Bool.not_eq_true]
  -- A place with a null in its name is refused before anything is written.
  intro held
  simp [locate, FilePath.textFault?, FilePath.holdsNull_ofText held] at located

end Flowchart
