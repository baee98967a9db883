import Flowchart.Command.Run
import Flowchart.Proofs.Outcome
import Flowchart.Proofs.Repeated

/-! Command lines in which every switch is written out, with two dashes before the last word: they
are read as they were meant, whatever the values are. -/

namespace Flowchart

/-- The words for a switch with its value; a switch that takes no value stands alone. -/
def Switch.spelled (entry : Switch × String) : List String :=
  if entry.1.value.isSome then [entry.1.long, entry.2] else [entry.1.long]

namespace Given

variable {given : Given}

/-- The appearance of a switch that counts is the last among those of its name. -/
theorem last?_eq (given : Given) (name : String) :
    given.last? name = (given.switches.filter fun entry => entry.1.name == name).getLast? := by
  rw [last?, ← List.head?_filter, List.filter_reverse, List.head?_reverse]

/-- Where no switch comes twice, every switch counts as it was given. -/
theorem settled_eq (distinct : (given.switches.map fun entry => entry.1.name).Nodup) :
    given.settled = given.switches :=
  lastOfEach_eq_self (fun entry : Switch × String => entry.1.name) distinct

end Given

/-- The long name of a switch leads to the switch itself. -/
structure Switch.Known (switches : List Switch) (switch : Switch) : Prop where
  named : switch.name ≠ ""
  read : readSwitches switches switch.long =
    if switch.value.isSome then .ok ([], some ⟨switch, switch.long⟩)
    else .ok ([(switch, "")], none)

namespace Switch

variable {switches : List Switch} {switch : Switch}

/-- The long name of a switch is read as a switch. -/
theorem Known.looks (known : switch.Known switches) :
    switch.long ≠ "--" ∧ looksLikeSwitch switch.long = true := by
  have spelled : switch.long.toList = '-' :: '-' :: switch.name.toList := by
    simp [long]
  constructor
  -- Only a switch without a name would be spelled like the mark behind which all words are plain.
  · intro bare
    have same : switch.name.toList = [] := by simpa [spelled] using congrArg String.toList bare
    exact known.named (String.toList_inj.mp same)
  · simp [looksLikeSwitch, spelled]

end Switch

/-- Every switch of a command is known among all switches of the command. -/
theorem Verb.known (verb : Verb) :
    ∀ switch ∈ verb.grammar.switches, switch.Known (verb.grammar.switches ++ [helpSwitch]) := by
  -- Each verb has a short list of switches, and the switch for help is none of them.
  cases verb with
  | validate =>
    simp only [grammar, List.forall_mem_cons]
    exact ⟨⟨by decide, by rfl⟩, ⟨by decide, by rfl⟩, List.forall_mem_nil _⟩
  | compile =>
    simp only [grammar, List.forall_mem_cons]
    exact ⟨⟨by decide, by rfl⟩, ⟨by decide, by rfl⟩, ⟨by decide, by rfl⟩, ⟨by decide, by rfl⟩,
      ⟨by decide, by rfl⟩, List.forall_mem_nil _⟩
  | sections =>
    simp only [grammar, List.forall_mem_cons]
    exact ⟨⟨by decide, by rfl⟩, List.forall_mem_nil _⟩
  | _ => exact List.forall_mem_nil _

section Reading

variable {switches : List Switch} {entries : List (Switch × String)}

/-- Switches that are written out are read as they were meant, and reading goes on behind them. -/
theorem readWords_spelled (isMixed : Bool) (rest : List String)
    (known : ∀ entry ∈ entries, entry.1.Known switches ∧ (entry.1.value = none → entry.2 = "")) :
    readWords switches isMixed (entries.flatMap Switch.spelled ++ rest) =
      (readWords switches isMixed rest).map fun more => more.after entries := by
  -- Each switch takes one word or two, and the value is taken as it is.
  induction entries with
  | nil =>
    rw [List.flatMap_nil, List.nil_append]
    cases readWords switches isMixed rest <;> rfl
  | cons entry others ih =>
    obtain ⟨⟨first, bare⟩, later⟩ := List.forall_mem_cons.mp known
    obtain ⟨apart, looks⟩ := first.looks
    obtain ⟨switch, value⟩ := entry
    have going := ih later
    -- With a value the switch has taken the next word, without one it has taken nothing.
    cases takes : switch.value with
    | none =>
      have read := first.read
      simp only [takes, Option.isSome_none, Bool.false_eq_true, if_false] at read
      have empty : value = "" := bare takes
      subst empty
      rw [List.flatMap_cons, Switch.spelled]
      simp only [takes, Option.isSome_none, Bool.false_eq_true, if_false, List.cons_append,
        List.nil_append]
      rw [readWords]
      simp only [apart, looks, if_true, if_false, read, going]
      cases readWords switches isMixed rest <;> rfl
    | some rule =>
      have read := first.read
      simp only [takes, Option.isSome_some, if_true] at read
      rw [List.flatMap_cons, Switch.spelled]
      simp only [takes, Option.isSome_some, if_true, List.cons_append, List.nil_append]
      rw [readWords]
      simp only [apart, looks, if_true, if_false, read, going]
      cases readWords switches isMixed rest <;> rfl

/-- Switches that are written out, and then two dashes and a word, are what is given. -/
theorem readWords_line (word : String)
    (known : ∀ entry ∈ entries, entry.1.Known switches ∧ (entry.1.value = none → entry.2 = "")) :
    readWords switches true (entries.flatMap Switch.spelled ++ ["--", word]) =
      .ok ⟨entries, [word]⟩ := by
  -- Behind the two dashes a word is no switch, and the entries stand before it.
  have last : readWords switches true ["--", word] = .ok ⟨[], [word]⟩ := by
    rw [readWords, if_pos rfl]
  rw [readWords_spelled true _ known, last]
  simp [Except.map, Given.after]

end Reading

/-- The name of a member is picked, and what follows it is left to the member. -/
theorem pick_member {α : Type} {switches : List Switch} {path name : String}
    {members : List (String × α)} {member : α} (rest : List String)
    (apart : name ≠ "--") (plain : looksLikeSwitch name = false)
    (found : members.find? (fun other => other.1 == name) = some (name, member)) :
    pick switches path members (name :: rest) = .ok (.member member ⟨[], rest⟩) := by
  -- The first plain word ends the switches, so all words are left for the member.
  have read : readWords (switches ++ [helpSwitch]) false (name :: rest) =
      .ok ⟨[], name :: rest⟩ := by
    rw [readWords]
    simp [apart, plain]
  rw [pick, read]
  simp [Bind.bind, Except.bind, Given.page?, found]
  rfl

/-- Switches that are given once each, and a word, pass the check of a command that requires no
switch exactly if each value keeps to its rule. -/
theorem Grammar.check_eq_ok {grammar : Grammar} {isPath : String → Bool}
    {entries : List (Switch × String)} {word : String} (single : grammar.slot.repeats = false)
    (optional : ∀ switch ∈ grammar.switches, switch.isRequired = false)
    (distinct : (entries.map fun entry => entry.1.name).Nodup) :
    grammar.check isPath ⟨entries, [word]⟩ = .ok () ↔
      (∀ entry ∈ entries,
        (entry.1.value.getD .anything).check isPath entry.1.hint entry.2 = .ok ()) ∧
        grammar.slot.rule.check isPath grammar.slot.hint word = .ok () := by
  -- No switch is required and one word fills the slot, so only the rules of the given values count.
  have required : (grammar.switches.forM fun switch =>
      if switch.isRequired && !(Given.mk entries [word]).has switch.name then
        Except.error (UsageError.missingSwitch switch.hint) else .ok ()) = .ok () :=
    forM_eq_ok.mpr fun switch listed => by simp [optional switch listed]
  have slot : grammar.slot.check isPath [word] =
      [word].forM fun word => grammar.slot.rule.check isPath grammar.slot.hint word := by
    simp [Slot.check, Slot.taken, single]
  have left : grammar.slot.left [word] = [] := by simp [Slot.left, single]
  rw [check, Given.settled_eq distinct]
  constructor
  -- The checks come one after the other, and the first failure ends them.
  · intro passed
    obtain ⟨⟨⟩, each, rest⟩ := bind_eq_ok.mp passed
    obtain ⟨⟨⟩, filled, -⟩ := bind_eq_ok.mp rest
    rw [slot] at filled
    exact ⟨forM_eq_ok.mp each, forM_eq_ok.mp filled word List.mem_cons_self⟩
  · rintro ⟨each, kept⟩
    have filled : grammar.slot.check isPath [word] = .ok () := by
      rw [slot]
      exact forM_eq_ok.mpr (List.forall_mem_singleton.mpr kept)
    refine bind_eq_ok.mpr ⟨(), forM_eq_ok.mpr each, bind_eq_ok.mpr ⟨(), filled,
      bind_eq_ok.mpr ⟨(), required, ?_⟩⟩⟩
    rw [left]

/-- No switch of a command asks for a page. -/
theorem Verb.no_page (verb : Verb) :
    ∀ switch ∈ verb.grammar.switches, switch ≠ helpSwitch ∧ switch ≠ versionSwitch := by
  cases verb <;> decide

/-- A command line with every switch written out. -/
def commandLine (topic : Topic) (verb : Verb) (entries : List (Switch × String)) (word : String) :
    List String :=
  topic.name :: verb.name :: (entries.flatMap Switch.spelled ++ ["--", word])

section Lines

variable {topic : Topic} {verb : Verb} {entries : List (Switch × String)}

/-- The name of a topic leads to the topic. -/
theorem Topic.pick_name (switches : List Switch) (path : String) (rest : List String) :
    pick switches path (Topic.all.map fun topic => (topic.name, topic)) (topic.name :: rest) =
      .ok (.member topic ⟨[], rest⟩) := by
  -- No name of a topic is mistaken for a switch, and no two topics share one.
  have plain : topic.name ≠ "--" ∧ looksLikeSwitch topic.name = false := by
    cases topic <;> decide
  refine pick_member rest plain.1 plain.2 (find?_eq_some_of_nodup Prod.fst ?_ ?_ rfl)
  · decide
  · cases topic <;> decide

/-- The name of a command leads to the command where it is listed. -/
theorem Verb.pick_name (listed : verb ∈ topic.verbs) (switches : List Switch) (path : String)
    (rest : List String) :
    pick switches path (topic.verbs.map fun verb => (verb.name, verb)) (verb.name :: rest) =
      .ok (.member verb ⟨[], rest⟩) := by
  -- No name of a verb is mistaken for a switch, and no two verbs of a topic share one.
  have plain : verb.name ≠ "--" ∧ looksLikeSwitch verb.name = false := by
    cases verb <;> decide
  refine pick_member rest plain.1 plain.2 (find?_eq_some_of_nodup Prod.fst ?_ ?_ rfl)
  · cases topic <;> decide
  · exact List.mem_map_of_mem listed

variable (known : ∀ entry ∈ entries,
  entry.1 ∈ verb.grammar.switches ∧ (entry.1.value = none → entry.2 = ""))
include known

/-- The words of a command are read as they were meant, and they are checked. -/
theorem Verb.read_line (path word : String) (isPath : String → Bool) :
    verb.grammar.read path isPath (entries.flatMap Switch.spelled ++ ["--", word]) =
      (verb.grammar.check isPath ⟨entries, [word]⟩).map fun _ => .inr ⟨entries, [word]⟩ := by
  have given := readWords_line word fun entry member =>
    ⟨verb.known entry.1 (known entry member).1, (known entry member).2⟩
  -- The words ask for no page, so nothing comes before the check.
  have noPage (usage : String) : (Given.mk entries [word]).page? usage = none := by
    refine List.findSome?_eq_none_iff.mpr fun entry member => ?_
    obtain ⟨noHelp, noVersion⟩ := verb.no_page entry.1 (known entry member).1
    exact (if_neg noHelp).trans (if_neg noVersion)
  rw [Grammar.read, given]
  simp only [Bind.bind, Except.bind, noPage]
  cases verb.grammar.check isPath ⟨entries, [word]⟩ <;> rfl

namespace Surroundings

variable {report : Report} (surroundings : Surroundings) (word : String)
  (listed : verb ∈ topic.verbs)
include listed

/-- The words behind a topic do what they say if they keep to the grammar. -/
theorem runTopic_line :
    surroundings.runTopic topic
        (verb.name :: (entries.flatMap Switch.spelled ++ ["--", word])) = .ok report ↔
      verb.grammar.check surroundings.files.hasText ⟨entries, [word]⟩ = .ok () ∧
        surroundings.perform (verb.command ⟨entries, [word]⟩) = .ok report := by
  rw [runTopic, Verb.pick_name listed]
  simp only [Except.mapError, Bind.bind, Except.bind, Verb.read_line known]
  -- A command starts only after its words have passed.
  cases verb.grammar.check surroundings.files.hasText ⟨entries, [word]⟩ with
  | error error => simp [Except.map]
  | ok done => simp [Except.map]

/-- A command line with every switch written out does what it says if the settings name a level of
the log and the words keep to the grammar. -/
theorem run_commandLine :
    surroundings.run (commandLine topic verb entries word) = .ok report ↔
      surroundings.checkLevel = .ok () ∧
        verb.grammar.check surroundings.files.hasText ⟨entries, [word]⟩ = .ok () ∧
        surroundings.perform (verb.command ⟨entries, [word]⟩) = .ok report := by
  rw [commandLine, run, Topic.pick_name, ← surroundings.runTopic_line known word listed]
  -- No switch stands before the topic, so the settings are looked at.
  cases checked : surroundings.checkLevel with
  | error error => simp [Except.mapError, Bind.bind, Except.bind, Given.has, Given.last?]
  | ok done => simp [Except.mapError, Bind.bind, Except.bind, Given.has, Given.last?]

end Surroundings

end Lines

end Flowchart
