import Flowchart.Command.Words

/-! What the words of a command line may be: groups lead to commands, and each command has its
switches and a place for other words. -/

namespace Flowchart

/-- A page that is shown in place of what a command does. -/
inductive InfoPage where
  /-- How the command is used. -/
  | help (usage : String)
  | version
deriving DecidableEq

/-- The switch that shows how a command is used. -/
def helpSwitch : Switch := ⟨"help", none, none, false⟩

/-- The switch that shows the version of the program. -/
def versionSwitch : Switch := ⟨"version", none, none, false⟩

/-- The page that the first switch for a page asks for. -/
def Given.page? (given : Given) (usage : String) : Option InfoPage :=
  given.switches.findSome? fun (switch, _) =>
    if switch = helpSwitch then some (.help usage)
    else if switch = versionSwitch then some .version
    else none

/-- A value that can be a path. -/
def checkPath (value : String) : Except UsageError Unit :=
  if FilePath.holdsNull value then .error .nullInPath else .ok ()

/-- A value that keeps to its rule. -/
def ValueRule.check (isPath : String → Bool) (hint value : String) :
    ValueRule → Except UsageError Unit
  | .anything => .ok ()
  | .path => checkPath value
  | .existingPath => do
    checkPath value
    if isPath value then return else .error (.noSuchPath hint value)
  | .oneOf choices =>
    if choices.contains value then .ok () else .error (.notChoice hint value choices)

/-- The place for words that are no switches: one, or any number from one on. -/
structure Slot where
  name : String
  rule : ValueRule
  repeats : Bool
deriving DecidableEq

namespace Slot

/-- What stands for a slot in messages. -/
def hint (slot : Slot) : String := "'" ++ slot.name ++ "'"

/-- The choices for a slot. -/
def choices (slot : Slot) : List String :=
  match slot.rule with
  | .oneOf choices => choices
  | _ => []

/-- The words that a slot takes. -/
def taken (slot : Slot) (words : List String) : List String :=
  if slot.repeats then words else words.take 1

/-- The words that a slot leaves over. -/
def left (slot : Slot) (words : List String) : List String :=
  if slot.repeats then [] else words.drop 1

/-- Checks that a slot is filled, and by the right words. -/
def check (slot : Slot) (isPath : String → Bool) (words : List String) : Except UsageError Unit :=
  match slot.taken words with
  | [] => .error (.missingWord slot.hint slot.choices)
  | taken => taken.forM fun word => slot.rule.check isPath slot.hint word

end Slot

/-- The words that a command understands. -/
structure Grammar where
  switches : List Switch
  slot : Slot
deriving DecidableEq

namespace Grammar

/-- How a command is used. -/
def usage (grammar : Grammar) (path : String) : String :=
  path ++ " [OPTIONS] " ++ grammar.slot.name

/-- Checks what is given to a command: its switches as they first appear, the other words, the
switches that should be there and are not, and last that no word is left over. -/
def check (grammar : Grammar) (isPath : String → Bool) (given : Given) :
    Except UsageError Unit := do
  -- A switch that comes again is judged by its last value, in its first place.
  given.settled.forM fun (switch, value) =>
    (switch.value.getD .anything).check isPath switch.hint value
  grammar.slot.check isPath given.words
  grammar.switches.forM fun switch =>
    if switch.isRequired && !given.has switch.name then .error (.missingSwitch switch.hint)
    else .ok ()
  match grammar.slot.left given.words with
  | [] => .ok ()
  | left => .error (.extraWords left)

/-- Reads the words of a command: a page that is asked for, or what is given to the command. -/
def read (grammar : Grammar) (path : String) (isPath : String → Bool) (words : List String) :
    Except UsageError (InfoPage ⊕ Given) := do
  let given ← readWords (grammar.switches ++ [helpSwitch]) true words
  -- A page is shown whatever else is wrong, once the words could be read.
  match given.page? (grammar.usage path) with
  | some page => return .inl page
  | none =>
    grammar.check isPath given
    return .inr given

end Grammar

/-- Where the words of a group lead. -/
inductive Picked (α : Type) where
  | page (page : InfoPage)
  /-- To a member, with the switches before its name and the words after it. -/
  | member (member : α) (given : Given)

/-- Reads the words of a group up to the name of a member. A name that is none of theirs may still
be read as a switch. -/
def pick {α : Type} (switches : List Switch) (path : String) (members : List (String × α))
    (words : List String) : Except UsageError (Picked α) := do
  let usage := path ++ " [OPTIONS] COMMAND [ARGS]..."
  let switches := switches ++ [helpSwitch]
  let given ← readWords switches false words
  match given.page? usage, given.words with
  | some page, _ => return .page page
  | none, [] => .error .missingCommand
  | none, name :: rest =>
    match members.find? fun member => member.1 == name with
    | some (_, member) => return .member member { given with words := rest }
    | none =>
      -- Two dashes may have kept it from being read as a switch.
      let again ← readWords switches false (name :: rest)
      match again.page? usage with
      | some page => return .page page
      | none => .error (.unknownCommand name (Text.similar name (members.map Prod.fst)))

end Flowchart
