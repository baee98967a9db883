import Flowchart.Command.Usage
import Flowchart.Text.Similar

/-! Switches among the words of a command line. A switch has a long name after two dashes, and may
have a letter after one dash. -/

namespace Flowchart

/-- What a value has to be. -/
inductive ValueRule where
  | anything
  | path
  /-- The path of something that is there. -/
  | existingPath
  | oneOf (choices : List String)
deriving DecidableEq

/-- A switch of a command. -/
structure Switch where
  name : String
  letter : Option Char
  /-- The rule for the value after the switch, if it takes one. -/
  value : Option ValueRule
  isRequired : Bool
deriving DecidableEq

namespace Switch

/-- The long name of a switch with its dashes. -/
def long (switch : Switch) : String := "--" ++ switch.name

/-- The letter of a switch with its dash. -/
def short (letter : Char) : String := String.ofList ['-', letter]

/-- What stands for a switch in messages: every way to write it. -/
def hint (switch : Switch) : String :=
  let spellings := switch.long :: (switch.letter.map short).toList
  String.intercalate " / " (spellings.map fun spelling => "'" ++ spelling ++ "'")

end Switch

/-- What the words of a command line give: switches with their values, in order of appearance, and
the other words. A switch that takes no value has the empty one. -/
structure Given where
  switches : List (Switch × String)
  words : List String

namespace Given

/-- The same with more switches in front. -/
def after (given : Given) (switches : List (Switch × String)) : Given :=
  { given with switches := switches ++ given.switches }

/-- The last appearance of a switch, which is the one that counts. -/
def last? (given : Given) (name : String) : Option (Switch × String) :=
  given.switches.reverse.find? fun entry => entry.1.name == name

/-- The value of a switch. -/
def value? (given : Given) (name : String) : Option String := (given.last? name).map Prod.snd

/-- Whether a switch is given. -/
def has (given : Given) (name : String) : Bool := (given.last? name).isSome

/-- Every switch once, in the order of first appearance. -/
def settled (given : Given) : List (Switch × String) :=
  (given.switches.map fun entry => entry.1.name).eraseDups.filterMap given.last?

end Given

/-- A switch that waits for its value, and how it was written. -/
structure Waiting where
  switch : Switch
  spelling : String

/-- The switches of a cluster of letters. A switch that takes a value takes the rest of the cluster,
and the next word if there is no rest. -/
def readCluster (switches : List Switch) :
    List Char → Except UsageError (List (Switch × String) × Option Waiting)
  | [] => .ok ([], none)
  | letter :: rest =>
    match switches.find? fun switch => switch.letter == some letter with
    | none => .error (.unknownSwitch (Switch.short letter) [])
    | some switch =>
      -- Everything after the letter is its value, an equals sign included.
      match switch.value, rest with
      | some _, [] => .ok ([], some ⟨switch, Switch.short letter⟩)
      | some _, rest => .ok ([(switch, String.ofList rest)], none)
      | none, rest => do
        let (given, waiting) ← readCluster switches rest
        return ((switch, "") :: given, waiting)

/-- The switch with a long name, which may be followed by an equals sign and a value. -/
def readLong (switches : List Switch) (word : List Char) :
    Except UsageError (List (Switch × String) × Option Waiting) :=
  -- Only the first equals sign divides the word.
  let name := String.ofList (word.takeWhile (· ≠ '='))
  let value := match word.dropWhile (· ≠ '=') with
    | _ :: value => some (String.ofList value)
    | [] => none
  match switches.find? fun switch => switch.long == name with
  | none => .error (.unknownSwitch name (Text.similar name (switches.map Switch.long)))
  | some switch =>
    match switch.value, value with
    | some _, none => .ok ([], some ⟨switch, name⟩)
    | some _, some value => .ok ([(switch, value)], none)
    | none, none => .ok ([(switch, "")], none)
    | none, some _ => .error (.takesNoValue name)

/-- Whether a word is read as switches: it has a dash and something after it. -/
def looksLikeSwitch (word : String) : Bool :=
  match word.toList with
  | '-' :: _ :: _ => true
  | _ => false

/-- The switches in one word, and the one that waits for the next word. -/
def readSwitches (switches : List Switch) (word : String) :
    Except UsageError (List (Switch × String) × Option Waiting) :=
  match word.toList with
  | '-' :: '-' :: _ => readLong switches word.toList
  | _ :: letters => readCluster switches letters
  | [] => .ok ([], none)

/-- Reads words up to the end or to two dashes alone. Unless switches may stand behind other words,
the first such word ends the reading too. -/
def readWords (switches : List Switch) (isMixed : Bool) : List String → Except UsageError Given
  | [] => .ok ⟨[], []⟩
  | word :: rest =>
    -- What follows two dashes is taken as it is, dashes and all.
    if word = "--" then .ok ⟨[], rest⟩
    else if looksLikeSwitch word then
      match readSwitches switches word with
      | .error error => .error error
      | .ok (given, none) => (readWords switches isMixed rest).map fun more => more.after given
      | .ok (given, some waiting) =>
        match rest with
        | [] => .error (.needsValue waiting.spelling)
        -- The next word is the value even when it looks like a switch.
        | value :: rest =>
          (readWords switches isMixed rest).map fun more =>
            more.after (given ++ [(waiting.switch, value)])
    else if isMixed then
      (readWords switches isMixed rest).map fun more => { more with words := word :: more.words }
    else .ok ⟨[], word :: rest⟩

end Flowchart
