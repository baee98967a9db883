import Flowchart.Form.Condition
import Flowchart.Form.Step

/-! The forms that nodes are edited in. -/

namespace Flowchart

/-- A form opened on a node: branches have one for their condition, steps one for their settings. -/
inductive Form where
  | condition (form : ConditionForm)
  | step (form : StepForm)

/-- What can be done in an open form before it is saved. -/
inductive FormChange where
  /-- Chooses the property of a condition. -/
  | choose (property : Json)
  /-- Sets the comparison and the value of a condition, as far as they are given. -/
  | compare (operator value : Option Json)
  /-- Opens or closes sections of a title. -/
  | toggle (title : String)
  /-- Sets the label, if one is given, and some of the values. -/
  | enter (label : Option Json) (values : Json.Members)
  /-- Chooses an option of a relation field. -/
  | select (key : String) (item : Json)
  /-- Fetches the labels of all stored values of relation fields, given the replies to come. -/
  | fetch (replies : List Reply)

/-- The form after a change. What is done in forms of the other kind does nothing. -/
def Form.change : Form → FormChange → Form
  | .condition form, .choose property => .condition (form.selectProperty property)
  | .condition form, .compare operator value =>
    .condition { form with
      operator := operator.getD form.operator
      value := value.getD form.value }
  | .step form, .toggle title => .step (form.toggle title)
  | .step form, .enter label values => .step (form.edit label values)
  -- A form keeps what was done before a fault.
  | .step form, .select key item => .step (form.select key item).1
  | .step form, .fetch replies => .step (form.loadLabels replies).1
  | form, _ => form

/-- Stores a form in its node, and tells whether it did. -/
def Form.save : Form → Document → Except DocumentFault (Document × Bool)
  | .condition form, document => form.save document
  | .step form, document => form.save document

end Flowchart
