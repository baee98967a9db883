import Flowchart.Proofs.Editor.Session
import Flowchart.Proofs.Form.Condition
import Flowchart.Proofs.Form.Step

/-! The forms of a session. A form is opened once, behind all forms that are there, and from then on
only what is done in it tells on it. -/

namespace Flowchart

/-- The change that an action makes in the form at a place. -/
def EditorAction.changeAt? (place : Nat) : EditorAction → Option FormChange
  | .changeForm at_ change => if at_ = place then some change else none
  | _ => none

/-- The changes that actions make in the form at a place. -/
def EditorAction.changesAt (place : Nat) (actions : List EditorAction) : List FormChange :=
  actions.filterMap (changeAt? place)

/-- An action that makes a change in the form at a place is just that. -/
theorem EditorAction.changeAt?_eq_some {place : Nat} {action : EditorAction} {change : FormChange} :
    action.changeAt? place = some change ↔ action = .changeForm place change := by
  -- Only a change of a form is told apart by its place.
  cases action with
  | changeForm at_ made =>
    by_cases here : at_ = place <;> simp [changeAt?, here]
  | _ => simp [changeAt?]

/-- A form that the editor opens is one for the condition of a branch, or one for the settings of a
step. -/
theorem Editor.edit_eq_some {editor : Editor} {id : Json} {form : Form}
    (opens : (editor.edit id).result = .ok (some form)) :
    ∃ node, editor.document.node? id = some node ∧
      (node.isBranch = true ∧ form = .condition (.ofNode node editor.properties) ∨
        node.isBranch = false ∧ form = .step (editor.stepForm node)) := by
  unfold edit at opens
  split at opens
  · cases opens
  · next node found =>
    refine ⟨node, found, ?_⟩
    -- Of the other ways for opening to end, only one gives a form.
    split_ifs at opens with branches hosted inline
    · exact .inl ⟨branches, (Option.some.inj (Except.ok.inj opens)).symm⟩
    · cases Except.ok.inj opens
    · exact .inr ⟨Bool.eq_false_iff.mpr branches, (Option.some.inj (Except.ok.inj opens)).symm⟩
    · split at opens <;> cases opens

namespace EditorSession

variable {session : EditorSession} {place : Nat}

/-- An action changes the form at a place as it says, if it is about that form. -/
theorem after_form {form : Form} (open_ : session.forms[place]? = some form)
    (action : EditorAction) : (session.after action).forms[place]? =
      some ((action.changeAt? place).elim form form.change) := by
  have unchanged {ε : Type} (outcome : Except ε Editor) :
      (session.withEditor outcome).forms[place]? = some form := by
    cases outcome <;> exact open_
  -- Only a change of the form at this place touches it.
  cases action with
  | addNode | dropTool | fit => exact unchanged _
  | openForm node =>
    -- New forms come behind all that are there.
    obtain ⟨inside, -⟩ := List.getElem?_eq_some_iff.mp open_
    exact (List.getElem?_append_left inside).trans open_
  | changeForm at_ change =>
    simp only [after, EditorAction.changeAt?]
    by_cases here : at_ = place
    · subst here
      simp [open_]
    · simp [List.getElem?_modify_ne _ _ here, here, open_]
  | saveForm at_ =>
    simp only [after, saveForm]
    split
    · exact unchanged _
    · exact open_
  | _ => exact open_

/-- A form is what it was with the changes that are made in it, whatever else is done. -/
theorem run_form (actions : List EditorAction) :
    ∀ {session : EditorSession} {form : Form}, session.forms[place]? = some form →
      (session.run actions).forms[place]? =
        some ((EditorAction.changesAt place actions).foldl Form.change form) := by
  -- The changes of this form are applied in their order, and all other actions leave it alone.
  induction actions with
  | nil => exact fun open_ => open_
  | cons action rest ih =>
    intro session form open_
    rw [run_cons, ih (after_form open_ action), EditorAction.changesAt, EditorAction.changesAt,
      List.filterMap_cons]
    cases action.changeAt? place <;> rfl

/-- Where there is no form, only opening one puts it there, and that behind all others. -/
theorem opened_of_after {action : EditorAction} {form : Form}
    (absent : session.forms[place]? = none)
    (open_ : (session.after action).forms[place]? = some form) :
    ∃ id, action = .openForm id ∧ session.forms.length = place ∧
      (session.editor.edit id).result = .ok (some form) := by
  have unchanged {ε : Type} (outcome : Except ε Editor) :
      (session.withEditor outcome).forms[place]? = none := by
    cases outcome <;> exact absent
  have kept {same : Option Form} (none_ : same = none) (some_ : same = some form) : False := by
    rw [none_] at some_
    cases some_
  -- Only opening a form brings one, and it comes behind all others.
  cases action with
  | addNode | dropTool | fit => exact (kept (unchanged _) open_).elim
  | openForm id =>
    have behind : session.forms.length ≤ place := List.getElem?_eq_none_iff.mp absent
    simp only [after, openForm, List.getElem?_append_right behind] at open_
    cases opens : (session.editor.edit id).result.toOption.join with
    | none => simp [opens] at open_
    | some opened =>
      -- One form is opened at most, so it is at the first place that is free.
      rw [opens, Option.toList_some, List.getElem?_singleton] at open_
      split_ifs at open_ with first
      cases open_
      exact ⟨id, rfl, by omega, toOption_eq_some.mp (Option.join_eq_some_iff.mp opens)⟩
  | changeForm at_ change =>
    refine (kept ?_ open_).elim
    simpa [after, List.getElem?_eq_none_iff] using absent
  | saveForm at_ =>
    refine (kept ?_ open_).elim
    simp only [after, saveForm]
    split
    · exact unchanged _
    · exact absent
  | _ => exact (kept absent open_).elim

/-- A form that is there after an action was there before, as it was before its change, or it has
just been opened. -/
theorem form_of_after {action : EditorAction} {form : Form}
    (open_ : (session.after action).forms[place]? = some form) :
    (∃ before, session.forms[place]? = some before ∧
      form = (action.changeAt? place).elim before before.change) ∨
    ∃ id, action = .openForm id ∧ session.forms.length = place ∧
      (session.editor.edit id).result = .ok (some form) := by
  -- A form that was there before is still there, so a place is free or taken for good.
  cases there : session.forms[place]? with
  | none => exact .inr (opened_of_after there open_)
  | some before =>
    rw [after_form there, Option.some.injEq] at open_
    exact .inl ⟨before, rfl, open_.symm⟩

/-- A run goes on where the one before it has ended. -/
theorem run_append (first second : List EditorAction) :
    session.run (first ++ second) = (session.run first).run second := List.foldl_append

/-- Where a form comes from that is at a place after an action. -/
inductive FormOrigin (session : EditorSession) (action : EditorAction) (place : Nat) : Form → Prop where
  | kept {form : Form} (there : session.forms[place]? = some form) :
    FormOrigin session action place form
  | condition {before : ConditionForm} {change : FormChange}
    (there : session.forms[place]? = some (.condition before))
    (changed : action = .changeForm place change) :
    FormOrigin session action place (.condition (before.after change))
  | step {before : StepForm} {change : FormChange}
    (there : session.forms[place]? = some (.step before))
    (changed : action = .changeForm place change) :
    FormOrigin session action place (.step (before.after change))
  /-- It has just been opened on a branch. -/
  | branch {id : Json} {node : Node} (found : session.editor.document.node? id = some node)
    (branches : node.isBranch = true) :
    FormOrigin session action place (.condition (.ofNode node session.editor.properties))
  /-- It has just been opened on a step. -/
  | settings {id : Json} {node : Node} (found : session.editor.document.node? id = some node)
    (steps : node.isBranch = false) :
    FormOrigin session action place (.step (session.editor.stepForm node))

/-- A form that is there after an action was there before, and is of its kind still if it was
changed, or it is as it is opened. -/
theorem form_origin {action : EditorAction} {form : Form}
    (open_ : (session.after action).forms[place]? = some form) :
    session.FormOrigin action place form := by
  -- A form that is open was open before, changed or not, or it has been opened on a node right now.
  obtain ⟨before, there, rfl⟩ | ⟨id, -, -, opens⟩ := form_of_after open_
  · cases about : action.changeAt? place with
    | none => exact .kept there
    | some change =>
      have changed := EditorAction.changeAt?_eq_some.mp about
      cases before with
      | condition before =>
        rw [Option.elim_some, before.change_eq]
        exact .condition there changed
      | step before =>
        rw [Option.elim_some, before.change_eq]
        exact .step there changed
  · obtain ⟨node, found, ⟨branches, rfl⟩ | ⟨steps, rfl⟩⟩ := Editor.edit_eq_some opens
    · exact .branch found branches
    · exact .settings found steps

/-- A form that is opened comes behind all forms that are there. -/
theorem openForm_form {id : Json} {form : Form}
    (opens : (session.editor.edit id).result = .ok (some form)) :
    (session.after (.openForm id)).forms[session.forms.length]? = some form := by
  simp [after, openForm, opens, Except.toOption]

/-- Every form was there at the start, or there is the moment in the run at which it was opened. -/
theorem run_opened {actions : List EditorAction} {form : Form}
    (open_ : (session.run actions).forms[place]? = some form) :
    (∃ before, session.forms[place]? = some before) ∨
    ∃ before id later opening, actions = before ++ .openForm id :: later ∧
      (session.run before).forms.length = place ∧
      ((session.run before).editor.edit id).result = .ok (some opening) := by
  -- By induction on the run: the first action may be the one that opens the form.
  induction actions generalizing session with
  | nil => exact .inl ⟨form, open_⟩
  | cons action rest ih =>
    rw [run_cons] at open_
    obtain ⟨next, there⟩ | ⟨before, id, later, opening, rfl, moment⟩ := ih open_
    · obtain ⟨before, held, -⟩ | ⟨id, rfl, last, opens⟩ := form_of_after there
      · exact .inl ⟨before, held⟩
      · exact .inr ⟨[], id, rest, next, rfl, last, opens⟩
    · exact .inr ⟨action :: before, id, later, opening, rfl, moment⟩

/-- Every action of a run obeys a rule, which may depend on the session in which it is taken. -/
def Follows (session : EditorSession) (rule : EditorSession → EditorAction → Prop) :
    List EditorAction → Prop
  | [] => True
  | action :: rest => rule session action ∧ (session.after action).Follows rule rest

section Rules

variable {rule : EditorSession → EditorAction → Prop} {actions : List EditorAction}

/-- Actions that are fine in every session obey the rule wherever the run leads. -/
theorem follows_of_forall {allowed : EditorAction → Prop}
    (each : ∀ action ∈ actions, allowed action) : session.Follows (fun _ => allowed) actions := by
  -- What is asked of each action does not depend on the session that it comes in.
  induction actions generalizing session with
  | nil => trivial
  | cons action rest ih =>
    obtain ⟨first, later⟩ := List.forall_mem_cons.mp each
    exact ⟨first, ih later⟩

/-- A run obeys a rule up to each of its moments, and from there on. -/
theorem follows_append {first second : List EditorAction} :
    session.Follows rule (first ++ second) ↔
      session.Follows rule first ∧ (session.run first).Follows rule second := by
  -- The rule is asked action by action, each in the state that the ones before it left.
  induction first generalizing session with
  | nil => simp [Follows, run]
  | cons action rest ih => simp only [List.cons_append, Follows, ih, run_cons, and_assoc]

/-- What every action that obeys a rule keeps, a run that obeys it keeps. -/
theorem Follows.keeps {invariant : EditorSession → Prop}
    (kept : ∀ session action, rule session action → invariant session →
      invariant (session.after action))
    (follows : session.Follows rule actions) (start : invariant session) :
    invariant (session.run actions) := by
  -- Each action is allowed in the session that those before it have led to.
  induction actions generalizing session with
  | nil => exact start
  | cons action rest ih =>
    obtain ⟨first, later⟩ := follows
    exact ih later (kept session action first start)

end Rules

end EditorSession

end Flowchart
