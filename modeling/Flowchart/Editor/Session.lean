import Flowchart.Editor

/-! Editing sessions: actions taken one after the other, with the forms that are open meanwhile. -/

namespace Flowchart

/-- What can be done in an editing session, apart from what leaves the editor as it is. Forms are
named by their places in the order in which they were opened. -/
inductive EditorAction where
  | attach (host : Option Host)
  | setProperties (properties : List Property)
  | addNode (type label position : Json)
  | dropTool (tool position : Json)
  | connect (source sourcePort target targetPort : Json)
  | removeNode (node : Json)
  | removeEdge (edge : Json)
  /-- Commits an edit that comes back from the host. -/
  | update (node patch label : Json)
  /-- Opens a form on a node. -/
  | openForm (node : Json)
  | changeForm (place : Nat) (change : FormChange)
  | saveForm (place : Nat)
  | importFrom (source : ImportSource)
  /-- Imports the file at a path, among the files that there are at the time. -/
  | loadFile (files : Files) (path : FilePath)
  | clear (ask : Bool)
  | fit (padding : Json)

/-- An editor with the forms that were opened in it. A form that was saved can be saved again. -/
structure EditorSession where
  editor : Editor
  forms : List Form

namespace EditorSession

/-- The session with its editor as it is after an action, which stays as it was if the action
fails. -/
def withEditor {ε : Type} (session : EditorSession) : Except ε Editor → EditorSession
  | .ok editor => { session with editor }
  | .error _ => session

/-- Opens a form on a node if there is one for it. -/
def openForm (session : EditorSession) (node : Json) : EditorSession :=
  let turn := session.editor.edit node
  { editor := turn.editor, forms := session.forms ++ turn.result.toOption.join.toList }

/-- Stores the form at a place if there is one. -/
def saveForm (session : EditorSession) (place : Nat) : EditorSession :=
  match session.forms[place]? with
  | some form => session.withEditor ((session.editor.save form).map Prod.fst)
  | none => session

/-- The session after an action. -/
def after (session : EditorSession) : EditorAction → EditorSession
  | .attach host => { session with editor := session.editor.attach host }
  | .setProperties properties =>
    { session with editor := session.editor.setProperties properties }
  | .addNode type label position =>
    session.withEditor ((session.editor.addNode type label position).map Prod.fst)
  | .dropTool tool position =>
    session.withEditor ((session.editor.dropTool tool position).map Prod.fst)
  | .connect source sourcePort target targetPort =>
    { session with editor := (session.editor.connect source sourcePort target targetPort).1 }
  | .removeNode node => { session with editor := session.editor.removeNode node }
  | .removeEdge edge => { session with editor := session.editor.removeEdge edge }
  | .update node patch label =>
    { session with editor := (session.editor.update node patch label).editor }
  | .openForm node => session.openForm node
  | .changeForm place change =>
    { session with forms := session.forms.modify place fun form => form.change change }
  | .saveForm place => session.saveForm place
  | .importFrom source => { session with editor := (session.editor.importFrom source).editor }
  | .loadFile files path =>
    { session with editor := (session.editor.loadFile files path).editor }
  | .clear ask => { session with editor := (session.editor.clear ask).editor }
  | .fit padding => session.withEditor (session.editor.fit padding)

/-- The session after a run of actions, failing ones included. -/
def run (session : EditorSession) (actions : List EditorAction) : EditorSession :=
  actions.foldl after session

end EditorSession

end Flowchart
