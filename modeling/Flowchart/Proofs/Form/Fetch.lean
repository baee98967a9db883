import Mathlib.Data.List.Nodup
import Flowchart.Form
import Flowchart.Proofs.Form.Labels

/-! Step forms that wait for the end of every fetch. What is changed in such a form comes to a run of
events of the form in use, in which each request is answered before anything else happens, and
both show the same values and the same option lists. -/

namespace Flowchart

namespace StepForm

/-- Where the keys differ, an option list that is put under a key takes the place of the one that
was there, and nothing else changes. -/
theorem putLookup_eq_map {key : String} (next : Lookup) {lookups : List (String × Lookup)}
    (distinct : (lookups.map Prod.fst).Nodup) (held : key ∈ lookups.map Prod.fst) :
    putLookup lookups key next =
      lookups.map fun entry => if entry.1 == key then (entry.1, next) else entry := by
  -- The lookup is put at the first place of its key, and there is only one.
  induction lookups with
  | nil => exact absurd held List.not_mem_nil
  | cons entry rest ih =>
    obtain ⟨once, distinct⟩ := List.nodup_cons.mp distinct
    by_cases here : entry.1 = key
    · -- The key does not come again.
      have kept : (rest.map fun other => if other.1 == key then (other.1, next) else other) =
          rest := by
        refine (List.map_congr_left fun other member => ?_).trans rest.map_id
        have elsewhere : other.1 ≠ key := fun same =>
          once (here ▸ same ▸ List.mem_map_of_mem member)
        simp [elsewhere]
      rw [List.map_cons, kept]
      simp [putLookup, here]
    · have later : key ∈ rest.map Prod.fst :=
        (List.mem_cons.mp held).resolve_left fun same => here same.symm
      simp [putLookup, here, ih distinct later]

/-- Of two option lists put under a key the second one stays. -/
theorem putLookup_putLookup (lookups : List (String × Lookup)) (key : String)
    (first second : Lookup) :
    putLookup (putLookup lookups key first) key second = putLookup lookups key second := by
  -- The second lookup is put where the first was.
  induction lookups with
  | nil => simp [putLookup]
  | cons entry rest ih =>
    by_cases here : entry.1 = key <;> simp [putLookup, here, ih]

/-- An option list that is put under a key adds at most the key to the keys. -/
theorem keys_putLookup (lookups : List (String × Lookup)) (key : String) (next : Lookup) :
    (putLookup lookups key next).map Prod.fst =
      if key ∈ lookups.map Prod.fst then lookups.map Prod.fst
      else lookups.map Prod.fst ++ [key] := by
  -- A key that is not there comes behind all others.
  induction lookups with
  | nil => rfl
  | cons entry rest ih =>
    by_cases here : entry.1 = key
    · simp [putLookup, here]
    · rw [putLookup, if_neg (by simpa using here), List.map_cons, ih]
      by_cases later : key ∈ rest.map Prod.fst
      · simp [later]
      · simp [later, Ne.symm here]

/-- A form has one option list for a key. -/
theorem lookupsOf_distinct (sections : List Section) (start : Field → Lookup) :
    ((lookupsOf sections start).map Prod.fst).Nodup := by
  unfold lookupsOf
  -- The keys differ at first, and no key is added that is there.
  have kept (fields : List Field) : ∀ lookups : List (String × Lookup),
      (lookups.map Prod.fst).Nodup →
      ((fields.foldl (fun lookups field => putLookup lookups field.key (start field))
        lookups).map Prod.fst).Nodup := by
    induction fields with
    | nil => exact fun _ distinct => distinct
    | cons field fields ih =>
      intro lookups distinct
      refine ih _ ?_
      rw [keys_putLookup]
      split
      · exact distinct
      · rename_i absent
        exact List.nodup_append.mpr ⟨distinct, List.nodup_singleton _, by
          rintro other member _ added rfl
          exact absent (List.mem_singleton.mp added ▸ member)⟩
  exact kept _ [] List.nodup_nil

end StepForm

/-- The outcome of a fetch that came to its end. -/
def LabelFetch.outcome? (fetch : LabelFetch) : Option (Except LookupFault Json.Members) :=
  match fetch.state with
  | .finished => some (.ok fetch.labels)
  | .failed fault => some (.error fault)
  | _ => none

/-- A fetch waits for nothing. -/
def LabelFetch.IsOver (fetch : LabelFetch) : Prop :=
  ∀ key task rest, fetch.state ≠ .waiting key task rest

/-- A fetch that has an outcome is over. -/
theorem LabelFetch.isOver_of_outcome? {fetch : LabelFetch}
    {outcome : Except LookupFault Json.Members} (ended : fetch.outcome? = some outcome) :
    fetch.IsOver := by
  -- A fetch that waits has no outcome yet.
  intro key task rest waits
  rw [outcome?, waits] at ended
  cases ended

namespace FormSession

/-- A form in use shows what a form holds: the same values, and the same option lists under the same
keys. -/
structure Shows (session : FormSession) (form : StepForm) : Prop where
  values : session.values = form.values
  lookups : session.lookups.map (fun entry => (entry.1, entry.2.lookup)) = form.lookups

/-- A form in use has one option list for a key, and each of them is consistent in itself. -/
structure Sound (session : FormSession) : Prop where
  distinct : (session.lookups.map Prod.fst).Nodup
  lists : ∀ entry ∈ session.lookups, entry.2.Consistent

section Shows

variable {session : FormSession} {form : StepForm}

/-- The same option list is shown under a key. -/
theorem Shows.lookup? (shows : session.Shows form) (key : String) :
    form.lookup? key = (session.lookup? key).map LookupSession.lookup := by
  -- Lists stand in the session under the keys that their lookups have in the form.
  rw [StepForm.lookup?, ← shows.lookups, List.find?_map, FormSession.lookup?, Option.map_map,
    Option.map_map]
  rfl

/-- The keys of a form are those of the form in use. -/
theorem Shows.keys (shows : session.Shows form) :
    form.lookups.map Prod.fst = session.lookups.map Prod.fst := by
  -- A list and its lookup have the same key.
  rw [← shows.lookups, List.map_map]
  rfl

/-- What is found under a key is one of the lists. -/
theorem mem_of_lookup? {key : String} {list : LookupSession}
    (found : session.lookup? key = some list) : (key, list) ∈ session.lookups := by
  -- What is found under a key is listed under it.
  obtain ⟨entry, listed, rfl⟩ := Option.map_eq_some_iff.mp found
  have named : entry.1 = key := by simpa using List.find?_some listed
  exact named ▸ List.mem_of_find?_eq_some listed

/-- What happens to one list of a sound form leaves it sound. -/
theorem Sound.atList (sound : session.Sound) (key : String) (event : LookupEvent) :
    (session.atList key event).Sound where
  distinct := by
    -- The event changes a list, but not the keys of the lists.
    have keys : (session.atList key event).lookups.map Prod.fst = session.lookups.map Prod.fst := by
      rw [FormSession.atList, List.map_map]
      refine List.map_congr_left fun entry _ => ?_
      by_cases here : entry.1 = key <;> simp [here]
    exact keys ▸ sound.distinct
  lists := by
    intro entry member
    obtain ⟨before, listed, rfl⟩ := List.mem_map.mp member
    have consistent := sound.lists before listed
    split
    · exact consistent.move (before.2.step_move event)
    · exact consistent

/-- What happens to one list is shown once the list is put in its place. -/
theorem Shows.atList (shows : session.Shows form) (sound : session.Sound) {key : String}
    {list : LookupSession} (found : session.lookup? key = some list) (event : LookupEvent) :
    (session.atList key event).Shows
      { form with lookups := StepForm.putLookup form.lookups key (list.step event).lookup } where
  values := shows.values
  lookups := by
    -- The key is one of the form, so the lookup is changed in its place.
    have member := mem_of_lookup? found
    have held : key ∈ form.lookups.map Prod.fst :=
      shows.keys ▸ List.mem_map_of_mem member
    show _ = StepForm.putLookup form.lookups key (list.step event).lookup
    rw [StepForm.putLookup_eq_map _ (shows.keys ▸ sound.distinct) held, ← shows.lookups,
      FormSession.atList, List.map_map, List.map_map]
    refine List.map_congr_left fun entry listed => ?_
    by_cases here : entry.1 = key
    · -- There is only one list under the key.
      obtain rfl : entry = (key, list) := List.inj_on_of_nodup_map sound.distinct listed member here
      simp
    · simp [here]

end Shows

/-- A form in use with a fetch that was started behind others. -/
def withFetch (past : List LabelFetch) (begun : FormSession × LabelFetch) : FormSession :=
  { begun.1 with fetches := past ++ [begun.2] }

/-- A fetch that asks for labels leaves the other fetches as they are. -/
theorem goOn_fetches (keys : List String) :
    ∀ (session : FormSession) (labels : Json.Members),
      (session.goOn labels keys).1.fetches = session.fetches := by
  -- Going on starts requests of lists, and the fetches stay as they are.
  induction keys with
  | nil => exact fun _ _ => rfl
  | cons key keys ih =>
    intro session labels
    unfold goOn
    dsimp only
    split
    · exact ih session labels
    · split
      · exact ih session labels
      · split
        · exact ih _ _
        · rfl

/-- A fetch that is started stands behind the others. -/
theorem fetch_eq (session : FormSession) :
    session.fetch =
      withFetch session.fetches (session.goOn [] (session.lookups.map Prod.fst)) := by
  -- The fetches of the session are those before, with the new one behind them.
  rw [withFetch, ← goOn_fetches (session.lookups.map Prod.fst) session []]
  rfl

/-- Fetches have no part in what a form shows. -/
theorem Shows.withFetch {session : FormSession} {form : StepForm} (shows : session.Shows form)
    (past : List LabelFetch) (fetch : LabelFetch) :
    (FormSession.withFetch past (session, fetch)).Shows form :=
  ⟨shows.values, shows.lookups⟩

/-- Fetches have no part in the option lists. -/
theorem Sound.withFetch {session : FormSession} (sound : session.Sound) (past : List LabelFetch)
    (fetch : LabelFetch) : (FormSession.withFetch past (session, fetch)).Sound :=
  ⟨sound.distinct, sound.lists⟩

/-- A fetch whose label is there goes on. -/
theorem resume_of_finished {session : FormSession} {key : String} {task : Nat} {label : Json}
    (finished : session.taskState? key task = some (.finished label)) (labels : Json.Members)
    (rest : List String) :
    session.resume ⟨labels, .waiting key task rest⟩ =
      session.goOn (labels ++ [(key, label)]) rest := by
  simp only [resume, finished]

/-- A fetch whose label could not be fetched ends. -/
theorem resume_of_failed {session : FormSession} {key : String} {task : Nat} {fault : LookupFault}
    (failed : session.taskState? key task = some (.failed fault)) (labels : Json.Members)
    (rest : List String) :
    session.resume ⟨labels, .waiting key task rest⟩ = (session, ⟨labels, .failed fault⟩) := by
  simp only [resume, failed]

/-- A fetch that is over does not go on. -/
theorem resume_of_over {fetch : LabelFetch} (ended : fetch.IsOver) (session : FormSession) :
    session.resume fetch = (session, fetch) := by
  -- Only a fetch that waits goes on.
  unfold resume
  split
  · rename_i waits
    exact absurd waits (ended _ _ _)
  · rfl

/-- Where all fetches but the last one are over, only the last one goes on. -/
theorem resumeEach_last (session : FormSession) (fetch : LabelFetch) {past : List LabelFetch}
    (ended : ∀ fetch ∈ past, fetch.IsOver) :
    session.resumeEach (past ++ [fetch]) =
      ((session.resume fetch).1, past ++ [(session.resume fetch).2]) := by
  -- All fetches but the last are over, and stay so.
  induction past with
  | nil => rfl
  | cons first past ih =>
    obtain ⟨here, ended⟩ := List.forall_mem_cons.mp ended
    simp only [List.cons_append, resumeEach, resume_of_over here, ih ended]

/-- What happens to a list lets the last fetch go on. -/
theorem step_list (session : FormSession) (fetch : LabelFetch) {past : List LabelFetch}
    (ended : ∀ fetch ∈ past, fetch.IsOver) (key : String) (event : LookupEvent) :
    (withFetch past (session, fetch)).step (.list key event) =
      withFetch past (((withFetch past (session, fetch)).atList key event).resume fetch) := by
  -- The event may have answered the fetch, so it is asked whether it can go on.
  have last := ((withFetch past (session, fetch)).atList key event).resumeEach_last fetch ended
  show resumeAll _ = _
  rw [resumeAll, show ((withFetch past (session, fetch)).atList key event).fetches = past ++ [fetch]
    from rfl, last]
  rfl

/-- A label that is asked for and answered at once. -/
theorem label_answered {session : FormSession} {form : StepForm} (sound : session.Sound)
    (shows : session.Shows form) {key : String} {list : LookupSession}
    (found : session.lookup? key = some list) {value : Json} {request : LabelRequest}
    {next : Lookup} (begun : list.lookup.beginLabel value = some (request, next)) (reply : Reply) :
    let answered := (session.atList key (.label value)).atList key (.reply list.calls.length reply)
    answered.Sound ∧
      answered.Shows { form with
        lookups := StepForm.putLookup form.lookups key (next.finishLabel request reply).1 } ∧
      answered.taskState? key list.tasks.length =
        some (LookupSession.settle next .label (.label request) reply).2 := by
  intro answered
  -- The same list is asked first and answered then.
  have asked_found : (session.atList key (.label value)).lookup? key = some (list.label value) := by
    rw [lookup?_atList, if_pos rfl, found]
    rfl
  have answered_found : answered.lookup? key =
      some ((list.label value).reply list.calls.length reply) := by
    rw [lookup?_atList, if_pos rfl, asked_found]
    rfl
  -- The reply is the one to the request that was made last.
  obtain ⟨lookup_eq, state_eq⟩ :=
    LookupSession.label_reply (sound.lists _ (mem_of_lookup? found)) begun reply
  have asked_sound := sound.atList key (.label value)
  refine ⟨asked_sound.atList key _, ?_, ?_⟩
  · have shown := (shows.atList sound found (.label value)).atList asked_sound asked_found
      (.reply list.calls.length reply)
    rw [StepForm.putLookup_putLookup] at shown
    exact lookup_eq ▸ shown
  · rw [taskState?, answered_found]
    exact state_eq

/-- Replies are handed on, one for each request that is made, and some replies are left. When there
is none, the server is out of reach. -/
inductive Answers : List Reply → List FormEvent → List Reply → Prop where
  | none (replies : List Reply) : Answers replies [] replies
  | next (key : String) (call : Nat) {replies left : List Reply} {later : List FormEvent}
    (rest : Answers replies.tail later left) :
    Answers replies (.list key (.reply call (replies.headD .unavailable)) :: later) left

/-- A fetch in use, once its requests are answered, has come to the end of a fetch that waits for each
of them: both have taken the same replies, both forms show the same, and the same labels, behind
those that the fetch in use had before, or the same fault came out. -/
def EndsLike (past : List LabelFetch) (labels : Json.Members) (replies : List Reply)
    (begun : FormSession × LabelFetch)
    (waited : StepForm × List Reply × Except LookupFault Json.Members) : Prop :=
  ∃ answers last, Answers replies answers waited.2.1 ∧
    (withFetch past begun).run answers = withFetch past last ∧
    last.1.Sound ∧ last.1.Shows waited.1 ∧
    last.2.outcome? = some (waited.2.2.map fun rest => labels ++ rest)

/-- A label that a fetch in use has already may stand with the labels that are still to come. -/
theorem EndsLike.shift {past : List LabelFetch} {labels : Json.Members} {replies : List Reply}
    {begun : FormSession × LabelFetch} {key : String} {label : Json} {form : StepForm}
    {left : List Reply} {outcome : Except LookupFault Json.Members}
    (ends : EndsLike past (labels ++ [(key, label)]) replies begun (form, left, outcome)) :
    EndsLike past labels replies begun
      (form, left, outcome.map fun labels => (key, label) :: labels) := by
  -- A label that is known already may be counted among the past or among what comes out.
  obtain ⟨answers, last, given, run_eq, sound, shows, same⟩ := ends
  refine ⟨answers, last, given, run_eq, sound, shows, same.trans ?_⟩
  cases outcome <;> simp [Except.map]

/-- When a fetch waits for a label that it asked for, the reply to that comes first. -/
theorem EndsLike.asked {past : List LabelFetch} (ended : ∀ fetch ∈ past, fetch.IsOver)
    {labels : Json.Members} {replies : List Reply} {session : FormSession} {fetch : LabelFetch}
    {waited : StepForm × List Reply × Except LookupFault Json.Members} {key : String} {value : Json}
    (call : Nat)
    (ends : EndsLike past labels replies.tail
      ((((withFetch past (session, fetch)).atList key (.label value)).atList key
        (.reply call (replies.headD .unavailable))).resume fetch) waited) :
    EndsLike past labels replies (session.atList key (.label value), fetch) waited := by
  -- The reply to the request is the first event, and the fetch goes on behind it.
  obtain ⟨answers, last, given, run_eq, rest⟩ := ends
  refine ⟨_, last, .next key call given, ?_, rest⟩
  rw [run, List.foldl_cons, (session.atList key (.label value)).step_list fetch ended]
  exact run_eq

/-- A fetch whose requests are answered at once comes to the end of a fetch that waits for each of
them. -/
theorem goOn_endsLike {past : List LabelFetch} (ended : ∀ fetch ∈ past, fetch.IsOver)
    (keys : List String) :
    ∀ {session : FormSession} {form : StepForm}, session.Sound → session.Shows form →
      ∀ (labels : Json.Members) (replies : List Reply),
        EndsLike past labels replies (session.goOn labels keys) (form.resolveKeys replies keys) := by
  -- By induction on the keys: both fetches pass over a key, or both need its label.
  induction keys with
  | nil =>
    intro session form sound shows labels replies
    refine ⟨[], _, .none replies, rfl, sound, shows, ?_⟩
    simp [goOn, LabelFetch.outcome?, StepForm.resolveKeys, Except.map]
  | cons key keys ih =>
    intro session form sound shows labels replies
    -- The form and the session look into the same lookup.
    have held := shows.lookup? key
    unfold goOn StepForm.resolveKeys
    dsimp only
    rw [held, shows.values]
    cases found : session.lookup? key with
    | none => exact ih sound shows labels replies
    | some list =>
      dsimp only [Option.map_some]
      split
      · exact ih sound shows labels replies
      · cases begun : list.lookup.beginLabel (form.values.getOrNull key) with
        | none =>
          simp only [StepForm.resolve, begun]
          -- Without a request the lookup stays as it is, and so does the form.
          have same : (list.step (.label (form.values.getOrNull key))).lookup = list.lookup := by
            show (list.label _).lookup = _
            rw [LookupSession.label, begun]
            rfl
          have asked_shows := shows.atList sound found (.label (form.values.getOrNull key))
          rw [same] at asked_shows
          exact (ih (sound.atList key _) asked_shows _ replies).shift
        | some asked =>
          obtain ⟨request, next⟩ := asked
          simp only [StepForm.resolve, begun]
          refine .asked ended list.calls.length ?_
          obtain ⟨answered_sound, answered_shows, state⟩ := label_answered
            (sound.withFetch past ⟨labels, .waiting key list.tasks.length keys⟩)
            (shows.withFetch past ⟨labels, .waiting key list.tasks.length keys⟩)
            found begun (replies.headD .unavailable)
          -- Both fetches go on, or end, as the request did.
          cases finished : next.finishLabel request (replies.headD .unavailable) with
          | mk lookup outcome =>
            simp only [LookupSession.settle, finished] at answered_shows state
            cases outcome with
            | error fault =>
              rw [resume_of_failed state]
              exact ⟨[], _, .none _, rfl, answered_sound, answered_shows, rfl⟩
            | ok label =>
              rw [resume_of_finished state]
              exact (ih answered_sound answered_shows _ _).shift

/-- A form in use shows what a form holds, and waits for the end of no fetch. -/
structure Settled (session : FormSession) (form : StepForm) : Prop where
  sound : session.Sound
  shows : session.Shows form
  ended : ∀ fetch ∈ session.fetches, fetch.IsOver

/-- A form that nothing has happened to shows what it was opened with. -/
theorem start_settled {form : StepForm} (distinct : (form.lookups.map Prod.fst).Nodup) :
    (start form).Settled form where
  -- A session starts with the lookups of its form, and nothing is on its way.
  sound := by
    refine ⟨?_, fun entry member => ?_⟩
    · rw [start, List.map_map]
      exact distinct
    · obtain ⟨opened, -, rfl⟩ := List.mem_map.mp member
      exact LookupSession.start_consistent opened.2
  shows := by
    refine ⟨rfl, ?_⟩
    rw [start, List.map_map]
    exact form.lookups.map_id
  ended := fun fetch member => absurd member List.not_mem_nil

section Settled

variable {session : FormSession} {form : StepForm} (settled : session.Settled form)

include settled

/-- An option is chosen in the same way. -/
theorem Settled.select (key : String) (item : Json) :
    (session.select key item).Settled (form.select key item).1 := by
  have held := settled.shows.lookup? key
  unfold FormSession.select StepForm.select
  rw [held]
  -- The form and the session choose from the same list, if there is one under the key.
  cases found : session.lookup? key with
  | none => exact settled
  | some list =>
    cases item with
    | obj members =>
      have chosen_sound := settled.sound.atList key (.select members)
      have chosen_shows := settled.shows.atList settled.sound found (.select members)
      dsimp only [Option.map_some]
      cases id : (list.lookup.select members).2 with
      | none => exact ⟨chosen_sound, chosen_shows, settled.ended⟩
      | some value =>
        refine ⟨⟨chosen_sound.distinct, chosen_sound.lists⟩, ⟨?_, chosen_shows.lookups⟩, settled.ended⟩
        exact congrArg (fun values : Json.Members => values.set key value) chosen_shows.values
    | _ => exact settled

/-- Values are set in the same way. -/
theorem Settled.enter (label : Option Json) (values : Json.Members) :
    (session.step (.enter values)).Settled (form.edit label values) where
  -- Values are merged in both in the same way, and the lists are not touched.
  sound := ⟨settled.sound.distinct, settled.sound.lists⟩
  shows := ⟨congrArg (fun old : Json.Members => old.merge values) settled.shows.values,
    settled.shows.lookups⟩
  ended := settled.ended

/-- A fetch whose requests are answered at once takes the same replies, comes to the same labels or to
the same fault, and leaves the same form behind. -/
theorem Settled.fetch (replies : List Reply) :
    ∃ answers fetch, Answers replies answers (form.loadLabels replies).2.1 ∧
      (session.run (.fetch :: answers)).Settled (form.loadLabels replies).1 ∧
      (session.run (.fetch :: answers)).fetches = session.fetches ++ [fetch] ∧
      fetch.outcome? = some (form.loadLabels replies).2.2 := by
  obtain ⟨answers, last, given, run_eq, sound, shows, outcome⟩ :=
    goOn_endsLike settled.ended (form.lookups.map Prod.fst) settled.sound settled.shows [] replies
  have ended : session.run (.fetch :: answers) = withFetch session.fetches last := by
    rw [← run_eq, settled.shows.keys, run, List.foldl_cons]
    exact congrArg (fun next => FormSession.run next answers) session.fetch_eq
  have same : last.2.outcome? = some (form.loadLabels replies).2.2 := by
    rw [outcome]
    -- There were no labels before.
    show some ((form.loadLabels replies).2.2.map id) = _
    cases (form.loadLabels replies).2.2 <;> rfl
  refine ⟨answers, last.2, given, ?_⟩
  rw [ended]
  refine ⟨⟨sound.withFetch .., shows.withFetch .., fun fetch member => ?_⟩, rfl, same⟩
  obtain before | now := List.mem_append.mp member
  · exact settled.ended fetch before
  · obtain rfl := List.mem_singleton.mp now
    exact LabelFetch.isOver_of_outcome? same

/-- Every change of a form comes to events of the form in use. -/
theorem Settled.change (change : FormChange) :
    ∃ events next, (Form.step form).change change = .step next ∧
      (session.run events).Settled next := by
  -- Each change of the form is answered by events of the session; a fetch needs its replies as
  -- well.
  cases change with
  | choose | compare => exact ⟨[], form, rfl, settled⟩
  | toggle title =>
    exact ⟨[], _, rfl, settled.sound, ⟨settled.shows.values, settled.shows.lookups⟩, settled.ended⟩
  | enter label values => exact ⟨[.enter values], _, rfl, settled.enter label values⟩
  | select key item => exact ⟨[.select key item], _, rfl, settled.select key item⟩
  | fetch replies =>
    obtain ⟨answers, -, -, shown, -⟩ := settled.fetch replies
    exact ⟨.fetch :: answers, _, rfl, shown⟩

end Settled

/-- Whatever is changed in a step form that waits for the end of every fetch, there is a run of events
of the form in use after which it shows the same. -/
theorem run_changes (node : Node) (sections : List Section) (opened : Field → Lookup)
    (changes : List FormChange) :
    ∃ events shown,
      changes.foldl Form.change (.step (.ofNode node sections opened)) = .step shown ∧
        ((start (.ofNode node sections opened)).run events).Settled shown := by
  -- The changes are followed one by one, so the session that they start from has to be any settled
  -- one.
  suffices along : ∀ (changes : List FormChange) {session : FormSession} {form : StepForm},
      session.Settled form → ∃ events shown,
        changes.foldl Form.change (.step form) = .step shown ∧
          (session.run events).Settled shown from
    along changes (start_settled (StepForm.lookupsOf_distinct sections opened))
  intro changes
  induction changes with
  | nil => exact fun {_ form} settled => ⟨[], form, rfl, settled⟩
  | cons change changes ih =>
    intro session form settled
    obtain ⟨first, next, changed, middle⟩ := settled.change change
    obtain ⟨later, shown, rest, last⟩ := ih middle
    refine ⟨first ++ later, shown, by rw [List.foldl_cons, changed, rest], ?_⟩
    rw [run, List.foldl_append]
    exact last

end FormSession

end Flowchart
