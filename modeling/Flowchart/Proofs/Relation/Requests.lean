import Flowchart.Proofs.Relation.Paging

/-! Which pages are asked for. A list that is scrolled asks for no page past its last one. The first
opening of a list and a search whose typing has paused do not look whether there are more pages,
so they ask past the end if the list was scrolled to its end before. -/

namespace Flowchart

namespace LookupSession

/-- A request was made under a number. -/
def Made (session : LookupSession) (call : Nat) (request : Request) : Prop :=
  (session.calls[call]?).map Call.request = some request

/-- How an event begins to load, if it does: with a look at whether there are more pages, as
scrolling does, or without. -/
def loads? (session : LookupSession) : LookupEvent → Option Bool
  | .load byScroll => some byScroll
  | .scroll height top shown =>
    match session.lookup.isNearEnd height top shown with
    | .ok true => some true
    | _ => none
  | .toggle => if session.lookup.initialized then none else some false
  | .wake task =>
    match (session.tasks[task]?).map LookupTask.state, session.lookup.restTime with
    | some (.resting generation), .ok _ =>
      if generation = session.lookup.generation then some false else none
    | _, _ => none
  | _ => none

/-- What an event asks for, if it does: the next page, or a label. -/
def asked? (session : LookupSession) (event : LookupEvent) : Option Request :=
  match event with
  | .label value => (session.lookup.beginLabel value).map fun begun => .label begun.1
  | event => (session.loads? event).bind fun byScroll =>
    (session.lookup.beginLoad byScroll).map fun begun => .page begun.1

/-- An event loads without a look at whether there are more pages. -/
inductive Blind (session : LookupSession) : LookupEvent → Prop where
  /-- It is a load that nobody scrolled for. -/
  | load : Blind session (.load false)
  /-- It opens the list for the first time. -/
  | toggle (first : session.lookup.initialized = false) : Blind session .toggle
  /-- It ends the pause of a search that no other one has overtaken. -/
  | wake (task : Nat) {time : Option Float}
    (rests : (session.tasks[task]?).map LookupTask.state =
      some (.resting session.lookup.generation))
    (rested : session.lookup.restTime = .ok time) : Blind session (.wake task)

/-- A load that does not look is one of three. -/
theorem blind_of_loads? {session : LookupSession} {event : LookupEvent}
    (loads : session.loads? event = some false) : session.Blind event := by
  -- A scroll always looks. What is left are the three events that load without looking.
  cases event with
  | load byScroll =>
    cases loads
    exact .load
  | scroll height top shown =>
    simp only [loads?] at loads
    split at loads <;> cases loads
  | toggle =>
    simp only [loads?] at loads
    split at loads
    · cases loads
    · rename_i first
      exact .toggle (Bool.not_eq_true _ ▸ first)
  | wake task =>
    simp only [loads?] at loads
    split at loads
    · rename_i generation _ rests rested
      split at loads
      · rename_i current
        exact .wake task (current ▸ rests) rested
      · cases loads
    · cases loads
  -- The rest asks for no page.
  | search term => cases loads
  | label value => cases loads
  | select item => cases loads
  | reply call reply => cases loads
  | cancel task => cases loads

/-- An event that asks for a page loads. -/
theorem asked?_eq_page {session : LookupSession} {event : LookupEvent} {request : PageRequest}
    (asked : session.asked? event = some (.page request)) :
    ∃ byScroll next, session.loads? event = some byScroll ∧
      session.lookup.beginLoad byScroll = some (request, next) := by
  -- A label is no page, so the page is asked by an event that loads.
  unfold asked? at asked
  split at asked
  · obtain ⟨begun, -, other⟩ := Option.map_eq_some_iff.mp asked
    cases other
  · obtain ⟨byScroll, loads, asked⟩ := Option.bind_eq_some_iff.mp asked
    obtain ⟨⟨request, next⟩, begins, same⟩ := Option.map_eq_some_iff.mp asked
    cases same
    exact ⟨byScroll, next, loads, begins⟩

/-- A page that is asked for is the next one, and who asks knows that there are more or does not
look. -/
theorem looked_of_asked? {session : LookupSession} {event : LookupEvent} {request : PageRequest}
    (asked : session.asked? event = some (.page request)) :
    request = session.lookup.request ∧ (session.lookup.hasMore = true ∨ session.Blind event) := by
  obtain ⟨byScroll, next, loads, begins⟩ := asked?_eq_page asked
  refine ⟨(Lookup.beginLoad_eq_some begins).2.1, ?_⟩
  -- A scroll that asks saw that there is more. Any other load asks blindly.
  cases byScroll with
  | false => exact .inr (blind_of_loads? loads)
  | true =>
    left
    simp only [Lookup.beginLoad, Bool.true_and] at begins
    split at begins
    · cases begins
    · rename_i free
      simp only [Bool.or_eq_true, not_or, Bool.not_eq_true, Bool.not_eq_false'] at free
      exact free.2

section Step

variable {session : LookupSession} {call : Nat} {wanted : Request}

/-- What was made after one more request was made before or is that request. -/
theorem made_append (session : LookupSession) {next : LookupSession} {added : Request}
    (calls : next.calls = session.calls ++ [⟨added, none⟩]) (made : next.Made call wanted) :
    session.Made call wanted ∨ call = session.calls.length ∧ added = wanted := by
  rw [Made, calls] at made
  -- The call that was added is the last one, and all others were there.
  by_cases last : call = session.calls.length
  · subst last
    rw [List.getElem?_concat_length, Option.map_some, Option.some.injEq] at made
    exact .inr ⟨rfl, made⟩
  · rw [List.getElem?_append] at made
    split at made
    · exact .inl made
    · have beyond : call - session.calls.length ≠ 0 := by omega
      rw [List.getElem?_eq_none (by simp only [List.length_singleton]; omega)] at made
      cases made

/-- A load asks for the page that it begins with. -/
theorem made_of_load {byScroll : Bool} (made : (session.load byScroll).Made call wanted) :
    session.Made call wanted ∨
      call = session.calls.length ∧ session.asked? (.load byScroll) = some wanted := by
  unfold load at made
  -- A load that starts adds one call, and it is what the event asks for.
  split at made
  · exact .inl made
  · rename_i begun
    refine (session.made_append rfl made).imp_right fun ⟨last, same⟩ => ⟨last, ?_⟩
    simp only [asked?, loads?, Option.bind_some, begun, Option.map_some, same]

/-- Scrolling asks for a page only near the end of the list. -/
theorem made_of_scroll {height top shown : Json}
    (made : (session.scroll height top shown).Made call wanted) :
    session.Made call wanted ∨
      call = session.calls.length ∧ session.asked? (.scroll height top shown) = some wanted := by
  unfold scroll at made
  -- A scroll that is far enough down asks for what a load asks for.
  split at made
  · rename_i near
    have same : session.asked? (.scroll height top shown) = session.asked? (.load true) := by
      simp only [asked?, loads?, near]
    rw [same]
    exact made_of_load made
  · exact .inl made
  · exact .inl made

/-- Noting that a list was opened does not change what it asks for. -/
theorem markOpened_beginLoad (lookup : Lookup) (byScroll : Bool) :
    (lookup.markOpened.beginLoad byScroll).map (fun begun => Request.page begun.1) =
      (lookup.beginLoad byScroll).map fun begun => Request.page begun.1 := by
  -- A load does not look at whether the list is open.
  rw [Lookup.beginLoad, Lookup.beginLoad, apply_ite (Option.map _), apply_ite (Option.map _)]
  rfl

/-- A toggle asks for a page only when it opens the list for the first time. -/
theorem made_of_toggle (made : session.toggle.Made call wanted) :
    session.Made call wanted ∨
      call = session.calls.length ∧ session.asked? .toggle = some wanted := by
  unfold toggle at made
  dsimp only at made
  -- Marking the list as opened changes nothing of what the load asks for.
  split at made
  · exact .inl made
  · rename_i begun
    split at begun
    · cases begun
    · rename_i first
      refine (session.made_append rfl made).imp_right fun ⟨last, same⟩ => ⟨last, ?_⟩
      simp only [asked?, loads?, if_neg first, Option.bind_some]
      rw [← markOpened_beginLoad, begun, Option.map_some, same]

/-- A search that has rested asks for a page only if no other one has overtaken it. -/
theorem made_of_wake {task : Nat} (made : (session.wake task).Made call wanted) :
    session.Made call wanted ∨
      call = session.calls.length ∧ session.asked? (.wake task) = some wanted := by
  unfold wake at made
  -- Only a search that rested in the generation at hand asks, and it asks for its page.
  split at made
  · rename_i generation _ rests rested
    unfold beginSearch at made
    split at made
    · rename_i current
      split at made
      · exact .inl made
      · rename_i begun
        refine (session.made_append rfl made).imp_right fun ⟨last, same⟩ => ⟨last, ?_⟩
        simp only [asked?, loads?, rests, rested, if_pos current, Option.bind_some, begun,
          Option.map_some, same]
    · exact .inl made
  · exact .inl made
  · exact .inl made

/-- A search makes no request before its pause is over. -/
theorem search_calls (term : Json) : (session.search term).calls = session.calls := by
  unfold search cancel
  dsimp only
  -- A search may cancel a task, which touches no call.
  split
  · split <;> rfl
  · rfl

/-- Cancelling a task makes no request. -/
theorem cancel_calls (task : Nat) : (session.cancel task).calls = session.calls := by
  -- A task that is cancelled lets its call stand.
  unfold cancel
  split <;> rfl

/-- Showing a label asks for it unless one is known. -/
theorem made_of_label {value : Json} (made : (session.label value).Made call wanted) :
    session.Made call wanted ∨
      call = session.calls.length ∧ session.asked? (.label value) = some wanted := by
  unfold label at made
  -- A label that begins adds one call, and it is what the event asks for.
  split at made
  · exact .inl made
  · rename_i begun
    refine (session.made_append rfl made).imp_right fun ⟨last, same⟩ => ⟨last, ?_⟩
    simp only [asked?, begun, Option.map_some, same]

/-- A reply makes no request. -/
theorem made_of_reply {answered : Nat} {given : Reply}
    (made : (session.reply answered given).Made call wanted) : session.Made call wanted := by
  cases found : session.tasks.findIdx? (awaits answered) with
  | none => rwa [(reply_of_lost given (.inl found)).2] at made
  | some task =>
    cases held : session.calls[answered]? with
    | none => rwa [(reply_of_lost given (.inr held)).2] at made
    | some old =>
      obtain ⟨kind, waits⟩ := findIdx?_awaits found
      -- The reply is noted beside its request, and the request stays.
      have kept := reply_keepsCalls found waits held given
      rw [Made] at made ⊢
      by_cases same : call = answered
      · subst same
        rwa [← kept.request]
      · rwa [← kept.others call same]

/-- A request was made before an event, or it is what the event asks for. -/
theorem made_of_step {event : LookupEvent} (made : (session.step event).Made call wanted) :
    session.Made call wanted ∨
      call = session.calls.length ∧ session.asked? event = some wanted := by
  -- Only five events make a call. The others leave the calls or what they ask for.
  cases event with
  | load byScroll => exact made_of_load made
  | scroll height top shown => exact made_of_scroll made
  | toggle => exact made_of_toggle made
  | wake task => exact made_of_wake made
  | label value => exact made_of_label made
  | search term =>
    rw [step, Made, search_calls] at made
    exact .inl made
  | cancel task =>
    rw [step, Made, cancel_calls] at made
    exact .inl made
  | select item => exact .inl made
  | reply answered given => exact .inl (made_of_reply made)

end Step

/-- Every request that a run made was asked for at some event of it. -/
theorem made_of_run (events : List LookupEvent) :
    ∀ {session : LookupSession} {call : Nat} {wanted : Request},
      (session.run events).Made call wanted →
      session.Made call wanted ∨
        ∃ before event after, events = before ++ event :: after ∧
          call = (session.run before).calls.length ∧
          (session.run before).asked? event = some wanted := by
  -- By induction on the events: the first one made the request, or a later one did.
  induction events with
  | nil =>
    intro session call wanted made
    exact .inl made
  | cons event events ih =>
    intro session call wanted made
    obtain earlier | ⟨before, asker, after, rfl, place, asked⟩ := ih made
    · obtain known | ⟨place, asked⟩ := made_of_step earlier
      · exact .inl known
      · exact .inr ⟨[], event, events, rfl, place, asked⟩
    · exact .inr ⟨event :: before, asker, after, rfl, place, asked⟩

/-- A page that is asked for is the first one of its search, or the page before it was taken in. That
one said that there are more, unless the load does not look. -/
theorem Tally.asked {session : LookupSession} {taken : List Acceptance} {event : LookupEvent}
    {request : PageRequest} (tally : session.Tally taken)
    (asked : session.asked? event = some (.page request)) :
    request.page = 1 ∨ ∃ last ∈ taken, last.request = { request with page := request.page - 1 } ∧
      (last.page.hasMore = true ∨ session.Blind event) := by
  obtain ⟨rfl, looked⟩ := looked_of_asked? asked
  have page := tally.page
  -- The last page of the search at hand is the one before the page asked for.
  cases found : (Acceptance.ofSearch session.lookup.generation taken).getLast? with
  | none =>
    left
    rw [List.getLast?_eq_none_iff.mp found] at page
    exact page
  | some last =>
    right
    -- The last page was counted by its place, which is the number of pages less one.
    obtain ⟨member, -⟩ := List.mem_filter.mp (List.mem_of_getLast? found)
    refine ⟨last, member, ?_, looked.imp_left fun more => ?_⟩
    · rw [List.getLast?_eq_getElem?] at found
      rw [tally.counted _ last found]
      obtain ⟨inside, -⟩ := List.getElem?_eq_some_iff.mp found
      have count : (Acceptance.ofSearch session.lookup.generation taken).length - 1 + 1 =
          session.lookup.request.page - 1 := by
        show _ = session.lookup.page - 1
        omega
      rw [count]
    · rw [← tally.hasMore last found]
      exact more

/-- A load that does not look asks for the next page of a list that is free, whether there is one or
not. -/
theorem Blind.made {session : LookupSession} {event : LookupEvent} (blind : session.Blind event)
    (server : session.lookup.hasServer = true) (free : session.lookup.loading = false) :
    (session.step event).Made session.calls.length (.page session.lookup.request) := by
  have begun (lookup : Lookup) (served : lookup.hasServer = true) (idle : lookup.loading = false) :
      lookup.beginLoad false = some (lookup.request, { lookup with loading := true }) := by
    simp only [Lookup.beginLoad, served, idle, Bool.not_true, Bool.false_and, Bool.or_self,
      Bool.false_eq_true, if_false]
  -- Each of the three puts its request behind all that were made before.
  have last (asked : Request) (lookup : Lookup) (tasks : List LookupTask) :
      Made ⟨lookup, tasks, session.calls ++ [⟨asked, none⟩]⟩ session.calls.length asked := by
    rw [Made, List.getElem?_concat_length, Option.map_some]
  -- Each event is opened as far as the load it begins.
  cases blind with
  | load =>
    rw [step, LookupSession.load, begun _ server free]
    exact last ..
  | toggle first =>
    rw [step, LookupSession.toggle, first, if_neg Bool.false_ne_true,
      begun session.lookup.markOpened server free]
    exact last ..
  | wake task rests rested =>
    rw [step, LookupSession.wake, rests, rested]
    dsimp only
    rw [beginSearch, if_pos rfl, begun _ server free]
    exact last ..

/-- The list is at its end wherever it is scrolled to. -/
def atEnd : LookupEvent := .scroll (.int 0) (.int 0) (.int 0)

/-- The server has one page and says so. -/
def onlyPage : Reply := .answer (.obj [("items", .arr [.str "apple"]), ("hasMore", .bool false)])

/-- A list is scrolled to its end while it is shut, and opened for the first time after that. -/
def scrolledShut : List LookupEvent := [atEnd, .reply 0 onlyPage, .toggle]

/-- A list is scrolled to its end while the typing pauses. -/
def scrolledEarly : List LookupEvent := [.search (.str "a"), atEnd, .reply 0 onlyPage, .wake 0]

/-- Whatever happens to an option list, in whatever order and after whatever delay: a page that is
asked for is the first one of its search, or the answer to the request for the page before it was
taken in, for the same term and in the same generation. That answer said that there are more pages,
unless the page is asked for by a load that does not look: one that nobody scrolled for, the first
opening of the list or a search whose typing has paused. Such a load asks whether there are more
pages or not. -/
theorem run_requests (field : Field) (hasServer : Bool) (debounce scrollThreshold : Json)
    (events : List LookupEvent) :
    let start := LookupSession.start (.start field hasServer debounce scrollThreshold)
    let session := start.run events
    (∀ (call : Nat) (request : PageRequest), session.Made call (.page request) →
      ∃ before event after, events = before ++ event :: after ∧
        call = (start.run before).calls.length ∧
        (request.page = 1 ∨ ∃ last ∈ start.acceptances before,
          last.request = { request with page := request.page - 1 } ∧
          (last.page.hasMore = true ∨ (start.run before).Blind event))) ∧
      ∀ event, session.Blind event → session.lookup.hasServer = true →
        session.lookup.loading = false →
        (session.step event).Made session.calls.length (.page session.lookup.request) := by
  intro start session
  refine ⟨fun call request made => ?_, fun event blind server free => blind.made server free⟩
  obtain before | ⟨before, event, after, split, place, asked⟩ := made_of_run events made
  · -- Nothing was asked for at first.
    cases before
  -- The tally of the events before tells which page is the last one that was taken in.
  · have tally : (start.run before).Tally (start.acceptances before) :=
      (run_tally before (start_consistent _) (start_tally ..)).2
    exact ⟨before, event, after, split, place, tally.asked asked⟩

/-- The first opening of a list that was scrolled before asks for a page that the page before it is
known for. -/
theorem scrolledShut_grounded :
    let start := LookupSession.start (.start default true (.int 0) (.int 20))
    let session := start.run scrolledShut
    session.Made 1 (.page session.lookup.request) ∧
      ∃ before event after, scrolledShut = before ++ event :: after ∧
        ∃ last ∈ start.acceptances before, last.request = { session.lookup.request with page := 1 } ∧
          (last.page.hasMore = true ∨ (start.run before).Blind event) := by
  intro start session
  have made : session.Made 1 (.page session.lookup.request) := by
    unfold Made
    decide +kernel
  have second : session.lookup.request.page = 2 := by decide +kernel
  -- It is no first page, so an earlier page was taken in before it was asked for.
  obtain ⟨before, event, after, split, -, first | grounded⟩ :=
    (run_requests default true (.int 0) (.int 20) scrolledShut).1 1 _ made
  · exact absurd (second.symm.trans first) (by decide)
  · rw [second] at grounded
    exact ⟨made, before, event, after, split, grounded⟩

/-- A run asks for a page that is not the first one of its search although no page that was taken in
for the search says that there are more. -/
def AsksPastEnd (start : LookupSession) (events : List LookupEvent) : Prop :=
  ∃ call request, (start.run events).Made call (.page request) ∧ request.page ≠ 1 ∧
    ∀ taken ∈ start.acceptances events, taken.request.generation = request.generation →
      taken.page.hasMore = false

/-- The first opening of a list and a search whose typing has paused ask for a second page although
the only page that was taken in said that it is the last one. -/
theorem scrolled_asks_past_end :
    let start := LookupSession.start (.start default true (.int 0) (.int 20))
    start.AsksPastEnd scrolledShut ∧ start.AsksPastEnd scrolledEarly := by
  intro start
  -- In both runs the last call asks for a page past one that said there is no more.
  have past (events : List LookupEvent)
      (second : (start.run events).Made 1 (.page (start.run events).lookup.request) ∧
        (start.run events).lookup.request.page ≠ 1 ∧
        ∀ taken ∈ start.acceptances events, taken.page.hasMore = false) :
      start.AsksPastEnd events :=
    ⟨1, _, second.1, second.2.1, fun taken member _ => second.2.2 taken member⟩
  exact ⟨past scrolledShut (by unfold Made; decide +kernel),
    past scrolledEarly (by unfold Made; decide +kernel)⟩

end LookupSession

end Flowchart
