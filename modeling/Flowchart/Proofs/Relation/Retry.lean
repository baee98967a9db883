import Flowchart.Proofs.Relation.Failure
import Flowchart.Proofs.Relation.Frame
import Flowchart.Proofs.Relation.Requests

/-! Loads that fail can be made again. The list may load again, and the next load asks for the page
that the failed one had asked for. So what is shown depends on the pages that were taken in and on
the searches, and not on the loads that failed in between. -/

namespace Flowchart

namespace LookupSession

section Again

variable {session : LookupSession}

/-- While a free list is neither searched nor asked for a page, nothing changes that loading works
on. -/
theorem step_progress_of_free (sound : session.Consistent) (free : session.lookup.loading = false)
    {event : LookupEvent} (other : ∀ term, event ≠ .search term)
    (unasked : ∀ request, session.asked? event ≠ some (.page request)) :
    (session.step event).lookup.progress = session.lookup.progress := by
  have move := session.step_move event
  generalize session.acceptance? event = taken at move
  -- Of all that an event can do, what is left does not touch the progress.
  cases move with
  | quiet progress => exact progress
  | asked _ _ _ calls =>
    -- The request that is made would be the one that the event asks for.
    have made : (session.step event).Made session.calls.length (.page session.lookup.request) := by
      rw [Made, calls, List.getElem?_concat_length, Option.map_some]
    obtain before | ⟨-, asked⟩ := made_of_step made
    · rw [Made, List.getElem?_eq_none (Nat.le_refl _)] at before
      cases before
    · exact absurd asked (unasked _)
  | inquired _ _ progress => exact progress
  | restarted term progress => exact absurd progress (session.step_progress_ne_restart other term)
  | @settled _ _ _ request _ _ progress =>
    -- Letting go of a request clears the flag at most, and that is clear already.
    have cleared := letGo_flag session.lookup.progress request
    rw [progress, Progress.letGo_eq]
    obtain flag | ⟨flag, -⟩ := cleared.2
    · rw [flag, ← free]
      rfl
    · rw [flag]
  | accepted asking made current =>
    have busy := (sound.current (sound.pends_of_made asking made) current).1
    rw [free] at busy
    cases busy

/-- While a free list is not searched, the first page that is asked for is its next page. -/
theorem first_asked (later : List LookupEvent) (unsearched : ∀ term, .search term ∉ later) :
    ∀ {session : LookupSession}, session.Consistent → session.lookup.loading = false →
      ∀ {event : LookupEvent} {next : PageRequest},
        (session.run later).asked? event = some (.page next) →
        next = session.lookup.request ∨
          ∃ before asker after, later = before ++ asker :: after ∧
            (session.run before).asked? asker = some (.page session.lookup.request) := by
  -- By induction on the events: the first one asks for a page, or it leaves the list as it was.
  induction later with
  | nil =>
    intro session sound free event next asked
    exact .inl (looked_of_asked? asked).1
  | cons first later ih =>
    intro session sound free event next asked
    by_cases asks : ∃ request, session.asked? first = some (.page request)
    · obtain ⟨request, asking⟩ := asks
      rw [(looked_of_asked? asking).1] at asking
      exact .inr ⟨[], first, later, rfl, asking⟩
    · have other : ∀ term, first ≠ .search term := by
        rintro term rfl
        exact unsearched term List.mem_cons_self
      have same := step_progress_of_free sound free other fun request asked => asks ⟨request, asked⟩
      have request_eq := Lookup.request_congr same
      rw [← request_eq]
      -- The list is as it was, so the rest of the events is asked from there.
      obtain now | ⟨before, asker, after, rfl, first_ask⟩ :=
        ih (fun term member => unsearched term (List.mem_cons_of_mem _ member))
          (sound.move (session.step_move first))
          ((congrArg Progress.loading same).trans free) asked
      · exact .inl now
      · exact .inr ⟨first :: before, asker, after, rfl, first_ask⟩

/-- A request can be made again: the next load asks for it, whatever else happens before that is no
search, and a load that begins at once does so. -/
structure Retries (session : LookupSession) (request : PageRequest) : Prop where
  next : ∀ later : List LookupEvent, (∀ term, .search term ∉ later) →
    ∀ (event : LookupEvent) (next : PageRequest),
      (session.run later).asked? event = some (.page next) →
      next = request ∨ ∃ before asker after, later = before ++ asker :: after ∧
        (session.run before).asked? asker = some (.page request)
  again : (session.step (.load false)).Made session.calls.length (.page request)

/-- A free list with a server retries its next page. -/
theorem retries_of_free (sound : session.Consistent) (server : session.lookup.hasServer = true)
    (free : session.lookup.loading = false) : session.Retries session.lookup.request where
  -- A free list asks for the same page, at the next load or at the first that comes.
  next later unsearched _ _ asked := first_asked later unsearched sound free asked
  again := Blind.load.made server free

end Again

/-- Only a list with a server asks for pages. -/
theorem hasServer_of_asked? {session : LookupSession} {event : LookupEvent} {request : PageRequest}
    (asked : session.asked? event = some (.page request)) : session.lookup.hasServer = true := by
  obtain ⟨byScroll, next, -, begins⟩ := asked?_eq_page asked
  -- A list without a server refuses every load.
  unfold Lookup.beginLoad at begins
  split at begins
  · cases begins
  · rename_i free
    simp only [Bool.or_eq_true, not_or, Bool.not_eq_true, Bool.not_eq_false'] at free
    exact free.1.1

/-- A list that has asked for a page since it was new has a server. -/
theorem hasServer_of_made {lookup : Lookup} (events : List LookupEvent) {call : Nat}
    {request : PageRequest} (made : ((start lookup).run events).Made call (.page request)) :
    ((start lookup).run events).lookup.hasServer = true := by
  -- The request was made by one of the events, when the list had a server.
  obtain before | ⟨before, asker, after, rfl, -, asked⟩ := made_of_run events made
  · cases before
  · rw [run_hasServer, ← run_hasServer before (start lookup)]
    exact hasServer_of_asked? asked

/-- After a failure the list retries, unless a search has started over since. -/
theorem Failure.retries {session : LookupSession} {task call : Nat} {request : PageRequest}
    {event : LookupEvent} (sound : session.Consistent)
    (pending : session.Pends task call (.page request))
    (failure : session.Failure task call request event)
    (server : session.lookup.hasServer = true)
    (current : request.generation = session.lookup.generation) :
    (session.step event).Retries request := by
  have progress := (failure.ends sound pending).2
  rw [Progress.letGo_eq] at progress
  -- The request that failed was the one for the next page, which is still the next one.
  have same : (session.step event).lookup.request = request :=
    (congrArg Progress.request progress).trans (sound.current pending current).2.symm
  have free : (session.step event).lookup.loading = false := by
    rw [failure.loading sound pending, if_pos current]
  have served : (session.step event).lookup.hasServer = true :=
    (run_hasServer [event] session).trans server
  rw [← same]
  exact retries_of_free (sound.move (session.step_move event)) served free

/-- What an event does to the progress of a list, apart from the loading flag. -/
inductive Change where
  /-- A page is taken in. -/
  | page (page : Page)
  /-- A search starts over with a term. -/
  | search (term : Json)
deriving DecidableEq

/-- A list after a change. -/
def Change.apply (progress : Progress) : Change → Progress
  | .page taken => progress.accept taken
  | .search term => progress.restart term

/-- A change does not look at the loading flag. -/
theorem Change.apply_loading (progress : Progress) (loading : Bool) (change : Change) :
    change.apply { progress with loading } = change.apply progress := by
  cases change <;> rfl

/-- The change that an event makes, if it makes any. -/
def change? (session : LookupSession) : LookupEvent → Option Change
  | .search term => some (.search term)
  | event => (session.acceptance? event).map fun taken => .page taken.page

/-- The changes that a run of events makes, in order. -/
def changes (session : LookupSession) : List LookupEvent → List Change
  | [] => []
  | event :: events => (session.change? event).toList ++ (session.step event).changes events

/-- A search starts over, and that is all it does to the progress. -/
theorem search_progress (session : LookupSession) (term : Json) :
    (session.search term).lookup.progress = session.lookup.progress.restart term := by
  -- A search restarts the list before its task is added.
  obtain ⟨tasks, -, searched, -⟩ := search_tasks session term
  rw [searched]
  rfl

/-- An event makes its change to the progress, and nothing else but to the loading flag. -/
theorem step_progress (session : LookupSession) (event : LookupEvent) :
    ∃ loading, (session.step event).lookup.progress =
      { (session.change? event).toList.foldl Change.apply session.lookup.progress with
        loading } := by
  -- A search is the only event that changes more than what a page brings.
  by_cases search : ∃ term, event = .search term
  · obtain ⟨term, rfl⟩ := search
    exact ⟨false, session.search_progress term⟩
  · have other : ∀ term, event ≠ .search term := fun term same => search ⟨term, same⟩
    have change : session.change? event =
        (session.acceptance? event).map fun taken => .page taken.page := by
      cases event with
      | search term => exact absurd rfl (other term)
      | _ => rfl
    have move := session.step_move event
    rw [change]
    generalize session.acceptance? event = taken at move
    -- Read off the move: whatever it is, only the flag differs from the change told by the event.
    cases move with
    | quiet progress => exact ⟨_, progress⟩
    | asked _ _ progress => exact ⟨true, progress⟩
    | inquired _ _ progress => exact ⟨_, progress⟩
    | restarted term progress => exact absurd progress (session.step_progress_ne_restart other term)
    | settled _ _ progress =>
      rw [Progress.letGo_eq] at progress
      exact ⟨_, progress⟩
    | accepted _ _ _ _ progress => exact ⟨false, progress⟩

/-- Where changes lead does not depend on the loading flag, but for the flag itself. -/
theorem foldl_apply_loading (changes : List Change) (progress : Progress) (loading other : Bool) :
    { changes.foldl Change.apply { progress with loading } with loading := other } =
      { changes.foldl Change.apply progress with loading := other } := by
  -- The first change sets the flag, so it does not matter what it was.
  cases changes with
  | nil => rfl
  | cons change rest => rw [List.foldl_cons, Change.apply_loading, List.foldl_cons]

/-- A run makes its changes to the progress one after the other, and nothing else but to the loading
flag. -/
theorem run_progress (events : List LookupEvent) :
    ∀ session : LookupSession, ∃ loading, (session.run events).lookup.progress =
      { (session.changes events).foldl Change.apply session.lookup.progress with loading } := by
  -- By induction on the events: those that change nothing leave the fold where it is.
  induction events with
  | nil => exact fun _ => ⟨_, rfl⟩
  | cons event events ih =>
    intro session
    obtain ⟨first, stepped⟩ := session.step_progress event
    obtain ⟨loading, later⟩ := ih (session.step event)
    refine ⟨loading, later.trans ?_⟩
    rw [stepped, foldl_apply_loading, changes, List.foldl_append]

/-- Runs that make the same changes load the same, whatever loads failed in them. -/
theorem loadedAlike_of_changes {session : LookupSession} {first second : List LookupEvent}
    (same : session.changes first = session.changes second) :
    (session.run first).lookup.LoadedAlike (session.run second).lookup := by
  -- Both runs come to the same fold, up to the flag.
  obtain ⟨loading, one⟩ := session.run_progress first
  obtain ⟨other, two⟩ := session.run_progress second
  rw [← same] at two
  exact .of_progress one two

/-- How a load comes to its end. -/
inductive Ending where
  /-- There is a reply to its request. -/
  | reply (reply : Reply)
  /-- It is cancelled. -/
  | cancelled
deriving DecidableEq

/-- The page that a load brings, if it brings one. -/
def Ending.page? : Ending → Option Page
  | .reply (.answer response) => (Page.ofAnswer response).toOption
  | _ => none

/-- A load that nobody scrolled for, from its beginning to its end. -/
def attempt (session : LookupSession) (ending : Ending) : LookupSession :=
  let asked := session.step (.load false)
  match ending with
  | .reply reply => asked.step (.reply session.calls.length reply)
  | .cancelled => asked.step (.cancel session.tasks.length)

/-- Loads one after the other. -/
def attempts (session : LookupSession) (endings : List Ending) : LookupSession :=
  endings.foldl attempt session

end LookupSession

/-- A list after a load, which takes in the page that comes if the list was free to ask for one. -/
def Lookup.after (lookup : Lookup) (ending : LookupSession.Ending) : Lookup :=
  if (lookup.beginLoad false).isSome then (ending.page?.map lookup.accept).getD lookup else lookup

namespace LookupSession

/-- A load that is no toggle ends as its request does. -/
theorem settle_load (lookup : Lookup) (request : PageRequest) (reply : Reply) :
    (settle lookup .load (.page request) reply).1 = (lookup.finishLoad request reply).1 := by
  unfold settle
  dsimp only
  -- The task ends well or badly, and the list is the same in both.
  split
  · rename_i ended
    rw [ended]
  · rename_i ended
    rw [ended]
    rfl

/-- A load that may not begin is over at once, so that neither a reply nor a cancellation means
anything to it. -/
theorem attempt_of_none {session : LookupSession} (stopped : session.lookup.beginLoad false = none)
    (ending : Ending) : (session.attempt ending).lookup = session.lookup := by
  have asked : session.step (.load false) = session.addTask .load (.finished (.bool false)) := by
    rw [step, load, stopped]
  cases ending with
  | reply reply =>
    -- No request was made under the number.
    have never : (session.addTask .load (.finished (.bool false))).calls[session.calls.length]? =
        none := List.getElem?_eq_none (Nat.le_refl _)
    rw [attempt, asked]
    dsimp only [step]
    rw [(reply_of_lost reply (.inr never)).2]
    rfl
  | cancelled =>
    rw [attempt, asked]
    dsimp only [step]
    rw [cancel, addTask, List.getElem?_concat_length]
    rfl

/-- A free list that is busy with its next page is as it was once it lets go of the request. -/
theorem release_of_free {lookup : Lookup} (free : lookup.loading = false) :
    Lookup.release { lookup with loading := true } lookup.request = lookup := by
  -- The flag was set for this page, and it is cleared again.
  have cleared : { lookup with loading := false } = lookup := by rw [← free]
  rw [Lookup.release, if_pos (by simp [Lookup.isCurrent, Lookup.request])]
  exact cleared

/-- A free list that is busy with its next page takes in the page that comes, if one does. -/
theorem finishLoad_of_free {lookup : Lookup} (free : lookup.loading = false) (reply : Reply) :
    (Lookup.finishLoad { lookup with loading := true } lookup.request reply).1 =
      ((Ending.reply reply).page?.map lookup.accept).getD lookup := by
  -- A failure only frees the flag. A page is read before it is taken in.
  cases reply with
  | unavailable => exact release_of_free free
  | broken message => exact release_of_free free
  | answer response =>
    rw [Lookup.finishLoad, if_pos (by simp [Lookup.isCurrent, Lookup.request]),
      release_of_free free, Ending.page?]
    cases Page.ofAnswer response with
    | ok page => rfl
    | error fault => rfl

/-- A load that may begin takes in the page that it ends with, if it ends with one. -/
theorem attempt_of_some {session : LookupSession} (sound : session.Consistent)
    {request : PageRequest} {next : Lookup}
    (begun : session.lookup.beginLoad false = some (request, next)) (ending : Ending) :
    (session.attempt ending).lookup =
      (ending.page?.map session.lookup.accept).getD session.lookup := by
  obtain ⟨free, rfl, rfl⟩ := Lookup.beginLoad_eq_some begun
  have asked : session.load false =
      { lookup := { session.lookup with loading := true }
        tasks := session.tasks ++ [⟨.load, .asking session.calls.length⟩]
        calls := session.calls ++ [⟨.page session.lookup.request, none⟩] } := by
    rw [load, begun]
    rfl
  -- The load waits for its own request, behind all the others.
  have waits : (session.load false).tasks[session.tasks.length]? =
      some ⟨.load, .asking session.calls.length⟩ := by
    rw [asked, List.getElem?_concat_length]
  have made : (session.load false).calls[session.calls.length]? =
      some ⟨.page session.lookup.request, none⟩ := by
    rw [asked, List.getElem?_concat_length]
  -- A reply finishes the load, and a cancelled task lets it go.
  cases ending with
  | reply reply =>
    have found := (sound.move (session.load_move false)).findIdx?_awaits ⟨.load, waits⟩
    have ended := reply_lookup found waits made reply
    rw [settle_load] at ended
    refine ended.trans ?_
    rw [asked]
    exact finishLoad_of_free free reply
  | cancelled =>
    show ((session.load false).cancel session.tasks.length).lookup = session.lookup
    rw [cancel, waits]
    dsimp only [releaseTask]
    rw [made]
    dsimp only
    rw [asked]
    exact release_of_free free

/-- A load that is answered or cancelled before anything else happens. -/
theorem attempt_lookup {session : LookupSession} (sound : session.Consistent) (ending : Ending) :
    (session.attempt ending).lookup = session.lookup.after ending := by
  -- A load that is refused leaves the list as it is, and any other comes to its ending.
  rw [Lookup.after]
  cases begun : session.lookup.beginLoad false with
  | none => rw [attempt_of_none begun, Option.isSome_none, if_neg Bool.false_ne_true]
  | some asked => rw [attempt_of_some sound begun, Option.isSome_some, if_pos rfl]

/-- A load leaves what is on its way consistent. -/
theorem Consistent.attempt {session : LookupSession} (sound : session.Consistent)
    (ending : Ending) : (session.attempt ending).Consistent := by
  -- An attempt is two events, the load and its ending.
  have asked := sound.move (session.step_move (.load false))
  cases ending with
  | reply reply => exact asked.move (step_move _ (.reply session.calls.length reply))
  | cancelled => exact asked.move (step_move _ (.cancel session.tasks.length))

/-- Loads that are made one after the other come to a fold over their endings. -/
theorem attempts_lookup (endings : List Ending) :
    ∀ {session : LookupSession}, session.Consistent →
      (session.attempts endings).lookup = endings.foldl Lookup.after session.lookup := by
  -- By induction on the endings: what is on its way is consistent before every load.
  induction endings with
  | nil => exact fun _ => rfl
  | cons ending endings ih =>
    intro session sound
    rw [List.foldl_cons, ← attempt_lookup sound]
    exact ih (sound.attempt ending)

/-- Loads without a page are nothing to those with one. -/
theorem foldl_after_filter (endings : List Ending) (lookup : Lookup) :
    endings.foldl Lookup.after lookup =
      (endings.filter fun ending => ending.page?.isSome).foldl Lookup.after lookup := by
  rw [List.foldl_filter]
  congr 1
  funext lookup ending
  -- A load that is left out would have left the list as it was.
  cases brought : ending.page? with
  | some page => rw [Option.isSome_some, if_pos rfl]
  | none =>
    rw [Option.isSome_none, if_neg Bool.false_ne_true, Lookup.after, brought, Option.map_none,
      Option.getD_none, ite_self]

/-- Whatever happened to an option list: a load that ends without a page and is not cut off by a
search has failed in one of several ways, and each of them is such an end. It changes nothing of
what was loaded. If a search has started over since, the loading flag stays as it is, too; otherwise
the list may load again, and the next load asks for the same page. A search that cuts off a load
starts over and does nothing else. So loads that fail leave no trace: loads one after the other come
to what those with a page come to, and in any order of events the pages that are taken in and the
searches tell what is loaded. -/
theorem run_retry (field : Field) (hasServer : Bool) (debounce scrollThreshold : Json)
    (events : List LookupEvent) :
    let session := (start (.start field hasServer debounce scrollThreshold)).run events
    (∀ (task call : Nat) (request : PageRequest), session.Pends task call (.page request) →
      ∀ event,
        (session.Failure task call request event ↔
          session.EndsWithout task call event ∧ ∀ term, event ≠ .search term) ∧
        (session.Failure task call request event →
          let failed := session.step event
          session.lookup.LoadedAlike failed.lookup ∧
            (failed.lookup.loading =
              if request.generation = session.lookup.generation then false
              else session.lookup.loading) ∧
            (request.generation = session.lookup.generation → failed.Retries request))) ∧
      (∀ term, (session.step (.search term)).lookup.progress =
        session.lookup.progress.restart term) ∧
      (∀ endings : List Ending, (session.attempts endings).lookup =
        (session.attempts (endings.filter fun ending => ending.page?.isSome)).lookup) ∧
      ∀ first second : List LookupEvent, session.changes first = session.changes second →
        (session.run first).lookup.LoadedAlike (session.run second).lookup := by
  intro session
  have sound : session.Consistent := (start_consistent _).run events
  -- A failure is told by how the request ends, and what it leaves by the three lemmas on failures.
  refine ⟨fun task call request pending event => ⟨⟨fun failure => ⟨?_, ?_⟩, fun ends => ?_⟩,
    fun failure => ?_⟩, session.search_progress, fun endings => ?_,
    fun first second => loadedAlike_of_changes⟩
  · exact (failure.ends sound pending).1
  · exact failure.ne_search
  · exact failure_of_endsWithout sound pending ends.1 ends.2
  · have made : session.Made call (.page request) :=
      congrArg (Option.map Call.request) pending.made
    exact ⟨failure.loadedAlike sound pending, failure.loading sound pending,
      failure.retries sound pending (hasServer_of_made events made)⟩
  -- A failed attempt changes nothing, so it may be left out.
  · rw [attempts_lookup _ sound, attempts_lookup _ sound, foldl_after_filter]

/-- The first page comes at the third try, and so does the second. -/
def troubled : List Ending :=
  [.reply .unavailable, .cancelled,
    .reply (.answer (.obj [("items", .arr [.str "apple"]), ("hasMore", .bool true)])),
    .reply (.broken "no route"), .reply (.answer (.obj [("items", .int 1)])),
    .reply (.answer (.obj [("items", .arr [.str "pear"])]))]

/-- After the first failure the first page is asked for again, and in the end both pages are
shown. -/
theorem troubled_shows :
    let start := LookupSession.start (.start default true (.int 0) (.int 20))
    let session := start.run [.load false]
    session.Pends 0 0 (.page start.lookup.request) ∧
      (session.step (.reply 0 .unavailable)).Retries start.lookup.request ∧
      (start.attempts troubled).lookup.options = [.str "apple", .str "pear"] := by
  intro start session
  have pends : session.Pends 0 0 (.page start.lookup.request) := ⟨⟨.load, rfl⟩, rfl⟩
  -- The first load fails after it was asked, and the attempts are made from the start.
  obtain ⟨failed, -⟩ := run_retry default true (.int 0) (.int 20) [.load false]
  obtain ⟨-, -, retries⟩ := (failed 0 0 _ pends (.reply 0 .unavailable)).2 .unavailable
  obtain ⟨-, -, alone, -⟩ := run_retry default true (.int 0) (.int 20) []
  refine ⟨pends, retries rfl, ?_⟩
  rw [show (start.attempts troubled).lookup = _ from alone troubled]
  decide +kernel

end LookupSession

end Flowchart
