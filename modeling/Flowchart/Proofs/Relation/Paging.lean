import Flowchart.Proofs.Relation.Flight

/-! The options of a list in use are the pages that its latest search took in, in order and each
once. What older searches still have on its way changes nothing. -/

namespace Flowchart

namespace Acceptance

/-- The pages that were taken in for one search. -/
def ofSearch (generation : Nat) (taken : List Acceptance) : List Acceptance :=
  taken.filter fun acceptance => acceptance.request.generation = generation

/-- The pages that were taken in for the last search that took in any. -/
def latest (taken : List Acceptance) : List Acceptance :=
  match taken.getLast? with
  | none => []
  | some last => ofSearch last.request.generation taken

/-- The options on pages, one after the other. -/
def items (taken : List Acceptance) : List Json :=
  taken.flatMap fun acceptance => acceptance.page.items

/-- A page that is taken in comes after those of its search. -/
theorem ofSearch_append_self {generation : Nat} {acceptance : Acceptance}
    (taken : List Acceptance) (same : acceptance.request.generation = generation) :
    ofSearch generation (taken ++ [acceptance]) = ofSearch generation taken ++ [acceptance] := by
  simp [ofSearch, same]

/-- The search of the last page taken in is the last search that took in any. -/
theorem latest_append (taken : List Acceptance) (acceptance : Acceptance) :
    latest (taken ++ [acceptance]) =
      ofSearch acceptance.request.generation taken ++ [acceptance] := by
  -- The search of the last page is the one that the new page is of.
  rw [latest, List.getLast?_concat]
  exact ofSearch_append_self taken rfl

/-- A search that is still to come took in nothing. -/
theorem ofSearch_eq_nil {generation : Nat} {taken : List Acceptance}
    (older : ∀ acceptance ∈ taken, acceptance.request.generation < generation) :
    ofSearch generation taken = [] := by
  rw [ofSearch, List.filter_eq_nil_iff]
  intro acceptance member
  -- Its generation is less, so it is no other number of the same kind.
  have := older acceptance member
  simp only [decide_eq_true_eq]
  omega

end Acceptance

namespace LookupSession

/-- The pages that a run of events takes in, in order. -/
def acceptances (session : LookupSession) : List LookupEvent → List Acceptance
  | [] => []
  | event :: events => (session.acceptance? event).toList ++ (session.step event).acceptances events

/-- A page was taken in from the answer to the request that it is said to answer. -/
def Answered (session : LookupSession) (acceptance : Acceptance) : Prop :=
  ∃ response,
    session.calls[acceptance.call]? = some ⟨.page acceptance.request, some (.answer response)⟩ ∧
      Page.ofAnswer response = .ok acceptance.page

/-- Pages answer the requests for the first page of the search at hand, the second, and so on. -/
def Counted (session : LookupSession) (pages : List Acceptance) : Prop :=
  ∀ index acceptance, pages[index]? = some acceptance →
    acceptance.request = { session.lookup.request with page := index + 1 }

/-- The list agrees with the pages that it took in so far. -/
structure Tally (session : LookupSession) (taken : List Acceptance) : Prop where
  /-- No page is of a search to come. -/
  bound : ∀ acceptance ∈ taken, acceptance.request.generation ≤ session.lookup.generation
  answered : ∀ acceptance ∈ taken, session.Answered acceptance
  /-- No request was answered twice. -/
  once : (taken.map Acceptance.call).Nodup
  counted : session.Counted (Acceptance.ofSearch session.lookup.generation taken)
  /-- The next page follows those of the search at hand. -/
  page : session.lookup.page = (Acceptance.ofSearch session.lookup.generation taken).length + 1
  /-- The last page of the search at hand tells whether there are more. -/
  hasMore : ∀ last, (Acceptance.ofSearch session.lookup.generation taken).getLast? = some last →
    session.lookup.hasMore = last.page.hasMore
  /-- The list shows the last search that took in any page. -/
  options : session.lookup.options = Acceptance.items (Acceptance.latest taken)
  /-- A search that took in a page is the last one that did. -/
  latest : Acceptance.ofSearch session.lookup.generation taken ≠ [] →
    Acceptance.latest taken = Acceptance.ofSearch session.lookup.generation taken

/-- The list shows pages of its search: answers to requests for the first page, the second and so
on, the last of which tells whether there are more. -/
structure Shows (session : LookupSession) (pages : List Acceptance) : Prop where
  answered : ∀ acceptance ∈ pages, session.Answered acceptance
  once : (pages.map Acceptance.call).Nodup
  counted : session.Counted pages
  options : session.lookup.options = Acceptance.items pages
  hasMore : pages.getLast?.map (fun last => last.page.hasMore) = some session.lookup.hasMore

/-- A search that took in a page is shown. -/
theorem Tally.shows {session : LookupSession} {taken : List Acceptance}
    (tally : session.Tally taken)
    (some_taken : Acceptance.ofSearch session.lookup.generation taken ≠ []) :
    session.Shows (Acceptance.ofSearch session.lookup.generation taken) where
  -- The pages of the search are among all that were taken in, in their order.
  answered acceptance member := tally.answered acceptance (List.mem_filter.mp member).1
  once := tally.once.sublist (List.filter_sublist.map _)
  counted := tally.counted
  options := tally.options.trans (congrArg Acceptance.items (tally.latest some_taken))
  hasMore := by
    have last := List.getLast?_eq_some_getLast some_taken
    rw [last, Option.map_some, tally.hasMore _ last]

/-- All that was taken in before a search took in a page is of older searches. -/
theorem Tally.older {session : LookupSession} {taken : List Acceptance}
    (tally : session.Tally taken)
    (none_taken : Acceptance.ofSearch session.lookup.generation taken = []) :
    ∀ acceptance ∈ taken, acceptance.request.generation < session.lookup.generation := by
  intro acceptance member
  rw [Acceptance.ofSearch, List.filter_eq_nil_iff] at none_taken
  -- No page is of a later generation than the one at hand, and this one is not of that one.
  have other := none_taken acceptance member
  rw [decide_eq_true_eq] at other
  exact Nat.lt_of_le_of_ne (tally.bound acceptance member) other

/-- A list that nothing happened to has taken in nothing. -/
theorem start_tally (field : Field) (hasServer : Bool) (debounce scrollThreshold : Json) :
    (start (.start field hasServer debounce scrollThreshold)).Tally [] where
  -- Nothing was taken in, so only the first page and the empty list are left to see.
  bound := nofun
  answered := nofun
  once := .nil
  counted := nofun
  page := rfl
  hasMore := nofun
  options := rfl
  latest := fun taken => absurd rfl taken

/-- Replies that were given stay given. -/
def KeepsReplies (session next : LookupSession) : Prop :=
  ∀ (call : Nat) (request : Request) (reply : Reply),
    session.calls[call]? = some ⟨request, some reply⟩ →
    next.calls[call]? = some ⟨request, some reply⟩

/-- Noting the end of a request that is on its way keeps the replies that were given. -/
theorem Pends.keepsReplies {session next : LookupSession} {task call : Nat} {request : Request}
    (pending : session.Pends task call request) (calls : session.KeepsCalls next call) :
    session.KeepsReplies next := by
  intro other requested reply given
  -- A call that has its reply is not the one that is still on its way.
  have distinct : other ≠ call := by
    rintro rfl
    rw [pending.made] at given
    cases given
  exact (calls.others other distinct).trans given

/-- A page that was taken in answers its request for ever. -/
theorem Answered.keep {session next : LookupSession} {acceptance : Acceptance}
    (answered : session.Answered acceptance) (replies : session.KeepsReplies next) :
    next.Answered acceptance := by
  -- The reply is still there, and it is read as it was.
  obtain ⟨response, given, read⟩ := answered
  exact ⟨response, replies _ _ _ given, read⟩

/-- What a list took in does not depend on whether it loads. -/
theorem Tally.carry {session next : LookupSession} {taken : List Acceptance} {loading : Bool}
    (tally : session.Tally taken)
    (progress : next.lookup.progress = { session.lookup.progress with loading })
    (replies : session.KeepsReplies next) : next.Tally taken := by
  -- All that is told of the list is the same, whatever its loading flag.
  have request : next.lookup.request = session.lookup.request :=
    congrArg Progress.request progress
  have generation : next.lookup.generation = session.lookup.generation :=
    congrArg Progress.generation progress
  have page : next.lookup.page = session.lookup.page := congrArg Progress.page progress
  have hasMore : next.lookup.hasMore = session.lookup.hasMore := congrArg Progress.hasMore progress
  have options : next.lookup.options = session.lookup.options := congrArg Progress.options progress
  -- Each part is rewritten by the fields it reads.
  refine ⟨?_, fun acceptance member => (tally.answered acceptance member).keep replies, tally.once,
    ?_, ?_, ?_, ?_, ?_⟩
  · rw [generation]
    exact tally.bound
  · rw [generation, Counted, request]
    exact tally.counted
  · rw [generation, page]
    exact tally.page
  · rw [generation, hasMore]
    exact tally.hasMore
  · rw [options]
    exact tally.options
  · rw [generation]
    exact tally.latest

/-- A search that starts over has taken in nothing, and shows what was there before. -/
theorem Tally.restart {session next : LookupSession} {taken : List Acceptance} {term : Json}
    (tally : session.Tally taken)
    (progress : next.lookup.progress = session.lookup.progress.restart term)
    (replies : session.KeepsReplies next) : next.Tally taken := by
  have generation : next.lookup.generation = session.lookup.generation + 1 :=
    congrArg Progress.generation progress
  have page : next.lookup.page = 1 := congrArg Progress.page progress
  have options : next.lookup.options = session.lookup.options := congrArg Progress.options progress
  -- Every page so far is of an older search than the new one.
  have fresh : Acceptance.ofSearch next.lookup.generation taken = [] := by
    refine Acceptance.ofSearch_eq_nil fun acceptance member => ?_
    rw [generation]
    exact Nat.lt_succ_of_le (tally.bound acceptance member)
  -- The search at hand has no page yet, so what is said of its pages holds of none.
  refine ⟨fun acceptance member => ?_,
    fun acceptance member => (tally.answered acceptance member).keep replies, tally.once,
    ?_, ?_, ?_, options.trans tally.options, fun some => absurd fresh some⟩
  · rw [generation]
    exact Nat.le_succ_of_le (tally.bound acceptance member)
  · rw [fresh]
    nofun
  · rw [fresh, page]
    rfl
  · rw [fresh]
    nofun

/-- The answer to the request for the next page counts one page further. -/
theorem Counted.append {session : LookupSession} {pages : List Acceptance}
    {acceptance : Acceptance} (counted : session.Counted pages)
    (request : acceptance.request = session.lookup.request)
    (page : session.lookup.page = pages.length + 1) :
    session.Counted (pages ++ [acceptance]) := by
  -- The new page is the last one, and its number is one more than theirs.
  intro index other found
  rw [List.getElem?_append] at found
  split at found
  · exact counted index other found
  · rw [List.getElem?_singleton] at found
    split at found
    · cases found
      have count : index + 1 = session.lookup.page := by omega
      rw [count]
      exact request
    · cases found

/-- Which page comes next does not matter to the pages that were counted. -/
theorem Counted.congr {session next : LookupSession} {pages : List Acceptance}
    (counted : session.Counted pages)
    (same : ∀ count, { next.lookup.request with page := count } =
      { session.lookup.request with page := count }) : next.Counted pages := by
  -- Pages are counted by the request at hand, whose number is put in.
  intro index acceptance found
  rw [same]
  exact counted index acceptance found

/-- A page that is taken in is shown behind those of its search, or instead of what was there. -/
theorem Tally.accept {session next : LookupSession} {taken : List Acceptance}
    {acceptance : Acceptance} (tally : session.Tally taken)
    (request : acceptance.request = session.lookup.request)
    (fresh : ∀ earlier ∈ taken, earlier.call ≠ acceptance.call)
    (progress : next.lookup.progress = session.lookup.progress.accept acceptance.page)
    (answered : next.Answered acceptance) (replies : session.KeepsReplies next) :
    next.Tally (taken ++ [acceptance]) := by
  have generation : next.lookup.generation = session.lookup.generation :=
    congrArg Progress.generation progress
  have current : acceptance.request.generation = session.lookup.generation :=
    congrArg PageRequest.generation request
  have page : next.lookup.page = session.lookup.page + 1 := congrArg Progress.page progress
  have hasMore : next.lookup.hasMore = acceptance.page.hasMore := congrArg Progress.hasMore progress
  have options : next.lookup.options =
      if session.lookup.page = 1 then acceptance.page.items
      else session.lookup.options ++ acceptance.page.items := congrArg Progress.options progress
  -- The new page is of the search at hand, which is now the last one that took in any.
  have search : Acceptance.ofSearch next.lookup.generation (taken ++ [acceptance]) =
      Acceptance.ofSearch session.lookup.generation taken ++ [acceptance] := by
    rw [generation]
    exact Acceptance.ofSearch_append_self taken current
  have last : Acceptance.latest (taken ++ [acceptance]) =
      Acceptance.ofSearch session.lookup.generation taken ++ [acceptance] := by
    rw [Acceptance.latest_append, current]
  -- The parts in order: bounds, replies, no call twice, counting, page, last page and options.
  refine ⟨?_, ?_, ?_, ?_, ?_, ?_, ?_, fun _ => last.trans search.symm⟩
  · intro earlier member
    rw [generation]
    obtain old | rfl := List.mem_append.mp member |>.imp_right List.mem_singleton.mp
    · exact tally.bound earlier old
    · exact Nat.le_of_eq current
  · intro earlier member
    obtain old | rfl := List.mem_append.mp member |>.imp_right List.mem_singleton.mp
    · exact (tally.answered earlier old).keep replies
    · exact answered
  · rw [List.map_append, List.nodup_append]
    -- The request of the new page is none of those that were answered before.
    refine ⟨tally.once, List.pairwise_singleton _ _, fun call member other single => ?_⟩
    obtain ⟨earlier, old, rfl⟩ := List.mem_map.mp member
    rw [List.map_singleton, List.mem_singleton] at single
    exact single ▸ fresh earlier old
  · rw [search]
    refine Counted.congr (tally.counted.append request tally.page) fun count => ?_
    exact congrArg (fun progress => { progress.request with page := count }) progress
  · rw [search, page, tally.page, List.length_append]
    rfl
  · rw [search, List.getLast?_concat]
    rintro _ ⟨⟩
    exact hasMore
  · rw [options, last, Acceptance.items, List.flatMap_append, List.flatMap_singleton]
    -- The first page of a search replaces what was there, and any other one is put behind.
    split
    · rename_i first
      have none_taken : Acceptance.ofSearch session.lookup.generation taken = [] := by
        rw [tally.page, Nat.add_eq_right, List.length_eq_zero_iff] at first
        exact first
      rw [none_taken, List.flatMap_nil, List.nil_append]
    · rename_i later
      have some_taken : Acceptance.ofSearch session.lookup.generation taken ≠ [] :=
        fun none_taken => later (by rw [tally.page, none_taken, List.length_nil])
      rw [tally.options, tally.latest some_taken, Acceptance.items]

/-- Every move leaves the list in agreement with what it took in. -/
theorem Tally.move {session next : LookupSession} {taken : List Acceptance}
    {accepted : Option Acceptance} (tally : session.Tally taken) (sound : session.Consistent)
    (move : session.Move accepted next) : next.Tally (taken ++ accepted.toList) := by
  have appended {made : Call} (calls : next.calls = session.calls ++ [made]) :
      session.KeepsReplies next := fun _ _ _ given => calls ▸ getElem?_append_kept made given
  -- Only a move that takes a page in lengthens the list.
  cases move with
  | quiet progress calls asks =>
    rw [Option.toList_none, List.append_nil]
    exact tally.carry progress fun _ _ _ given => calls ▸ given
  | asked asker free progress calls asks =>
    rw [Option.toList_none, List.append_nil]
    exact tally.carry progress (appended calls)
  | inquired asker request progress calls asks =>
    rw [Option.toList_none, List.append_nil]
    exact tally.carry progress (appended calls)
  | restarted term progress calls asks =>
    rw [Option.toList_none, List.append_nil]
    exact tally.restart progress fun _ _ _ given => calls ▸ given
  | settled asking made progress calls asks =>
    rw [Option.toList_none, List.append_nil]
    rw [Progress.letGo_eq] at progress
    exact tally.carry progress ((sound.pends_of_made asking made).keepsReplies calls)
  | @accepted _ asker acceptance response asking made current read progress answered calls asks =>
    have pending := sound.pends_of_made asking made
    refine tally.accept (sound.current pending current).2 (fun earlier member same => ?_) progress
      ⟨response, answered, read⟩ (pending.keepsReplies calls)
    -- A request that is still on its way has no reply, so it was not answered before.
    obtain ⟨_, given, -⟩ := tally.answered earlier member
    rw [same, pending.made] at given
    simp at given

/-- A run keeps the flags and the pages of a list in agreement with its requests. -/
theorem run_tally (events : List LookupEvent) :
    ∀ {session : LookupSession} {taken : List Acceptance}, session.Consistent →
      session.Tally taken →
      (session.run events).Consistent ∧
        (session.run events).Tally (taken ++ session.acceptances events) := by
  -- Along the run, the pages taken in so far are put before those that are still to come.
  induction events with
  | nil =>
    intro session taken sound tally
    rw [acceptances, List.append_nil]
    exact ⟨sound, tally⟩
  | cons event events ih =>
    intro session taken sound tally
    have move := session.step_move event
    rw [acceptances, ← List.append_assoc]
    exact ih (sound.move move) (tally.move sound move)

/-- The answer to a request of an older search changes nothing that loading works on. -/
theorem reply_progress_of_old {session : LookupSession} {call : Nat} {request : PageRequest}
    {earlier : Option Reply} (made : session.calls[call]? = some ⟨.page request, earlier⟩)
    (old : request.generation ≠ session.lookup.generation) (reply : Reply) :
    (session.step (.reply call reply)).lookup.progress = session.lookup.progress := by
  -- A reply that nobody waits for is lost, and any other one is refused by the list.
  show (session.reply call reply).lookup.progress = session.lookup.progress
  cases found : session.tasks.findIdx? (awaits call) with
  | none => rw [LookupSession.reply, found]
  | some task =>
    obtain ⟨kind, waits⟩ := findIdx?_awaits found
    rw [reply_eq found waits made]
    exact (settle_page ..).trans (Lookup.finishLoad_of_old old reply)

/-- A page is asked for and a search begins before it comes, so that it comes too late. -/
def overtaken : List LookupEvent :=
  [.load false, .reply 0 (.answer (.obj [("items", .arr [.str "apple"]), ("hasMore", .bool true)])),
    .load true, .search (.str "p"), .wake 2,
    .reply 1 (.answer (.obj [("items", .arr [.str "banana"])])),
    .reply 2 (.answer (.obj [("items", .arr [.str "pear"])]))]

/-- Whatever happens to an option list, in whatever order and after whatever delay: from the second
page on it shows the pages that its search took in, each the answer to a request of its own; before
that it shows what the last search took in that took in any. What older searches still have on
its way changes nothing. -/
theorem run_paging (field : Field) (hasServer : Bool) (debounce scrollThreshold : Json)
    (events : List LookupEvent) :
    let start := LookupSession.start (.start field hasServer debounce scrollThreshold)
    let session := start.run events
    let taken := start.acceptances events
    let pages := Acceptance.ofSearch session.lookup.generation taken
    1 ≤ session.lookup.page ∧
      (∀ acceptance ∈ taken, session.Answered acceptance) ∧
      (taken.map Acceptance.call).Nodup ∧
      (∀ count, 1 ≤ count → session.lookup.page = count + 1 →
        pages.length = count ∧ session.Shows pages) ∧
      (session.lookup.page = 1 →
        (∀ acceptance ∈ taken, acceptance.request.generation < session.lookup.generation) ∧
          session.lookup.options = Acceptance.items (Acceptance.latest taken)) ∧
      ∀ (call : Nat) (request : PageRequest) (earlier : Option Reply) (reply : Reply),
        session.calls[call]? = some ⟨.page request, earlier⟩ →
        request.generation ≠ session.lookup.generation →
        (session.step (.reply call reply)).lookup.progress = session.lookup.progress := by
  -- The tally of the whole run holds all of it, apart from the last part.
  intro start session taken pages
  have tally : session.Tally taken :=
    (run_tally events (start_consistent _) (start_tally ..)).2
  -- A page past the first means that the search took in pages, and the first that it took in none.
  refine ⟨?_, tally.answered, tally.once, fun count some_page page => ?_,
    fun first => ⟨?_, tally.options⟩,
    fun call request earlier reply made old => reply_progress_of_old made old reply⟩
  · rw [tally.page]
    exact Nat.le_add_left ..
  · have length : pages.length = count := Nat.succ.inj (tally.page.symm.trans page)
    have some_taken : pages ≠ [] := by
      rintro none_taken
      rw [none_taken, List.length_nil] at length
      omega
    exact ⟨length, tally.shows some_taken⟩
  -- On the first page the search at hand took in nothing, so all that came is older.
  · have none_taken : pages = [] := by
      rw [tally.page, Nat.add_eq_right, List.length_eq_zero_iff] at first
      exact first
    exact tally.older none_taken

/-- The page that comes too late is not shown. -/
theorem overtaken_shows :
    let session := (start (.start default true (.int 0) (.int 20))).run overtaken
    session.lookup.page = 2 ∧ session.lookup.options = [.str "pear"] ∧
      ∃ pages : List Acceptance, pages.length = 1 ∧ session.Shows pages := by
  intro session
  -- The page is computed, and the theorem tells what it shows.
  obtain ⟨-, -, -, shown, -⟩ := run_paging default true (.int 0) (.int 20) overtaken
  have page : session.lookup.page = 1 + 1 := by decide +kernel
  exact ⟨page, by decide +kernel, _, shown 1 (Nat.le_refl 1) page⟩

end LookupSession

end Flowchart
