import Flowchart.Relation.Lookup

/-! The part of an option list that loading works on, and what the operations of the list do to
it. -/

namespace Flowchart

/-- The part of an option list that loading reads and writes. -/
structure Progress where
  field : Field
  options : List Json
  page : Nat
  hasMore : Bool
  loading : Bool
  term : Json
  generation : Nat

namespace Progress

/-- The request for the next page. -/
def request (progress : Progress) : PageRequest :=
  ⟨progress.field.relationClass, progress.term, progress.page, progress.field.filter,
    progress.generation⟩

/-- The list once a request is let go of: it may load again if the request is of the search at
hand. -/
def letGo (progress : Progress) : Request → Progress
  | .page request =>
    if request.generation = progress.generation then { progress with loading := false }
    else progress
  | .label _ => progress

/-- Letting go of a request touches nothing but the loading flag. -/
theorem letGo_eq (progress : Progress) (request : Request) :
    progress.letGo request = { progress with loading := (progress.letGo request).loading } := by
  -- Whatever is let go, at most the flag is cleared.
  cases request with
  | label request => rfl
  | page request =>
    by_cases current : request.generation = progress.generation <;> simp [letGo, current]

/-- Letting go of a request changes nothing unless it is for a page of the search at hand. -/
theorem letGo_of_old {progress : Progress} {request : Request}
    (old : ∀ page, request = .page page → page.generation ≠ progress.generation) :
    progress.letGo request = progress := by
  -- Only a page of the search at hand frees the flag.
  cases request with
  | label request => rfl
  | page request => exact if_neg (old request rfl)

/-- The list once a page is taken in. -/
def accept (progress : Progress) (page : Page) : Progress :=
  { progress with
    options := if progress.page = 1 then page.items else progress.options ++ page.items
    hasMore := page.hasMore
    page := progress.page + 1
    loading := false }

/-- The list at the start of a search. -/
def restart (progress : Progress) (term : Json) : Progress :=
  { progress with
    term, page := 1, hasMore := true, loading := false, generation := progress.generation + 1 }

end Progress

namespace Lookup

/-- The part of the list that loading reads and writes. -/
def progress (lookup : Lookup) : Progress :=
  ⟨lookup.field, lookup.options, lookup.page, lookup.hasMore, lookup.loading, lookup.term,
    lookup.generation⟩

/-- A load that begins finds the list free, and asks for the next page. -/
theorem beginLoad_eq_some {lookup next : Lookup} {byScroll : Bool} {request : PageRequest}
    (begun : lookup.beginLoad byScroll = some (request, next)) :
    lookup.loading = false ∧ request = lookup.request ∧ next = { lookup with loading := true } := by
  -- Of what may stop a load, only a page on its way matters here.
  unfold beginLoad at begun
  split at begun
  · cases begun
  · rename_i free
    simp only [Bool.or_eq_true, not_or, Bool.not_eq_true] at free
    simp only [Option.some.injEq, Prod.mk.injEq] at begun
    exact ⟨free.1.2, begun.1.symm, begun.2.symm⟩

/-- Letting go of a request touches nothing but the loading flag. -/
theorem release_progress (lookup : Lookup) (request : PageRequest) :
    (lookup.release request).progress = lookup.progress.letGo (.page request) := by
  -- Both ask for the generation of the page.
  by_cases current : request.generation = lookup.generation <;>
    simp [release, isCurrent, progress, Progress.letGo, current]

/-- A list takes in a page only as the answer to a request of the search at hand. -/
theorem finishLoad_eq_true {lookup : Lookup} {request : PageRequest} {reply : Reply}
    (taken : (lookup.finishLoad request reply).2 = .ok true) :
    ∃ response page, reply = .answer response ∧ Page.ofAnswer response = .ok page ∧
      request.generation = lookup.generation ∧
      (lookup.finishLoad request reply).1.progress = lookup.progress.accept page := by
  -- All but one ending of a request are ruled out.
  cases reply with
  | unavailable => simp [finishLoad] at taken
  | broken message => simp [finishLoad] at taken
  | answer response =>
    by_cases current : request.generation = lookup.generation
    · cases read : Page.ofAnswer response with
      | error fault => simp [finishLoad, isCurrent, current, read] at taken
      | ok page =>
        refine ⟨response, page, rfl, read, current, ?_⟩
        simp only [finishLoad, isCurrent, current, beq_self_eq_true, if_true, read, release,
          accept, progress, Progress.accept]
        rfl
    · simp [finishLoad, isCurrent, current] at taken

/-- A load that takes in no page only lets go of its request. -/
theorem finishLoad_ne_true {lookup : Lookup} {request : PageRequest} {reply : Reply}
    (refused : (lookup.finishLoad request reply).2 ≠ .ok true) :
    (lookup.finishLoad request reply).1.progress = lookup.progress.letGo (.page request) := by
  -- The request is let go of first, and only an answer that makes sense changes more.
  rw [← release_progress]
  cases reply with
  | unavailable => rfl
  | broken message => rfl
  | answer response =>
    by_cases current : request.generation = lookup.generation
    · cases read : Page.ofAnswer response with
      | ok page => simp [finishLoad, isCurrent, current, read] at refused
      | error fault => simp [finishLoad, isCurrent, current, read]
    · simp [finishLoad, isCurrent, current]

/-- A reply to a request of an older search changes nothing that loading works on. -/
theorem finishLoad_of_old {lookup : Lookup} {request : PageRequest}
    (old : request.generation ≠ lookup.generation) (reply : Reply) :
    (lookup.finishLoad request reply).1.progress = lookup.progress := by
  -- What is taken in is of the search at hand, so an old page is let go, which frees nothing.
  by_cases taken : (lookup.finishLoad request reply).2 = .ok true
  · obtain ⟨_, _, -, -, current, -⟩ := finishLoad_eq_true taken
    exact absurd current old
  · rw [finishLoad_ne_true taken]
    exact if_neg old

/-- A reply to a request for a label changes the label at most. -/
theorem exists_finishLabel (lookup : Lookup) (request : LabelRequest) (reply : Reply) :
    ∃ label, (lookup.finishLabel request reply).1 = { lookup with label } := by
  -- Where nothing is said the label stays, which is a change to itself.
  unfold finishLabel
  dsimp only
  split <;> exact ⟨_, rfl⟩

/-- A reply to a request for a label changes nothing that loading works on. -/
theorem finishLabel_progress (lookup : Lookup) (request : LabelRequest) (reply : Reply) :
    (lookup.finishLabel request reply).1.progress = lookup.progress := by
  -- Whatever the reply, only the label may change.
  obtain ⟨label, same⟩ := lookup.exists_finishLabel request reply
  rw [same]
  rfl

/-- What is asked for next is told by the part of the list that loading works on. -/
theorem request_congr {lookup other : Lookup} (same : lookup.progress = other.progress) :
    lookup.request = other.request :=
  congrArg Progress.request same

/-- Asking for a label changes the label at most. -/
theorem beginLabel_progress {lookup next : Lookup} {value : Json} {request : LabelRequest}
    (begun : lookup.beginLabel value = some (request, next)) :
    next.progress = lookup.progress := by
  unfold beginLabel at begun
  -- Only the label changes, and that is no part of the progress.
  split at begun
  · cases begun
  · simp only [Option.some.injEq, Prod.mk.injEq] at begun
    rw [← begun.2]
    rfl

end Lookup

end Flowchart
