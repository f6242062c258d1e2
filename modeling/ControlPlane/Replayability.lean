import ControlPlane.Replays

/-!
Whether a dead letter stays replayable. For one event the store keeps a
workflow, a dead letter, receipts and authorizations, each with a generation of
its own. `Move` says how they may move together and `Good` what they then keep:
an open dead letter of a failed workflow has the workflow's generation. The
store makes such moves only, as long as a record that is dead-lettered by its
consumer belongs to no workflow and carries the generation that the store issued
for it; a header with another generation moves the dead letter away from its
workflow, and the next replay is refused.
-/
namespace ControlPlane.Replayability
open ControlPlane.Tables ControlPlane.Runs ControlPlane.Domain ControlPlane.Commands
open ControlPlane.EventValidation ControlPlane.WorkflowSchema ControlPlane.WorkflowStore ControlPlane.StoreRules
open ControlPlane.Fencing ControlPlane.Replays

/-! ### The generations of one event -/

/-- What is known of one event: the status and the generation of its workflow and
    of its dead letter, and the generations that were received, decided and are
    authorized. -/
structure EventView where
  row : Option (WorkflowStatus × Nat)
  letter : Option (DeadLetterStatus × Nat)
  received : List Nat
  decided : List Nat
  authorized : List Nat

/-- The generation that a record of the event carries when it is dead-lettered
    before it has a workflow: zero at first, then what its dead letter says. -/
def Issued (generation : Nat) : Option (DeadLetterStatus × Nat) → Prop
  | none => generation = 0
  | some (status, current) =>
    (status = .open_ ∧ current ≤ generation) ∨ (status = .replayRequested ∧ generation = current)

/-- A dead letter after the replay of a generation was consumed. -/
def consumedLetter (generation : Nat) (letter : DeadLetterStatus × Nat) : DeadLetterStatus × Nat :=
  if letter = (.replayRequested, generation) then (.replayed, generation) else letter

/-- How the parts of one event move together. -/
inductive Move (v : EventView) : EventView → Prop
  | kept (authorized : List Nat) (fewer : authorized ⊆ v.authorized) : Move v { v with authorized := authorized }
  | noticed (generation : Nat) (unstarted : v.row = none) (unlettered : v.letter = none) :
      Move v { v with received := v.received ++ [generation] }
  | started (unstarted : v.row = none) (new : 0 ∉ v.received) (first : v.letter = none → v.received = []) :
      Move v { v with row := some (.running, 0), received := v.received ++ [0] }
  | replayed (generation : Nat) (authorized : List Nat)
      (before : v.row = none ∨ ∃ current, v.row = some (.failed, current) ∧ generation = current + 1)
      (new : generation ∉ v.received) (authority : generation ∈ v.authorized) (fewer : authorized ⊆ v.authorized) :
      Move v { v with
        row := some (.running, generation), letter := v.letter.map (consumedLetter generation),
        received := v.received ++ [generation], authorized := authorized }
  | requested (current : Nat) (isOpen : v.letter = some (.open_, current)) :
      Move v { v with
        letter := some (.replayRequested, current + 1), decided := v.decided ++ [current + 1],
        authorized := v.authorized ++ [current + 1] }
  | deadLettered (generation : Nat) (unstarted : v.row = none) (issued : Issued generation v.letter)
      (first : v.letter = none → v.received = []) :
      Move v { v with letter := some (.open_, generation), received := v.received ++ [generation] }
  | worked (status after : WorkflowStatus) (generation : Nat) (held : v.row = some (status, generation))
      (live : status ≠ .failed) : Move v { v with row := some (after, generation) }
  | exhausted (status : WorkflowStatus) (generation : Nat) (held : v.row = some (status, generation))
      (live : status ≠ .failed) :
      Move v { v with row := some (.failed, generation), letter := some (.open_, generation) }

/-- What the generations of an event keep. -/
structure Good (v : EventView) : Prop where
  first : v.row.isSome ∨ v.letter.isSome → 0 ∈ v.received
  reached : ∀ status generation, v.row = some (status, generation) → ∀ g ∈ v.received, g ≤ generation
  unstarted : v.row = none → ∀ status generation, v.letter = some (status, generation) →
    (status = .open_ ∧ ∀ g ∈ v.received, g ≤ generation) ∨
    (status = .replayRequested ∧ ∀ g ∈ v.received, g < generation)
  started : ∀ row current, v.row = some (row, current) → ∀ status generation, v.letter = some (status, generation) →
    (status = .open_ ∧ row = .failed ∧ generation = current) ∨
    (status = .replayRequested ∧ row = .failed ∧ generation = current + 1) ∨
    (status = .replayed ∧ generation ≤ current)
  decided : ∀ g ∈ v.decided, ∃ status generation, v.letter = some (status, generation) ∧ g ≤ generation
  authorized : ∀ g ∈ v.authorized, g ∈ v.received ∨ v.letter = some (.replayRequested, g)

theorem good_move {v w : EventView} (good : Good v) (move : Move v w) : Good w := by
  obtain ⟨first, reached, unstarted, started, decided, authorized⟩ := good
  cases move with
  | kept fewer less => exact ⟨first, reached, unstarted, started, decided, fun g member => authorized g (less member)⟩
  | noticed generation noRow noLetter =>
    refine ⟨?_, ?_, ?_, ?_, decided, fun g member => ?_⟩
    · simp [noRow, noLetter]
    · simp [noRow]
    · simp [noLetter]
    · simp [noRow]
    · exact (authorized g member).imp_left (List.mem_append_left _)
  | started noRow new noneYet =>
    -- A dead letter would have received the generation zero.
    have noLetter : v.letter = none := by
      by_contra some_
      exact new (first (.inr (Option.isSome_iff_ne_none.mpr some_)))
    have nothing := noneYet noLetter
    refine ⟨fun _ => by simp, ?_, (fun impossible => by cases impossible), ?_, decided, fun g member => ?_⟩
    · rintro status generation ⟨⟩ g member
      simp only [nothing, List.nil_append, List.mem_singleton] at member
      exact Nat.le_of_eq member
    · intro row current _ status generation impossible
      rw [noLetter] at impossible
      cases impossible
    · exact (authorized g member).imp_left (List.mem_append_left _)
  | replayed generation fewer before new authority less =>
    -- The authorization of a generation that was not received is the dead letter's.
    have letter : v.letter = some (.replayRequested, generation) := (authorized generation authority).resolve_left new
    have after : v.letter.map (consumedLetter generation) = some (.replayed, generation) := by
      simp [letter, consumedLetter]
    have below : ∀ g ∈ v.received, g ≤ generation := by
      intro g member
      rcases before with absent | ⟨current, failed, next⟩
      · rcases unstarted absent _ _ letter with ⟨impossible, -⟩ | ⟨-, below⟩
        · cases impossible
        · exact Nat.le_of_lt (below g member)
      · have := reached _ _ failed g member
        omega
    refine ⟨fun _ => List.mem_append_left _ (first (.inr (by simp [letter]))), ?_, (fun impossible => by cases impossible),
      ?_, fun g member => ?_, fun g member => ?_⟩
    · rintro status current ⟨⟩ g member
      rcases List.mem_append.mp member with old | this
      · exact below g old
      · exact Nat.le_of_eq (List.mem_singleton.mp this)
    · rintro row current ⟨⟩ status other same
      simp only [after, Option.some.injEq, Prod.mk.injEq] at same
      obtain ⟨rfl, rfl⟩ := same
      exact .inr (.inr ⟨rfl, Nat.le_refl _⟩)
    · obtain ⟨status, other, same, le⟩ := decided g member
      rw [letter] at same
      cases same
      exact ⟨_, _, after, le⟩
    · refine .inl ?_
      rcases authorized g (less member) with known | requested
      · exact List.mem_append_left _ known
      · rw [letter] at requested
        cases requested
        exact List.mem_append_right _ List.mem_cons_self
  | requested current isOpen =>
    refine ⟨fun _ => first (.inr (by simp [isOpen])), reached, ?_, ?_, fun g member => ?_, fun g member => ?_⟩
    · rintro absent status generation ⟨⟩
      rcases unstarted absent _ _ isOpen with ⟨-, below⟩ | ⟨impossible, -⟩
      · exact .inr ⟨rfl, fun g member => Nat.lt_succ_of_le (below g member)⟩
      · cases impossible
    · rintro row now held status generation ⟨⟩
      rcases started _ _ held _ _ isOpen with ⟨-, failed, same⟩ | ⟨impossible, -⟩ | ⟨impossible, -⟩
      · exact .inr (.inl ⟨rfl, failed, by rw [same]⟩)
      · cases impossible
      · cases impossible
    · refine ⟨_, _, rfl, ?_⟩
      rcases List.mem_append.mp member with old | this
      · obtain ⟨status, generation, same, le⟩ := decided g old
        rw [isOpen] at same
        cases same
        exact Nat.le_succ_of_le le
      · exact Nat.le_of_eq (List.mem_singleton.mp this)
    · rcases List.mem_append.mp member with old | this
      · rcases authorized g old with known | requested
        · exact .inl known
        · rw [isOpen] at requested; cases requested
      · exact .inr (by rw [List.mem_singleton.mp this])
  | deadLettered generation noRow issued noneYet =>
    have below : ∀ g ∈ v.received, g ≤ generation := by
      intro g member
      cases letter : v.letter with
      | none => rw [noneYet letter] at member; cases member
      | some known =>
        obtain ⟨status, current⟩ := known
        rw [letter] at issued
        rcases unstarted noRow _ _ letter with ⟨isOpen, le⟩ | ⟨isRequested, lt⟩
        · rcases issued with ⟨-, higher⟩ | ⟨impossible, -⟩
          · exact Nat.le_trans (le g member) higher
          · rw [isOpen] at impossible; cases impossible
        · rcases issued with ⟨impossible, -⟩ | ⟨-, same⟩
          · rw [isRequested] at impossible; cases impossible
          · exact same ▸ Nat.le_of_lt (lt g member)
    have grows : ∀ status current, v.letter = some (status, current) → current ≤ generation := by
      intro status current letter
      rw [letter] at issued
      rcases issued with ⟨-, higher⟩ | ⟨-, same⟩
      · exact higher
      · exact Nat.le_of_eq same.symm
    refine ⟨fun _ => ?_, ?_, ?_, ?_, fun g member => ?_, fun g member => ?_⟩
    · cases letter : v.letter with
      | none =>
        rw [letter] at issued
        exact List.mem_append_right _ (List.mem_singleton.mpr issued.symm)
      | some known => exact List.mem_append_left _ (first (.inr (by simp [letter])))
    · intro status current held
      rw [noRow] at held
      cases held
    · rintro - status current ⟨⟩
      refine .inl ⟨rfl, fun g member => ?_⟩
      rcases List.mem_append.mp member with old | this
      · exact below g old
      · exact Nat.le_of_eq (List.mem_singleton.mp this)
    · intro row current held
      rw [noRow] at held
      cases held
    · obtain ⟨status, current, letter, le⟩ := decided g member
      exact ⟨_, _, rfl, Nat.le_trans le (grows _ _ letter)⟩
    · rcases authorized g member with known | requested
      · exact .inl (List.mem_append_left _ known)
      · rw [requested] at issued
        rcases issued with ⟨impossible, -⟩ | ⟨-, same⟩
        · cases impossible
        · exact .inl (List.mem_append_right _ (List.mem_singleton.mpr same.symm))
  | worked status after generation held live =>
    refine ⟨fun _ => first (.inl (by simp [held])), ?_, (fun impossible => by cases impossible), ?_, decided, authorized⟩
    · rintro other current ⟨⟩
      exact reached _ _ held
    · rintro row current ⟨⟩ letter now same
      rcases started _ _ held _ _ same with ⟨-, failed, -⟩ | ⟨-, failed, -⟩ | replayed
      · exact absurd failed live
      · exact absurd failed live
      · exact .inr (.inr replayed)
  | exhausted status generation held live =>
    have replayed : ∀ status' now, v.letter = some (status', now) → status' = .replayed ∧ now ≤ generation := by
      intro status' now same
      rcases started _ _ held _ _ same with ⟨-, failed, -⟩ | ⟨-, failed, -⟩ | replayed
      · exact absurd failed live
      · exact absurd failed live
      · exact replayed
    refine ⟨fun _ => first (.inl (by simp [held])), ?_, (fun impossible => by cases impossible), ?_, fun g member => ?_,
      fun g member => ?_⟩
    · rintro other current ⟨⟩
      exact reached _ _ held
    · rintro row current ⟨⟩ letter now ⟨⟩
      exact .inl ⟨rfl, rfl, rfl⟩
    · obtain ⟨status', now, same, le⟩ := decided g member
      exact ⟨_, _, rfl, Nat.le_trans le (replayed _ _ same).2⟩
    · rcases authorized g member with known | requested
      · exact .inl known
      · cases (replayed _ _ requested).1

/-! ### The view of an event -/

def rowView (rows : List WorkflowRow) (e : Uuid) : Option (WorkflowStatus × Nat) :=
  (find WorkflowRow.eventId e rows).map fun row => (row.status, row.replayGeneration)

def letterView (letters : List DeadLetterRow) (e : Uuid) : Option (DeadLetterStatus × Nat) :=
  (find DeadLetterRow.originalEventId e letters).map fun letter => (letter.status, letter.replayGeneration)

def receivedView (receipts : List CommandReceipt) (e : Uuid) : List Nat :=
  (receipts.filter fun r => r.eventId = e).map CommandReceipt.replayGeneration

def decidedView (requests : List ReplayRequestRow) (e : Uuid) : List Nat :=
  (requests.filter fun r => r.originalEventId = e).filterMap ReplayRequestRow.replayGeneration

def authorizedView (requests : List ReplayRequestRow) (e : Uuid) : List Nat :=
  (requests.filter fun r => r.originalEventId = e ∧ r.status = .authorized).filterMap ReplayRequestRow.replayGeneration

def view (db : WorkflowDb) (e : Uuid) : EventView :=
  ⟨rowView db.workflows e, letterView db.deadLetters e, receivedView db.commandReceipts e,
    decidedView db.replayRequests e, authorizedView db.replayRequests e⟩

section
variable {e : Uuid} {rows : List WorkflowRow} {letters : List DeadLetterRow} {receipts : List CommandReceipt}
  {requests : List ReplayRequestRow}

theorem rowView_none (free : ∀ w ∈ rows, w.eventId ≠ e) : rowView rows e = none := by
  simpa [rowView, find] using free

theorem rowView_append {row : WorkflowRow} (event : Uuid) (key : row.eventId = event)
    (free : ∀ w ∈ rows, w.eventId ≠ event) :
    rowView (rows ++ [row]) e = if e = event then some (row.status, row.replayGeneration) else rowView rows e := by
  subst key
  simp only [rowView, find_append]
  split
  next same =>
    subst same
    rw [show find WorkflowRow.eventId row.eventId rows = none by simpa [find] using free]
    simp [find]
  next other =>
    rw [show find WorkflowRow.eventId e [row] = none by simp [find, Ne.symm other], Option.or_none]

theorem rowView_update {op : Uuid} {row : WorkflowRow} {rewrite : WorkflowRow → WorkflowRow}
    (events : Keyed WorkflowRow.eventId rows) (operations : Keyed WorkflowRow.operationId rows)
    (found : find WorkflowRow.operationId op rows = some row) (keeps : ∀ w, (rewrite w).eventId = w.eventId) :
    rowView (update (fun w : WorkflowRow => w.operationId = op) rewrite rows) e =
      if e = row.eventId then some ((rewrite row).status, (rewrite row).replayGeneration) else rowView rows e := by
  simp only [rowView, find_update keeps]
  split
  next same =>
    rw [events.find_eq (find_mem found) same.symm]
    simp [find_key found]
  next other =>
    cases here : find WorkflowRow.eventId e rows with
    | none => rfl
    | some w =>
      -- The row of another event is not the row of the operation.
      have apart : w.operationId ≠ op := by
        intro same
        have equal := operations.eq_of_key (find_mem here) (find_mem found) (same.trans (find_key found).symm)
        exact other ((find_key here).symm.trans (congrArg WorkflowRow.eventId equal))
      simp [apart]

theorem letterView_none (free : ∀ letter ∈ letters, letter.originalEventId ≠ e) : letterView letters e = none := by
  simpa [letterView, find] using free

theorem letterView_written {db : WorkflowDb} {d o : Uuid} {note : DeadLetterNote} {now : Instant} (event : Uuid)
    (key : note.original.envelope.eventId = event) :
    letterView (writeDeadLetter db d o note now).deadLetters e =
      if e = event then some (.open_, note.replayGeneration) else letterView db.deadLetters e := by
  subst key
  simp only [letterView, writeDeadLetter, writeWorkflowOutbox]
  cases known : find DeadLetterRow.originalEventId note.original.envelope.eventId db.deadLetters with
  | none =>
    simp only [find_append]
    split
    next same => rw [same, known]; simp [find]
    next other => simp [find, Ne.symm other]
  | some old =>
    dsimp only
    rw [find_update (by intro d; rfl)]
    split
    next same => subst same; simp [known, find_key known]
    next other =>
      cases here : find DeadLetterRow.originalEventId e db.deadLetters with
      | none => rfl
      | some letter =>
        have apart : letter.originalEventId ≠ note.original.envelope.eventId := by
          rw [find_key here]; exact other
        simp [apart]

theorem letterView_requested {event : Uuid} {letter : DeadLetterRow} {generation : Nat} {now : Instant}
    (found : find DeadLetterRow.originalEventId event letters = some letter) (isOpen : letter.status = .open_) :
    letterView (update (fun d : DeadLetterRow => d.originalEventId = event ∧ d.status = .open_)
        (fun d => { d with
          replayGeneration := generation, status := .replayRequested, lastReplayAt := some now }) letters) e =
      if e = event then some (.replayRequested, generation) else letterView letters e := by
  simp only [letterView]
  rw [find_update (by intro d; rfl)]
  split
  next same => subst same; simp [found, find_key found, isOpen]
  next other =>
    cases here : find DeadLetterRow.originalEventId e letters with
    | none => rfl
    | some d =>
      have apart : d.originalEventId ≠ event := by rw [find_key here]; exact other
      simp [apart]

theorem letterView_consumed {event : Uuid} {generation : Nat} {now : Instant} :
    letterView (update
        (fun d : DeadLetterRow => d.originalEventId = event ∧ d.status = .replayRequested ∧
          d.replayGeneration = generation)
        (fun d => { d with status := .replayed, lastReplayAt := some now }) letters) e =
      if e = event then (letterView letters e).map (consumedLetter generation) else letterView letters e := by
  simp only [letterView]
  rw [find_update (by intro d; rfl)]
  cases here : find DeadLetterRow.originalEventId e letters with
  | none => simp
  | some d =>
    have key := find_key here
    by_cases same : e = event
    · subst same
      by_cases chosen : d.status = .replayRequested ∧ d.replayGeneration = generation
      · simp [key, chosen, consumedLetter]
      · simp only [key, true_and, if_neg chosen, if_true, Option.map_some, consumedLetter]
        simp [Prod.ext_iff, chosen]
    · simp [key, same]

theorem receivedView_append {receipt : CommandReceipt} (event : Uuid) (key : receipt.eventId = event) :
    receivedView (receipts ++ [receipt]) e =
      if e = event then receivedView receipts e ++ [receipt.replayGeneration] else receivedView receipts e := by
  subst key
  by_cases same : e = receipt.eventId
  · simp [receivedView, same]
  · simp [receivedView, same, Ne.symm same]

theorem receivedView_completed {row : WorkflowRow} {db : WorkflowDb} {now : Instant} :
    receivedView (completeReceipt db row now).commandReceipts e = receivedView db.commandReceipts e := by
  simp only [receivedView, completeReceipt, update, List.filter_map, List.map_map]
  have keeps : ∀ r : CommandReceipt, (if r.eventId = row.eventId ∧ r.replayGeneration = row.replayGeneration then
      ({ r with completedAt := some now } : CommandReceipt) else r).eventId = r.eventId ∧
      (if r.eventId = row.eventId ∧ r.replayGeneration = row.replayGeneration then
      ({ r with completedAt := some now } : CommandReceipt) else r).replayGeneration = r.replayGeneration := by
    intro r; split
    · exact ⟨rfl, rfl⟩
    · exact ⟨rfl, rfl⟩
  refine (congrArg (List.map _) (List.filter_congr fun r _ => ?_)).trans (List.map_congr_left fun r _ => ?_)
  · simp [(keeps r).1]
  · exact (keeps r).2

theorem mem_receivedView {db : WorkflowDb} {generation : Nat} :
    generation ∈ receivedView db.commandReceipts e ↔ (db.receipt e generation).isSome := by
  simp only [receivedView, List.mem_map, List.mem_filter, decide_eq_true_eq, WorkflowDb.receipt, find,
    List.find?_isSome, Prod.mk.injEq]
  constructor
  · rintro ⟨r, ⟨member, same⟩, rfl⟩
    exact ⟨r, member, same, rfl⟩
  · rintro ⟨r, member, same, rfl⟩
    exact ⟨r, ⟨member, same⟩, rfl⟩

theorem decidedView_append {request : ReplayRequestRow} (event : Uuid) (key : request.originalEventId = event) :
    decidedView (requests ++ [request]) e =
      if e = event then decidedView requests e ++ request.replayGeneration.toList else decidedView requests e := by
  subst key
  by_cases same : e = request.originalEventId
  · cases numbered : request.replayGeneration <;> simp [decidedView, same, numbered]
  · simp [decidedView, same, Ne.symm same]

theorem authorizedView_append {request : ReplayRequestRow} (event : Uuid) (key : request.originalEventId = event) :
    authorizedView (requests ++ [request]) e =
      if e = event ∧ request.status = .authorized then
        authorizedView requests e ++ request.replayGeneration.toList
      else authorizedView requests e := by
  subst key
  by_cases same : e = request.originalEventId ∧ request.status = .authorized
  · obtain ⟨rfl, authorized⟩ := same
    cases numbered : request.replayGeneration <;> simp [authorizedView, authorized, numbered]
  · have apart : ¬ (request.originalEventId = e ∧ request.status = .authorized) :=
      fun both => same ⟨both.1.symm, both.2⟩
    simp [authorizedView, same, apart]

/-- Completing authorizations keeps every decision. -/
theorem decidedView_consumed {id : Uuid} {now : Instant} :
    decidedView (update (fun r : ReplayRequestRow => r.replayRequestId = id ∧ r.status = .authorized)
      (fun r => { r with status := .completed, completedAt := some now }) requests) e = decidedView requests e := by
  induction requests with
  | nil => rfl
  | cons r rest ih =>
    simp only [decidedView, update, List.map_cons] at ih ⊢
    by_cases same : r.originalEventId = e
    · by_cases chosen : r.replayRequestId = id ∧ r.status = .authorized <;>
        simp [chosen, same, List.filterMap_cons, ih]
    · by_cases chosen : r.replayRequestId = id ∧ r.status = .authorized <;>
        simp [chosen, same, ih]

theorem authorizedView_consumed {id : Uuid} {now : Instant} :
    authorizedView (update (fun r : ReplayRequestRow => r.replayRequestId = id ∧ r.status = .authorized)
      (fun r => { r with status := .completed, completedAt := some now }) requests) e ⊆ authorizedView requests e := by
  intro g member
  obtain ⟨r, inside, numbered⟩ := List.mem_filterMap.mp member
  obtain ⟨present, selected⟩ := List.mem_filter.mp inside
  obtain ⟨old, before, ⟨-, rfl⟩ | ⟨-, rfl⟩⟩ := mem_update.mp present
  · simp at selected
  · exact List.mem_filterMap.mpr ⟨r, List.mem_filter.mpr ⟨before, selected⟩, numbered⟩

theorem mem_authorizedView {request : ReplayRequestRow} {generation : Nat} (member : request ∈ requests)
    (status : request.status = .authorized) (numbered : request.replayGeneration = some generation) :
    generation ∈ authorizedView requests request.originalEventId :=
  List.mem_filterMap.mpr ⟨request, List.mem_filter.mpr ⟨member, by simp [status]⟩, numbered⟩

end

/-! ### The deliveries of the topic -/

/-- Records that name an event name its operation, and conversely, and a new
    event was not received before. -/
structure Named (db : WorkflowDb) (eventId operationId : Uuid) : Prop where
  rows : ∀ row ∈ db.workflows, row.operationId = operationId ↔ row.eventId = eventId
  letters : ∀ letter ∈ db.deadLetters, letter.operationId = operationId ↔ letter.originalEventId = eventId
  fresh : rowView db.workflows eventId = none → letterView db.deadLetters eventId = none →
    receivedView db.commandReceipts eventId = []

/-- The deliveries under which dead letters stay replayable. A record that is
    dead-lettered and not a duplicate belongs to no workflow and carries the
    generation that was issued for it. -/
def Conforms (s : State) : StoreCall → Prop
  | .admitCommand _ command _ => Named s.db command.eventId command.operationId
  | .admitReplayRequest _ request _ =>
    isProvisioningReplayRequested request = true ∧ rowView s.db.workflows request.eventId = none ∧
      letterView s.db.deadLetters request.eventId = none
  | .deadLetterCommand _ input =>
    (s.db.receipt input.message.envelope.eventId input.delivery.replayGeneration).isSome ∨
      (Named s.db input.message.envelope.eventId input.message.envelope.operationId ∧
        rowView s.db.workflows input.message.envelope.eventId = none ∧
        Issued input.delivery.replayGeneration (letterView s.db.deadLetters input.message.envelope.eventId))
  | _ => True

/-- What the tables keep about identities. -/
structure Known (db : WorkflowDb) : Prop where
  letters : Keyed DeadLetterRow.originalEventId db.deadLetters
  events : Keyed WorkflowRow.eventId db.workflows
  commands : ∀ row ∈ db.workflows, row.command.eventId = row.eventId ∧ row.command.operationId = row.operationId
  payloads : ∀ letter ∈ db.deadLetters, letter.originalPayload.envelope.eventId = letter.originalEventId ∧
    letter.originalPayload.envelope.operationId = letter.operationId
  paired : ∀ row ∈ db.workflows, ∀ letter ∈ db.deadLetters,
    row.operationId = letter.operationId ↔ row.eventId = letter.originalEventId

structure Kept (s : State) : Prop where
  covered : AllCovered s.db s.now
  known : Known s.db
  good : ∀ e, Good (view s.db e)

variable {host : Host}

theorem Move.same (v : EventView) : Move v v := .kept v.authorized (List.Subset.refl _)

theorem receipt_none {db : WorkflowDb} {e : Uuid} {generation : Nat} (new : db.receipt e generation = none) :
    generation ∉ receivedView db.commandReceipts e := by
  intro received
  have := mem_receivedView.mp received
  simp [new] at this

/-- What an admission does to the generations of an event. -/
theorem view_admitted {s : State} {after : WorkflowDb} {fresh : Nat → Uuid} {command : LifecycleCommand}
    {delivery : MessageDeliveryIdentity} {admission : CommandAdmission} (kept : Kept s)
    (named : Named s.db command.eventId command.operationId)
    (admitted : CommandAdmitted host s.db fresh command delivery s.now admission after) (e : Uuid) :
    Move (view s.db e) (view after e) := by
  have rejected (failureCode : CommandRejectionCode) (payloadHash : String) :
      Move (view s.db e) (view (rejectReplayCommand s.db delivery payloadHash failureCode s.now) e) := by
    obtain ⟨records, same⟩ := rejectReplayCommand_same s.db delivery payloadHash failureCode s.now
    rw [same]
    exact Move.same _
  -- The event of an operation's workflow is the command's.
  have sameEvent : ∀ row, s.db.workflow command.operationId = some row → row.eventId = command.eventId :=
    fun row found => (named.rows row (find_mem found)).mp (find_key found)
  cases admitted with
  | duplicate => exact Move.same _
  | noted row original found new =>
    have held : (rowView s.db.workflows command.eventId).isSome := by
      rw [rowView, ← sameEvent row found, kept.known.events.find_eq (find_mem found) rfl]
      rfl
    exact absurd ((kept.good command.eventId).first (.inl held)) (original ▸ receipt_none new)
  | started original absent new free =>
    have noRow : rowView s.db.workflows command.eventId = none := rowView_none fun w member => (free w member).2
    simp only [view, received]
    rw [rowView_append command.eventId rfl fun w member => (free w member).2, receivedView_append command.eventId rfl]
    by_cases same : e = command.eventId
    · subst same
      simp only [if_true, newWorkflow, receiptOf, original]
      exact @Move.started (view s.db command.eventId) noRow (original ▸ receipt_none new) fun noLetter =>
        named.fresh noRow noLetter
    · simp only [if_neg same]
      exact Move.same _
  | misidentified => exact rejected _ _
  | unauthorized => exact rejected _ _
  | conflicting => exact rejected _ _
  | reopened authorization row replay new authorized found matching =>
    obtain ⟨stored, event, generation, status, -, -, -⟩ := authorizationOf_some authorized
    obtain ⟨rowEvent, failed, next⟩ := replayConflict_false.mp matching
    simp only [view, received, consumeAuthorization, writeReplayResolution, writeEvent, writeWorkflowOutbox,
      updateWorkflow]
    rw [rowView_update kept.known.events kept.covered.operations found (by intro w; rfl), receivedView_append command.eventId rfl,
      letterView_consumed, decidedView_consumed, rowEvent]
    by_cases same : e = command.eventId
    · subst same
      simp only [if_true, reopenedWorkflow, receiptOf]
      refine @Move.replayed (view s.db command.eventId) delivery.replayGeneration _
        (.inr ⟨row.replayGeneration, ?_, next⟩) (receipt_none new)
        (event ▸ mem_authorizedView stored status generation) authorizedView_consumed
      rw [view, rowView, ← rowEvent, kept.known.events.find_eq (find_mem found) rfl]
      simp [failed]
    · simp only [if_neg same]
      exact @Move.kept (view s.db e) _ authorizedView_consumed
  | introduced authorization replay new authorized absent free =>
    obtain ⟨stored, event, generation, status, -, -, -⟩ := authorizationOf_some authorized
    simp only [view, received, consumeAuthorization, writeReplayResolution, writeEvent, writeWorkflowOutbox]
    rw [rowView_append command.eventId rfl fun w member => (free w member).2, receivedView_append command.eventId rfl, letterView_consumed,
      decidedView_consumed]
    by_cases same : e = command.eventId
    · subst same
      simp only [if_true, newWorkflow, receiptOf]
      exact @Move.replayed (view s.db command.eventId) delivery.replayGeneration _
        (.inl (rowView_none fun w member => (free w member).2)) (receipt_none new) (event ▸ mem_authorizedView stored status generation) authorizedView_consumed
    · simp only [if_neg same]
      exact @Move.kept (view s.db e) _ authorizedView_consumed

theorem letterView_some {letters : List DeadLetterRow} {event : Uuid} {letter : DeadLetterRow}
    (found : find DeadLetterRow.originalEventId event letters = some letter) :
    letterView letters event = some (letter.status, letter.replayGeneration) := by
  simp [letterView, found]

/-- A replayable command is the record of its dead letter. -/
theorem Known.replayable {db : WorkflowDb} {event : Uuid} {letter : DeadLetterRow} {original : LifecycleCommand}
    (known : Known db) (replayable : replayableCommand db event = some (letter, original)) :
    find DeadLetterRow.originalEventId event db.deadLetters = some letter ∧ letter.status = .open_ ∧
      original.eventId = event ∧ original.operationId = letter.operationId := by
  obtain ⟨found, -, isOpen, payload⟩ := replayableCommand_some replayable
  obtain ⟨sameEvent, sameOperation⟩ := known.payloads letter (find_mem found)
  rw [payload] at sameEvent sameOperation
  exact ⟨found, isOpen, sameEvent.trans (find_key found), sameOperation⟩

theorem view_decided {s : State} {after : WorkflowDb} {fresh : Nat → Uuid} {request : ProvisioningReplayRequested}
    {delivery : MessageDeliveryIdentity} {admission : ReplayAdmission} (kept : Kept s)
    (noRow : rowView s.db.workflows request.eventId = none)
    (noLetter : letterView s.db.deadLetters request.eventId = none)
    (decided : ReplayDecided host s.db fresh request delivery s.now admission after) (e : Uuid) :
    Move (view s.db e) (view after e) := by
  cases decided with
  | duplicate => exact Move.same _
  | rejected generation new refused undecided =>
    simp only [view, received, writeReplayResolution, writeEvent, writeWorkflowOutbox]
    rw [receivedView_append request.eventId rfl, decidedView_append request.originalEventId rfl,
      authorizedView_append request.originalEventId rfl]
    have unauthorized : ¬ (rejectedRequest request s.now).status = .authorized := fun impossible => by cases impossible
    simp only [rejectedRequest, Option.toList_none, List.append_nil, ite_self] at unauthorized ⊢
    by_cases same : e = request.eventId
    · subst same
      simp only [if_true]
      exact @Move.noticed (view s.db request.eventId) _ noRow noLetter
    · simp only [if_neg same]
      exact Move.same _
  | accepted letter original new replayable undecided =>
    obtain ⟨found, isOpen, sameEvent, -⟩ := kept.known.replayable replayable
    have apart : request.originalEventId ≠ request.eventId := by
      intro same
      rw [same] at found
      rw [letterView_some found] at noLetter
      cases noLetter
    rw [← sameEvent] at found
    simp only [view, received, writeWorkflowOutbox]
    rw [receivedView_append request.eventId rfl, decidedView_append request.originalEventId rfl,
      authorizedView_append request.originalEventId rfl, letterView_requested found isOpen, sameEvent]
    simp only [authorizedRequest, Option.toList_some, and_true]
    by_cases noticed : e = request.eventId
    · subst noticed
      simp only [if_true, if_neg apart.symm]
      exact @Move.noticed (view s.db request.eventId) _ noRow noLetter
    · by_cases same : e = request.originalEventId
      · subst same
        simp only [if_true, if_neg noticed]
        refine @Move.requested (view s.db request.originalEventId) letter.replayGeneration ?_
        rw [← sameEvent]
        exact (letterView_some found).trans (by rw [isOpen])
      · simp only [if_neg noticed, if_neg same]
        exact Move.same _

/-- A write on a workflow that has not ended, seen at every event. -/
theorem view_worked {s : State} {op : Uuid} {row : WorkflowRow} {rewrite : WorkflowRow → WorkflowRow} (kept : Kept s)
    (found : s.db.workflow op = some row) (live : row.live) (keeps : ∀ w, (rewrite w).eventId = w.eventId)
    (generation : (rewrite row).replayGeneration = row.replayGeneration) {after : WorkflowDb}
    (workflows : after.workflows = update (fun w : WorkflowRow => w.operationId = op) rewrite s.db.workflows)
    (letters : after.deadLetters = s.db.deadLetters)
    (receipts : ∀ e, receivedView after.commandReceipts e = receivedView s.db.commandReceipts e)
    (requests : after.replayRequests = s.db.replayRequests) (e : Uuid) : Move (view s.db e) (view after e) := by
  simp only [view, workflows, letters, receipts, requests]
  rw [rowView_update kept.known.events kept.covered.operations found keeps]
  by_cases same : e = row.eventId
  · subst same
    simp only [if_true, generation]
    refine @Move.worked (view s.db row.eventId) row.status _ row.replayGeneration ?_ (fun failed => ?_)
    · rw [view, rowView, kept.known.events.find_eq (find_mem found) rfl]
      rfl
    · rcases live with running | waiting
      · rw [running] at failed; cases failed
      · rw [waiting] at failed; cases failed
  · simp only [if_neg same]
    exact Move.same _

/-- A call that conforms makes one move at every event. -/
theorem view_next {s : State} {call : StoreCall} {after : WorkflowDb} (kept : Kept s) (conforms : Conforms s call)
    (called : Called host s call after) (e : Uuid) : Move (view s.db e) (view after e) := by
  cases called with
  | nothing => exact Move.same _
  | admitted admitted => exact view_admitted kept conforms admitted e
  | decided decided => exact view_decided kept conforms.2.1 conforms.2.2 decided e
  | @stored fresh input new =>
    rcases conforms with known | ⟨named, noRow, issued⟩
    · rw [new] at known; cases known
    · simp only [view]
      rw [letterView_written input.message.envelope.eventId rfl]
      simp only [writeDeadLetter_workflows, writeDeadLetter_requests, writeDeadLetter_receipts, received]
      rw [receivedView_append input.message.envelope.eventId rfl]
      by_cases same : e = input.message.envelope.eventId
      · subst same
        simp only [if_true, receiptOf]
        exact @Move.deadLettered (view s.db input.message.envelope.eventId) input.delivery.replayGeneration noRow issued
          (named.fresh noRow)
      · simp only [if_neg same]
        exact Move.same _
  | @claimed workerId leaseSeconds action locked row claimed after claim =>
    obtain ⟨leases, rfl⟩ := claim.frame
    have found : s.db.workflow row.operationId = some row := kept.covered.operations.find_eq claim.member rfl
    have keeps (w : WorkflowRow) : (claimedRow claimed.fencingToken w).eventId = w.eventId := rfl
    apply view_worked kept found claim.live keeps
    · rfl
    · rfl
    · rfl
    · exact fun _ => rfl
    · rfl
  | @checkpointed fresh input row lease held =>
    have keeps (w : WorkflowRow) : (checkpointRow input s.now w).eventId = w.eventId := rfl
    apply view_worked kept held.workflow (kept.covered.held held) keeps
    · rfl
    · rfl
    · rfl
    · exact fun _ => rfl
    · rfl
  | @completed fresh input row lease held =>
    have keeps (w : WorkflowRow) : (completedRow input s.now w).eventId = w.eventId := rfl
    apply view_worked kept held.workflow (kept.covered.held held) keeps
    · rfl
    · rfl
    · rfl
    · exact fun _ => receivedView_completed
    · rfl
  | @exhausted fresh input row lease held =>
    have keeps (w : WorkflowRow) : (deadLetteredRow input s.now w).eventId = w.eventId := rfl
    have found : find WorkflowRow.operationId input.operationId s.db.workflows = some row := held.workflow
    have event : (exhaustedNote input row.command row.replayGeneration).original.envelope.eventId = row.eventId :=
      (kept.known.commands row (find_mem found)).1
    simp only [view, releaseLease]
    rw [letterView_written row.eventId event]
    simp only [writeDeadLetter_workflows, writeDeadLetter_requests, writeDeadLetter_receipts, writeEvent,
      writeWorkflowOutbox]
    rw [receivedView_completed]
    simp only [completeReceipt, updateWorkflow, exhaustedNote]
    rw [rowView_update kept.known.events kept.covered.operations found keeps]
    by_cases same : e = row.eventId
    · subst same
      simp only [if_true]
      refine @Move.exhausted (view s.db row.eventId) row.status row.replayGeneration ?_ (fun failed => ?_)
      · rw [view, rowView, kept.known.events.find_eq (find_mem found) rfl]
        rfl
      · rcases kept.covered.held held with running | waiting
        · rw [running] at failed; cases failed
        · rw [waiting] at failed; cases failed
    · simp only [if_neg same]
      exact Move.same _

/-! ### Identities -/

section
variable {db after : WorkflowDb}

theorem Known.same (known : Known db) (workflows : after.workflows = db.workflows)
    (letters : after.deadLetters = db.deadLetters) : Known after := by
  obtain ⟨keyed, events, commands, payloads, paired⟩ := known
  exact ⟨letters ▸ keyed, workflows ▸ events, workflows ▸ commands, letters ▸ payloads, workflows ▸ letters ▸ paired⟩

theorem Known.added {row : WorkflowRow} (known : Known db) (free : ∀ w ∈ db.workflows, w.eventId ≠ row.eventId)
    (command : row.command.eventId = row.eventId ∧ row.command.operationId = row.operationId)
    (named : ∀ letter ∈ db.deadLetters, letter.operationId = row.operationId ↔ letter.originalEventId = row.eventId)
    (workflows : after.workflows = db.workflows ++ [row]) (letters : after.deadLetters = db.deadLetters) :
    Known after := by
  refine ⟨letters ▸ known.letters, workflows ▸ keyed_append known.events free, ?_, letters ▸ known.payloads, ?_⟩
  · rw [workflows]
    intro w member
    rcases List.mem_append.mp member with old | new
    · exact known.commands w old
    · rw [List.mem_singleton.mp new]; exact command
  · rw [workflows, letters]
    intro w member letter present
    rcases List.mem_append.mp member with old | new
    · exact known.paired w old letter present
    · rw [List.mem_singleton.mp new, eq_comm, named letter present, eq_comm]

theorem Known.rewritten {selected : WorkflowRow → Prop} [DecidablePred selected] {rewrite : WorkflowRow → WorkflowRow}
    (known : Known db) (workflows : after.workflows = update selected rewrite db.workflows)
    (letters : after.deadLetters = db.deadLetters)
    (keeps : ∀ w, (rewrite w).eventId = w.eventId ∧ (rewrite w).operationId = w.operationId)
    (commands : ∀ w ∈ db.workflows, selected w →
      (rewrite w).command.eventId = w.eventId ∧ (rewrite w).command.operationId = w.operationId) : Known after := by
  refine ⟨letters ▸ known.letters, workflows ▸ keyed_update known.events fun w _ => (keeps w).1, ?_,
    letters ▸ known.payloads, ?_⟩
  · rw [workflows]
    intro w member
    obtain ⟨old, present, ⟨chosen, rfl⟩ | ⟨-, rfl⟩⟩ := mem_update.mp member
    · rw [(keeps old).1, (keeps old).2]; exact commands old present chosen
    · exact known.commands w present
  · rw [workflows, letters]
    intro w member letter present
    obtain ⟨old, before, ⟨-, rfl⟩ | ⟨-, rfl⟩⟩ := mem_update.mp member
    · rw [(keeps old).1, (keeps old).2]; exact known.paired old before letter present
    · exact known.paired w before letter present

/-- Rewriting the dead letters of an event keeps what they are about. -/
theorem Known.relettered {selected : DeadLetterRow → Prop} [DecidablePred selected] {rewrite : DeadLetterRow → DeadLetterRow}
    (known : Known db) (letters : after.deadLetters = update selected rewrite db.deadLetters)
    (workflows : after.workflows = db.workflows) (keeps : ∀ d, (rewrite d).originalEventId = d.originalEventId ∧
      (rewrite d).operationId = d.operationId ∧ (rewrite d).originalPayload = d.originalPayload) : Known after := by
  refine ⟨letters ▸ keyed_update known.letters fun d _ => (keeps d).1, workflows ▸ known.events,
    workflows ▸ known.commands, ?_, ?_⟩
  · rw [letters]
    intro d member
    obtain ⟨old, present, ⟨-, rfl⟩ | ⟨-, rfl⟩⟩ := mem_update.mp member
    · rw [(keeps old).1, (keeps old).2.1, (keeps old).2.2]; exact known.payloads old present
    · exact known.payloads d present
  · rw [letters, workflows]
    intro w member d present
    obtain ⟨old, before, ⟨-, rfl⟩ | ⟨-, rfl⟩⟩ := mem_update.mp present
    · rw [(keeps old).1, (keeps old).2.1]; exact known.paired w member old before
    · exact known.paired w member d before

theorem Known.consumed {fresh : Nat → Uuid} {authorization : ReplayRequestRow} {command : LifecycleCommand}
    {delivery : MessageDeliveryIdentity} {now : Instant} (known : Known db) :
    Known (consumeAuthorization db fresh authorization command delivery now) := by
  have letters : (consumeAuthorization db fresh authorization command delivery now).deadLetters =
      update (fun d : DeadLetterRow => d.originalEventId = command.eventId ∧ d.status = .replayRequested ∧
          d.replayGeneration = delivery.replayGeneration)
        (fun d => { d with status := .replayed, lastReplayAt := some now }) db.deadLetters := rfl
  exact known.relettered letters rfl fun d => ⟨rfl, rfl, rfl⟩

/-- Evidence about a record whose event and operation name each other. -/
theorem Known.written {d o : Uuid} {note : DeadLetterNote} {now : Instant} (known : Known db)
    (named : ∀ row ∈ db.workflows,
      row.operationId = note.original.envelope.operationId ↔ row.eventId = note.original.envelope.eventId) :
    Known (writeDeadLetter db d o note now) := by
  cases absent : find DeadLetterRow.originalEventId note.original.envelope.eventId db.deadLetters with
  | none =>
    have letters : ∃ letter : DeadLetterRow, (writeDeadLetter db d o note now).deadLetters = db.deadLetters ++ [letter] ∧
        letter.originalEventId = note.original.envelope.eventId ∧
        letter.operationId = note.original.envelope.operationId ∧ letter.originalPayload = note.original := by
      simp only [writeDeadLetter, writeWorkflowOutbox, absent]
      exact ⟨_, rfl, rfl, rfl, rfl⟩
    obtain ⟨letter, appended, event, operation, payload⟩ := letters
    refine ⟨?_, known.events, known.commands, ?_, ?_⟩
    · rw [appended]
      exact keyed_append known.letters fun other member => event ▸ find_none absent other member
    · rw [appended]
      intro other member
      rcases List.mem_append.mp member with old | new
      · exact known.payloads other old
      · rw [List.mem_singleton.mp new, payload, event, operation]; exact ⟨rfl, rfl⟩
    · rw [appended]
      intro row present other member
      rcases List.mem_append.mp member with old | new
      · exact known.paired row present other old
      · rw [List.mem_singleton.mp new, event, operation]; exact named row present
  | some old =>
    have letters : (writeDeadLetter db d o note now).deadLetters =
        update (fun d : DeadLetterRow => d.originalEventId = note.original.envelope.eventId)
          (fun letter => { letter with
            deadLetterEventId := d, failureCategory := note.failureCategory, failureCode := note.failureCode,
            safeMessage := note.safeMessage, attempts := note.attempts, replayAllowed := note.replayAllowed,
            replayGeneration := note.replayGeneration, status := .open_, deadLetteredAt := now }) db.deadLetters := by
      simp only [writeDeadLetter, writeWorkflowOutbox, absent]
    exact known.relettered letters rfl fun d => ⟨rfl, rfl, rfl⟩

end

theorem known_next {s : State} {call : StoreCall} {after : WorkflowDb} (kept : Kept s) (conforms : Conforms s call)
    (called : Called host s call after) : Known after := by
  have known := kept.known
  cases called with
  | nothing => exact known
  | @admitted fresh command delivery admission after admitted =>
    cases admitted with
    | duplicate => exact known
    | noted => exact known.same rfl rfl
    | started original absent new free =>
      exact known.added (fun w member => (free w member).2) ⟨rfl, rfl⟩ conforms.letters rfl rfl
    | misidentified => exact known.same (rejectReplayCommand_workflows _ _ _ _ _) (rejectReplayCommand_letters _ _ _ _ _)
    | unauthorized => exact known.same (rejectReplayCommand_workflows _ _ _ _ _) (rejectReplayCommand_letters _ _ _ _ _)
    | conflicting => exact known.same (rejectReplayCommand_workflows _ _ _ _ _) (rejectReplayCommand_letters _ _ _ _ _)
    | reopened authorization row replay new authorized found matching =>
      obtain ⟨rowEvent, -, -⟩ := replayConflict_false.mp matching
      refine Known.consumed ?_
      have workflows : (updateWorkflow (received host s.db (.lifecycle command) delivery s.now none) command.operationId
        (reopenedWorkflow command delivery.replayGeneration s.now)).workflows =
          update (fun w : WorkflowRow => w.operationId = command.operationId)
            (reopenedWorkflow command delivery.replayGeneration s.now) s.db.workflows := rfl
      refine known.rewritten workflows rfl (fun w => ⟨rfl, rfl⟩) fun w member chosen => ?_
      have here := kept.covered.operations.eq_of_key member (find_mem found) (chosen.trans (find_key found).symm)
      subst here
      exact ⟨rowEvent.symm, chosen.symm⟩
    | introduced authorization replay new authorized absent free =>
      refine Known.consumed ?_
      exact known.added (fun w member => (free w member).2) ⟨rfl, rfl⟩ conforms.letters rfl rfl
  | decided decided =>
    cases decided with
    | duplicate => exact known
    | rejected => exact known.same rfl rfl
    | accepted letter original =>
      refine known.relettered rfl rfl fun d => ?_
      exact ⟨rfl, rfl, rfl⟩
  | stored new =>
    rcases conforms with duplicate | ⟨named, -, -⟩
    · rw [new] at duplicate; cases duplicate
    · refine Known.written (known.same rfl rfl) ?_
      exact named.rows
  | claimed claim =>
    obtain ⟨leases, rfl⟩ := claim.frame
    refine known.rewritten rfl rfl (fun w => ?_) fun w member _ => ?_
    · exact ⟨rfl, rfl⟩
    · exact known.commands w member
  | checkpointed held =>
    refine known.rewritten rfl rfl (fun w => ?_) fun w member _ => ?_
    · exact ⟨rfl, rfl⟩
    · exact known.commands w member
  | completed held =>
    refine known.rewritten rfl rfl (fun w => ?_) fun w member _ => ?_
    · exact ⟨rfl, rfl⟩
    · exact known.commands w member
  | @exhausted fresh input row lease held =>
    have marked : Known (writeEvent
        (completeReceipt (updateWorkflow s.db input.operationId (deadLetteredRow input s.now)) row s.now)
        (fresh 0) input.event) := by
      refine known.rewritten rfl rfl (fun w => ?_) fun w member _ => ?_
      · exact ⟨rfl, rfl⟩
      · exact known.commands w member
    have found : row ∈ s.db.workflows := find_mem held.workflow
    obtain ⟨event, operation⟩ := known.commands row found
    have dead : Known (writeDeadLetter _ (fresh 1) (fresh 2) (exhaustedNote input row.command row.replayGeneration) s.now) :=
      marked.written fun w member => by
        show w.operationId = row.command.operationId ↔ w.eventId = row.command.eventId
        rw [event, operation]
        have written : ∃ old ∈ s.db.workflows, w.operationId = old.operationId ∧ w.eventId = old.eventId := by
          obtain ⟨old, present, ⟨-, rfl⟩ | ⟨-, rfl⟩⟩ := mem_update.mp member
          · exact ⟨old, present, rfl, rfl⟩
          · exact ⟨w, present, rfl, rfl⟩
        obtain ⟨old, present, sameOperation, sameEvent⟩ := written
        rw [sameOperation, sameEvent]
        constructor
        · exact fun same => congrArg _ (kept.covered.operations.eq_of_key present found same)
        · exact fun same => congrArg _ (known.events.eq_of_key present found same)
    exact dead.same rfl rfl

/-! ### Every run -/

theorem kept_next {s t : State} {call : StoreCall} (kept : Kept s) (conforms : Conforms s call)
    (taken : next host s call = some t) : Kept t := by
  have called := (called_next host taken).1
  exact ⟨covered_next host kept.covered taken, known_next kept conforms called,
    fun e => good_move (kept.good e) (view_next kept conforms called e)⟩

theorem kept_initial (now : Instant) : Kept (initial now) := by
  refine ⟨⟨List.nodup_nil, ?_⟩, ⟨List.nodup_nil, List.nodup_nil, ?_, ?_, ?_⟩, fun e => ⟨?_, ?_, ?_, ?_, ?_, ?_⟩⟩
  · exact fun _ impossible => absurd impossible List.not_mem_nil
  · exact fun _ impossible => absurd impossible List.not_mem_nil
  · exact fun _ impossible => absurd impossible List.not_mem_nil
  · exact fun _ impossible => absurd impossible List.not_mem_nil
  · rintro (impossible | impossible) <;> cases impossible
  · exact fun _ _ impossible => nomatch impossible
  · exact fun _ _ _ impossible => nomatch impossible
  · exact fun _ _ impossible => nomatch impossible
  · exact fun _ impossible => absurd impossible List.not_mem_nil
  · exact fun _ impossible => absurd impossible List.not_mem_nil

/-- An open dead letter that may be replayed, and the failed workflow of its
    operation. -/
structure Replayable (db : WorkflowDb) (letter : DeadLetterRow) (row : WorkflowRow) : Prop where
  stored : letter ∈ db.deadLetters
  isOpen : letter.status = .open_
  allowed : letter.replayAllowed = true
  held : row ∈ db.workflows
  operation : row.operationId = letter.operationId
  failed : row.status = .failed

theorem Kept.replayable {s : State} {letter : DeadLetterRow} {row : WorkflowRow} (kept : Kept s)
    (replayable : Replayable s.db letter row) :
    row.eventId = letter.originalEventId ∧ letter.replayGeneration = row.replayGeneration := by
  have event := (kept.known.paired row replayable.held letter replayable.stored).mp replayable.operation
  refine ⟨event, ?_⟩
  have rowSeen : (view s.db letter.originalEventId).row = some (row.status, row.replayGeneration) := by
    rw [view, rowView, kept.known.events.find_eq replayable.held event]
    rfl
  have letterSeen : (view s.db letter.originalEventId).letter = some (letter.status, letter.replayGeneration) :=
    letterView_some (kept.known.letters.find_eq replayable.stored rfl)
  rcases (kept.good _).started _ _ rowSeen _ _ letterSeen with ⟨-, -, same⟩ | ⟨requested, -⟩ | ⟨replayed, -⟩
  · exact same
  · rw [replayable.isOpen] at requested; cases requested
  · rw [replayable.isOpen] at replayed; cases replayed

/-- A dead-lettered delivery leaves the dead letters of workflows as they were. -/
theorem unmoved {s : State} {fresh : Nat → Uuid} {input : DeadLetterCommandInput} {after : WorkflowDb} (kept : Kept s)
    (conforms : Conforms s (.deadLetterCommand fresh input))
    (stored : deadLetterCommand host s.db fresh input s.now = .ok (true, after)) {letter : DeadLetterRow}
    {row : WorkflowRow} (member : letter ∈ s.db.deadLetters) (held : row ∈ s.db.workflows)
    (operation : row.operationId = letter.operationId) : letter ∈ after.deadLetters := by
  rcases deadLetterCommand_cases stored with ⟨impossible, -⟩ | ⟨-, new, rfl⟩
  · cases impossible
  · rcases conforms with known | ⟨-, noRow, -⟩
    · rw [new] at known; cases known
    · have event := (kept.known.paired row held letter member).mp operation
      have apart : letter.originalEventId ≠ input.message.envelope.eventId := by
        intro same
        rw [rowView, kept.known.events.find_eq held (event.trans same)] at noRow
        cases noRow
      simp only [writeDeadLetter, writeWorkflowOutbox]
      split
      · exact List.mem_append_left _ member
      · exact mem_update.mpr ⟨letter, member, .inr ⟨apart, rfl⟩⟩

/-- An authorized delivery finds its workflow ready to be reopened. -/
theorem never_conflicts {s : State} {fresh : Nat → Uuid} {command : LifecycleCommand}
    {delivery : MessageDeliveryIdentity} {after : WorkflowDb} (kept : Kept s)
    (conforms : Conforms s (.admitCommand fresh command delivery)) :
    admitCommand host s.db fresh command delivery s.now ≠ .ok (.rejected .replayCommandStateConflict, after) := by
  intro rejected
  cases admitCommand_cases rejected with
  | conflicting authorization row replay new authorized found conflict =>
    obtain ⟨stored, event, generation, status, -, -, -⟩ := authorizationOf_some authorized
    have rowEvent : row.eventId = command.eventId := (conforms.rows row (find_mem found)).mp (find_key found)
    have good := kept.good command.eventId
    have requested := (good.authorized _ (event ▸ mem_authorizedView stored status generation)).resolve_left
      (receipt_none new)
    have rowSeen : (view s.db command.eventId).row = some (row.status, row.replayGeneration) := by
      rw [view, rowView, kept.known.events.find_eq (find_mem found) rowEvent]
      rfl
    rcases good.started _ _ rowSeen _ _ requested with ⟨impossible, -⟩ | ⟨-, failed, next⟩ | ⟨impossible, -⟩
    · cases impossible
    · rw [replayConflict_false.mpr ⟨rowEvent, failed, next⟩] at conflict
      cases conflict
    · cases impossible

/-- An authorization that was just kept is the one that its delivery finds. -/
theorem authorizationOf_kept {db : WorkflowDb} {command : LifecycleCommand} {delivery : MessageDeliveryIdentity}
    {payloadHash : String} {rows : List ReplayRequestRow} {row : ReplayRequestRow}
    (requests : db.replayRequests = rows ++ [row]) (event : row.originalEventId = command.eventId)
    (generation : row.replayGeneration = some delivery.replayGeneration) (status : row.status = .authorized)
    (payload : row.authorizedCommandHash = some payloadHash) (outboxId : Uuid)
    (authorized : row.authorizedOutboxId = some outboxId) (delivered : delivery.outboxId = some outboxId)
    (first : ∀ r ∈ rows, r.originalEventId = row.originalEventId → r.replayGeneration ≠ row.replayGeneration) :
    authorizationOf db command delivery payloadHash = some row := by
  have found : (db.replayRequests.find? fun r =>
      r.originalEventId = command.eventId && r.replayGeneration = some delivery.replayGeneration) = some row := by
    rw [requests, List.find?_append, List.find?_eq_none.mpr fun r member => ?_]
    · simp [event, generation]
    · simp only [Bool.and_eq_true, decide_eq_true_eq, not_and, ← event, ← generation]
      exact first r member
  rw [authorizationOf, found]
  simp [status, payload, authorized, delivered]

/-- The replay that was just authorized carries the next generation of its
    workflow, and its command is admitted. -/
theorem next_replay {s : State} {letter : DeadLetterRow} {row : WorkflowRow} {fresh : Nat → Uuid}
    {request : ProvisioningReplayRequested} {delivery : MessageDeliveryIdentity} {after : WorkflowDb} (kept : Kept s)
    (replayable : Replayable s.db letter row) (conforms : Conforms s (.admitReplayRequest fresh request delivery))
    (event : request.originalEventId = letter.originalEventId)
    (authorized : admitReplayRequest host s.db fresh request delivery s.now = .ok (.accepted, after)) :
    ∃ replayed : LifecycleCommand,
      after.outbox = s.db.outbox ++ [⟨fresh 0, .command replayed, row.replayGeneration + 1, s.now⟩] ∧
      ∀ fresh' (delivery' : MessageDeliveryIdentity) now', delivery'.replayGeneration = row.replayGeneration + 1 →
        delivery'.outboxId = some (fresh 0) → (∀ r ∈ after.commandReceipts, sameRecord r.delivery delivery' = false) →
        ∃ final, admitCommand host after fresh' replayed delivery' now' = .ok (.accepted, final) := by
  obtain ⟨rowEvent, same⟩ := kept.replayable replayable
  have taken : next host s (.admitReplayRequest fresh request delivery) = some { s with db := after } := by
    simp [next, committed, authorized]
  have good := (kept_next kept conforms taken).good letter.originalEventId
  cases admitReplayRequest_cases authorized with
  | accepted found original new restorable undecided =>
    obtain ⟨present, isOpen, originalEvent, originalOperation⟩ := kept.known.replayable restorable
    have here : found = letter :=
      kept.known.letters.eq_of_key (find_mem present) replayable.stored ((find_key present).trans event)
    subst here
    refine ⟨restoredCommand original request s.now, by rw [← same]; rfl, ?_⟩
    intro fresh' delivery' now' generation outboxId unique
    have command : (restoredCommand original request s.now).eventId = found.originalEventId :=
      originalEvent.trans event
    have operation : s.db.workflow original.operationId = some row := by
      rw [originalOperation, ← replayable.operation]
      exact kept.covered.operations.find_eq replayable.held rfl
    have replay : delivery'.replayGeneration ≠ 0 := by omega
    have rowSeen : (view s.db found.originalEventId).row = some (row.status, row.replayGeneration) := by
      rw [view, rowView, kept.known.events.find_eq replayable.held rowEvent]
      rfl
    -- What was received of the event is no newer than its workflow.
    have older := good.reached row.status row.replayGeneration rowSeen
    generalize tables : ({ writeWorkflowOutbox _ _ _ _ _ with deadLetters := _ } : WorkflowDb) = decided at *
    have new : decided.receipt found.originalEventId delivery'.replayGeneration = none := by
      by_contra known
      have := older _ (mem_receivedView.mpr (Option.isSome_iff_ne_none.mpr known))
      omega
    have authority : authorizationOf decided (restoredCommand original request s.now) delivery'
        (host.canonicalSha256 (.lifecycle (restoredCommand original request s.now))) =
        some (authorizedRequest host request (restoredCommand original request s.now) (found.replayGeneration + 1)
          (fresh 0) s.now) := by
      have numbered : (some (found.replayGeneration + 1) : Option Nat) = some delivery'.replayGeneration := by
        rw [generation, same]
      rw [← tables]
      exact authorizationOf_kept rfl (event.trans command.symm) numbered rfl rfl (fresh 0) rfl outboxId
        fun r member => undecided.generation r member rfl
    have reopens := replayConflict_false.mpr ⟨rowEvent.trans command.symm, replayable.failed, generation⟩
    refine admitCommand_reopens replay (command ▸ new) unique authority conforms.1 ?_ reopens
    rw [← tables]
    exact operation

/-- In every run whose deliveries conform, an open dead letter has the
    generation of its failed workflow, dead-lettering a delivery leaves it so, no
    authorized delivery meets a workflow that it cannot reopen, and the next
    authorized replay is admitted. -/
theorem stays_replayable {now : Instant} {s : State} (run : Reaches (next host) Conforms (initial now) s) :
    (∀ letter row, Replayable s.db letter row → letter.replayGeneration = row.replayGeneration) ∧
    (∀ fresh input after, Conforms s (.deadLetterCommand fresh input) →
      deadLetterCommand host s.db fresh input s.now = .ok (true, after) →
      ∀ letter ∈ s.db.deadLetters, ∀ row ∈ s.db.workflows, row.operationId = letter.operationId →
        letter ∈ after.deadLetters) ∧
    (∀ fresh command delivery after, Conforms s (.admitCommand fresh command delivery) →
      admitCommand host s.db fresh command delivery s.now ≠ .ok (.rejected .replayCommandStateConflict, after)) ∧
    ∀ letter row fresh request delivery after, Replayable s.db letter row →
      Conforms s (.admitReplayRequest fresh request delivery) → request.originalEventId = letter.originalEventId →
      admitReplayRequest host s.db fresh request delivery s.now = .ok (.accepted, after) →
      ∃ replayed : LifecycleCommand,
        after.outbox = s.db.outbox ++ [⟨fresh 0, .command replayed, row.replayGeneration + 1, s.now⟩] ∧
        ∀ fresh' (delivery' : MessageDeliveryIdentity) now', delivery'.replayGeneration = row.replayGeneration + 1 →
          delivery'.outboxId = some (fresh 0) →
          (∀ r ∈ after.commandReceipts, sameRecord r.delivery delivery' = false) →
          ∃ final, admitCommand host after fresh' replayed delivery' now' = .ok (.accepted, final) := by
  have kept : Kept s :=
    reaches_invariant Kept (fun _ _ _ kept conforms taken => kept_next kept conforms taken) run (kept_initial now)
  refine ⟨fun letter row replayable => (kept.replayable replayable).2, ?_, ?_, ?_⟩
  · exact fun _ _ _ conforms stored _ member _ held operation => unmoved kept conforms stored member held operation
  · exact fun _ _ _ _ conforms => never_conflicts kept conforms
  · intro letter row fresh request delivery after replayable conforms event authorized
    exact next_replay kept replayable conforms event authorized

theorem stays_replayable_exhaustedOnce :
    ∃ s, execute (next sampleHost) (initial 0) exhaustedOnce = some s ∧ s.db.deadLetters.length = 1 ∧
      ∀ letter row, Replayable s.db letter row → letter.replayGeneration = row.replayGeneration := by
  have executed : execute (next sampleHost) (initial 0) exhaustedOnce = some _ := rfl
  have named : Named (initial 0).db sampleCreate.eventId sampleCreate.operationId := by
    refine ⟨?_, ?_, fun _ _ => rfl⟩
    · exact fun _ impossible => absurd impossible List.not_mem_nil
    · exact fun _ impossible => absurd impossible List.not_mem_nil
  have conform : Meets (next sampleHost) Conforms (initial 0) exhaustedOnce :=
    ⟨named, fun _ _ => ⟨trivial, fun _ _ => ⟨trivial, fun _ _ => trivial⟩⟩⟩
  exact ⟨_, executed, rfl, (stays_replayable (reaches_execute conform executed)).1⟩

/-- An exhausted creation whose command comes back in a version that is not
    supported, with a generation of the sender's choice. -/
def displacedOnce : List StoreCall :=
  exhaustedOnce ++
    [.deadLetterCommand (fun _ => "")
      { message := .unsupported "instance.create.requested" { sampleCreate.toEnvelope with schemaVersion := 2 },
        delivery := ⟨"provisioning.commands.v1", 0, 1, 5, none⟩, attempts := 3,
        failureCode := "COMMAND_SCHEMA_UNSUPPORTED",
        safeMessage := "The command schema is not supported by this consumer deployment.", replayAllowed := true }]

/-- The dead letter takes the generation of the header. -/
theorem header_displaces : ¬ ∀ (host : Host) (now : Instant) (calls : List StoreCall) (s : State),
    execute (next host) (initial now) calls = some s →
    ∀ letter row, Replayable s.db letter row → letter.replayGeneration = row.replayGeneration := by
  intro all
  have displaced : ((execute (next sampleHost) (initial 0) displacedOnce).any fun s =>
      s.db.deadLetters.any fun letter => s.db.workflows.any fun row =>
        letter.status = .open_ ∧ letter.replayAllowed = true ∧ row.operationId = letter.operationId ∧
          row.status = .failed ∧ letter.replayGeneration ≠ row.replayGeneration) = true := by decide +kernel
  obtain ⟨s, executed, found⟩ := (Option.any_eq_true _ _).mp displaced
  obtain ⟨letter, stored, some_⟩ := List.any_eq_true.mp found
  obtain ⟨row, held, facts⟩ := List.any_eq_true.mp some_
  obtain ⟨isOpen, allowed, operation, failed, differs⟩ := of_decide_eq_true facts
  exact differs (all _ _ _ s executed letter row ⟨stored, isOpen, allowed, held, operation, failed⟩)

end ControlPlane.Replayability
