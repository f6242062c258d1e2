import ControlPlane.ExactlyOnce

/-!
Records that are refused and copy the identity of an event. Whether a record is
trusted is decided from its key and its headers, and what it is quarantined under
is read from its value: the receipt of a refused record is that of the event whose
identity it copies, which is a duplicate from then on.
-/
namespace ControlPlane.Shadowing
open ControlPlane.Runs ControlPlane.Domain ControlPlane.Commands ControlPlane.EventValidation ControlPlane.ControlSchema
open ControlPlane.ProjectionStore ControlPlane.AcceptanceRules ControlPlane.KafkaConsumer ControlPlane.ProjectionConsumer
open ControlPlane.ExactlyOnce

/-- A record that passes the trust boundary and carries an event of its topic. -/
def Genuine (log : Log) (position : Position) (k : ReceiptKey) : Prop :=
  ∃ message event, log position = some message ∧ (record position message).decodeError = none ∧
    narrowed (record position message) = .ok event ∧
    k = ⟨event.consumer, event.eventId, (record position message).delivery.replayGeneration⟩

/-- A refused record whose value names an event. -/
def Copies (log : Log) (position : Position) (k : ReceiptKey) : Prop :=
  ∃ message copied, log position = some message ∧ (¬ ∃ k, Genuine log position k) ∧
    (record position message).envelope = some copied ∧
    k = ⟨quarantineConsumer (record position message).delivery, copied.envelope.eventId,
      (record position message).delivery.replayGeneration⟩

/-- An event was applied by a genuine delivery. -/
def Applied (log : Log) (history : List Committed) (k : ReceiptKey) : Prop :=
  ∃ position draws, .settled position draws .handled ∈ history ∧ Genuine log position k

/-- A refused record that copies an event was quarantined. -/
def Copied (log : Log) (history : List Committed) (k : ReceiptKey) : Prop :=
  ∃ position, Settled history position ∧ Copies log position k

/-- No genuine delivery of an event that was not applied is passed over as a duplicate. -/
def NeverPrevented (host : Host) (maximumAttempts : Nat) (log : Log) (s : State ControlDb ControlRequest) : Prop :=
  ∀ position message k draws, log position = some message → Genuine log position k → ¬ Applied log s.history k →
    attempt (consumers host maximumAttempts log).options (record position message) draws s.db ≠ .ok (.duplicate, s.db)

/-- The inbox knows the events that were applied and those that were copied. -/
def Known (log : Log) (s : State ControlDb ControlRequest) : Prop :=
  ∀ k : ReceiptKey, Seen s.db k.consumerName k.eventId k.replayGeneration ↔
    Applied log s.history k ∨ Copied log s.history k

section
variable {host : Host} {log : Log} {start db after : ControlDb} {s t : State ControlDb ControlRequest}
  {history : List Committed} {maximumAttempts : Nat} {k : ReceiptKey} {position : Position}

theorem genuine_unique {k' : ReceiptKey} (genuine : Genuine log position k) (also : Genuine log position k') : k = k' := by
  obtain ⟨message, event, found, -, read, rfl⟩ := genuine
  obtain ⟨message', event', found', -, read', rfl⟩ := also
  cases found.symm.trans found'
  cases read.symm.trans read'
  rfl

/-! ### What a transaction adds -/

/-- An entry about a genuine record adds its key when it was handled. -/
theorem applied_concat {draws : Draws} {outcome : Outcome} :
    Applied log (history ++ [.settled position draws outcome]) k ↔
      Applied log history k ∨ (outcome = .handled ∧ Genuine log position k) := by
  constructor
  · rintro ⟨p, d, member, genuine⟩
    rcases List.mem_append.mp member with old | new
    · exact .inl ⟨p, d, old, genuine⟩
    · cases List.mem_singleton.mp new
      exact .inr ⟨rfl, genuine⟩
  · rintro (⟨p, d, old, genuine⟩ | ⟨rfl, genuine⟩)
    · exact ⟨p, d, List.mem_append_left _ old, genuine⟩
    · exact ⟨position, draws, List.mem_append_right _ (List.mem_singleton_self _), genuine⟩

theorem settled_concat {draws : Draws} {outcome : Outcome} {p : Position} :
    Settled (history ++ [.settled position draws outcome]) p ↔ Settled history p ∨ p = position := by
  constructor
  · rintro ⟨d, o, member⟩
    rcases List.mem_append.mp member with old | new
    · exact .inl ⟨d, o, old⟩
    · cases List.mem_singleton.mp new
      exact .inr rfl
  · rintro (⟨d, o, old⟩ | rfl)
    · exact ⟨d, o, List.mem_append_left _ old⟩
    · exact ⟨draws, outcome, List.mem_append_right _ (List.mem_singleton_self _)⟩

theorem copied_concat {draws : Draws} {outcome : Outcome} :
    Copied log (history ++ [.settled position draws outcome]) k ↔ Copied log history k ∨ Copies log position k := by
  constructor
  · rintro ⟨p, settled, copies⟩
    rcases settled_concat.mp settled with old | rfl
    · exact .inl ⟨p, old, copies⟩
    · exact .inr copies
  · rintro (⟨p, old, copies⟩ | copies)
    · exact ⟨p, settled_concat.mpr (.inl old), copies⟩
    · exact ⟨position, settled_concat.mpr (.inr rfl), copies⟩

/-- A genuine record is handled, and its event is received or known. -/
theorem known_handled (known : Known log s) {message : KafkaMessage ProjectionMessage} (found : log position = some message)
    {draws : Draws} {outcome : Outcome}
    (handled : attempt (consumers host maximumAttempts log).options (record position message) draws s.db =
      .ok (outcome, t.db))
    (grown : t.history = s.history ++ [.settled position draws outcome]) : Known log t := by
  unfold attempt at handled
  split at handled
  next => cases handled
  next trusted =>
    obtain ⟨event, read, result⟩ := handle_cases handled
    have genuine : Genuine log position _ := ⟨message, event, found, trusted, read, rfl⟩
    intro k
    rw [grown, applied_concat, copied_concat]
    have uncopied : ¬ Copies log position k := fun ⟨_, _, _, refused, _⟩ => refused ⟨_, genuine⟩
    rcases result with ⟨rfl, same, -⟩ | ⟨rfl, -, projected⟩
    · rw [same, known k]
      simp [uncopied]
    · have own : Genuine log position k ↔ k = ⟨event.consumer, event.eventId, _⟩ :=
        ⟨fun also => genuine_unique also genuine, fun same => same ▸ genuine⟩
      rw [seen_received ⟨event.consumer, event.eventId, (record position message).delivery.replayGeneration⟩
        (project_receipts projected) rfl, known k, ← own]
      simp only [uncopied, or_false, true_and]
      exact or_right_comm

/-- A record whose attempts were exhausted by a failure of its own is not genuine. -/
theorem not_genuine (blamed : Blamed (consumers host maximumAttempts log) s) {worker : Worker} (held : worker ∈ s.workers)
    {error : HandlerError} (spent : worker.progress = .exhausted error) (own : quarantineCode error ≠ none) :
    ¬ ∃ k, Genuine log worker.position k := by
  rintro ⟨_, message, event, found, trusted, read, -⟩
  rcases blamed worker held error spent with rfl | ⟨message', draws, db, found', failed⟩
  · exact own rfl
  · cases found.symm.trans found'
    rw [attempt, trusted] at failed
    cases (handle_refused failed own).symm.trans read

/-- A refused record is quarantined, and the event that it copies is received or known. -/
theorem known_exhausted (known : Known log s) {message : KafkaMessage ProjectionMessage}
    (found : log position = some message) (refused : ¬ ∃ k, Genuine log position k) {error : HandlerError} {draws : Draws}
    {outcome : Outcome}
    (ended : exhausted (record position message) error maximumAttempts draws s.db = .ok (outcome, t.db))
    (grown : t.history = s.history ++ [.settled position draws outcome]) : Known log t := by
  obtain ⟨-, other, input, inserted, delivery, eventId, quarantined⟩ := exhausted_cases ended
  have receipts := quarantineRecord_receipts quarantined
  rw [eventId] at receipts
  intro k
  rw [grown, applied_concat, copied_concat]
  simp only [other, false_and, or_false]
  cases copy : (record position message).envelope with
  | none =>
    have uncopied : ¬ Copies log position k := by
      rintro ⟨_, _, found', -, copied, -⟩
      cases found.symm.trans found'
      cases copy.symm.trans copied
    rw [copy] at receipts
    simp only [uncopied, or_false]
    rw [Seen, show t.db.eventReceipts = s.db.eventReceipts from receipts, ← Seen, known k]
  | some copied =>
    have named : copied.envelope.eventId ≠ "" := by
      have valid := record_envelope copy
      simp only [isEventEnvelope, Bool.and_eq_true] at valid
      exact Texts.isUuidText_ne_empty valid.1.1.1.1.1.1.1.1.1
    have own : Copies log position k ↔ k = ⟨quarantineConsumer (record position message).delivery,
        copied.envelope.eventId, (record position message).delivery.replayGeneration⟩ := by
      constructor
      · rintro ⟨_, _, found', -, copied', rfl⟩
        cases found.symm.trans found'
        cases copy.symm.trans copied'
        rfl
      · rintro rfl
        exact ⟨message, copied, found, refused, copy, rfl⟩
    simp only [copy, Option.map_some, Option.filter_some, named, ne_eq, not_false_eq_true, decide_true, if_true,
      delivery] at receipts
    rw [own, ← or_assoc, ← known k]
    rcases receipts with ⟨seen, same⟩ | more
    · rw [Seen, same, ← Seen]
      refine ⟨.inl, fun either => either.elim id ?_⟩
      rintro rfl
      exact seen
    · exact seen_received ⟨_, _, _⟩ more rfl

/-- A transaction about a record adds what it says, and another one nothing. -/
theorem known_next (known : Known log s) (blamed : Blamed (consumers host maximumAttempts log) s)
    {action : Action ControlRequest} (taken : next (consumers host maximumAttempts log) s action = some t) :
    Known log t := by
  cases steps_next taken with
  | settled _ worker draws outcome held settles grown =>
    cases settles with
    | handled message found handled => exact known_handled known found handled grown
    | exhausted message error found spent ended =>
      have ended : exhausted (record worker.position message) error maximumAttempts draws s.db = .ok (outcome, t.db) := ended
      have own := (exhausted_cases ended).1
      exact known_exhausted known found (not_genuine blamed held spent own) ended grown
  | requested request db grown =>
    intro k
    have receipts : t.db.eventReceipts = s.db.eventReceipts := by rw [db]; exact performRequest_receipts request s.db
    have member {position : Position} {draws : Draws} {outcome : Outcome} :
        .settled position draws outcome ∈ t.history ↔ .settled position draws outcome ∈ s.history := by
      rw [grown, List.mem_append, List.mem_singleton]
      exact ⟨fun either => either.elim id nofun, .inl⟩
    rw [Seen, receipts, ← Seen, known k]
    simp only [Applied, Copied, Settled, member]
  | committed _ _ _ same unchanged =>
    rw [Known, same, unchanged]
    exact known
  | moved _ same unchanged =>
    rw [Known, same, unchanged]
    exact known

theorem known_run (blank : start.eventReceipts = [])
    (run : Reaches (next (consumers host maximumAttempts log)) Anything (initial start) s) : Known log s := by
  induction run with
  | refl =>
    intro k
    constructor
    · rintro ⟨r, member, -⟩
      exact absurd (blank ▸ member) List.not_mem_nil
    · rintro (⟨_, _, member, -⟩ | ⟨_, ⟨_, _, member⟩, -⟩)
      · exact absurd member List.not_mem_nil
      · exact absurd member List.not_mem_nil
  | tail earlier last ih =>
    obtain ⟨action, -, taken⟩ := last
    exact known_next ih (blamed_run earlier) taken

end

/-- The completion of a creation under a key that is not its own, before the record
    that the outbox publishes. -/
def sampleForged : Log :=
  sampleTopic [{ sampleMessage (.workflow sampleCompleted) with key := some "forged" },
    sampleMessage (.workflow sampleCompleted)]

def forgedRun : List (Action ControlRequest) :=
  [.fetch ⟨eventTopic, 0, 0⟩, .attempt 0 ⟨0, fun _ => ""⟩ .nothing, .attempt 0 ⟨1, fun _ => ""⟩ .nothing,
   .attempt 0 ⟨2, fun _ => ""⟩ .nothing, .exhaust 0 ⟨3, fun _ => ""⟩ .nothing, .commit 0]

end ControlPlane.Shadowing
