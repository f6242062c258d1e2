import ControlPlane.IsoDates

/-!
The timestamps of the messages between the orchestrator and the provider service.
Each side has a function that encodes a text and one that decodes a message. The
seconds are rounded down and the nanoseconds are taken from a remainder towards
zero, so that the two agree on every whole second and on every instant from 1970 on.
-/
namespace ControlPlane.WireTimestamps
open ControlPlane.IsoDates

/-- A protobuf `Timestamp`. A field that was not sent is missing. -/
structure WireTimestamp where
  seconds : Option Int
  nanos : Option Int
  deriving DecidableEq, Repr

/-- The nanoseconds are in the range that protobuf requires. -/
def WireTimestamp.Proper (wire : WireTimestamp) : Prop := ∃ nanos, wire.nanos = some nanos ∧ 0 ≤ nanos ∧ nanos ≤ 999999999

/-- What stands in the field of a message. -/
inductive WireValue
  | text (value : String)
  | message (value : WireTimestamp)
  deriving DecidableEq, Repr

/-- A text that is there and not empty. -/
def given (value : Option String) : Option String := value.filter (· ≠ "")

/-- `Date.parse`. What it reads besides the texts of `toISOString` is left open. -/
def dateParse (others : String → Option Int) (text : String) : Option Int := (ofISOString text).or (others text)

/-- The seconds are a quotient rounded down, and the remainder has the sign of what is divided. -/
def encoded (milliseconds : Int) : WireTimestamp :=
  { seconds := some (milliseconds / 1000), nanos := some (milliseconds.tmod 1000 * 1000000) }

/-- The milliseconds of a message; a time value has no fraction. -/
def decoded (wire : WireTimestamp) : Int := (wire.seconds.getD 0 * 1000000000 + wire.nanos.getD 0).tdiv 1000000

/-- `new Date(milliseconds).toISOString()`. -/
def written (milliseconds : Int) : Except String String :=
  match toISOString milliseconds with
  | some text => .ok text
  | none => .error "Invalid time value"

section
variable (others : String → Option Int)

/-! ### The client -/

namespace GrpcProviderClient

def timestamp : Option WireValue → Except String (Option String)
  | some (.message wire) => some <$> written (decoded wire)
  | _ => .ok none

/-- A text that names no instant is not sent. -/
def wireTimestamp (value : Option String) : Option WireTimestamp := ((given value).bind (dateParse others)).map encoded

/-- The deadline of a request as it is sent. -/
def withWireDeadline (retentionDeadline : Option String) : Option WireValue :=
  (wireTimestamp others retentionDeadline).map WireValue.message

end GrpcProviderClient

/-! ### The service -/

namespace ProviderGrpcController

def wireTimestamp (value : Option String) : Except String (Option WireTimestamp) :=
  match given value with
  | none => .ok none
  | some text =>
    match dateParse others text with
    | none => .error "Provider returned an invalid timestamp."
    | some milliseconds => .ok (some (encoded milliseconds))

def isoTimestamp : Option WireValue → Except String (Option String)
  | some (.text value) => .ok (given (some value))
  | some (.message wire) => some <$> written (decoded wire)
  | none => .ok none

/-- The deadline that the adapter is given. -/
def retentionDeadline (received : Option WireValue) : Except String (Option WireValue) := do
  match ← isoTimestamp received with
  | some text => return some (.text text)
  | none => return received

end ProviderGrpcController

/-! ### Round trips -/

/-- A time that the service sends, of an observation or a snapshot, is decoded to the same text. -/
def Answered (text : String) : Prop :=
  ∃ wire, ProviderGrpcController.wireTimestamp others (some text) = .ok (some wire) ∧ wire.Proper ∧
    GrpcProviderClient.timestamp (some (.message wire)) = .ok (some text)

/-- A deadline that the client sends arrives at the adapter as the same text. -/
def Asked (text : String) : Prop :=
  ∃ wire, GrpcProviderClient.withWireDeadline others (some text) = some (.message wire) ∧ wire.Proper ∧
    ProviderGrpcController.retentionDeadline (some (.message wire)) = .ok (some (.text text))

/-- An instant before 1970 is a whole second. -/
def Representable (time : Int) : Prop := 0 ≤ time ∨ time % 1000 = 0

instance (time : Int) : Decidable (Representable time) := inferInstanceAs (Decidable (_ ∨ _))

end

section
variable {others : String → Option Int}

theorem tmod_of_representable {time : Int} (fits : Representable time) : time.tmod 1000 = time % 1000 := by
  rcases fits with later | whole
  · exact Int.tmod_eq_emod_of_nonneg later
  · rw [whole]
    exact Int.tmod_eq_zero_of_dvd (Int.dvd_of_emod_eq_zero whole)

theorem encoded_proper {time : Int} : (encoded time).Proper ↔ Representable time := by
  constructor
  · rintro ⟨nanos, sent, least, -⟩
    obtain rfl := Option.some.inj sent
    by_contra unfit
    simp only [Representable, not_or, Int.not_le] at unfit
    have remainder : time.tmod 1000 = -((-time) % 1000) := by
      rw [← Int.tmod_eq_emod_of_nonneg (by omega), Int.neg_tmod, Int.neg_neg]
    rw [remainder] at least
    omega
  · intro fits
    refine ⟨_, rfl, ?_⟩
    rw [tmod_of_representable fits]
    omega

theorem decoded_encoded {time : Int} (fits : Representable time) : decoded (encoded time) = time := by
  have total : time / 1000 * 1000000000 + time % 1000 * 1000000 = time * 1000000 := by omega
  simp only [decoded, encoded, Option.getD_some, tmod_of_representable fits, total]
  exact Int.mul_tdiv_cancel _ (by decide)

theorem dateParse_text (time : TimeValue) : dateParse others time.text = some time.milliseconds := by
  rw [dateParse, time.ofISOString_text, Option.some_or]

theorem given_text (time : TimeValue) : given (some time.text) = some time.text := by
  simp [given, time.text_ne_empty]

theorem written_decoded {time : TimeValue} (fits : Representable time.milliseconds) :
    written (decoded (encoded time.milliseconds)) = .ok time.text := by
  rw [decoded_encoded fits, written, time.toISOString_eq]

theorem answered_iff (time : TimeValue) : Answered others time.text ↔ Representable time.milliseconds := by
  have sent : ProviderGrpcController.wireTimestamp others (some time.text) = .ok (some (encoded time.milliseconds)) := by
    simp only [ProviderGrpcController.wireTimestamp, given_text, dateParse_text]
  constructor
  · rintro ⟨wire, same, proper, -⟩
    obtain rfl : encoded time.milliseconds = wire := by simpa [sent] using same
    exact encoded_proper.1 proper
  · intro fits
    refine ⟨_, sent, encoded_proper.2 fits, ?_⟩
    rw [GrpcProviderClient.timestamp, written_decoded fits]
    rfl

theorem asked_iff (time : TimeValue) : Asked others time.text ↔ Representable time.milliseconds := by
  have sent : GrpcProviderClient.withWireDeadline others (some time.text) = some (.message (encoded time.milliseconds)) := by
    simp only [GrpcProviderClient.withWireDeadline, GrpcProviderClient.wireTimestamp, given_text, Option.bind_some,
      dateParse_text, Option.map_some]
  constructor
  · rintro ⟨wire, same, proper, -⟩
    obtain rfl : encoded time.milliseconds = wire := by simpa [sent] using same
    exact encoded_proper.1 proper
  · intro fits
    refine ⟨_, sent, encoded_proper.2 fits, ?_⟩
    rw [ProviderGrpcController.retentionDeadline, ProviderGrpcController.isoTimestamp, written_decoded fits]
    rfl

end

end ControlPlane.WireTimestamps
