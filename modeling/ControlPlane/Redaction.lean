import ControlPlane.Diagnostics
import ControlPlane.Tables

/-!
What the redaction keeps out of the diagnostics of a Terraform run. It takes the
secrets and their first eight characters out of the summary and the detail; what
is left between these places, and every other field, is kept as it is.
-/
namespace ControlPlane.Redaction
open ControlPlane.JsonValues ControlPlane.Masking ControlPlane.Diagnostics

/-! ### The claim -/

def fieldTexts : Field → List JsText
  | .text value => [value]
  | .other value => value.words.map units

/-- Every text in the four fields of a diagnostic. -/
def diagnosticTexts (diagnostic : TerraformDiagnostic) : List JsText :=
  fieldTexts diagnostic.severity ++ fieldTexts diagnostic.summary ++ diagnostic.detail.toList.flatMap fieldTexts ++
    diagnostic.address.toList.flatMap fieldTexts

/-- A secret occurs, whole or truncated to no less than eight characters. -/
def Occurs (secret output : JsText) : Prop :=
  ∃ length, minimumSecretPrefix ≤ length ∧ length ≤ secret.length ∧ secret.take length <:+: output

/-- Eight consecutive characters, or more, of a secret that occurs in the output. -/
def Reveals (secrets : List JsText) (output text : JsText) : Prop :=
  ∃ secret ∈ secrets, Occurs secret output ∧ ∃ run, run <:+: secret ∧ minimumSecretPrefix ≤ run.length ∧ run <:+: text

/-- No field of the diagnostics reveals a secret. -/
def Redacted (secrets : List JsText) (output : JsText) (diagnostics : List TerraformDiagnostic) : Prop :=
  ∀ diagnostic ∈ diagnostics, ∀ text ∈ diagnosticTexts diagnostic, ¬ Reveals secrets output text

/-- A secret cannot be read across a redaction. -/
def Separate (secret : JsText) : Prop :=
  ∀ run, run <:+: secret → minimumSecretPrefix ≤ run.length → Apart redaction run

section
variable (password : String → Option String) (decode : String → Option String)
  (configuration : TerraformRunnerConfiguration) (cloudInitPassword : String)

/-- The credentials that a run carries or renders. A password that cannot be decoded
    is carried as it stands. -/
def credentials : List String :=
  ([((password configuration.backendConnectionString).filter (· ≠ "")).map fun carried => (decode carried).getD carried,
    tokenSecret configuration, configuration.providerEnvironment.lookup "PROXMOX_VE_PASSWORD",
    some cloudInitPassword].filterMap id).filter (· ≠ "")

/-- The runner knows every credential that it has to redact. -/
def Carried : Prop :=
  ∀ credential ∈ credentials password decode configuration cloudInitPassword,
    credential ∈ secretsOf password decode configuration

/-- The password of the instance, when there is one, is one of the others, and the one
    of the backend can be decoded, or is one of the others. -/
def Known : Prop :=
  (cloudInitPassword ≠ "" → cloudInitPassword ∈ secretsOf password decode configuration) ∧
    ∀ carried, password configuration.backendConnectionString = some carried → carried ≠ "" → decode carried = none →
      carried ∈ secretsOf password decode configuration

end

/-- The patterns that are replaced, in their order. -/
def patterns (secrets : List JsText) : List JsText := (usable secrets).flatMap patternsFor

/-- The texts that a value of the output shows. -/
def shownBy : Json → List JsText
  | .str value => [units value]
  | value => value.words.map units

/-- What is left of a message between the redactions. -/
def remainsOf (secrets : List JsText) : Json → List JsText
  | .str value => pieces (patterns secrets) (units value)
  | value => value.words.map units

/-- What is left of a line of the log and its diagnostic. The severity and the address
    are not redacted. -/
def remains (secrets : List JsText) (line diagnostic : Json) : List JsText :=
  shownBy (severityOf line diagnostic) ++ remainsOf secrets (summaryOf line diagnostic) ++
    (detailOf diagnostic).toList.flatMap (remainsOf secrets) ++ (addressOf diagnostic).toList.flatMap shownBy

/-- What is left of an output that is no log: its first 2000 characters are cut off
    before the redactions. -/
def headRemains (secrets : List JsText) (output : JsText) : List JsText :=
  [units "error", units "Terraform produced no machine-readable diagnostics."] ++
    pieces (patterns secrets) ((trimUnits output).take 2000)

section
variable (parse : JsText → Option Json)

/-- A line that is JSON. -/
def parsedLine (line : JsText) : Option Json :=
  if (trimUnits line).head? = some 0x7b then parse (trimUnits line) else none

/-- A line of the log that has a diagnostic. -/
def entryOf (line : JsText) : Option (Json × Json) := do
  let parsed ← parsedLine parse line
  let diagnostic ← (parsed.own "diagnostic").filter Json.truthy
  return (parsed, diagnostic)

def entries (output : JsText) : List (Json × Json) := (output.splitOn 10).filterMap (entryOf parse)

/-- The output is no log, and is not blank. -/
def Unframed (output : JsText) : Prop := (∀ line ∈ output.splitOn 10, parsedLine parse line = none) ∧ trimUnits output ≠ []

/-- Nothing that reveals a secret is left of the output once the patterns are cut out
    of the summaries and details, or out of its head when it is no log. -/
def Contained (secrets : List JsText) (output : JsText) : Prop :=
  (∀ entry ∈ entries parse output, ∀ text ∈ remains secrets entry.1 entry.2, ¬ Reveals secrets output text) ∧
    (Unframed parse output → ∀ text ∈ headRemains secrets output, ¬ Reveals secrets output text)

end

/-- A secret that shares no character with the redaction is separate. -/
theorem separate_of_disjoint {secret : JsText} (disjoint : ∀ unit ∈ secret, unit ∉ redaction) : Separate secret :=
  fun _ part enough => .of_disjoint (Nat.lt_of_lt_of_le (by decide) enough) (by decide)
    fun unit member => disjoint unit (part.subset member)

/-! ### Redacting is cutting -/

section
variable {secrets : List JsText} (separate : ∀ secret ∈ secrets, Separate secret)

theorem redactSecrets_eq_maskAll (text : JsText) (secrets : List JsText) :
    redactSecrets text secrets = maskAll (patterns secrets) redaction text := by
  rw [redactSecrets, maskAll, patterns, List.foldl_flatMap]

/-- Every pattern is a part of a secret, long enough. -/
theorem mem_patterns {pattern : JsText} (member : pattern ∈ patterns secrets) :
    ∃ secret ∈ secrets, pattern <:+: secret ∧ minimumSecretPrefix ≤ pattern.length := by
  obtain ⟨secret, listed, own⟩ := List.mem_flatMap.mp member
  have kept := (List.mem_insertionSort _).mp listed
  obtain ⟨given, enough⟩ := List.mem_filter.mp kept
  have enough : minimumSecretPrefix ≤ secret.length := by simpa using enough
  refine ⟨secret, given, ?_⟩
  unfold patternsFor at own
  rcases List.mem_cons.mp own with rfl | start
  · exact ⟨List.infix_rfl, enough⟩
  · split at start
    · rw [List.mem_singleton.mp start]
      exact ⟨(List.take_prefix _ _).isInfix, by rw [List.length_take]; omega⟩
    · cases start

include separate in
theorem pieces_of_redacted (text : JsText) :
    redactSecrets text secrets = redaction.intercalate (pieces (patterns secrets) text) := by
  rw [redactSecrets_eq_maskAll]
  refine pieces_eq _ (fun pattern member => ?_) text
  obtain ⟨secret, given, part, enough⟩ := mem_patterns member
  refine ⟨separate secret given pattern part enough, ?_⟩
  rintro rfl
  cases enough

include separate in
/-- A redacted text reveals what its remains reveal. -/
theorem reveals_redacted (output text : JsText) :
    Reveals secrets output (redactSecrets text secrets) ↔ ∃ piece ∈ pieces (patterns secrets) text, Reveals secrets output piece := by
  constructor
  · rintro ⟨secret, given, occurs, run, part, enough, shown⟩
    have filled : run ≠ [] := by rintro rfl; cases enough
    rw [pieces_of_redacted separate, infix_intercalate (separate secret given run part enough) filled] at shown
    obtain ⟨piece, member, inside⟩ := shown
    exact ⟨piece, member, secret, given, occurs, run, part, enough, inside⟩
  · rintro ⟨piece, member, secret, given, occurs, run, part, enough, inside⟩
    have filled : run ≠ [] := by rintro rfl; cases enough
    refine ⟨secret, given, occurs, run, part, enough, ?_⟩
    rw [pieces_of_redacted separate, infix_intercalate (separate secret given run part enough) filled]
    exact ⟨piece, member, inside⟩

/-! ### The fields -/

theorem fieldTexts_ofJson (value : Json) : fieldTexts (.ofJson value) = shownBy value := by
  cases value <;> rfl

include separate in
/-- A message reveals what its remains reveal. -/
theorem reveals_field {value : Json} {field : Field} (read : redactField secrets value = .ok field) (output : JsText) :
    (∃ text ∈ fieldTexts field, Reveals secrets output text) ↔ ∃ text ∈ remainsOf secrets value, Reveals secrets output text := by
  cases value with
  | str text =>
    obtain rfl : Field.text (redactSecrets (units text) secrets) = field := Except.ok.inj read
    simp [fieldTexts, remainsOf, reveals_redacted separate]
  | null | bool _ | num _ | arr _ | obj _ =>
    simp only [redactField] at read
    split at read
    · obtain rfl := Except.ok.inj read
      rfl
    · cases read

include separate in
theorem reveals_diagnostic {line value : Json} {diagnostic : TerraformDiagnostic}
    (read : diagnosticOf secrets line value = .ok diagnostic) (output : JsText) :
    (∃ text ∈ diagnosticTexts diagnostic, Reveals secrets output text) ↔
      ∃ text ∈ remains secrets line value, Reveals secrets output text := by
  obtain ⟨summary, summarized, read⟩ := Tables.bind_ok read
  obtain ⟨detail, detailed, read⟩ := Tables.bind_ok read
  obtain rfl := Except.ok.inj read
  have summary_ := reveals_field separate summarized output
  have detail_ : (∃ text ∈ detail.toList.flatMap fieldTexts, Reveals secrets output text) ↔
      ∃ text ∈ (detailOf value).toList.flatMap (remainsOf secrets), Reveals secrets output text := by
    cases given : detailOf value with
    | none =>
      rw [given] at detailed
      obtain rfl := Except.ok.inj detailed
      rfl
    | some message =>
      rw [given] at detailed
      obtain ⟨field, redacted, detailed⟩ := Tables.bind_ok detailed
      obtain rfl := Except.ok.inj detailed
      simpa using reveals_field separate redacted output
  have address_ : ((addressOf value).map Field.ofJson).toList.flatMap fieldTexts = (addressOf value).toList.flatMap shownBy := by
    cases addressOf value with
    | none => rfl
    | some address => simp [fieldTexts_ofJson]
  simp only [diagnosticTexts, remains, List.mem_append, or_and_right, exists_or, fieldTexts_ofJson, address_, summary_, detail_]

end

/-! ### The lines -/

section
variable {parse : JsText → Option Json} {secrets : List JsText}

/-- One line: it may be JSON, and it may add a diagnostic. -/
theorem readLine_ok {line : JsText} {read result : Bool × List TerraformDiagnostic}
    (ran : readLine parse secrets read line = .ok result) :
    result.1 = (read.1 || (parsedLine parse line).isSome) ∧
      (entryOf parse line = none ∧ result.2 = read.2 ∨
        ∃ entry diagnostic, entryOf parse line = some entry ∧ diagnosticOf secrets entry.1 entry.2 = .ok diagnostic ∧
          result.2 = read.2 ++ [diagnostic]) := by
  unfold readLine at ran
  unfold entryOf parsedLine
  dsimp only at ran
  split at ran
  next other =>
    obtain rfl := Except.ok.inj ran
    simp [other]
  next framed =>
    rw [if_pos (not_not.mp framed)]
    split at ran
    next unread =>
      obtain rfl := Except.ok.inj ran
      simp [unread]
    next parsed same =>
      obtain ⟨found, looked, ran⟩ := Tables.bind_ok ran
      obtain ⟨-, rfl⟩ := Json.member_ok looked
      rw [same]
      cases told : (parsed.own "diagnostic").filter Json.truthy with
      | none =>
        rw [told] at ran
        obtain rfl := Except.ok.inj ran
        simp [told]
      | some value =>
        rw [told] at ran
        obtain ⟨diagnostic, made, ran⟩ := Tables.bind_ok ran
        obtain rfl := Except.ok.inj ran
        simp [told, made]

/-- All lines, by induction: each entry of the log gives its diagnostic. -/
theorem readLines_ok (lines : List JsText) : ∀ {read result : Bool × List TerraformDiagnostic},
    lines.foldlM (readLine parse secrets) read = .ok result →
      result.1 = (read.1 || lines.any fun line => (parsedLine parse line).isSome) ∧
        ∃ diagnostics, result.2 = read.2 ++ diagnostics ∧
          List.Forall₂ (fun entry diagnostic => diagnosticOf secrets entry.1 entry.2 = .ok diagnostic)
            (lines.filterMap (entryOf parse)) diagnostics := by
  induction lines with
  | nil =>
    intro read result ran
    obtain rfl := Except.ok.inj ran
    exact ⟨by simp, [], by simp, .nil⟩
  | cons line rest ih =>
    intro read result ran
    rw [List.foldlM_cons] at ran
    obtain ⟨next, one, ran⟩ := Tables.bind_ok ran
    obtain ⟨seen, more, added, forms⟩ := ih ran
    obtain ⟨now, told⟩ := readLine_ok one
    refine ⟨by rw [seen, now, List.any_cons, Bool.or_assoc], ?_⟩
    rcases told with ⟨silent, same⟩ | ⟨entry, diagnostic, spoke, made, same⟩
    · refine ⟨more, by rw [added, same], ?_⟩
      rwa [List.filterMap_cons_none silent]
    · refine ⟨diagnostic :: more, by rw [added, same, List.append_assoc]; rfl, ?_⟩
      rw [List.filterMap_cons_some spoke]
      exact .cons made forms

/-- Without a line of JSON there is no entry. -/
theorem entries_unframed {output : JsText} (unframed : Unframed parse output) : entries parse output = [] := by
  refine List.filterMap_eq_nil_iff.mpr fun line member => ?_
  rw [entryOf, unframed.1 line member]
  rfl

theorem parseDiagnostics_ok {output : JsText} {diagnostics : List TerraformDiagnostic}
    (parsed : parseDiagnostics parse secrets output = .ok diagnostics) :
    (Unframed parse output ∧ diagnostics = [{
        severity := .text (units "error"),
        summary := .text (units "Terraform produced no machine-readable diagnostics."),
        detail := some (.text (redactSecrets ((trimUnits output).take 2000) secrets)) }]) ∨
      (¬ Unframed parse output ∧
        List.Forall₂ (fun entry diagnostic => diagnosticOf secrets entry.1 entry.2 = .ok diagnostic)
          (entries parse output) diagnostics) := by
  obtain ⟨⟨saw, told⟩, read, parsed⟩ := Tables.bind_ok parsed
  obtain ⟨seen, _, rfl, forms⟩ := readLines_ok _ read
  have unframed_iff : Unframed parse output ↔ saw = false ∧ trimUnits output ≠ [] := by
    have : saw = (output.splitOn 10).any fun line => (parsedLine parse line).isSome := by simpa using seen
    rw [this, Unframed]
    simp
  dsimp only at parsed
  split at parsed
  next holds =>
    obtain rfl := Except.ok.inj parsed
    simp only [Bool.and_eq_true, decide_eq_true_eq, Bool.not_eq_true', List.isEmpty_iff] at holds
    exact .inl ⟨unframed_iff.mpr ⟨holds.1.2, holds.2⟩, rfl⟩
  next fails =>
    obtain rfl := Except.ok.inj parsed
    refine .inr ⟨fun unframed => fails ?_, forms⟩
    have none_ : told = [] := by
      have forms : List.Forall₂ _ (entries parse output) told := forms
      rw [entries_unframed unframed] at forms
      cases forms
      rfl
    obtain ⟨unseen, filled⟩ := unframed_iff.mp unframed
    simp [none_, unseen, filled]

section
variable (separate : ∀ secret ∈ secrets, Separate secret)
include separate

theorem redacted_entries {told : List (Json × Json)} {diagnostics : List TerraformDiagnostic} (output : JsText)
    (forms : List.Forall₂ (fun entry diagnostic => diagnosticOf secrets entry.1 entry.2 = .ok diagnostic) told diagnostics) :
    Redacted secrets output diagnostics ↔
      ∀ entry ∈ told, ∀ text ∈ remains secrets entry.1 entry.2, ¬ Reveals secrets output text := by
  induction forms with
  | nil => simp [Redacted]
  | cons made rest ih =>
    have head := reveals_diagnostic separate made output
    have head := not_congr head
    push Not at head
    simp only [Redacted, List.forall_mem_cons] at ih ⊢
    rw [ih, head]

/-- The redaction holds exactly when what it leaves reveals nothing. -/
theorem redacted_iff {output : JsText} {diagnostics : List TerraformDiagnostic}
    (parsed : parseDiagnostics parse secrets output = .ok diagnostics) :
    Redacted secrets output diagnostics ↔ Contained parse secrets output := by
  rcases parseDiagnostics_ok parsed with ⟨unframed, rfl⟩ | ⟨framed, forms⟩
  · have whole := not_congr (reveals_redacted separate output ((trimUnits output).take 2000))
    push Not at whole
    simp [Contained, Redacted, unframed, entries_unframed unframed, diagnosticTexts, fieldTexts, headRemains, whole]
  · simp only [Contained, framed, redacted_entries separate output forms, false_imp_iff, and_true]

end

end

/-! ### The credentials -/

section
variable {password : String → Option String} {decode : String → Option String}
  {configuration : TerraformRunnerConfiguration} {cloudInitPassword : String}

theorem carried_iff :
    Carried password decode configuration cloudInitPassword ↔ Known password decode configuration cloudInitPassword := by
  constructor
  · intro carried
    refine ⟨fun given => carried _ ?_, fun read same given undecoded => carried _ ?_⟩
    · simp [credentials, given]
    · simp [credentials, same, undecoded, given]
  · rintro ⟨known, backend⟩ credential member
    simp only [credentials, List.mem_filter, List.mem_filterMap, List.mem_cons, id_eq, decide_eq_true_eq] at member
    obtain ⟨⟨given, source, rfl⟩, filled⟩ := member
    rcases source with source | source | source | source | source
    · obtain ⟨read, same, decoded⟩ := Option.map_eq_some_iff.mp source.symm
      have same_ := same
      simp only [Option.filter_eq_some_iff, decide_eq_true_eq] at same_
      obtain ⟨same_, given⟩ := same_
      cases told : decode read with
      | none =>
        rw [told] at decoded
        exact decoded ▸ backend read same_ given told
      | some value =>
        rw [told] at decoded
        have kept : passwordOf password decode configuration.backendConnectionString = some credential := by
          rw [passwordOf, same, Option.bind_some, told]
          exact congrArg some decoded
        simp [secretsOf, kept, filled]
    · simp [secretsOf, ← source, filled]
    · simp [secretsOf, ← source, filled]
    · obtain rfl := Option.some.inj source
      exact known filled
    · cases source

end

/-! ### The result -/

section
variable {parse : JsText → Option Json} {secrets : List JsText} {output : JsText} {diagnostics : List TerraformDiagnostic}

end

/-- A runner with a token. -/
def sampleConfiguration : TerraformRunnerConfiguration where
  workingRoot := "/work"
  backendConnectionString := "postgres://terraform@database/state"
  providerEnvironment := [("PROXMOX_VE_API_TOKEN", "terraform@pve!plan=0123456789ABCDEFGHIJ")]

def sampleSecret : JsText := units "0123456789ABCDEFGHIJ"

/-- What is left of an output that shows all of the secret, or its first 16 characters. -/
def sampleDiagnostics (shown : String) : List TerraformDiagnostic :=
  [{ severity := .text (units "error"),
     summary := .text (units "Terraform produced no machine-readable diagnostics."), detail := some (.text (units shown)) }]

theorem sampleSecret_separate : ∀ secret ∈ [sampleSecret], Separate secret := by
  refine List.forall_mem_singleton.mpr (separate_of_disjoint fun unit member => ?_)
  have disjoint : sampleSecret.all (fun unit => !redaction.contains unit) = true := by decide +kernel
  simpa using List.all_eq_true.mp disjoint unit member

end ControlPlane.Redaction
