import Mathlib.Data.List.Sort
import ControlPlane.JsonValues
import ControlPlane.Masking
import ControlPlane.Texts

/-!
The diagnostics that are kept of a Terraform run, and how secrets are redacted
out of them. A text of the language is a list of UTF-16 code units.
-/
namespace ControlPlane.Diagnostics
open ControlPlane.JsonValues ControlPlane.Masking ControlPlane.Texts

abbrev JsText : Type := List UInt16

/-- The code units of a text. -/
def units (text : String) : JsText :=
  text.toList.flatMap fun c =>
    let point := c.toNat
    if point < 0x10000 then [UInt16.ofNat point]
    else [UInt16.ofNat (0xD800 + (point - 0x10000) / 0x400), UInt16.ofNat (0xDC00 + (point - 0x10000) % 0x400)]

/-- A field of a diagnostic. JSON gives other values than texts. -/
inductive Field
  | text (value : JsText)
  | other (value : Json)

def Field.ofJson : Json → Field
  | .str value => .text (units value)
  | value => .other value

/-- One diagnostic, reduced to what is kept. -/
structure TerraformDiagnostic where
  severity : Field
  summary : Field
  detail : Option Field := none
  address : Option Field := none

/-! ### Redaction -/

def redaction : JsText := units "<redacted>"

/-- The shortest part of a secret that is redacted on its own. -/
def minimumSecretPrefix : Nat := 8

/-- A secret and its truncated start, in the order in which they are replaced. -/
def patternsFor (secret : JsText) : List JsText :=
  secret :: if secret.length > minimumSecretPrefix then [secret.take minimumSecretPrefix] else []

/-- The secrets that are redacted, longest first. -/
def usable (secrets : List JsText) : List JsText :=
  (secrets.filter fun secret => minimumSecretPrefix ≤ secret.length).insertionSort fun left right =>
    right.length ≤ left.length

def redactSecrets (text : JsText) (secrets : List JsText) : JsText :=
  (usable secrets).foldl
    (fun result secret => (patternsFor secret).foldl (fun result pattern => mask pattern redaction result) result) text

/-! ### Parsing -/

/-- White space, by code unit. -/
def isSpaceUnit (unit : UInt16) : Bool := isWhiteSpace (Char.ofNat unit.toNat)

def trimUnits (text : JsText) : JsText := ((text.dropWhile isSpaceUnit).reverse.dropWhile isSpaceUnit).reverse

/-! The fields of a line of the log and its diagnostic. -/

def severityOf (line diagnostic : Json) : Json :=
  Json.coalesce (Json.coalesce (.str "error") (line.own "@level")) (diagnostic.own "severity")

def summaryOf (line diagnostic : Json) : Json :=
  Json.coalesce (Json.coalesce (.str "") (line.own "@message")) (diagnostic.own "summary")

def detailOf (diagnostic : Json) : Option Json := (diagnostic.own "detail").filter Json.truthy

def addressOf (diagnostic : Json) : Option Json := (diagnostic.own "address").filter Json.truthy

section
variable (parse : JsText → Option Json) (secrets : List JsText)

/-- A message that is redacted. What is no text has no `replace`. -/
def redactField : Json → Evaluated Field
  | .str text => return .text (redactSecrets (units text) secrets)
  | value => if usable secrets = [] then return .other value else throw ⟨⟩

/-- The diagnostic of a line of the log. -/
def diagnosticOf (line diagnostic : Json) : Evaluated TerraformDiagnostic := do
  let summary ← redactField secrets (summaryOf line diagnostic)
  let detail ← (detailOf diagnostic).mapM (redactField secrets)
  return { severity := .ofJson (severityOf line diagnostic), summary, detail, address := (addressOf diagnostic).map .ofJson }

/-- One line of the output: whether any was JSON so far, and the diagnostics. -/
def readLine (read : Bool × List TerraformDiagnostic) (line : JsText) : Evaluated (Bool × List TerraformDiagnostic) :=
  let trimmed := trimUnits line
  if trimmed.head? ≠ some 0x7b then return read
  else
    match parse trimmed with
    | none => return read
    | some parsed => do
      match (← parsed.member "diagnostic").filter Json.truthy with
      | none => return (true, read.2)
      | some diagnostic => return (true, read.2 ++ [← diagnosticOf secrets parsed diagnostic])

def parseDiagnostics (output : JsText) : Evaluated (List TerraformDiagnostic) := do
  let (sawJson, diagnostics) ← (output.splitOn 10).foldlM (readLine parse secrets) (false, [])
  if diagnostics.isEmpty && !sawJson && trimUnits output ≠ [] then
    return [{ severity := .text (units "error"),
              summary := .text (units "Terraform produced no machine-readable diagnostics."),
              detail := some (.text (redactSecrets ((trimUnits output).take 2000) secrets)) }]
  else return diagnostics

end

/-! ### The secrets of a runner -/

/-- What the runner is configured with. -/
structure TerraformRunnerConfiguration where
  workingRoot : String
  backendConnectionString : String
  providerEnvironment : List (String × String)

section
variable (password : String → Option String) (decode : String → Option String)
  (configuration : TerraformRunnerConfiguration)

/-- The password of a connection string, where `password` reads the one of a URL and
    `decode` is `decodeURIComponent`. -/
def passwordOf (connectionString : String) : Option String :=
  ((password connectionString).filter (· ≠ "")).bind decode

/-- The secret half of the token. -/
def tokenSecret : Option String :=
  (configuration.providerEnvironment.lookup "PROXMOX_VE_API_TOKEN").bind fun token => (split '=' token).getLast?

/-- What must not appear in retained output. -/
def secretsOf : List String :=
  ([passwordOf password decode configuration.backendConnectionString, tokenSecret configuration,
    configuration.providerEnvironment.lookup "PROXMOX_VE_PASSWORD"].filterMap id).filter (· ≠ "")

end

end ControlPlane.Diagnostics
