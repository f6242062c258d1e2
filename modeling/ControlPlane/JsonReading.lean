import ControlPlane.JsonTexts

/-!
The values that `JSON.parse` reads. One machine takes the characters of a text and
gives its tokens, and another one takes the tokens and builds a value; what
`JSON.stringify` writes is read back (`parse_serialize`).
-/
namespace ControlPlane.JsonReading
open ControlPlane.JsonTexts

/-- A value that was read. A number is given by its literal, and an object by its
    members in the order of the text. -/
inductive Json
  | null
  | bool (value : Bool)
  | number (literal : List Char)
  | string (value : String)
  | array (items : List Json)
  | object (members : List (String × Json))

/-- The value of a property: the last member with its key. -/
def Json.property (key : String) : Json → Option Json
  | object members => members.reverse.lookup key
  | _ => none

/-! ### Numbers -/

def isDecimal (c : Char) : Bool := '0' ≤ c && c ≤ '9'

/-- Digits, at least one. -/
def isDigits (text : List Char) : Bool := text ≠ [] && text.all isDecimal

/-- A text without its sign. -/
def unsigned (isSign : Char → Bool) : List Char → List Char
  | c :: rest => if isSign c then rest else c :: rest
  | [] => []

/-- Nothing, or an exponent. -/
def isExponent : List Char → Bool
  | [] => true
  | c :: rest => (c = 'e' || c = 'E') && isDigits (unsigned (fun sign => sign = '+' || sign = '-') rest)

/-- Nothing, or a fraction, an exponent, or both. -/
def isTail : List Char → Bool
  | '.' :: rest => isDigits (rest.takeWhile isDecimal) && isExponent (rest.dropWhile isDecimal)
  | rest => isExponent rest

/-- The literals of numbers. -/
def isNumberText (text : List Char) : Bool :=
  let natural := unsigned (· = '-') text
  let whole := natural.takeWhile isDecimal
  isDigits whole && (whole.head? ≠ some '0' || whole.length = 1) && isTail (natural.dropWhile isDecimal)

/-! ### Tokens -/

inductive Token
  | word (value : Json)
  | text (value : String)
  | openArray
  | closeArray
  | openObject
  | closeObject
  | comma
  | colon

/-- Where the first machine stands: between tokens, in a word, in a string, behind a
    backslash in a string, or among the digits of a code unit. -/
inductive Mode
  | between
  | word (read : List Char)
  | text (codes : List Nat)
  | escape (codes : List Nat)
  | unit (codes digits : List Nat)

def isSpace (c : Char) : Bool := c = ' ' || c = '\t' || c = '\n' || c = '\r'

/-- The token that a character is by itself. -/
def mark (c : Char) : Option Token :=
  if c = '[' then some .openArray
  else if c = ']' then some .closeArray
  else if c = '\x7b' then some .openObject
  else if c = '\x7d' then some .closeObject
  else if c = ',' then some .comma
  else if c = ':' then some .colon
  else none

/-- Whether a word ends before a character. -/
def isDelimiter (c : Char) : Bool := isSpace c || c = '"' || (mark c).isSome

def wordValue (word : List Char) : Option Json :=
  if word = "null".toList then some .null
  else if word = "true".toList then some (.bool true)
  else if word = "false".toList then some (.bool false)
  else if isNumberText word then some (.number word)
  else none

def isHigh (code : Nat) : Bool := 0xd800 ≤ code && code < 0xdc00
def isLow (code : Nat) : Bool := 0xdc00 ≤ code && code < 0xe000

/-- The character of a code; half of a pair is written as the replacement character. -/
def scalar (code : Nat) : Char := if isHigh code || isLow code then '\ufffd' else Char.ofNat code

/-- The characters of a string, from codes that may be halves of pairs. -/
def join : List Nat → List Char
  | [] => []
  | [code] => [scalar code]
  | code :: next :: rest =>
    if isHigh code && isLow next then Char.ofNat (0x10000 + (code - 0xd800) * 0x400 + (next - 0xdc00)) :: join rest
    else scalar code :: join (next :: rest)

def hexValue (c : Char) : Option Nat :=
  if isDecimal c then some (c.toNat - '0'.toNat)
  else if 'a' ≤ c && c ≤ 'f' then some (c.toNat - 'a'.toNat + 10)
  else if 'A' ≤ c && c ≤ 'F' then some (c.toNat - 'A'.toNat + 10)
  else none

/-- The code of the character that stands behind a backslash. -/
def escapeCode (c : Char) : Option Nat :=
  if c = '"' || c = '\\' || c = '/' then some c.toNat
  else if c = 'b' then some 8
  else if c = 'f' then some 12
  else if c = 'n' then some 10
  else if c = 'r' then some 13
  else if c = 't' then some 9
  else none

/-- A character between tokens. -/
def opening (c : Char) : List Token × Mode :=
  if isSpace c then ([], .between)
  else if c = '"' then ([], .text [])
  else ((mark c).elim ([], .word [c])) fun token => ([token], .between)

/-- The tokens that a character completes, and the next mode. -/
def take : Mode → Char → Option (List Token × Mode)
  | .between, c => some (opening c)
  | .word read, c =>
    if isDelimiter c then (wordValue read).map fun value => (.word value :: (opening c).1, (opening c).2)
    else some ([], .word (read ++ [c]))
  | .text codes, c =>
    if c = '"' then some ([.text (String.ofList (join codes))], .between)
    else if c = '\\' then some ([], .escape codes)
    else if c.toNat < 32 then none
    else some ([], .text (codes ++ [c.toNat]))
  | .escape codes, c =>
    if c = 'u' then some ([], .unit codes [])
    else (escapeCode c).map fun code => ([], .text (codes ++ [code]))
  | .unit codes digits, c =>
    (hexValue c).map fun digit =>
      if digits.length = 3 then ([], .text (codes ++ [(digits ++ [digit]).foldl (fun code digit => 16 * code + digit) 0]))
      else ([], .unit codes (digits ++ [digit]))

def scan : Mode → List Char → Option (List Token × Mode)
  | mode, [] => some ([], mode)
  | mode, c :: rest =>
    (take mode c).bind fun taken => (scan taken.2 rest).map fun later => (taken.1 ++ later.1, later.2)

/-- The token that the end of the text completes. -/
def ending : Mode → Option (List Token)
  | .between => some []
  | .word read => (wordValue read).map fun value => [.word value]
  | _ => none

/-- The tokens of a text. -/
def tokens (text : List Char) : Option (List Token) :=
  (scan .between text).bind fun scanned => (ending scanned.2).map (scanned.1 ++ ·)

/-! ### Values -/

/-- An array or an object that is not closed yet. -/
inductive Frame
  | array (items : List Json)
  | object (members : List (String × Json)) (key : String)

/-- Where the second machine stands: a value has to come, or a value or the end of
    an array; an item was read; a key or the end of an object has to come, or a key,
    or the colon after a key; a member was read; or the whole value was. -/
inductive State
  | value (frames : List Frame)
  | first (frames : List Frame)
  | item (items : List Json) (frames : List Frame)
  | opened (frames : List Frame)
  | key (members : List (String × Json)) (frames : List Frame)
  | colon (members : List (String × Json)) (key : String) (frames : List Frame)
  | member (members : List (String × Json)) (frames : List Frame)
  | done (value : Json)

def deliver (value : Json) : List Frame → State
  | [] => .done value
  | .array items :: frames => .item (items ++ [value]) frames
  | .object members key :: frames => .member (members ++ [(key, value)]) frames

/-- A token that a value begins with. -/
def begin_ (frames : List Frame) : Token → Option State
  | .word value => some (deliver value frames)
  | .text value => some (deliver (.string value) frames)
  | .openArray => some (.first frames)
  | .openObject => some (.opened frames)
  | _ => none

def build : State → Token → Option State
  | .value frames, token => begin_ frames token
  | .first frames, .closeArray => some (deliver (.array []) frames)
  | .first frames, token => begin_ (.array [] :: frames) token
  | .item items frames, .comma => some (.value (.array items :: frames))
  | .item items frames, .closeArray => some (deliver (.array items) frames)
  | .opened frames, .closeObject => some (deliver (.object []) frames)
  | .opened frames, .text key => some (.colon [] key frames)
  | .key members frames, .text key => some (.colon members key frames)
  | .colon members key frames, .colon => some (.value (.object members key :: frames))
  | .member members frames, .comma => some (.key members frames)
  | .member members frames, .closeObject => some (deliver (.object members) frames)
  | _, _ => none

def State.result : State → Option Json
  | .done whole => some whole
  | _ => none

/-- `JSON.parse(text)`. -/
def parse (text : List Char) : Option Json :=
  (tokens text).bind fun listed => (listed.foldlM build (.value [])).bind State.result

/-! ### Tokens of texts -/

section
variable {text rest : List Char} {listed : List Token} {c : Char} {mode : Mode}

theorem scan_append (mode : Mode) (left right : List Char) : scan mode (left ++ right) =
    (scan mode left).bind fun scanned => (scan scanned.2 right).map fun later => (scanned.1 ++ later.1, later.2) := by
  induction left generalizing mode with
  | nil => simp [scan]
  | cons c left ih =>
    simp only [List.cons_append, scan]
    cases take mode c with
    | none => rfl
    | some taken =>
      simp only [Option.bind_some, ih]
      cases scan taken.2 left with
      | none => rfl
      | some scanned =>
        simp only [Option.bind_some, Option.map_some, Option.map_map, Function.comp_def, List.append_assoc]

/-- A delimiter completes what the end of the text would. -/
theorem take_delimiter {completed : List Token} (ends : ending mode = some completed) (delimiter : isDelimiter c = true) :
    take mode c = some (completed ++ (opening c).1, (opening c).2) := by
  cases mode with
  | between =>
    obtain rfl : [] = completed := Option.some.inj ends
    rfl
  | word read =>
    obtain ⟨value, known, rfl⟩ := Option.map_eq_some_iff.1 ends
    rw [take, if_pos delimiter, known]
    rfl
  | text codes => cases ends
  | escape codes => cases ends
  | unit codes digits => cases ends

/-- The tokens before a delimiter are those of the text before it. -/
theorem tokens_delimited (before : tokens text = some listed) (delimiter : isDelimiter c = true) :
    tokens (text ++ c :: rest) = (tokens (c :: rest)).map (listed ++ ·) := by
  rw [tokens, Option.bind_eq_some_iff] at before
  obtain ⟨⟨scanned, mode⟩, run, ended⟩ := before
  obtain ⟨completed, ends, rfl⟩ := Option.map_eq_some_iff.1 ended
  have later : scan mode (c :: rest) = (scan .between (c :: rest)).map fun later => (completed ++ later.1, later.2) := by
    have taken : take .between c = some (opening c) := rfl
    rw [scan, scan, take_delimiter ends delimiter, taken, Option.bind_some, Option.bind_some, Option.map_map]
    simp only [Function.comp_def, List.append_assoc]
  rw [tokens, scan_append, run, Option.bind_some, later, tokens]
  cases scan .between (c :: rest) with
  | none => rfl
  | some later =>
    simp only [Option.map_some, Option.bind_some, Option.map_map, Function.comp_def, List.append_assoc]

theorem tokens_mark {token : Token} (marked : mark c = some token) (plain : isSpace c = false) (apart : c ≠ '"') :
    tokens (c :: rest) = (tokens rest).map (token :: ·) := by
  have opened : opening c = ([token], .between) := by
    rw [opening, plain, if_neg Bool.false_ne_true, if_neg apart, marked]
    rfl
  rw [tokens, tokens, scan, take, opened, Option.bind_some]
  cases scan .between rest with
  | none => rfl
  | some later => simp only [Option.map_some, Option.bind_some, Option.map_map, Function.comp_def, List.cons_append, List.nil_append]

theorem scan_word {read word : List Char} (whole : ∀ c ∈ word, isDelimiter c = false) :
    scan (.word read) word = some ([], .word (read ++ word)) := by
  induction word generalizing read with
  | nil => simp [scan]
  | cons c word ih =>
    rw [List.forall_mem_cons] at whole
    simp [scan, take, whole.1, ih whole.2]

theorem tokens_word {word : List Char} {value : Json} (some_ : word ≠ []) (whole : ∀ c ∈ word, isDelimiter c = false)
    (known : wordValue word = some value) : tokens word = some [.word value] := by
  cases word with
  | nil => exact absurd rfl some_
  | cons c word =>
    rw [List.forall_mem_cons] at whole
    have opened : opening c = ([], .word [c]) := by
      have apart := whole.1
      simp only [isDelimiter, Bool.or_eq_false_iff, decide_eq_false_iff_not, Option.isSome_eq_false_iff, Option.isNone_iff_eq_none] at apart
      rw [opening, apart.1.1, if_neg Bool.false_ne_true, if_neg apart.1.2, apart.2]
      rfl
    simp [tokens, scan, take, opened, scan_word whole.2, ending, known]

end

/-! ### Strings -/

theorem join_toNat (characters : List Char) : join (characters.map Char.toNat) = characters := by
  have plain : ∀ c : Char, isHigh c.toNat = false ∧ scalar c.toNat = c := by
    intro c
    have valid : c.toNat < 0xd800 ∨ 0xdfff < c.toNat := by
      rcases c.valid with low | high
      · exact Or.inl low
      · exact Or.inr high.1
    have high : isHigh c.toNat = false := by
      simp only [isHigh, Bool.and_eq_false_iff, decide_eq_false_iff_not]
      omega
    have low : isLow c.toNat = false := by
      simp only [isLow, Bool.and_eq_false_iff, decide_eq_false_iff_not]
      omega
    refine ⟨high, ?_⟩
    rw [scalar, high, low, if_neg (by decide), Char.ofNat_toNat]
  induction characters with
  | nil => rfl
  | cons c rest ih =>
    cases rest with
    | nil => rw [List.map_cons, List.map_nil, join, (plain c).2]
    | cons d rest =>
      rw [List.map_cons, List.map_cons, join, (plain c).1, Bool.false_and, if_neg Bool.false_ne_true, (plain c).2,
        ← List.map_cons, ih]

theorem hexValue_hexDigit : ∀ digit < 16, hexValue (hexDigit digit) = some digit := by decide

theorem scan_escape (codes : List Nat) (c : Char) :
    scan (.text codes) (escape c) = some ([], .text (codes ++ [c.toNat])) := by
  unfold escape
  split
  next quote =>
    subst quote
    rfl
  next quote =>
    split
    next slash =>
      subst slash
      rfl
    next slash =>
      split
      next special =>
        subst special
        rfl
      next =>
        split
        next special =>
          subst special
          rfl
        next =>
          split
          next special =>
            subst special
            rfl
          next =>
            split
            next special =>
              subst special
              rfl
            next =>
              split
              next special =>
                subst special
                rfl
              next =>
                split
                next control =>
                  have high := hexValue_hexDigit (c.toNat / 16) (by omega)
                  have low := hexValue_hexDigit (c.toNat % 16) (by omega)
                  have zero : hexValue '0' = some 0 := rfl
                  have code : 16 * (c.toNat / 16) + c.toNat % 16 = c.toNat := Nat.div_add_mod _ _
                  simp [scan, take, zero, high, low, code]
                next printing => simp [scan, take, quote, slash, printing]

theorem scan_quotedAfter (codes : List Nat) (characters : List Char) : scan (.text codes) (quotedAfter characters) =
    some ([.text (String.ofList (join (codes ++ characters.map Char.toNat)))], .between) := by
  induction characters generalizing codes with
  | nil => simp [quotedAfter, scan, take]
  | cons c characters ih =>
    have split : quotedAfter (c :: characters) = escape c ++ quotedAfter characters := by simp [quotedAfter]
    rw [split, scan_append, scan_escape, Option.bind_some, ih]
    simp

/-- A string literal is one token, whatever follows. -/
theorem tokens_quoted (text : String) (rest : List Char) :
    tokens (quoted text ++ rest) = (tokens rest).map (.text text :: ·) := by
  have literal : scan .between (quoted text) = some ([.text text], .between) := by
    have opened : take .between '"' = some ([], .text []) := rfl
    rw [quoted, scan, opened, Option.bind_some, scan_quotedAfter, List.nil_append, join_toNat, String.ofList_toList]
    rfl
  rw [tokens, scan_append, literal, Option.bind_some, tokens]
  cases scan .between rest with
  | none => rfl
  | some later => simp [Option.map_map, Function.comp_def]

/-! ### What was written -/

mutual

/-- The value that the text of a value says. -/
def parsed : Value → Json
  | .undefined | .null => .null
  | .bool value => .bool value
  | .number value => .number value.printed
  | .string value => .string value
  | .array items => .array (parsedItems items)
  | .object entries => .object (parsedMembers entries)

def parsedItems : List Value → List Json
  | [] => []
  | item :: rest => parsed item :: parsedItems rest

def parsedMembers : List (String × Value) → List (String × Json)
  | [] => []
  | (key, value) :: rest => (key, parsed value) :: parsedMembers rest

end

theorem parsedItems_eq (items : List Value) : parsedItems items = items.map parsed := by
  induction items with
  | nil => rfl
  | cons item rest ih => rw [parsedItems, ih, List.map_cons]

theorem parsedMembers_eq (entries : List (String × Value)) :
    parsedMembers entries = entries.map fun entry => (entry.1, parsed entry.2) := by
  induction entries with
  | nil => rfl
  | cons entry rest ih => rw [parsedMembers, ih, List.map_cons]

/-- A value without undefined parts whose numbers print as literals. -/
def Written : Value → Prop :=
  Value.Every fun
    | .undefined => False
    | .number value => isNumberText value.printed = true
    | _ => True

/-- Tokens that build a value wherever one has to come. -/
structure Denotes (listed : List Token) (value : Json) : Prop where
  builds : ∀ frames rest, (listed ++ rest).foldlM build (.value frames) = rest.foldlM build (deliver value frames)
  begins : ∀ frames rest, (listed ++ rest).foldlM build (.first frames) = rest.foldlM build (deliver value (.array [] :: frames))

/-- A text whose tokens build a value. -/
def ReadAs (text : List Char) (value : Json) : Prop := ∃ listed, tokens text = some listed ∧ Denotes listed value

/-- One token that is a value. -/
theorem denotes_token {token : Token} {value : Json}
    (begins : ∀ frames, begin_ frames token = some (deliver value frames)) : Denotes [token] value := by
  have starts : ∀ frames, build (.value frames) token = some (deliver value frames) := fun frames => begins frames
  have first : ∀ frames, build (.first frames) token = some (deliver value (.array [] :: frames)) := by
    intro frames
    rw [← begins]
    cases token with
    | closeArray => cases begins []
    | _ => rfl
  exact ⟨fun frames rest => by simp [starts], fun frames rest => by simp [first]⟩

theorem readAs_word {word : List Char} {value : Json} (some_ : word ≠ []) (whole : ∀ c ∈ word, isDelimiter c = false)
    (known : wordValue word = some value) : ReadAs word value :=
  ⟨_, tokens_word some_ whole known, denotes_token fun _ => rfl⟩

/-- No delimiter stands in a word. -/
theorem whole_of_all {word : List Char} (checked : (word.all fun c => !isDelimiter c) = true) :
    ∀ c ∈ word, isDelimiter c = false := by
  intro c listed
  simpa using List.all_eq_true.1 checked c listed

theorem numeric_whole : ∀ c ∈ numeric, isDelimiter c = false := whole_of_all (by decide +kernel)

theorem readAs_number {value : Numeral} (literal : isNumberText value.printed = true) :
    ReadAs value.printed (.number value.printed) := by
  refine readAs_word value.nonempty (fun c listed => numeric_whole c (value.valid c listed)) ?_
  have other : ∀ word : List Char, isNumberText word = false → value.printed ≠ word := by
    rintro word differs same
    rw [same, differs] at literal
    cases literal
  rw [wordValue, if_neg (other _ (by decide)), if_neg (other _ (by decide)), if_neg (other _ (by decide)), if_pos literal]

section
variable {items : List Value} {entries : List (String × Value)}

/-- What follows a part of an array or an object begins with a delimiter. -/
theorem following_delimited {close : Char} (delimiter : isDelimiter close = true) (texts : List (List Char)) :
    ∃ c tail, texts.flatMap (',' :: ·) ++ [close] = c :: tail ∧ isDelimiter c = true := by
  cases texts with
  | nil => exact ⟨close, [], rfl, delimiter⟩
  | cons text texts => exact ⟨',', _, rfl, rfl⟩

/-- The rest of an array, after one of its items. -/
theorem items_read (each : ∀ item ∈ items, ReadAs item.serialize (parsed item)) :
    ∃ listed, tokens ((items.map Value.serialize).flatMap (',' :: ·) ++ [']']) = some listed ∧
      ∀ before frames rest, (listed ++ rest).foldlM build (.item before frames) =
        rest.foldlM build (deliver (.array (before ++ items.map parsed)) frames) := by
  induction items with
  | nil => exact ⟨[.closeArray], rfl, fun before frames rest => by simp [build]⟩
  | cons item items ih =>
    rw [List.forall_mem_cons] at each
    obtain ⟨first, text, own⟩ := each.1
    obtain ⟨others, texts, later⟩ := ih each.2
    refine ⟨.comma :: (first ++ others), ?_, fun before frames rest => ?_⟩
    · rw [List.map_cons, List.flatMap_cons, List.cons_append, List.cons_append, tokens_mark rfl rfl (by decide), List.append_assoc]
      obtain ⟨c, tail, split, delimiter⟩ := @following_delimited ']' rfl (items.map Value.serialize)
      rw [split, tokens_delimited text delimiter, ← split, texts]
      rfl
    · have next : build (.item before frames) .comma = some (.value (.array before :: frames)) := rfl
      simp only [List.cons_append, List.append_assoc, List.foldlM_cons, next, Option.bind_eq_bind, Option.bind_some, own.builds]
      rw [deliver, later]
      simp

theorem array_read (each : ∀ item ∈ items, ReadAs item.serialize (parsed item)) :
    ReadAs (Value.array items).serialize (parsed (.array items)) := by
  rw [Value.serialize, Value.itemTexts_eq, parsed, parsedItems_eq]
  cases items with
  | nil => exact ⟨[.openArray, .closeArray], rfl, fun frames rest => rfl, fun frames rest => rfl⟩
  | cons item items =>
    rw [List.forall_mem_cons] at each
    obtain ⟨first, text, own⟩ := each.1
    obtain ⟨others, texts, later⟩ := items_read each.2
    obtain ⟨c, tail, split, delimiter⟩ := @following_delimited ']' rfl (items.map Value.serialize)
    refine ⟨.openArray :: (first ++ others), ?_, fun frames rest => ?_, fun frames rest => ?_⟩
    · rw [List.map_cons, joined, tokens_mark rfl rfl (by decide), List.append_assoc, split, tokens_delimited text delimiter, ← split, texts]
      rfl
    all_goals
      simp only [List.cons_append, List.append_assoc, List.foldlM_cons, build, begin_, Option.bind_eq_bind, Option.bind_some, own.begins]
      rw [deliver, later]
      rfl

/-- A member before a delimiter, after the opening brace or a comma. -/
theorem member_read {entry : String × Value} (read : ReadAs entry.2.serialize (parsed entry.2)) :
    ∃ listed, (∀ c tail, isDelimiter c = true →
        tokens (Value.member entry ++ c :: tail) = (tokens (c :: tail)).map (listed ++ ·)) ∧
      (∀ frames rest, (listed ++ rest).foldlM build (.opened frames) =
        rest.foldlM build (.member [(entry.1, parsed entry.2)] frames)) ∧
      ∀ before frames rest, (listed ++ rest).foldlM build (.key before frames) =
        rest.foldlM build (.member (before ++ [(entry.1, parsed entry.2)]) frames) := by
  obtain ⟨listed, text, own⟩ := read
  have value : ∀ before frames rest, (.colon :: (listed ++ rest)).foldlM build (.colon before entry.1 frames) =
      rest.foldlM build (.member (before ++ [(entry.1, parsed entry.2)]) frames) := by
    intro before frames rest
    have next : build (.colon before entry.1 frames) .colon = some (.value (.object before entry.1 :: frames)) := rfl
    rw [List.foldlM_cons, next, Option.bind_eq_bind, Option.bind_some, own.builds, deliver]
  refine ⟨.text entry.1 :: .colon :: listed, fun c tail delimiter => ?_, fun frames rest => ?_, fun before frames rest => ?_⟩
  · rw [Value.member, List.append_assoc, tokens_quoted, List.cons_append, tokens_mark rfl rfl (by decide),
      tokens_delimited text delimiter, Option.map_map, Option.map_map]
    rfl
  · exact value [] frames rest
  · exact value before frames rest

/-- The rest of an object, after one of its members. -/
theorem members_read (each : ∀ entry ∈ entries, ReadAs entry.2.serialize (parsed entry.2)) :
    ∃ listed, tokens ((entries.map Value.member).flatMap (',' :: ·) ++ ['\x7d']) = some listed ∧
      ∀ before frames rest, (listed ++ rest).foldlM build (.member before frames) =
        rest.foldlM build (deliver (.object (before ++ entries.map fun entry => (entry.1, parsed entry.2))) frames) := by
  induction entries with
  | nil => exact ⟨[.closeObject], rfl, fun before frames rest => by simp [build]⟩
  | cons entry entries ih =>
    rw [List.forall_mem_cons] at each
    obtain ⟨first, text, -, own⟩ := member_read each.1
    obtain ⟨others, texts, later⟩ := ih each.2
    refine ⟨.comma :: (first ++ others), ?_, fun before frames rest => ?_⟩
    · obtain ⟨c, tail, split, delimiter⟩ := @following_delimited '\x7d' rfl (entries.map Value.member)
      rw [List.map_cons, List.flatMap_cons, List.cons_append, List.cons_append, tokens_mark rfl rfl (by decide),
        List.append_assoc, split, text c tail delimiter, ← split, texts]
      rfl
    · have next : build (.member before frames) .comma = some (.key before frames) := rfl
      simp only [List.cons_append, List.append_assoc, List.foldlM_cons, next, Option.bind_eq_bind, Option.bind_some, own]
      rw [later]
      simp

theorem object_read (defined : ∀ entry ∈ entries, entry.2 ≠ .undefined)
    (each : ∀ entry ∈ entries, ReadAs entry.2.serialize (parsed entry.2)) :
    ReadAs (Value.object entries).serialize (parsed (.object entries)) := by
  rw [Value.serialize, Value.memberTexts_eq defined, parsed, parsedMembers_eq]
  cases entries with
  | nil => exact ⟨[.openObject, .closeObject], rfl, fun frames rest => rfl, fun frames rest => rfl⟩
  | cons entry entries =>
    rw [List.forall_mem_cons] at each
    obtain ⟨first, text, own, -⟩ := member_read each.1
    obtain ⟨others, texts, later⟩ := members_read each.2
    obtain ⟨c, tail, split, delimiter⟩ := @following_delimited '\x7d' rfl (entries.map Value.member)
    refine ⟨.openObject :: (first ++ others), ?_, fun frames rest => ?_, fun frames rest => ?_⟩
    · rw [List.map_cons, joined, tokens_mark rfl rfl (by decide), List.append_assoc, split, text c tail delimiter, ← split, texts]
      rfl
    all_goals
      simp only [List.cons_append, List.append_assoc, List.foldlM_cons, build, begin_, Option.bind_eq_bind, Option.bind_some, own]
      rw [later]
      rfl

end

theorem Written.defined {value : Value} (written : Written value) : value ≠ .undefined := by
  rintro rfl
  exact written

theorem serialize_read {value : Value} (written : Written value) : ReadAs value.serialize (parsed value) := by
  induction value using Value.induct with
  | undefined => exact absurd rfl written.defined
  | null => exact readAs_word (by decide) (whole_of_all (by decide +kernel)) rfl
  | bool value => cases value <;> exact readAs_word (by decide) (whole_of_all (by decide +kernel)) rfl
  | number value => exact readAs_number written
  | string value =>
    have text := tokens_quoted value []
    rw [List.append_nil] at text
    exact ⟨[.text value], text, denotes_token fun _ => rfl⟩
  | array items ih => exact array_read fun item listed => ih item listed ((Value.every_array.1 written).2 item listed)
  | object entries ih =>
    have inside := (Value.every_object.1 written).2
    exact object_read (fun entry listed => Written.defined (inside entry listed)) fun entry listed => ih entry listed (inside entry listed)

/-- `JSON.parse` reads what `JSON.stringify` wrote. -/
theorem parse_serialize {value : Value} (written : Written value) : parse value.serialize = some (parsed value) := by
  obtain ⟨listed, text, own⟩ := serialize_read written
  have built := own.builds [] []
  rw [List.append_nil] at built
  rw [parse, text, Option.bind_some, built]
  rfl

end ControlPlane.JsonReading
