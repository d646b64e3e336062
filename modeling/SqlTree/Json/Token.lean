import SqlTree.Json.Numeral

/-!
# Tokens of JSON text

The tokens of JSON text, read one character at a time by a machine whose state is what it is in the
middle of (`Mode`). The reading is strict: only space, tab, line feed and carriage return separate
tokens, strings hold no raw control character, escapes are the eight of the format, and an escaped
surrogate stands in a pair. Text with anything else has no tokens.
-/

namespace SqlTree.Json

/-- A token of JSON text. -/
inductive Token where
  | openArray
  | closeArray
  | openObject
  | closeObject
  | comma
  | colon
  | null
  | bool (value : Bool)
  | number (value : Number)
  | string (value : String)

/-- What the reader is in the middle of. Characters seen of the current token stand last first. -/
inductive Mode where
  /-- Between tokens. -/
  | gap
  /-- In a run of letters. -/
  | word (seen : List Char)
  /-- In a number literal. -/
  | numeral (seen : List Char)
  /-- In a string. -/
  | string (seen : List Char)
  /-- After the backslash of an escape. -/
  | escape (seen : List Char)
  /-- In the digits of an escaped code unit: those still to come, the value so far, and the high
  surrogate that the unit has to complete, if any. -/
  | unit (seen : List Char) (high : Option Nat) (left value : Nat)
  /-- After a high surrogate, where the backslash of the low one must follow. -/
  | half (seen : List Char) (high : Nat)
  /-- After that backslash, where the letter `u` must follow. -/
  | halfEscape (seen : List Char) (high : Nat)

/-- The characters that may stand between tokens. -/
def isSpace (c : Char) : Bool := c == ' ' || c == '\t' || c == '\n' || c == '\r'

/-- The characters that number literals are made of. -/
def isNumeric (c : Char) : Bool :=
  (Text.digit? c).isSome || c == '-' || c == '+' || c == '.' || c == 'e' || c == 'E'

/-- The value of a hexadecimal digit. -/
def hexDigit? (c : Char) : Option Nat :=
  if '0' ≤ c ∧ c ≤ '9' then some (c.toNat - '0'.toNat)
  else if 'a' ≤ c ∧ c ≤ 'f' then some (c.toNat - 'a'.toNat + 10)
  else if 'A' ≤ c ∧ c ≤ 'F' then some (c.toNat - 'A'.toNat + 10)
  else none

/-- The character that a one-letter escape stands for. -/
def escaped? : Char → Option Char
  | '"' => some '"'
  | '\\' => some '\\'
  | '/' => some '/'
  | 'b' => some '\x08'
  | 'f' => some '\x0c'
  | 'n' => some '\n'
  | 'r' => some '\r'
  | 't' => some '\t'
  | _ => none

/-- The state of the reader after an escaped code unit is complete. A high surrogate waits for its
other half, and a low one is only good as that half. -/
def Mode.afterUnit (seen : List Char) (high : Option Nat) (unit : Nat) : Option Mode :=
  let isHigh := 0xD800 ≤ unit && unit < 0xDC00
  let isLow := 0xDC00 ≤ unit && unit < 0xE000
  match high with
  | none =>
    if isLow then none
    else if isHigh then some (.half seen unit)
    else some (.string (Char.ofNat unit :: seen))
  | some h =>
    if isLow then
      some (.string (Char.ofNat (0x10000 + (h - 0xD800) * 0x400 + (unit - 0xDC00)) :: seen))
    else none

/-- The token that a run of letters names. -/
def wordToken? (seen : List Char) : Option Token :=
  match String.ofList seen.reverse with
  | "null" => some .null
  | "true" => some (.bool true)
  | "false" => some (.bool false)
  | _ => none

/-- The token that a number literal writes. -/
def numeralToken? (seen : List Char) : Option Token :=
  ((Numeral.ofText? seen.reverse).bind Numeral.number?).map .number

/-- The token that a character is by itself. -/
def mark? : Char → Option Token
  | '[' => some .openArray
  | ']' => some .closeArray
  | '{' => some .openObject
  | '}' => some .closeObject
  | ',' => some .comma
  | ':' => some .colon
  | _ => none

/-- One character between tokens: the tokens so far, last first, and the state after it. -/
def start (tokens : List Token) (c : Char) : Option (List Token × Mode) :=
  if isSpace c then some (tokens, .gap)
  else if c = '"' then some (tokens, .string [])
  else if isNumeric c && c != 'e' && c != 'E' then some (tokens, .numeral [c])
  else if c.isAlpha then some (tokens, .word [c])
  else (mark? c).map fun token => (token :: tokens, .gap)

/-- One character in the middle of a token or between tokens. -/
def step (tokens : List Token) (mode : Mode) (c : Char) : Option (List Token × Mode) :=
  match mode with
  | .gap => start tokens c
  | .word seen =>
    if c.isAlpha then some (tokens, .word (c :: seen))
    else (wordToken? seen).bind fun token => start (token :: tokens) c
  | .numeral seen =>
    if isNumeric c then some (tokens, .numeral (c :: seen))
    else (numeralToken? seen).bind fun token => start (token :: tokens) c
  | .string seen =>
    if c = '"' then some (.string (String.ofList seen.reverse) :: tokens, .gap)
    else if c = '\\' then some (tokens, .escape seen)
    else if c.toNat < 0x20 then none
    else some (tokens, .string (c :: seen))
  | .escape seen =>
    if c = 'u' then some (tokens, .unit seen none 4 0)
    else (escaped? c).map fun e => (tokens, .string (e :: seen))
  | .unit seen high left value =>
    (hexDigit? c).bind fun d =>
      match left with
      | 0 | 1 => (Mode.afterUnit seen high (value * 16 + d)).map fun mode => (tokens, mode)
      | left + 1 => some (tokens, .unit seen high left (value * 16 + d))
  | .half seen high => if c = '\\' then some (tokens, .halfEscape seen high) else none
  | .halfEscape seen high => if c = 'u' then some (tokens, .unit seen (some high) 4 0) else none

/-- The tokens of a text, given those before it, last first, and the state that they leave. -/
def tokensFrom (tokens : List Token) (mode : Mode) : List Char → Option (List Token)
  | [] =>
    match mode with
    | .gap => some tokens.reverse
    | .word seen => (wordToken? seen).map fun token => (token :: tokens).reverse
    | .numeral seen => (numeralToken? seen).map fun token => (token :: tokens).reverse
    | _ => none
  | c :: rest =>
    match step tokens mode c with
    | some (tokens, mode) => tokensFrom tokens mode rest
    | none => none

/-- The tokens of a text, when it is made of tokens. -/
def tokens? (text : String) : Option (List Token) := tokensFrom [] .gap text.toList

end SqlTree.Json
