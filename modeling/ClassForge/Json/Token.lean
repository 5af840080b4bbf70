/-!
# JSON Tokens

The tokens of a JSON text, found by reading it once from left to right. The
reader is a machine with one step per character: a number ends only at the
first character that cannot continue it, so that character is read again as
the start of something else.

A string is kept as it was spelled. Escapes that name a code unit stay apart
from ordinary characters, because two of them may have to be read together
and a single one may stand for no character at all; whether that matters is
for the consumer of the string to say.

## Main definitions

* `Piece`, `Spelling`: A string as it was spelled.
* `Token`: The tokens.
* `Lexer`: The state of the reader.
* `tokens?`: The tokens of a text.
-/

namespace ClassForge

namespace Json

/-- One piece of a string as it was spelled. -/
inductive Piece where
  /-- A character, plain or by its own escape. -/
  | char (c : Char)
  /-- A code unit given by its number. -/
  | unit (code : Nat)
  deriving DecidableEq

/-- A string as it was spelled. -/
abbrev Spelling := List Piece

/-- The tokens of a JSON text. -/
inductive Token where
  | openArray
  | closeArray
  | openObject
  | closeObject
  | colon
  | comma
  | null
  | bool (value : Bool)
  | number (literal : List Char)
  | string (spelling : Spelling)
  deriving DecidableEq

/-- How far a number has been read. -/
inductive NumberPart where
  /-- Only the sign. -/
  | sign
  /-- A zero, which no digit may follow. -/
  | zero
  /-- Digits in front of the point. -/
  | whole
  /-- The point, which a digit has to follow. -/
  | point
  /-- Digits behind the point. -/
  | fraction
  /-- The mark of an exponent. -/
  | mark
  /-- The sign of an exponent. -/
  | markSign
  /-- Digits of the exponent. -/
  | exponent
  deriving DecidableEq

namespace NumberPart

/-- The part of a number that its first character starts. -/
def start? (c : Char) : Option NumberPart :=
  if c = '-' then some .sign
  else if c = '0' then some .zero
  else if c.isDigit then some .whole
  else none

/-- Whether a character is the mark of an exponent. -/
def isMark (c : Char) : Bool := c = 'e' || c = 'E'

/-- The part after one more character, if that character continues the
    number. -/
def next? (part : NumberPart) (c : Char) : Option NumberPart :=
  match part with
  | .sign => if c = '0' then some .zero else if c.isDigit then some .whole else none
  | .zero => if c = '.' then some .point else if isMark c then some .mark else none
  | .whole =>
    if c.isDigit then some .whole
    else if c = '.' then some .point
    else if isMark c then some .mark
    else none
  | .point => if c.isDigit then some .fraction else none
  | .fraction =>
    if c.isDigit then some .fraction else if isMark c then some .mark else none
  | .mark =>
    if c = '+' || c = '-' then some .markSign
    else if c.isDigit then some .exponent
    else none
  | .markSign => if c.isDigit then some .exponent else none
  | .exponent => if c.isDigit then some .exponent else none

/-- Whether a number may end here. -/
def isComplete : NumberPart → Bool
  | .zero | .whole | .fraction | .exponent => true
  | _ => false

end NumberPart

/-- What the reader is in the middle of. What has been read of a number or a
    string is kept in reverse. -/
inductive Mode where
  /-- Between tokens. -/
  | idle
  /-- Inside a literal word, with the characters that still have to come. -/
  | word (rest : List Char) (token : Token)
  /-- Inside a number. -/
  | number (part : NumberPart) (read : List Char)
  /-- Inside a string. -/
  | string (read : Spelling)
  /-- Behind the backslash of an escape. -/
  | escape (read : Spelling)
  /-- Inside the digits of a code unit, with those read so far. -/
  | unit (read : Spelling) (digits : List Nat)
  deriving DecidableEq

/-- The state of the reader: the tokens found so far, in reverse, and what it is
    in the middle of. -/
structure Lexer where
  /-- The tokens found so far, in reverse. -/
  found : List Token
  /-- What the reader is in the middle of. -/
  mode : Mode
  deriving DecidableEq

/-- Whether a character may stand between tokens. -/
def isBlank (c : Char) : Bool := c = ' ' || c = '\t' || c = '\n' || c = '\r'

/-- The value of a hexadecimal digit. -/
def hexDigit? (c : Char) : Option Nat :=
  if c.isDigit then some (c.toNat - '0'.toNat)
  else if 'a' ≤ c && c ≤ 'f' then some (c.toNat - 'a'.toNat + 10)
  else if 'A' ≤ c && c ≤ 'F' then some (c.toNat - 'A'.toNat + 10)
  else none

/-- The number that hexadecimal digits spell. -/
def hexValue (digits : List Nat) : Nat := digits.foldl (fun value digit => 16 * value + digit) 0

/-- The character that an escape of one character stands for. -/
def escapeChar? (c : Char) : Option Char :=
  if c = '"' || c = '\\' || c = '/' then some c
  else if c = 'b' then some (Char.ofNat 8)
  else if c = 'f' then some (Char.ofNat 12)
  else if c = 'n' then some '\n'
  else if c = 'r' then some '\r'
  else if c = 't' then some '\t'
  else none

namespace Lexer

/-- Nothing read yet. -/
def start : Lexer := ⟨[], .idle⟩

/-- The token that a single character is. -/
def punctuation? (c : Char) : Option Token :=
  if c = '[' then some .openArray
  else if c = ']' then some .closeArray
  else if c = '\x7b' then some .openObject
  else if c = '\x7d' then some .closeObject
  else if c = ':' then some .colon
  else if c = ',' then some .comma
  else none

/-- The rest of the literal word that a character starts, and its token. -/
def word? (c : Char) : Option (List Char × Token) :=
  if c = 'n' then some ("ull".toList, .null)
  else if c = 't' then some ("rue".toList, .bool true)
  else if c = 'f' then some ("alse".toList, .bool false)
  else none

/-- One character between tokens. -/
def stepIdle (found : List Token) (c : Char) : Option Lexer :=
  if isBlank c then some ⟨found, .idle⟩
  else if c = '"' then some ⟨found, .string []⟩
  else
    match punctuation? c, word? c, NumberPart.start? c with
    | some token, _, _ => some ⟨token :: found, .idle⟩
    | none, some (rest, token), _ => some ⟨found, .word rest token⟩
    | none, none, some part => some ⟨found, .number part [c]⟩
    | none, none, none => none

/-- One character. -/
def step (lexer : Lexer) (c : Char) : Option Lexer :=
  match lexer with
  | ⟨found, .idle⟩ => stepIdle found c
  | ⟨found, .word rest token⟩ =>
    match rest with
    | [] => none
    | expected :: rest =>
      if c = expected then
        some (if rest = [] then ⟨token :: found, .idle⟩ else ⟨found, .word rest token⟩)
      else none
  | ⟨found, .number part read⟩ =>
    match part.next? c with
    | some part => some ⟨found, .number part (c :: read)⟩
    | none => if part.isComplete then stepIdle (.number read.reverse :: found) c else none
  | ⟨found, .string read⟩ =>
    if c = '"' then some ⟨.string read.reverse :: found, .idle⟩
    else if c = '\\' then some ⟨found, .escape read⟩
    else if c.toNat < 0x20 then none
    else some ⟨found, .string (.char c :: read)⟩
  | ⟨found, .escape read⟩ =>
    if c = 'u' then some ⟨found, .unit read []⟩
    else (escapeChar? c).map fun escaped => ⟨found, .string (.char escaped :: read)⟩
  | ⟨found, .unit read digits⟩ =>
    (hexDigit? c).map fun digit =>
      let digits := digits ++ [digit]
      if digits.length = 4 then ⟨found, .string (.unit (hexValue digits) :: read)⟩
      else ⟨found, .unit read digits⟩

/-- The tokens at the end of the text. Only a number may still be open. -/
def finish : Lexer → Option (List Token)
  | ⟨found, .idle⟩ => some found.reverse
  | ⟨found, .number part read⟩ =>
    if part.isComplete then some (.number read.reverse :: found).reverse else none
  | _ => none

end Lexer

/-- The tokens of a text, if it can be divided into tokens. -/
def tokens? (text : List Char) : Option (List Token) := do
  let lexer ← text.foldlM Lexer.step Lexer.start
  lexer.finish

end Json

end ClassForge
