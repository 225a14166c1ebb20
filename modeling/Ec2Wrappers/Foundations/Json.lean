import Ec2Wrappers.Foundations.Text

/-!
# JSON documents

A reader of JSON in two passes: `lex` cuts a text into tokens, one character at a time, and
`parseTokens` builds the document. The reader knows objects, arrays, strings with the escapes of one
character, and the words `true`, `false` and `null`; it refuses a text with a number or a `\u`
escape, so that what it reads is JSON and has the meaning it gives.

`lexFrom` reads a text from any mode of the lexer. Its rules take a text apart: `lexFrom_append`
cuts it anywhere, and `lexFrom_plain` reads a part inside a string that contains no mark.
-/

set_option autoImplicit false
set_option relaxedAutoImplicit false

namespace Ec2Wrappers.Foundations

/-- A document. -/
inductive Json
  | null
  | bool (value : Bool)
  | text (value : Text)
  | array (items : List Json)
  | object (entries : List (Text × Json))

namespace Json

/-! ### Tokens -/

/-- A token: a string, a word, or one of the six marks of structure. -/
inductive Token
  | text (value : Text)
  | word (value : Text)
  | mark (c : Char)
  deriving DecidableEq, Repr

/-- Where the lexer is: between tokens, inside a string, after a backslash in a string, inside a
word, or stuck. -/
inductive Mode
  | between
  | inText (read : Text)
  | escaped (read : Text)
  | inWord (read : Text)
  | stuck
  deriving DecidableEq, Repr

/-- The marks of structure. -/
def isMark (c : Char) : Bool := c ∈ ['{', '}', '[', ']', ':', ',']

/-- The blanks. -/
def isBlank (c : Char) : Bool := c ∈ [' ', '\n', '\r', '\t']

/-- The characters of the words. -/
def isWordChar (c : Char) : Bool := 'a' ≤ c && c ≤ 'z'

/-- The character that an escape of one character stands for. -/
def unescape : Char → Option Char
  | '"' => some '"'
  | '\\' => some '\\'
  | '/' => some '/'
  | 'b' => some '\x08'
  | 'f' => some '\x0c'
  | 'n' => some '\n'
  | 'r' => some '\r'
  | 't' => some '\t'
  | _ => none

/-- A character that a string may have as it stands. -/
def isPlain (c : Char) : Bool := c ≠ '"' && c ≠ '\\' && ' ' ≤ c

/-- One character between tokens. -/
def stepBetween (c : Char) : List Token × Mode :=
  if c = '"' then ([], .inText [])
  else if isMark c then ([.mark c], .between)
  else if isBlank c then ([], .between)
  else if isWordChar c then ([], .inWord [c])
  else ([], .stuck)

/-- One character: the tokens it completes and where the lexer is after it. -/
def step (c : Char) : Mode → List Token × Mode
  | .between => stepBetween c
  | .inText read =>
    if c = '"' then ([.text read], .between)
    else if c = '\\' then ([], .escaped read)
    else if isPlain c then ([], .inText (read ++ [c]))
    else ([], .stuck)
  | .escaped read =>
    match unescape c with
    | some d => ([], .inText (read ++ [d]))
    | none => ([], .stuck)
  | .inWord read =>
    if isWordChar c then ([], .inWord (read ++ [c]))
    else
      let (tokens, mode) := stepBetween c
      (.word read :: tokens, mode)
  | .stuck => ([], .stuck)

/-- Read a text from a mode. -/
def lexFrom : Mode → Text → List Token × Mode
  | mode, [] => ([], mode)
  | mode, c :: rest =>
    let (emitted, next) := step c mode
    let (tokens, last) := lexFrom next rest
    (emitted ++ tokens, last)

/-- The tokens of a text. -/
def lex (text : Text) : Option (List Token) :=
  match lexFrom .between text with
  | (tokens, .between) => some tokens
  | (tokens, .inWord read) => some (tokens ++ [.word read])
  | _ => none

/-- A text is read part by part. -/
theorem lexFrom_append (mode : Mode) (first second : Text) :
    lexFrom mode (first ++ second) =
      ((lexFrom mode first).1 ++ (lexFrom (lexFrom mode first).2 second).1,
        (lexFrom (lexFrom mode first).2 second).2) := by
  induction first generalizing mode with
  | nil => rfl
  | cons c first ih => simp only [List.cons_append, lexFrom, ih, List.append_assoc]

/-- A part with nothing but plain characters stays inside the string. -/
theorem lexFrom_plain (read : Text) {part : Text} (hplain : ∀ c ∈ part, isPlain c = true) :
    lexFrom (.inText read) part = ([], .inText (read ++ part)) := by
  induction part generalizing read with
  | nil => rw [lexFrom, List.append_nil]
  | cons c part ih =>
    obtain ⟨hc, hrest⟩ := List.forall_mem_cons.mp hplain
    have hstep : step c (.inText read) = ([], .inText (read ++ [c])) := by
      have hmarks := hc
      simp only [isPlain, Bool.and_eq_true, decide_eq_true_eq] at hmarks
      rw [step, if_neg hmarks.1.1, if_neg hmarks.1.2, if_pos hc]
    rw [lexFrom, hstep]
    simp only [ih (read ++ [c]) hrest, List.append_assoc, List.singleton_append, List.nil_append]

/-! ### Documents -/

/-- The document of a word. -/
def ofWord (word : Text) : Option Json :=
  if word = "true".toList then some (.bool true)
  else if word = "false".toList then some (.bool false)
  else if word = "null".toList then some .null
  else none

mutual

/-- A value at the front of the tokens, and the tokens after it. -/
def parseValue : ℕ → List Token → Option (Json × List Token)
  | 0, _ => none
  | _ + 1, .text value :: rest => some (.text value, rest)
  | _ + 1, .word word :: rest => (ofWord word).map fun value ↦ (value, rest)
  | _ + 1, .mark '[' :: .mark ']' :: rest => some (.array [], rest)
  | fuel + 1, .mark '[' :: rest =>
    (parseItems fuel rest).map fun (items, rest) ↦ (.array items, rest)
  | _ + 1, .mark '{' :: .mark '}' :: rest => some (.object [], rest)
  | fuel + 1, .mark '{' :: rest =>
    (parseEntries fuel rest).map fun (entries, rest) ↦ (.object entries, rest)
  | _ + 1, _ => none

/-- The items of an array up to its end. -/
def parseItems : ℕ → List Token → Option (List Json × List Token)
  | 0, _ => none
  | fuel + 1, tokens =>
    match parseValue fuel tokens with
    | some (item, .mark ',' :: rest) =>
      (parseItems fuel rest).map fun (items, rest) ↦ (item :: items, rest)
    | some (item, .mark ']' :: rest) => some ([item], rest)
    | _ => none

/-- The entries of an object up to its end. -/
def parseEntries : ℕ → List Token → Option (List (Text × Json) × List Token)
  | 0, _ => none
  | fuel + 1, tokens =>
    match tokens with
    | .text key :: .mark ':' :: rest =>
      match parseValue fuel rest with
      | some (value, .mark ',' :: rest) =>
        (parseEntries fuel rest).map fun (entries, rest) ↦ ((key, value) :: entries, rest)
      | some (value, .mark '}' :: rest) => some ([(key, value)], rest)
      | _ => none
    | _ => none

end

/-- The document of a list of tokens. A value takes a token for every two steps at most. -/
def parseTokens (tokens : List Token) : Option Json :=
  match parseValue (2 * tokens.length + 1) tokens with
  | some (document, []) => some document
  | _ => none

/-- Read a document. -/
def parse (text : Text) : Option Json := (lex text).bind parseTokens

/-- The entry of an object; of two with one key the last. -/
def entry (key : Text) : Json → Option Json
  | .object entries => entries.reverse.lookup key
  | _ => none

/-- The items of an array; a document that is no array stands for itself alone. -/
def elements : Json → List Json
  | .array items => items
  | document => [document]

/-- The strings of a document that is a string or an array of strings. -/
def texts (document : Json) : List Text :=
  document.elements.filterMap fun
    | .text value => some value
    | _ => none

end Json

end Ec2Wrappers.Foundations
