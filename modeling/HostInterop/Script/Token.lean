import HostInterop.Script.Error
import HostInterop.Text.Quoted

/-!
# Script tokens

A call script is read as a sequence of tokens, by longest match: the keywords `let`, `t` and
`nil`, `=`, the line end, integers `-?[0-9]+`, texts in double quotes, characters in single
quotes, variables `$name` and words `[A-Za-z_][A-Za-z0-9_.-]*`. A keyword is a token only when
the word it would begin is the keyword itself: `letter` and `nil2` are words. Blanks, tabs,
carriage returns and comments from `;` to the line end separate tokens.

Inside quotes a backslash escapes the next character on the same line: `\n`, `\t`, `\r` and `\0`
stand for line feed, tab, carriage return and NUL, any other character for itself. A text may
span lines; a character is exactly one character or one escape.

Lexing stops at the first failure. The failure's span starts where the token would have begun
and covers what was read of it: one character, the run of digits of an integer too large for 64
bits, or a text that is never closed, up to its last complete character or escape.
-/

namespace HostInterop.Script

/-- A token of a call script. -/
inductive Token where
  /-- `let`. -/
  | letKw
  /-- `=`. -/
  | eq
  /-- `t`. -/
  | trueKw
  /-- `nil`. -/
  | nilKw
  /-- A line end. -/
  | newline
  /-- An integer. -/
  | int (n : Int64)
  /-- A text, its escapes resolved. -/
  | str (s : String)
  /-- A character, its escape resolved. -/
  | char (c : Char)
  /-- A variable, without its `$`. -/
  | var (name : String)
  /-- A word. -/
  | word (w : String)
  deriving DecidableEq

/-- A character that separates tokens. -/
def isGap (c : Char) : Bool := c == ' ' || c == '\t' || c == '\r'

/-- A character that begins a word or a variable's name. -/
def isWordStart (c : Char) : Bool := c.isAlpha || c == '_'

/-- A character that continues a word. -/
def isWordChar (c : Char) : Bool := c.isAlphanum || c == '_' || c == '.' || c == '-'

/-- A character that continues a variable's name. -/
def isVarChar (c : Char) : Bool := c.isAlphanum || c == '_' || c == '-'

/-- Resolve the escapes of the inside of a quoted token. -/
def unescape : List Char → List Char
  | [] => []
  | '\\' :: c :: rest =>
    (if c = 'n' then '\n' else if c = 't' then '\t' else if c = 'r' then '\r'
      else if c = '0' then '\x00' else c) :: unescape rest
  | c :: rest => c :: unescape rest

/-- Read the rest of a text after its opening quote, `taken` characters in: the length of the
whole text when it closes, or else how far its complete characters and escapes reach. -/
def scanText : List Char → Nat → Except Nat Nat
  | [], taken => .error taken
  | '"' :: _, taken => .ok (taken + 1)
  | '\\' :: c :: rest, taken => if c = '\n' then .error taken else scanText rest (taken + 2)
  | ['\\'], taken => .error taken
  | _ :: rest, taken => scanText rest (taken + 1)

/-- Read a character token after its opening quote: the token's length and its inside. -/
def scanChar : List Char → Option (Nat × List Char)
  | '\\' :: c :: '\'' :: _ => if c = '\n' then none else some (4, ['\\', c])
  | c :: '\'' :: _ => if c = '\'' || c = '\\' then none else some (3, [c])
  | _ => none

/-- The value of a run of decimal digits. -/
def digitsNat (ds : List Char) : Nat := ds.foldl (fun acc d => acc * 10 + (d.toNat - '0'.toNat)) 0

/-- What the lexer finds at the head of the remaining characters. -/
inductive Lexeme where
  /-- Characters to skip. -/
  | gap (width : Nat)
  /-- A token of `width` characters. -/
  | token (t : Token) (width : Nat)
  /-- A failure covering `width` characters. -/
  | failure (width : Nat)

/-- The integer token of an optional minus sign and digits, or a failure over the whole run when
it does not fit in 64 bits. -/
def intLexeme (negative : Bool) (ds : List Char) : Lexeme :=
  let width := ds.length + (if negative then 1 else 0)
  let v : Int := if negative then -(digitsNat ds : Int) else digitsNat ds
  if -9223372036854775808 ≤ v ∧ v ≤ 9223372036854775807 then .token (.int (Int64.ofInt v)) width
  else .failure width

/-- The word token of a word, or the keyword it spells. -/
def wordToken (w : List Char) : Token :=
  if w = ['l', 'e', 't'] then .letKw
  else if w = ['t'] then .trueKw
  else if w = ['n', 'i', 'l'] then .nilKw
  else .word (String.ofList w)

/-- The longest lexeme at the head of `c :: rest`. -/
def lexeme (c : Char) (rest : List Char) : Lexeme :=
  if isGap c then .gap (1 + (rest.takeWhile isGap).length)
  else if c = ';' then .gap (1 + (rest.takeWhile (· != '\n')).length)
  else if c = '\n' then .token .newline 1
  else if c = '=' then .token .eq 1
  else if c.isDigit then intLexeme false (c :: rest.takeWhile Char.isDigit)
  else if c = '-' then
    match rest.takeWhile Char.isDigit with
    | [] => .failure 1
    | ds => intLexeme true ds
  else if isWordStart c then
    let w := c :: rest.takeWhile isWordChar
    .token (wordToken w) w.length
  else if c = '$' then
    match rest with
    | d :: more =>
      if isWordStart d then
        let name := d :: more.takeWhile isVarChar
        .token (.var (String.ofList name)) (name.length + 1)
      else .failure 1
    | [] => .failure 1
  else if c = '"' then
    match scanText rest 1 with
    | .ok width => .token (.str (String.ofList (unescape ((rest.take (width - 2)))))) width
    | .error width => .failure width
  else if c = '\'' then
    match scanChar rest with
    | some (width, inside) =>
      match unescape inside with
      | [v] => .token (.char v) width
      | _ => .failure 1
    | none => .failure 1
  else .failure 1

/-- The number of characters a lexeme covers, at least one. -/
def Lexeme.width : Lexeme → Nat
  | .gap w => Nat.max w 1
  | .token _ w => Nat.max w 1
  | .failure w => Nat.max w 1

theorem Lexeme.one_le_width (l : Lexeme) : 1 ≤ l.width := by
  cases l <;> exact Nat.le_max_right _ _

/-- The UTF-8 length of a list of characters. -/
def byteLength (cs : List Char) : Nat := (cs.map Char.utf8Size).foldr (· + ·) 0

/-- The tokens of the characters `cs`, which begin at byte `pos`, with their spans. -/
def lexFrom (cs : List Char) (pos : Nat) : Except ScriptError (List (Token × Span)) :=
  match cs with
  | [] => .ok []
  | c :: rest =>
    have _hw : 1 ≤ (lexeme c rest).width := (lexeme c rest).one_le_width
    let l := lexeme c rest
    let taken := (c :: rest).take l.width
    let stop := pos + byteLength taken
    match l with
    | .gap _ => lexFrom ((c :: rest).drop l.width) stop
    | .token t _ => ((t, ⟨pos, stop⟩) :: ·) <$> lexFrom ((c :: rest).drop l.width) stop
    | .failure _ =>
      .error (.lexer ("unexpected character: " ++ Text.quote (String.ofList taken)) ⟨pos, stop⟩)
termination_by cs.length
decreasing_by all_goals (simp only [List.length_drop, List.length_cons]; omega)

/-- The tokens of a script with their spans, or the first lexer failure. -/
def tokenize (source : String) : Except ScriptError (List (Token × Span)) :=
  lexFrom source.toList 0

end HostInterop.Script
