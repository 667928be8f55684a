import HostInterop.Config

/-!
# Configuration documents

A configuration is written as a flat TOML document: lines of `key = value`, blank lines and `#`
comments. A key is bare (`[A-Za-z0-9_-]+`) or quoted; a value is a string, in any of TOML's four
string forms, or a boolean. The reader accepts exactly such documents. Anything else a TOML
document may hold (tables, dotted keys, numbers, arrays, dates) cannot configure a session, so
it is refused too, as are duplicate keys, unknown keys and values of the wrong type.

Strings follow TOML 1.0: basic strings resolve `\b \t \n \f \r \" \\ \uXXXX \UXXXXXXXX`; literal
strings take their characters as they are; the multi-line forms drop a line end right after the
opening quotes, and the basic one also drops a backslash at a line's end with the white space
and line ends that follow it. Control characters other than tab are refused in strings and
comments; a line ends with a line feed, which a carriage return may precede.
-/

namespace HostInterop.Config

/-- A value of a flat document. -/
inductive TomlValue where
  | str (s : String)
  | bool (b : Bool)
  deriving DecidableEq

/-- Space or tab. -/
def isSpace (c : Char) : Bool := c == ' ' || c == '\t'

/-- A character a bare key may hold. -/
def isBareKeyChar (c : Char) : Bool := c.isAlphanum || c == '_' || c == '-'

/-- A control character other than tab: refused in strings and comments. -/
def isControl (c : Char) : Bool := (c.toNat < 0x20 && c != '\t') || c.toNat == 0x7F

/-- The value of a hexadecimal digit. -/
def hexValue (c : Char) : Option Nat :=
  if '0' ≤ c ∧ c ≤ '9' then some (c.toNat - '0'.toNat)
  else if 'a' ≤ c ∧ c ≤ 'f' then some (c.toNat - 'a'.toNat + 10)
  else if 'A' ≤ c ∧ c ≤ 'F' then some (c.toNat - 'A'.toNat + 10)
  else none

/-- The character written by `n` hexadecimal digits at the head of `cs`; only a Unicode scalar
value is a character. -/
def hexChar (n : Nat) (cs : List Char) : Option Char := do
  let ds ← (cs.take n).mapM hexValue
  guard (ds.length == n)
  let v := ds.foldl (fun acc d => acc * 16 + d) 0
  guard (v < 0xD800 || (0xDFFF < v && v ≤ 0x10FFFF))
  pure (Char.ofNat v)

/-- The character an escape stands for, after its backslash, and how many characters the
escape takes after the backslash. -/
def escape : List Char → Option (Char × Nat)
  | 'b' :: _ => some ('\x08', 1)
  | 't' :: _ => some ('\t', 1)
  | 'n' :: _ => some ('\n', 1)
  | 'f' :: _ => some ('\x0c', 1)
  | 'r' :: _ => some ('\r', 1)
  | '"' :: _ => some ('"', 1)
  | '\\' :: _ => some ('\\', 1)
  | 'u' :: r => (hexChar 4 r).map (·, 5)
  | 'U' :: r => (hexChar 8 r).map (·, 9)
  | _ => none

/-- A one-line basic string after its opening quote: its characters, and what follows the
closing quote. -/
def basicString (cs : List Char) : Option (List Char × List Char) :=
  match cs with
  | [] => none
  | '"' :: r => some ([], r)
  | '\\' :: r =>
    match escape r with
    | some (c, n) => (basicString (r.drop n)).map fun p => (c :: p.1, p.2)
    | none => none
  | c :: r => if isControl c then none else (basicString r).map fun p => (c :: p.1, p.2)
termination_by cs.length
decreasing_by all_goals (simp only [List.length_drop, List.length_cons]; omega)

/-- A one-line literal string after its opening quote. -/
def literalString : List Char → Option (List Char × List Char)
  | [] => none
  | '\'' :: r => some ([], r)
  | c :: r => if isControl c then none else (literalString r).map fun p => (c :: p.1, p.2)

/-- The quotes that end a multi-line string: the closing three, with up to two more before
them that belong to the string. -/
def closing (q : Char) (r : List Char) : List Char × List Char :=
  match r with
  | a :: b :: rest => if a = q && b = q then ([q, q], rest) else if a = q then ([q], b :: rest) else ([], r)
  | [a] => if a = q then ([q], []) else ([], r)
  | [] => ([], [])

/-- A multi-line basic string after its opening quotes; `trimming` while the white space after
a line-ending backslash is being dropped. -/
def multiBasic (trimming : Bool) (cs : List Char) : Option (List Char × List Char) :=
  match cs with
  | [] => none
  | '"' :: '"' :: '"' :: r => some (closing '"' r)
  | ' ' :: r => if trimming then multiBasic true r else (multiBasic false r).map fun p => (' ' :: p.1, p.2)
  | '\t' :: r => if trimming then multiBasic true r else (multiBasic false r).map fun p => ('\t' :: p.1, p.2)
  | '\n' :: r => if trimming then multiBasic true r else (multiBasic false r).map fun p => ('\n' :: p.1, p.2)
  | '\r' :: '\n' :: r =>
    if trimming then multiBasic true r else (multiBasic false r).map fun p => ('\n' :: p.1, p.2)
  | '\\' :: r =>
    match (r.dropWhile isSpace) with
    | '\n' :: _ => multiBasic true r
    | '\r' :: '\n' :: _ => multiBasic true r
    | _ =>
      match escape r with
      | some (c, n) => (multiBasic false (r.drop n)).map fun p => (c :: p.1, p.2)
      | none => none
  | c :: r => if isControl c then none else (multiBasic false r).map fun p => (c :: p.1, p.2)
termination_by cs.length
decreasing_by all_goals (simp only [List.length_drop, List.length_cons]; omega)

/-- A multi-line literal string after its opening quotes. -/
def multiLiteral : List Char → Option (List Char × List Char)
  | [] => none
  | '\'' :: '\'' :: '\'' :: r => some (closing '\'' r)
  | '\n' :: r => (multiLiteral r).map fun p => ('\n' :: p.1, p.2)
  | '\r' :: '\n' :: r => (multiLiteral r).map fun p => ('\n' :: p.1, p.2)
  | c :: r => if isControl c then none else (multiLiteral r).map fun p => (c :: p.1, p.2)

/-- Drop one line end at the head, if there is one. -/
def dropLineEnd : List Char → List Char
  | '\n' :: r => r
  | '\r' :: '\n' :: r => r
  | r => r

/-- The end of a line: white space, perhaps a comment, then a line end or the end of the
document; what follows. -/
def lineEnd (cs : List Char) : Option (List Char) :=
  match cs.dropWhile isSpace with
  | [] => some []
  | '\n' :: r => some r
  | '\r' :: '\n' :: r => some r
  | '#' :: r =>
    let body := r.takeWhile (· != '\n')
    let rest := r.dropWhile (· != '\n')
    -- a carriage return ends the comment only when a line feed follows it
    let body := if !rest.isEmpty && body.getLast? == some '\r' then body.dropLast else body
    if body.any isControl then none else some (dropLineEnd rest)
  | _ => none

/-- A key: bare or quoted, followed by `=`; the key and what follows the `=`. -/
def keyPart (cs : List Char) : Option (String × List Char) := do
  let (key, rest) ← match cs with
    | '"' :: r => basicString r
    | '\'' :: r => literalString r
    | r =>
      let k := r.takeWhile isBareKeyChar
      if k.isEmpty then none else some (k, r.dropWhile isBareKeyChar)
  match rest.dropWhile isSpace with
  | '=' :: r => some (String.ofList key, r.dropWhile isSpace)
  | _ => none

/-- A value: a string in one of the four forms, or a boolean; the value and what follows. -/
def valuePart (cs : List Char) : Option (TomlValue × List Char) :=
  match cs with
  | '"' :: '"' :: '"' :: r => (multiBasic false (dropLineEnd r)).map fun p => (.str (String.ofList p.1), p.2)
  | '"' :: r => (basicString r).map fun p => (.str (String.ofList p.1), p.2)
  | '\'' :: '\'' :: '\'' :: r => (multiLiteral (dropLineEnd r)).map fun p => (.str (String.ofList p.1), p.2)
  | '\'' :: r => (literalString r).map fun p => (.str (String.ofList p.1), p.2)
  | 't' :: 'r' :: 'u' :: 'e' :: r => some (.bool true, r)
  | 'f' :: 'a' :: 'l' :: 's' :: 'e' :: r => some (.bool false, r)
  | _ => none

/-- The assignments of a document, line by line; `fuel` bounds the number of lines. -/
def assignments : Nat → List Char → Option (List (String × TomlValue))
  | 0, _ => none
  | fuel + 1, cs =>
    match cs.dropWhile isSpace with
    | [] => some []
    | '\n' :: r => assignments fuel r
    | '\r' :: '\n' :: r => assignments fuel r
    | '#' :: r => do
      let rest ← lineEnd ('#' :: r)
      assignments fuel rest
    | line => do
      let (key, r) ← keyPart line
      let (value, r) ← valuePart r
      let rest ← lineEnd r
      let more ← assignments fuel rest
      pure ((key, value) :: more)

/-- The assignments of a flat document, or none when it is not one; a byte order mark in front
is no part of the document. -/
def readFlatToml (text : String) : Option (List (String × TomlValue)) :=
  let cs := match text.toList with
    | '\uFEFF' :: r => r
    | cs => cs
  assignments (cs.length + 1) cs

/-- The configuration a document writes: each key at most once, known, with a value of its
type; the keys not written keep their defaults. -/
def ofToml? (text : String) : Option Config := do
  let pairs ← readFlatToml text
  guard ((pairs.map (·.1)).eraseDups.length == pairs.length)
  pairs.foldlM set {}
where
  /-- Take one assignment. -/
  set (cfg : Config) : String × TomlValue → Option Config
    | ("default_package", .str s) => some { cfg with defaultPackage := s }
    | ("foreign_package", .str s) => some { cfg with foreignPackage := s }
    | ("export_foreign", .bool b) => some { cfg with exportForeign := b }
    | _ => none

end HostInterop.Config
