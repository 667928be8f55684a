import HostInterop.Script.Token
import Mathlib.Data.Nat.Digits.Defs

/-!
# The lexemes of a call script

The rules a call script is read by, stated as languages of character lists, apart from the lexer
that reads them. A script is cut into pieces, each the longest lexeme of some rule at its place
(`LongestMatch`). Blank runs and comments are skipped (`IsSkipped`); every other piece is the
lexeme of a token: a fixed token (`let`, `=`, `t`, `nil`, the line end), an integer `-?[0-9]+`, a
text between double quotes or a character between single quotes, whose insides are plain
characters and escapes (`QuotedBody`), a variable `$name`, or a word. A fixed token's lexeme is
also a word; the fixed token wins. `Reads` says which token a lexeme is read as, and `Segments`
relates a source to the tokens of its pieces with their byte ranges.

The rest of the module is what the lexer's proof needs of the rules: the quoted-token scanners
against `QuotedBody` (`scanText_ok`, `scanText_body`, `scanChar_some`, `scanChar_item`), that a
character's inside resolves to one character (`unescape_item`), that the lexer's digit fold is the
decimal value (`digitsNat_eq_decimalValue`), that every lexeme is skipped, read as a token, or an
integer too large (`Lexical.skipped_or_reads`), and that every lexeme extends to a longest one
(`exists_longestMatch`).
-/

namespace HostInterop.Script

/-! ## The rules -/

/-- The inside of a quoted token: characters other than the quote and the backslash, and escapes,
each a backslash before a character other than a line end. -/
inductive QuotedBody (quote : Char) : List Char → Prop
  | nil : QuotedBody quote []
  | plain {c : Char} {rest : List Char} :
      c ≠ quote → c ≠ '\\' → QuotedBody quote rest → QuotedBody quote (c :: rest)
  | escape {c : Char} {rest : List Char} :
      c ≠ '\n' → QuotedBody quote rest → QuotedBody quote ('\\' :: c :: rest)

/-- The inside of a character token: one character other than the quote and the backslash, or
one escape. -/
def QuotedItem (quote : Char) (item : List Char) : Prop :=
  (∃ c, item = [c] ∧ c ≠ quote ∧ c ≠ '\\') ∨ ∃ c, item = ['\\', c] ∧ c ≠ '\n'

/-- A run of blanks, tabs and carriage returns. -/
def IsBlankRun (w : List Char) : Prop := w ≠ [] ∧ ∀ c ∈ w, isGap c = true

/-- A comment: `;` and what follows it on its line. -/
def IsComment (w : List Char) : Prop := ∃ r, w = ';' :: r ∧ ∀ c ∈ r, c ≠ '\n'

/-- What the lexer skips: a blank run or a comment. -/
def IsSkipped (w : List Char) : Prop := IsBlankRun w ∨ IsComment w

/-- The lexemes of the fixed tokens: `let`, `=`, `t`, `nil` and the line end. -/
def fixedLexemes : List (List Char) := [['l', 'e', 't'], ['='], ['t'], ['n', 'i', 'l'], ['\n']]

/-- An integer: an optional minus sign, then at least one decimal digit. -/
def IsIntLexeme (w : List Char) : Prop :=
  ∃ ds, (w = ds ∨ w = '-' :: ds) ∧ ds ≠ [] ∧ ∀ d ∈ ds, d.isDigit = true

/-- A text: a quoted inside between double quotes. -/
def IsTextLexeme (w : List Char) : Prop :=
  ∃ body, w = '"' :: (body ++ ['"']) ∧ QuotedBody '"' body

/-- A character: one character or one escape between single quotes. -/
def IsCharLexeme (w : List Char) : Prop :=
  ∃ item, w = '\'' :: (item ++ ['\'']) ∧ QuotedItem '\'' item

/-- A variable: `$`, a letter or an underscore, then letters, digits, underscores and dashes. -/
def IsVarLexeme (w : List Char) : Prop :=
  ∃ d r, w = '$' :: d :: r ∧ isWordStart d = true ∧ ∀ c ∈ r, isVarChar c = true

/-- A word: a letter or an underscore, then letters, digits, underscores, dots and dashes. -/
def IsWordLexeme (w : List Char) : Prop :=
  ∃ d r, w = d :: r ∧ isWordStart d = true ∧ ∀ c ∈ r, isWordChar c = true

/-- A lexeme of some rule: skipped, or a token's. -/
def Lexical (w : List Char) : Prop :=
  IsSkipped w ∨ w ∈ fixedLexemes ∨ IsIntLexeme w ∨ IsTextLexeme w ∨ IsCharLexeme w ∨
    IsVarLexeme w ∨ IsWordLexeme w

/-- `w` is the longest lexeme at the head of `w ++ rest`: a lexeme, and no longer prefix is one. -/
def LongestMatch (w rest : List Char) : Prop :=
  Lexical w ∧ ∀ u, u ≠ [] → u <+: rest → ¬ Lexical (w ++ u)

/-- The value of a run of decimal digits, the most significant first. -/
def decimalValue (ds : List Char) : Nat :=
  Nat.ofDigits 10 (ds.reverse.map fun d => d.toNat - '0'.toNat)

/-- The value an integer lexeme writes. -/
def intValue : List Char → Int
  | '-' :: ds => -(decimalValue ds : Int)
  | ds => decimalValue ds

/-- The token a lexeme is read as. A fixed token is read from its own lexeme, which is read as no
word; an integer as the 64-bit integer of its value, when there is one; a text as its inside
with the escapes resolved; a character as the one character its inside resolves to; a variable
as its name; a word as itself. -/
inductive Reads : List Char → Token → Prop
  | letKw : Reads ['l', 'e', 't'] .letKw
  | eq : Reads ['='] .eq
  | trueKw : Reads ['t'] .trueKw
  | nilKw : Reads ['n', 'i', 'l'] .nilKw
  | newline : Reads ['\n'] .newline
  | int {w : List Char} {n : Int64} : IsIntLexeme w → n.toInt = intValue w → Reads w (.int n)
  | text {body : List Char} :
      QuotedBody '"' body → Reads ('"' :: (body ++ ['"'])) (.str (String.ofList (unescape body)))
  | char {item : List Char} {c : Char} :
      QuotedItem '\'' item → unescape item = [c] → Reads ('\'' :: (item ++ ['\''])) (.char c)
  | var {name : List Char} :
      IsVarLexeme ('$' :: name) → Reads ('$' :: name) (.var (String.ofList name))
  | word {w : List Char} : IsWordLexeme w → w ∉ fixedLexemes → Reads w (.word (String.ofList w))

/-- A source from byte `pos` on, read up to the remainder `tail` at byte `stop` as pieces, each
the longest lexeme at its place: a skipped piece gives nothing, every other piece the token it
reads as, over its byte range. -/
inductive Segments : List Char → Nat → List (Token × Span) → List Char → Nat → Prop
  | done (cs : List Char) (pos : Nat) : Segments cs pos [] cs pos
  | skip {w rest tail : List Char} {pos stop : Nat} {toks : List (Token × Span)} :
      LongestMatch w rest → IsSkipped w → Segments rest (pos + byteLength w) toks tail stop →
      Segments (w ++ rest) pos toks tail stop
  | token {w rest tail : List Char} {pos stop : Nat} {t : Token} {toks : List (Token × Span)} :
      LongestMatch w rest → Reads w t → Segments rest (pos + byteLength w) toks tail stop →
      Segments (w ++ rest) pos ((t, ⟨pos, pos + byteLength w⟩) :: toks) tail stop

/-- Spans in order between byte `lo` and byte `hi`: each non-empty, each beginning at or after the
end of the one before. -/
def SpansWithin : Nat → Nat → List (Token × Span) → Prop
  | lo, hi, [] => lo ≤ hi
  | lo, hi, (_, s) :: rest => lo ≤ s.start ∧ s.start < s.stop ∧ SpansWithin s.stop hi rest

/-- Every lexeme a token is read from is a lexeme of the rules. -/
theorem Reads.lexical {w : List Char} {t : Token} (h : Reads w t) : Lexical w := by
  cases h with
  | letKw | eq | trueKw | nilKw | newline => exact .inr (.inl (by simp [fixedLexemes]))
  | int hi _ => exact .inr (.inr (.inl hi))
  | text hb => exact .inr (.inr (.inr (.inl ⟨_, rfl, hb⟩)))
  | char hi _ => exact .inr (.inr (.inr (.inr (.inl ⟨_, rfl, hi⟩))))
  | var hv => exact .inr (.inr (.inr (.inr (.inr (.inl hv)))))
  | word hw _ => exact .inr (.inr (.inr (.inr (.inr (.inr hw)))))

/-! ## Quoted insides -/

/-- A character's inside resolves to exactly one character. -/
theorem unescape_item {quote : Char} {item : List Char} (h : QuotedItem quote item) :
    ∃ c, unescape item = [c] := by
  rcases h with ⟨c, rfl, -⟩ | ⟨c, rfl, -⟩
  · exact ⟨c, by simp [unescape]⟩
  · simp only [unescape]
    exact ⟨_, rfl⟩

/-- The text scanner reads a quoted inside to its closing quote. -/
theorem scanText_body {body : List Char} (h : QuotedBody '"' body) (rest : List Char) :
    ∀ taken, scanText (body ++ '"' :: rest) taken = .ok (taken + body.length + 1) := by
  induction h with
  | nil => intro taken; simp [scanText]
  | @plain c more hq hb _ ih =>
    intro taken
    rw [List.cons_append, scanText.eq_5 _ _ _ hq (fun _ _ h => absurd h hb) (fun h => absurd h hb),
      ih]
    congr 1
    simp only [List.length_cons]
    omega
  | @escape c more hn _ ih =>
    intro taken
    rw [List.cons_append, List.cons_append, scanText.eq_3, if_neg hn, ih]
    congr 1
    simp only [List.length_cons]
    omega

/-- What the text scanner accepts is a quoted inside and its closing quote. -/
theorem scanText_ok {cs : List Char} {taken width : Nat} (h : scanText cs taken = .ok width) :
    ∃ body rest, cs = body ++ '"' :: rest ∧ QuotedBody '"' body ∧
      width = taken + body.length + 1 := by
  fun_induction scanText cs taken with
  | case1 => cases h
  | case2 rest taken => cases h; exact ⟨[], rest, rfl, .nil, by simp⟩
  | case3 => cases h
  | case4 c rest taken hn ih =>
    obtain ⟨body, more, rfl, hb, rfl⟩ := ih h
    exact ⟨'\\' :: c :: body, more, rfl, .escape hn hb, by simp only [List.length_cons]; omega⟩
  | case5 => cases h
  | case6 c rest taken hq hs _ ih =>
    obtain ⟨body, more, rfl, hb, rfl⟩ := ih h
    refine ⟨c :: body, more, rfl, .plain hq ?_ hb, by simp only [List.length_cons]; omega⟩
    rintro rfl
    cases body with
    | nil => exact hs '"' more rfl rfl
    | cons d body => exact hs d _ rfl rfl

/-- The character scanner reads one character or one escape and its closing quote. -/
theorem scanChar_item {item : List Char} (h : QuotedItem '\'' item) (rest : List Char) :
    scanChar (item ++ '\'' :: rest) = some (item.length + 2, item) := by
  rcases h with ⟨c, rfl, hq, hb⟩ | ⟨c, rfl, hn⟩
  · rw [List.singleton_append, scanChar.eq_2 _ _ (fun _ h _ => hb h)]
    simp [hq, hb]
  · simp [scanChar, hn]

/-- What the character scanner accepts is one character or one escape and a closing quote. -/
theorem scanChar_some {cs inside : List Char} {width : Nat}
    (h : scanChar cs = some (width, inside)) :
    ∃ rest, cs = inside ++ '\'' :: rest ∧ QuotedItem '\'' inside ∧ width = inside.length + 2 := by
  unfold scanChar at h
  split at h
  · rename_i c rest
    split at h
    · cases h
    · rename_i hn
      cases h
      exact ⟨rest, rfl, .inr ⟨c, rfl, hn⟩, rfl⟩
  · rename_i c rest _
    split at h
    · cases h
    · rename_i hc
      cases h
      simp only [Bool.or_eq_true, decide_eq_true_eq, not_or] at hc
      exact ⟨rest, rfl, .inl ⟨c, rfl, hc.1, hc.2⟩, rfl⟩
  · cases h

/-! ## Integer values -/

/-- The lexer's fold over digits, the most significant first, is their decimal value. -/
theorem digitsNat_eq_decimalValue (ds : List Char) : digitsNat ds = decimalValue ds := by
  -- the fold from any start multiplies the start by a power of ten per digit
  have fold : ∀ (acc : Nat) (ds : List Char),
      ds.foldl (fun acc d => acc * 10 + (d.toNat - '0'.toNat)) acc =
        acc * 10 ^ ds.length + decimalValue ds := by
    intro acc ds
    induction ds generalizing acc with
    | nil => simp [decimalValue]
    | cons d ds ih =>
      rw [List.foldl_cons, ih]
      simp only [decimalValue, List.reverse_cons, List.map_append, Nat.ofDigits_append,
        List.length_map, List.length_reverse, List.map_cons, List.map_nil, Nat.ofDigits_singleton,
        List.length_cons, pow_succ]
      ring
  simpa [digitsNat] using fold 0 ds

/-- A 64-bit integer holds exactly the values from `-2^63` to `2^63 - 1`. -/
theorem exists_toInt_eq_iff (v : Int) :
    (∃ n : Int64, n.toInt = v) ↔ -9223372036854775808 ≤ v ∧ v ≤ 9223372036854775807 := by
  constructor
  · rintro ⟨n, rfl⟩
    have hmax : Int64.maxValue.toInt = 9223372036854775807 := rfl
    exact ⟨by simpa using Int64.le_toInt n, hmax ▸ Int64.toInt_le n⟩
  · rintro ⟨lo, hi⟩
    exact ⟨Int64.ofInt v, Int64.toInt_ofInt_of_le (by simpa using lo) (by omega)⟩

/-! ## Every lexeme is skipped, read, or an integer too large -/

theorem Reads.of_mem_fixedLexemes {w : List Char} (h : w ∈ fixedLexemes) : ∃ t, Reads w t := by
  simp only [fixedLexemes, List.mem_cons, List.not_mem_nil, or_false] at h
  rcases h with rfl | rfl | rfl | rfl | rfl
  exacts [⟨_, .letKw⟩, ⟨_, .eq⟩, ⟨_, .trueKw⟩, ⟨_, .nilKw⟩, ⟨_, .newline⟩]

/-- A lexeme is skipped, or read as a token, or is an integer that no 64-bit integer holds. -/
theorem Lexical.skipped_or_reads {w : List Char} (h : Lexical w) :
    IsSkipped w ∨ (∃ t, Reads w t) ∨ (IsIntLexeme w ∧ ¬ ∃ n : Int64, n.toInt = intValue w) := by
  rcases h with hs | hf | hi | ⟨body, rfl, hb⟩ | ⟨item, rfl, hi⟩ | hv | hw
  · exact .inl hs
  · exact .inr (.inl (Reads.of_mem_fixedLexemes hf))
  · by_cases hfit : ∃ n : Int64, n.toInt = intValue w
    · obtain ⟨n, hn⟩ := hfit
      exact .inr (.inl ⟨_, .int hi hn⟩)
    · exact .inr (.inr ⟨hi, hfit⟩)
  · exact .inr (.inl ⟨_, .text hb⟩)
  · obtain ⟨c, hc⟩ := unescape_item hi
    exact .inr (.inl ⟨_, .char hi hc⟩)
  · obtain ⟨d, r, rfl, -⟩ := id hv
    exact .inr (.inl ⟨_, .var hv⟩)
  · by_cases hf : w ∈ fixedLexemes
    · exact .inr (.inl (Reads.of_mem_fixedLexemes hf))
    · exact .inr (.inl ⟨_, .word hw hf⟩)

/-! ## Longest lexemes -/

/-- Every lexeme at the head of a source extends to a longest one. -/
theorem exists_longestMatch {p : List Char} (x : List Char) (h : Lexical p) :
    ∃ u v, p ++ x = u ++ v ∧ LongestMatch u v ∧ p.length ≤ u.length := by
  by_cases hlong : ∃ y, y ≠ [] ∧ y <+: x ∧ Lexical (p ++ y)
  · obtain ⟨y, hy, ⟨x', rfl⟩, hl⟩ := hlong
    have : x'.length < (y ++ x').length := by
      simp only [List.length_append]
      have := List.length_pos_iff.mpr hy
      omega
    obtain ⟨u, v, huv, hm, hle⟩ := exists_longestMatch x' hl
    refine ⟨u, v, by rw [← List.append_assoc, huv], hm, le_trans ?_ hle⟩
    simp
  · exact ⟨p, x, rfl, ⟨h, fun y hy hpre hl => hlong ⟨y, hy, hpre, hl⟩⟩, le_rfl⟩
termination_by x.length

end HostInterop.Script
