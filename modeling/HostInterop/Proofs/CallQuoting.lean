import HostInterop.Proofs.Tokenize
import HostInterop.Cli.Outcome

/-!
# Quoted call arguments, read back

A call from the command line runs as a one-line script: the operation, then each argument,
quoted when it is empty or holds a blank (`callLine`, `argumentText`). Whatever the argument, its
quoted form is one text lexeme (`quotedBody_flatMap_escapeIn`), so the lexer reads the line as the
operation's word and one text token for each quoted argument (`tokens_callLine_quoted`). The
text a token holds is `readBack a`: the argument's quoted inside, with the lexer's escapes
resolved.

The quoting and the lexer's escapes agree on NUL, tab, carriage return, line feed, the backslash
and the quote, but not on the code-point escape `\u{hex}` that the quoting writes for a grapheme
extender or a character that is not printable: the lexer knows no such escape and keeps the `u`.
So a token holds its argument exactly when the quoting writes no character of it as a code point
(`readBack_eq_iff`, `callLine_quoted_arguments_read_back`). The no-break space U+00A0 is blank,
so it is quoted, and it is not printable, so a call on it reads the text `u{a0}`
(`nbsp_argument_reads_code_escape`).
-/

namespace HostInterop.Script

open Text

/-! ## The quoted form is one text lexeme -/

theorem QuotedBody.append {q : Char} {u v : List Char} (hu : QuotedBody q u)
    (hv : QuotedBody q v) : QuotedBody q (u ++ v) := by
  induction hu with
  | nil => exact hv
  | plain hq hb _ ih => exact .plain hq hb ih
  | escape hn _ ih => exact .escape hn ih

/-- Characters other than the quote and the backslash are a quoted inside as they stand. -/
theorem QuotedBody.of_plain {q : Char} :
    ∀ {l : List Char}, (∀ x ∈ l, x ≠ q ∧ x ≠ '\\') → QuotedBody q l
  | [], _ => .nil
  | x :: _, h =>
    have hx := h x List.mem_cons_self
    .plain hx.1 hx.2 (of_plain fun y hy => h y (List.mem_cons_of_mem x hy))

/-- A numeral's characters are digit characters, before those it is written in front of. -/
theorem mem_toDigitsCore {b : Nat} : ∀ {f n : Nat} {ds : List Char} {c : Char},
    c ∈ Nat.toDigitsCore b f n ds → (∃ k, c = Nat.digitChar k) ∨ c ∈ ds
  | 0, _, _, _, h => .inr h
  | f + 1, n, ds, c, h => by
    simp only [Nat.toDigitsCore] at h
    split at h
    · rcases List.mem_cons.mp h with rfl | h
      · exact .inl ⟨_, rfl⟩
      · exact .inr h
    · rcases mem_toDigitsCore h with hk | h
      · exact .inl hk
      · rcases List.mem_cons.mp h with rfl | h
        · exact .inl ⟨_, rfl⟩
        · exact .inr h

/-- A code point in hexadecimal has neither a double quote nor a backslash in it. -/
theorem ne_of_mem_toDigits {c : Char} {n : Nat} (h : c ∈ Nat.toDigits 16 n) :
    c ≠ '"' ∧ c ≠ '\\' := by
  rcases mem_toDigitsCore h with ⟨k, rfl⟩ | h
  · exact ⟨Nat.digitChar_ne _ (by decide), Nat.digitChar_ne _ (by decide)⟩
  · cases h

/-- A code-point escape is an escaped `u`, then braces around hexadecimal digits. -/
theorem quotedBody_codeEscape (c : Char) : QuotedBody '"' (codeEscape c) := by
  simp only [codeEscape, List.cons_append]
  refine .escape (by decide) (QuotedBody.of_plain fun x hx => ?_)
  simp only [List.mem_cons, List.mem_append, List.not_mem_nil, or_false] at hx
  rcases hx with rfl | hx | rfl
  · decide
  · exact ne_of_mem_toDigits hx
  · decide

/-- How the quoting writes any character is a quoted inside. -/
theorem quotedBody_escapeIn (c : Char) : QuotedBody '"' (escapeIn '"' c) := by
  unfold escapeIn
  split_ifs with h0 ht hr hn hb hq hx
  -- NUL, tab, carriage return, line feed and the backslash
  iterate 5 exact .escape (by decide) .nil
  · exact .escape (by rw [hq]; decide) .nil
  · exact quotedBody_codeEscape c
  · exact .plain hq hb .nil

theorem quotedBody_flatMap_escapeIn (cs : List Char) :
    QuotedBody '"' (cs.flatMap (escapeIn '"')) := by
  induction cs with
  | nil => exact .nil
  | cons c cs ih =>
    rw [List.flatMap_cons]
    exact (quotedBody_escapeIn c).append ih

/-! ## Reading the quoted form back -/

/-- The text the lexer reads from the quoted form of `s`: the quoted inside, escapes resolved. -/
def readBack (s : String) : String := String.ofList (unescape (s.toList.flatMap (escapeIn '"')))

theorem unescape_cons_of_ne {c : Char} (h : c ≠ '\\') (rest : List Char) :
    unescape (c :: rest) = c :: unescape rest :=
  unescape.eq_3 c rest fun _ _ hc _ => h hc

/-- A character the quoting writes without a code point is read back as itself. -/
theorem unescape_escapeIn_append {c : Char} (h : escapeIn '"' c ≠ codeEscape c)
    (rest : List Char) : unescape (escapeIn '"' c ++ rest) = c :: unescape rest := by
  unfold escapeIn at h ⊢
  split_ifs at h ⊢ with h0 ht hr hn hb hq hx
  any_goals subst c; simp [unescape]
  · exact absurd rfl h
  · exact unescape_cons_of_ne hb rest

/-- A code-point escape is read back as a `u`, whatever follows. -/
theorem unescape_codeEscape_append (c : Char) (rest : List Char) :
    ∃ more, unescape (codeEscape c ++ rest) = 'u' :: more := by
  simp only [codeEscape, List.cons_append, unescape.eq_2]
  exact ⟨_, rfl⟩

/-- The quoted inside of `cs` reads back as `cs` exactly when no character of it is written as a
code point: a code point's escape reads back as `u`, which is no character written so. -/
theorem unescape_flatMap_escapeIn_eq_iff (cs : List Char) :
    unescape (cs.flatMap (escapeIn '"')) = cs ↔ ∀ c ∈ cs, escapeIn '"' c ≠ codeEscape c := by
  induction cs with
  | nil => simp [unescape]
  | cons c cs ih =>
    rw [List.flatMap_cons, List.forall_mem_cons]
    by_cases hc : escapeIn '"' c = codeEscape c
    · obtain ⟨more, hmore⟩ := unescape_codeEscape_append c (cs.flatMap (escapeIn '"'))
      rw [hc, hmore]
      simp only [List.cons.injEq, ne_eq, not_true_eq_false, false_and, iff_false, not_and]
      rintro rfl
      exact absurd hc (by decide)
    · rw [unescape_escapeIn_append hc, List.cons.injEq, ih]
      simp [hc]

theorem readBack_eq_iff (s : String) :
    readBack s = s ↔ ∀ c ∈ s.toList, escapeIn '"' c ≠ codeEscape c := by
  rw [readBack, ← String.toList_inj, String.toList_ofList, unescape_flatMap_escapeIn_eq_iff]

/-! ## Lexing a quoted argument -/

theorem quote_toList (s : String) :
    (quote s).toList = '"' :: (s.toList.flatMap (escapeIn '"') ++ ['"']) := by
  simp [quote]

/-- The lexer at a quoted text: the text token of its read-back, over the whole quoted form. -/
theorem lexeme_quote (s : String) (rest : List Char) :
    lexeme '"' ((s.toList.flatMap (escapeIn '"') ++ ['"']) ++ rest) =
      .token (.str (readBack s)) ('"' :: (s.toList.flatMap (escapeIn '"') ++ ['"'])).length := by
  have hscan := scanText_body (quotedBody_flatMap_escapeIn s.toList) rest 1
  rw [← List.singleton_append, ← List.append_assoc] at hscan
  rw [List.append_assoc, List.singleton_append] at hscan ⊢
  have hwidth : 1 + (s.toList.flatMap (escapeIn '"')).length + 1 - 2 =
      (s.toList.flatMap (escapeIn '"')).length := by omega
  rw [lexeme_dquote hscan, hwidth, List.take_left]
  simp only [readBack, List.length_cons, List.length_append, List.length_nil]
  congr 1
  omega

/-- A token put in front of a lexing that succeeds is put in front of its kinds. -/
theorem map_cons_eq_ok {ε α β : Type} {f : α → β} {x : α} {r : Except ε (List α)}
    {ys : List β} (h : r.map (List.map f) = .ok ys) :
    ((x :: ·) <$> r).map (List.map f) = .ok (f x :: ys) := by
  cases r with
  | error e => cases h
  | ok xs =>
    simp only [Except.map, Except.ok.injEq] at h
    simp [Functor.map, Except.map, h]

/-- The lexer's steps over a blank and then a quoted text. -/
theorem lexFrom_blank_quote (s : String) (rest : List Char) (pos : Nat) :
    lexFrom (' ' :: (quote s).toList ++ rest) pos =
      ((.str (readBack s), ⟨pos + 1, pos + 1 + byteLength (quote s).toList⟩) :: ·) <$>
        lexFrom rest (pos + 1 + byteLength (quote s).toList) := by
  have hgap : lexeme ' ' ([] ++ ((quote s).toList ++ rest)) = .gap [' '].length := by
    rw [lexeme_of_isGap rfl, quote_toList]
    simp [isGap]
  have hblank : byteLength [' '] = 1 := by decide
  rw [show (' ' :: (quote s).toList) ++ rest = [' '] ++ ((quote s).toList ++ rest) from rfl,
    lexFrom_gap pos hgap, hblank, quote_toList, lexFrom_token _ (lexeme_quote s rest)]

end HostInterop.Script

namespace HostInterop.Cli

open Script Text

/-! ## The call line -/

theorem callLine_toList (op : String) (args : List String) :
    (callLine op args).toList = op.toList ++ args.flatMap fun a => ' ' :: (argumentText a).toList := by
  induction args generalizing op with
  | nil => simp [callLine]
  | cons a args ih =>
    have hstep : callLine op (a :: args) = callLine (op ++ " " ++ argumentText a) args := rfl
    rw [hstep, ih]
    simp [String.toList_append]

/-- After the operation, the lexer reads each quoted argument as one text token. -/
theorem lexFrom_quoted_arguments (args : List String)
    (hq : ∀ a ∈ args, (a.isEmpty || a.toList.any isBlank) = true) (pos : Nat) :
    (lexFrom (args.flatMap fun a => ' ' :: (argumentText a).toList) pos).map (List.map Prod.fst) =
      .ok (args.map fun a => .str (readBack a)) := by
  induction args generalizing pos with
  | nil =>
    rw [List.flatMap_nil, lexFrom.eq_1]
    rfl
  | cons a args ih =>
    have ha : argumentText a = quote a := by simp [argumentText, hq a List.mem_cons_self]
    rw [List.flatMap_cons, ha, List.cons_append, ← List.cons_append, lexFrom_blank_quote,
      List.map_cons]
    exact map_cons_eq_ok (ih (fun b hb => hq b (List.mem_cons_of_mem a hb)) _)

/-- The operation's word ends at the blank before the first argument. -/
theorem takeWhile_isWordChar_arguments {r : List Char} (hr : ∀ x ∈ r, isWordChar x = true)
    (args : List String) :
    (r ++ args.flatMap fun a => ' ' :: (argumentText a).toList).takeWhile isWordChar = r := by
  rw [List.takeWhile_append_of_pos hr]
  cases args with
  | nil => simp
  | cons a args => simp [isWordChar, Char.isAlphanum, Char.isAlpha, Char.isUpper, Char.isLower,
      Char.isDigit]

theorem wordToken_of_not_mem {w : List Char} (h : w ∉ fixedLexemes) :
    wordToken w = .word (String.ofList w) := by
  unfold wordToken
  split_ifs with hl ht hn
  all_goals simp_all [fixedLexemes]

/-- The tokens of a call line whose arguments are all quoted: the operation's word, then one
text token for each argument, holding its read-back. -/
theorem tokens_callLine_quoted (op : String) (args : List String)
    (hop : IsWordLexeme op.toList) (hkw : op.toList ∉ fixedLexemes)
    (hq : ∀ a ∈ args, (a.isEmpty || a.toList.any isBlank) = true) :
    (tokenize (callLine op args)).map (List.map Prod.fst) =
      .ok (.word op :: args.map fun a => .str (readBack a)) := by
  obtain ⟨d, r, hdr, hd, hr⟩ := hop
  have hl : lexeme d (r ++ args.flatMap fun a => ' ' :: (argumentText a).toList) =
      .token (.word op) (d :: r).length := by
    rw [lexeme_of_isWordStart hd, takeWhile_isWordChar_arguments hr, ← hdr,
      wordToken_of_not_mem hkw, String.ofList_toList]
  rw [tokenize, callLine_toList, hdr, lexFrom_token 0 hl]
  exact map_cons_eq_ok (lexFrom_quoted_arguments args hq _)

/-- A call from the command line whose arguments all need quotes is read as the operation's
word and one text token for each argument, in order; the token holds the argument exactly when
the quoting writes no character of it as a code point. -/
theorem callLine_quoted_arguments_read_back (op : String) (args : List String)
    (hop : IsWordLexeme op.toList) (hkw : op.toList ∉ fixedLexemes)
    (hq : ∀ a ∈ args, (a.isEmpty || a.toList.any isBlank) = true) :
    (tokenize (callLine op args)).map (List.map Prod.fst) =
        .ok (.word op :: args.map fun a => .str (readBack a)) ∧
      ∀ a ∈ args, (readBack a = a ↔ ∀ c ∈ a.toList, escapeIn '"' c ≠ codeEscape c) :=
  ⟨tokens_callLine_quoted op args hop hkw hq, fun a _ => readBack_eq_iff a⟩

theorem resolveClass_isWordLexeme : IsWordLexeme "resolve-class".toList := by
  have hchars : "esolve-class".toList.all isWordChar = true := by decide
  exact ⟨'r', "esolve-class".toList, by decide, by decide, List.all_eq_true.mp hchars⟩

/-- A class name with a blank in it is quoted and read back as itself. -/
theorem spaced_argument_reads_back :
    IsWordLexeme "resolve-class".toList ∧ "resolve-class".toList ∉ fixedLexemes ∧
      (∀ a ∈ ["example Point"], (a.isEmpty || a.toList.any isBlank) = true) ∧
      (tokenize (callLine "resolve-class" ["example Point"])).map (List.map Prod.fst) =
        .ok (.word "resolve-class" :: ["example Point"].map fun a => .str (readBack a)) ∧
      ∀ a ∈ ["example Point"], (readBack a = a ↔ ∀ c ∈ a.toList, escapeIn '"' c ≠ codeEscape c) := by
  have hkw : "resolve-class".toList ∉ fixedLexemes := by decide
  have hq : ∀ a ∈ ["example Point"], (a.isEmpty || a.toList.any isBlank) = true := by decide
  exact ⟨resolveClass_isWordLexeme, hkw, hq,
    callLine_quoted_arguments_read_back _ _ resolveClass_isWordLexeme hkw hq⟩

/-- The no-break space is blank, so quoted, and not printable, so written `\u{a0}`: the call
reads the text `u{a0}` in its place. -/
theorem nbsp_argument_reads_code_escape :
    (tokenize (callLine "resolve-class" ["\u00a0"])).map (List.map Prod.fst) =
      .ok [.word "resolve-class", .str "u{a0}"] := by
  have hq : ∀ a ∈ ["\u00a0"], (a.isEmpty || a.toList.any isBlank) = true := by decide
  have hread : readBack "\u00a0" = "u{a0}" := by decide +kernel
  rw [tokens_callLine_quoted _ _ resolveClass_isWordLexeme (by decide) hq]
  simp [hread]

end HostInterop.Cli
