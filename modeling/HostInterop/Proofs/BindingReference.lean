import HostInterop.Proofs.LineGrammar

/-!
# Referring to a `let` binding

A line `let NAME = OPERATION ...` binds the call's result to `NAME`, and a later line refers to
it as `$NAME`. The two are read by different rules. The name after `let` is a word: a letter or an
underscore, then letters, digits, underscores, dots and dashes. A reference is `$` and a variable
name, which may hold all of these but the dot. So a bound name without a dot is referred to by one
variable token of that name over the whole reference, and a bound name with a dot cannot be
referred to at all: the variable stops before the first dot, and no token begins with a dot
(`let_binding_reference_tokens`).

The proof has two halves. A bound name is the value of a word token of its line, read from a word
lexeme (`parse_binding_isWord`, through `exists_line_of_parse` and `Segments.reads_of_mem`). A
word after `$` is then lexed as one variable, or as a variable up to its first dot and a failure
at that dot (`tokenize_dollar_of_dot_not_mem`, `tokenize_dollar_of_dot_mem`). Word characters
take one byte each, so the spans count characters (`byteLength_of_wordChars`).
-/

namespace HostInterop.Script

/-! ## Word characters -/

/-- A word character is a letter, a digit, `_`, `.` or `-`, all ASCII: one byte in UTF-8. -/
theorem utf8Size_of_isWordChar {c : Char} (h : isWordChar c = true) : c.utf8Size = 1 := by
  rw [Char.utf8Size_eq_one_iff]
  simp [isWordChar, Char.isAlphanum, Char.isAlpha, Char.isUpper, Char.isLower, Char.isDigit,
    UInt32.le_iff_toNat_le] at h ⊢
  rcases h with ((((h | h) | h) | rfl) | rfl) | rfl
  · omega
  · omega
  · omega
  all_goals decide

theorem isWordChar_of_isWordStart {c : Char} (h : isWordStart c = true) : isWordChar c = true := by
  simp only [isWordStart, Bool.or_eq_true] at h
  simp only [isWordChar, Char.isAlphanum, Bool.or_eq_true]
  tauto

/-- The word characters and the variable characters differ only in the dot. -/
theorem isVarChar_of_isWordChar {c : Char} (h : isWordChar c = true) (hc : c ≠ '.') :
    isVarChar c = true := by
  simpa [isWordChar, isVarChar, hc] using h

theorem byteLength_of_wordChars {w : List Char} (h : ∀ c ∈ w, isWordChar c = true) :
    byteLength w = w.length := by
  induction w with
  | nil => rfl
  | cons c w ih =>
    rw [byteLength_cons, utf8Size_of_isWordChar (h c List.mem_cons_self),
      ih fun x hx => h x (List.mem_cons_of_mem c hx), List.length_cons, Nat.add_comm]

/-- A reference to a word takes one byte for `$` and one for each character of the word. -/
theorem byteLength_dollar_word {d : Char} {r : List Char} (hd : isWordStart d = true)
    (hr : ∀ c ∈ r, isWordChar c = true) : byteLength ('$' :: d :: r) = r.length + 2 := by
  have hword : ∀ c ∈ d :: r, isWordChar c = true := fun c hc => by
    rcases List.mem_cons.mp hc with rfl | hc
    · exact isWordChar_of_isWordStart hd
    · exact hr c hc
  have hdollar : '$'.utf8Size = 1 := rfl
  rw [byteLength_cons, byteLength_of_wordChars hword, hdollar, List.length_cons]
  omega

/-! ## A bound name is a word -/

/-- Every token of a segmented source is read from a lexeme of the rules. -/
theorem Segments.reads_of_mem {cs tail : List Char} {pos stop : Nat} {toks : List (Token × Span)}
    (h : Segments cs pos toks tail stop) : ∀ x ∈ toks, ∃ w, Reads w x.1 := by
  induction h with
  | done => simp
  | skip _ _ _ ih => exact ih
  | token _ ht _ ih =>
    intro x hx
    rcases List.mem_cons.mp hx with rfl | hx
    · exact ⟨_, ht⟩
    · exact ih x hx

/-- A word token holds a word. -/
theorem Reads.isWordLexeme_of_word {w : List Char} {b : String} (h : Reads w (.word b)) :
    IsWordLexeme b.toList := by
  cases h with
  | word hw _ => rwa [String.toList_ofList]

/-- Each call of a parsed script is the call of one of its lines. -/
theorem exists_line_of_parse {source : String} {calls : List Call} {c : Call}
    (h : parse source = .ok calls) (hc : c ∈ calls) :
    ∃ toks l, tokenize source = .ok toks ∧ l ∈ lines toks ∧ CallShape l c := by
  obtain ⟨toks, htoks, -⟩ := bind_eq_ok_iff.mp h
  have hshape := ((parse_accepts_call_grammar source toks htoks).1 calls).mp h
  obtain ⟨⟨i, hi⟩, rfl⟩ := List.mem_iff_get.mp hc
  have hi' : i < (lines toks).length := hshape.length_eq ▸ hi
  exact ⟨toks, _, htoks, List.get_mem _ ⟨i, hi'⟩, hshape.get hi' hi⟩

/-- The name a call binds stands in its line as a word token. -/
theorem CallShape.binding_mem {l : List (Token × Span)} {c : Call} {b : String}
    (h : CallShape l c) (hb : c.binding = some b) : ∃ s, (Token.word b, s) ∈ l := by
  cases h with
  | plain _ => cases hb
  | bound _ =>
    cases hb
    exact ⟨_, List.mem_cons_of_mem _ List.mem_cons_self⟩

/-- The name a parsed `let` line binds is a word. -/
theorem parse_binding_isWord {source : String} {calls : List Call} {c : Call} {b : String}
    (h : parse source = .ok calls) (hc : c ∈ calls) (hb : c.binding = some b) :
    IsWordLexeme b.toList := by
  obtain ⟨toks, l, htoks, hl, hshape⟩ := exists_line_of_parse h hc
  obtain ⟨s, hs⟩ := hshape.binding_mem hb
  have hmem : (Token.word b, s) ∈ toks := (mem_lines hl).2.subset hs
  obtain ⟨w, hw⟩ := (segments_of_lexFrom htoks).reads_of_mem _ hmem
  exact hw.isWordLexeme_of_word

/-! ## Lexing a reference -/

/-- The lexer's answer on a script, known through `Except.toOption`. -/
theorem tokenize_eq_ok_of_toOption {source : String} {toks : List (Token × Span)}
    (h : (tokenize source).toOption = some toks) : tokenize source = .ok toks := by
  cases hs : tokenize source with
  | error e =>
    rw [hs] at h
    cases h
  | ok t =>
    rw [hs] at h
    cases h
    rfl

theorem toList_dollar_append (b : String) : ("$" ++ b).toList = '$' :: b.toList := by
  rw [String.toList_append]
  rfl

/-- `$` and a word without a dot is one variable token, of that word, over all of it. -/
theorem tokenize_dollar_of_dot_not_mem {b : String} (hw : IsWordLexeme b.toList)
    (hdot : '.' ∉ b.toList) : tokenize ("$" ++ b) = .ok [(.var b, ⟨0, b.length + 1⟩)] := by
  obtain ⟨d, r, hdr, hd, hr⟩ := hw
  have hvar : ∀ c ∈ r, isVarChar c = true := fun c hc =>
    isVarChar_of_isWordChar (hr c hc) fun e => hdot (hdr ▸ e ▸ List.mem_cons_of_mem d hc)
  -- the variable runs to the end of the word
  have hl : lexeme '$' ((d :: r) ++ []) = .token (.var b) ('$' :: d :: r).length := by
    rw [List.append_nil, lexeme_dollar hd, List.takeWhile_eq_self_iff.mpr hvar, ← hdr,
      String.ofList_toList]
    rfl
  have hbytes : byteLength ('$' :: d :: r) = b.length + 1 := by
    rw [byteLength_dollar_word hd hr, ← String.length_toList, hdr, List.length_cons]
  have hstep := lexFrom_token 0 hl
  rw [List.append_nil] at hstep
  rw [tokenize, toList_dollar_append, hdr, hstep, lexFrom.eq_1, hbytes, Nat.zero_add]
  rfl

/-- `$` and a word with a dot is a failure at the first dot, the byte after the variable that
ends there. -/
theorem tokenize_dollar_of_dot_mem {b : String} (hw : IsWordLexeme b.toList)
    (hdot : '.' ∈ b.toList) :
    tokenize ("$" ++ b) = .error (.lexer "unexpected character: \".\""
      ⟨b.toList.idxOf '.' + 1, b.toList.idxOf '.' + 2⟩) := by
  obtain ⟨d, r, hdr, hd, hr⟩ := hw
  -- a word begins with no dot, so its first dot is in the rest: `d :: p`, then the dot
  have hd' : d ≠ '.' := fun e => absurd (e ▸ hd) (by decide)
  have hdotr : '.' ∈ r := by
    rw [hdr, List.mem_cons] at hdot
    exact hdot.resolve_left (Ne.symm hd')
  obtain ⟨p, t, hpt, hp⟩ := List.eq_append_cons_of_mem hdotr
  have hpv : ∀ c ∈ p, isVarChar c = true := fun c hc =>
    isVarChar_of_isWordChar (hr c (hpt ▸ List.mem_append_left _ hc)) fun e => hp (e ▸ hc)
  have hrun : (p ++ '.' :: t).takeWhile isVarChar = p := by
    have hstop : ('.' :: t).takeWhile isVarChar = [] := rfl
    rw [List.takeWhile_append_of_pos hpv, hstop, List.append_nil]
  have hl : lexeme '$' ((d :: p) ++ ('.' :: t)) =
      .token (.var (String.ofList (d :: p))) ('$' :: d :: p).length := by
    rw [List.cons_append, lexeme_dollar hd, hrun]
    rfl
  -- no rule's lexeme begins with a dot
  have hfail : lexeme '.' ([] ++ t) = .failure ['.'].length := rfl
  have hidx : b.toList.idxOf '.' = p.length + 1 := by
    rw [hdr, hpt, List.idxOf_cons, List.idxOf_append, if_neg hp, beq_eq_false_iff_ne.mpr hd',
      List.idxOf_cons_self, cond_false, Nat.zero_add]
  have hbytes : byteLength ('$' :: d :: p) = p.length + 2 :=
    byteLength_dollar_word hd fun c hc => hr c (hpt ▸ List.mem_append_left _ hc)
  have hquote : "unexpected character: " ++ Text.quote (String.ofList ['.']) =
      "unexpected character: \".\"" := by decide +kernel
  have hstep := lexFrom_token 0 hl
  have hstop := lexFrom_failure (0 + byteLength ('$' :: d :: p)) hfail
  rw [List.cons_append, List.nil_append] at hstop
  rw [tokenize, toList_dollar_append, hidx, hdr, hpt, ← List.cons_append, ← List.cons_append, hstep,
    hstop, hquote, hbytes]
  have hdotbyte : byteLength ['.'] = 1 := rfl
  simp only [Nat.zero_add, hdotbyte]
  rfl

/-- Every name a parsed `let` line binds is read back by `$` and the name exactly when it has no
dot. Without a dot, `$name` is one variable token of that name over the whole reference, so a later
line can use the binding. With a dot, `$name` makes the lexer fail at the first dot, reporting
the dot over its one byte: no script can refer to such a binding. -/
theorem let_binding_reference_tokens {source : String} {calls : List Call} {c : Call} {b : String}
    (h : parse source = .ok calls) (hc : c ∈ calls) (hb : c.binding = some b) :
    tokenize ("$" ++ b) =
      if '.' ∈ b.toList then
        .error (.lexer "unexpected character: \".\"" ⟨b.toList.idxOf '.' + 1, b.toList.idxOf '.' + 2⟩)
      else .ok [(.var b, ⟨0, b.length + 1⟩)] := by
  have hw := parse_binding_isWord h hc hb
  by_cases hdot : '.' ∈ b.toList
  · rw [if_pos hdot]
    exact tokenize_dollar_of_dot_mem hw hdot
  · rw [if_neg hdot]
    exact tokenize_dollar_of_dot_not_mem hw hdot

/-- `let x = f` binds `x`, and `$x` refers to it. -/
theorem plain_binding_referenced :
    parse "let x = f" = .ok [⟨some "x", "f", [], ⟨0, 9⟩⟩] ∧
      tokenize ("$" ++ "x") = .ok [(.var "x", ⟨0, 2⟩)] := by
  have htoks : tokenize "let x = f" =
      .ok [(.letKw, ⟨0, 3⟩), (.word "x", ⟨4, 5⟩), (.eq, ⟨6, 7⟩), (.word "f", ⟨8, 9⟩)] :=
    tokenize_eq_ok_of_toOption (by decide +kernel)
  have hp : parse "let x = f" = .ok [⟨some "x", "f", [], ⟨0, 9⟩⟩] := by
    rw [parse, htoks]
    rfl
  refine ⟨hp, ?_⟩
  have h := let_binding_reference_tokens hp List.mem_cons_self rfl
  rw [if_neg (by decide)] at h
  exact h

/-- `let a.b = f` binds `a.b`, yet `$a.b` is no variable token: the lexer fails at the dot. -/
theorem dotted_binding_unreferenced :
    parse "let a.b = f" = .ok [⟨some "a.b", "f", [], ⟨0, 11⟩⟩] ∧
      tokenize "$a.b" = .error (.lexer "unexpected character: \".\"" ⟨2, 3⟩) := by
  have htoks : tokenize "let a.b = f" =
      .ok [(.letKw, ⟨0, 3⟩), (.word "a.b", ⟨4, 7⟩), (.eq, ⟨8, 9⟩), (.word "f", ⟨10, 11⟩)] :=
    tokenize_eq_ok_of_toOption (by decide +kernel)
  have hp : parse "let a.b = f" = .ok [⟨some "a.b", "f", [], ⟨0, 11⟩⟩] := by
    rw [parse, htoks]
    rfl
  have hw : IsWordLexeme "a.b".toList := ⟨'a', ['.', 'b'], rfl, rfl, List.all_eq_true.mp (by decide)⟩
  have hdollar : "$a.b" = "$" ++ "a.b" := rfl
  have hidx : "a.b".toList.idxOf '.' = 1 := by decide
  refine ⟨hp, ?_⟩
  rw [hdollar, tokenize_dollar_of_dot_mem hw (by decide), hidx]

end HostInterop.Script
