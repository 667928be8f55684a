import HostInterop.Proofs.Lexemes
import Mathlib

/-!
# The lexer reads the longest lexemes

`tokenize` cuts a script into the pieces the rules of `HostInterop.Proofs.Lexemes` describe, each
the longest lexeme at its place, and reads each piece as its token over its byte range
(`tokenize_reads_longest_lexemes`). The proof goes one place at a time. At a place where some
rule's lexeme is the longest, the lexer finds exactly that lexeme and its token, or the failure
of an integer too large (`lexeme_of_skipped`, `lexeme_of_reads`, `lexeme_of_overflow`); this is
where longest match enters, through the character after the lexeme, which extends no rule
(`takeWhile_append_of_longest`). Conversely, what the lexer finds is a lexeme of a rule read as
its token (`lexeme_gap_sound`, `lexeme_token_sound`), and it is the longest: a longer one would
make the lexer find a longer one (`longestMatch_of_lexeme`). Along the source, the lexer reads a
segmented prefix and then goes on with what follows (`Segments.lexFrom_eq`), and what it reads
in full is segmented (`segments_of_lexFrom`).
-/

namespace HostInterop.Script

/-! ## The lexer at one place, by first character -/

/-- A digit begins no blank, comment, line end or `=`. -/
theorem isDigit_branch {c : Char} (hc : c.isDigit = true) :
    isGap c = false ∧ c ≠ ';' ∧ c ≠ '\n' ∧ c ≠ '=' := by
  simp only [isGap, Bool.or_eq_false_iff, beq_eq_false_iff_ne, ne_eq]
  simp [Char.isDigit, UInt32.le_iff_toNat_le, ← Char.toNat_inj] at hc ⊢
  omega

/-- A letter or an underscore begins no blank, comment, line end, `=` or integer. -/
theorem isWordStart_branch {c : Char} (hc : isWordStart c = true) :
    isGap c = false ∧ c ≠ ';' ∧ c ≠ '\n' ∧ c ≠ '=' ∧ c.isDigit = false ∧ c ≠ '-' := by
  simp [isWordStart, isGap, Char.isAlpha, Char.isUpper, Char.isLower, Char.isDigit,
    UInt32.le_iff_toNat_le, ← Char.toNat_inj] at hc ⊢
  omega

theorem lexeme_of_isGap {c : Char} (hc : isGap c = true) (rest : List Char) :
    lexeme c rest = .gap (1 + (rest.takeWhile isGap).length) := by
  simp [lexeme, hc]

theorem lexeme_semicolon (rest : List Char) :
    lexeme ';' rest = .gap (1 + (rest.takeWhile (· != '\n')).length) := by
  simp [lexeme, isGap]

theorem lexeme_newline (rest : List Char) : lexeme '\n' rest = .token .newline 1 := by
  simp [lexeme, isGap]

theorem lexeme_equals (rest : List Char) : lexeme '=' rest = .token .eq 1 := by
  simp [lexeme, isGap]

theorem lexeme_of_isDigit {c : Char} (hc : c.isDigit = true) (rest : List Char) :
    lexeme c rest = intLexeme false (c :: rest.takeWhile Char.isDigit) := by
  obtain ⟨hg, hs, hn, he⟩ := isDigit_branch hc
  simp [lexeme, hg, hs, hn, he, hc]

theorem lexeme_minus {rest ds : List Char} (hds : rest.takeWhile Char.isDigit = ds) (hne : ds ≠ []) :
    lexeme '-' rest = intLexeme true ds := by
  obtain ⟨d, ds, rfl⟩ := List.exists_cons_of_ne_nil hne
  simp [lexeme, isGap, hds]

theorem lexeme_of_isWordStart {c : Char} (hc : isWordStart c = true) (rest : List Char) :
    lexeme c rest = .token (wordToken (c :: rest.takeWhile isWordChar))
      (c :: rest.takeWhile isWordChar).length := by
  obtain ⟨hg, hs, hn, he, hd, hm⟩ := isWordStart_branch hc
  simp [lexeme, hg, hs, hn, he, hd, hm, hc]

theorem lexeme_dollar {d : Char} (hd : isWordStart d = true) (more : List Char) :
    lexeme '$' (d :: more) = .token (.var (String.ofList (d :: more.takeWhile isVarChar)))
      ((d :: more.takeWhile isVarChar).length + 1) := by
  have hs : isWordStart '$' = false := rfl
  simp [lexeme, isGap, hs, hd]

theorem lexeme_dquote {rest : List Char} {width : Nat} (h : scanText rest 1 = .ok width) :
    lexeme '"' rest = .token (.str (String.ofList (unescape (rest.take (width - 2))))) width := by
  simp [lexeme, isGap, isWordStart, h]

theorem lexeme_squote {rest inside : List Char} {width : Nat} {v : Char}
    (h : scanChar rest = some (width, inside)) (hv : unescape inside = [v]) :
    lexeme '\'' rest = .token (.char v) width := by
  simp [lexeme, isGap, isWordStart, h, hv]

/-! ## Where the longest lexeme is, the lexer finds it -/

/-- The character after the longest lexeme extends it to no lexeme. -/
theorem LongestMatch.next {u v : List Char} {x : Char} (hm : LongestMatch u (x :: v)) :
    ¬ Lexical (u ++ [x]) :=
  hm.2 [x] (List.cons_ne_nil _ _) (List.prefix_cons_iff.mpr (.inr ⟨[], rfl, List.nil_prefix⟩))

/-- A run of a character class inside the longest lexeme ends where the lexeme does, when any
character of the class after it would extend the lexeme. -/
theorem takeWhile_append_of_longest {p : Char → Bool} {u r v : List Char} (hm : LongestMatch u v)
    (hr : ∀ x ∈ r, p x = true) (hext : ∀ x, p x = true → Lexical (u ++ [x])) :
    (r ++ v).takeWhile p = r := by
  rw [List.takeWhile_append_of_pos hr]
  cases v with
  | nil => simp
  | cons x v =>
    have hx : p x = false := by
      cases hp : p x
      · rfl
      · exact absurd (hext x hp) hm.next
    simp [hx]

/-- The word lexeme `u ++ [x]` when `x` continues a word. -/
theorem isWordLexeme_snoc {u : List Char} (hu : IsWordLexeme u) {x : Char}
    (hx : isWordChar x = true) : IsWordLexeme (u ++ [x]) := by
  obtain ⟨d, r, rfl, hd, hr⟩ := hu
  refine ⟨d, r ++ [x], rfl, hd, fun c hc => ?_⟩
  rcases List.mem_append.mp hc with hc | hc
  · exact hr c hc
  · rw [List.mem_singleton.mp hc]; exact hx

/-- At the longest word lexeme the lexer reads the whole word, as `wordToken` says. -/
theorem lexeme_of_wordLexeme {u v : List Char} (hm : LongestMatch u v) (hu : IsWordLexeme u) :
    ∃ c r, u = c :: r ∧ lexeme c (r ++ v) = .token (wordToken u) u.length := by
  obtain ⟨d, r, rfl, hd, hr⟩ := id hu
  refine ⟨d, r, rfl, ?_⟩
  have hrun : (r ++ v).takeWhile isWordChar = r :=
    takeWhile_append_of_longest hm hr fun x hx => .inr (.inr (.inr (.inr (.inr (.inr
      (isWordLexeme_snoc hu hx))))))
  rw [lexeme_of_isWordStart hd, hrun]

/-- The value of a sign and a run of digits, as the lexer computes it. -/
theorem intValue_signed (negative : Bool) {ds : List Char} (hds : ∀ d ∈ ds, d.isDigit = true)
    (hne : ds ≠ []) :
    intValue (if negative then '-' :: ds else ds) =
      if negative then -(digitsNat ds : Int) else digitsNat ds := by
  cases negative with
  | true => simp [intValue, digitsNat_eq_decimalValue]
  | false =>
    obtain ⟨d, ds, rfl⟩ := List.exists_cons_of_ne_nil hne
    have hd : d ≠ '-' := by
      rintro rfl
      exact absurd (hds '-' List.mem_cons_self) (by decide)
    simp [intValue, hd, digitsNat_eq_decimalValue]

/-- At the longest integer lexeme the lexer reads the whole run of digits, and gives the integer
of its value when a 64-bit integer holds it, and a failure over the whole run otherwise. -/
theorem lexeme_of_intLexeme {u v : List Char} (hm : LongestMatch u v) (hu : IsIntLexeme u) :
    ∃ c r, u = c :: r ∧ lexeme c (r ++ v) =
      if -9223372036854775808 ≤ intValue u ∧ intValue u ≤ 9223372036854775807 then
        .token (.int (Int64.ofInt (intValue u))) u.length
      else .failure u.length := by
  obtain ⟨ds, rfl | rfl, hne, hds⟩ := id hu
  · -- no sign: the lexeme is a run of digits
    obtain ⟨d, ds, rfl⟩ := List.exists_cons_of_ne_nil hne
    have hd : d.isDigit = true := hds d List.mem_cons_self
    have hrun : (ds ++ v).takeWhile Char.isDigit = ds := by
      refine takeWhile_append_of_longest hm (fun x hx => hds x (List.mem_cons_of_mem _ hx)) ?_
      intro x hx
      refine .inr (.inr (.inl ⟨d :: ds ++ [x], .inl rfl, by simp, ?_⟩))
      exact List.forall_mem_append.mpr ⟨hds, List.forall_mem_singleton.mpr hx⟩
    have hval : intValue (d :: ds) = (digitsNat (d :: ds) : Int) :=
      intValue_signed false hds hne
    refine ⟨d, ds, rfl, ?_⟩
    rw [lexeme_of_isDigit hd, hrun, hval]
    simp [intLexeme]
  · -- a minus sign, then a run of digits
    have hrun : (ds ++ v).takeWhile Char.isDigit = ds := by
      refine takeWhile_append_of_longest hm hds ?_
      intro x hx
      refine .inr (.inr (.inl ⟨ds ++ [x], .inr rfl, by simp, ?_⟩))
      exact List.forall_mem_append.mpr ⟨hds, List.forall_mem_singleton.mpr hx⟩
    refine ⟨'-', ds, rfl, ?_⟩
    rw [lexeme_minus hrun hne]
    simp [intLexeme, intValue, digitsNat_eq_decimalValue]

/-- At the longest skipped lexeme the lexer skips all of it. -/
theorem lexeme_of_skipped {u v : List Char} (hm : LongestMatch u v) (hs : IsSkipped u) :
    ∃ c r, u = c :: r ∧ lexeme c (r ++ v) = .gap u.length := by
  rcases hs with ⟨hne, hgap⟩ | ⟨r, rfl, hr⟩
  · obtain ⟨c, r, rfl⟩ := List.exists_cons_of_ne_nil hne
    have hrun : (r ++ v).takeWhile isGap = r := by
      refine takeWhile_append_of_longest hm (fun x hx => hgap x (List.mem_cons_of_mem _ hx)) ?_
      intro x hx
      refine .inl (.inl ⟨by simp, ?_⟩)
      exact List.forall_mem_append.mpr ⟨hgap, List.forall_mem_singleton.mpr hx⟩
    refine ⟨c, r, rfl, ?_⟩
    rw [lexeme_of_isGap (hgap c List.mem_cons_self), hrun, List.length_cons, Nat.add_comm]
  · -- a comment runs to the line end
    have hrun : (r ++ v).takeWhile (· != '\n') = r := by
      refine takeWhile_append_of_longest hm (fun x hx => by simpa using hr x hx) ?_
      intro x hx
      refine .inl (.inr ⟨r ++ [x], rfl, ?_⟩)
      exact List.forall_mem_append.mpr ⟨hr, List.forall_mem_singleton.mpr (by simpa using hx)⟩
    refine ⟨';', r, rfl, ?_⟩
    rw [lexeme_semicolon, hrun, List.length_cons, Nat.add_comm]

/-- At the longest lexeme of a token the lexer reads that token over the whole lexeme. -/
theorem lexeme_of_reads {u v : List Char} {t : Token} (hm : LongestMatch u v) (ht : Reads u t) :
    ∃ c r, u = c :: r ∧ lexeme c (r ++ v) = .token t u.length := by
  have word : ∀ w, u = w → IsWordLexeme w → wordToken w = t →
      ∃ c r, u = c :: r ∧ lexeme c (r ++ v) = .token t u.length := by
    rintro w rfl hw rfl
    exact lexeme_of_wordLexeme hm hw
  cases ht with
  | letKw => exact word _ rfl ⟨'l', ['e', 't'], rfl, by decide, List.all_eq_true.mp (by decide)⟩ rfl
  | trueKw => exact word _ rfl ⟨'t', [], rfl, by decide, List.all_eq_true.mp (by decide)⟩ rfl
  | nilKw => exact word _ rfl ⟨'n', ['i', 'l'], rfl, by decide, List.all_eq_true.mp (by decide)⟩ rfl
  | eq => exact ⟨'=', [], rfl, lexeme_equals _⟩
  | newline => exact ⟨'\n', [], rfl, lexeme_newline _⟩
  | int hi hn =>
    have hfit := (exists_toInt_eq_iff _).mp ⟨_, hn⟩
    obtain ⟨c, r, hw, hl⟩ := lexeme_of_intLexeme hm hi
    refine ⟨c, r, hw, ?_⟩
    rw [hl, if_pos hfit, ← hn, Int64.ofInt_toInt]
  | @text body hb =>
    refine ⟨'"', body ++ ['"'], rfl, ?_⟩
    have hscan : scanText ((body ++ ['"']) ++ v) 1 = .ok (body.length + 2) := by
      rw [List.append_assoc, List.singleton_append, scanText_body hb]
      congr 1
      omega
    rw [lexeme_dquote hscan]
    simp
  | @char item c hi hc =>
    refine ⟨'\'', item ++ ['\''], rfl, ?_⟩
    have hscan : scanChar ((item ++ ['\'']) ++ v) = some (item.length + 2, item) := by
      rw [List.append_assoc, List.singleton_append, scanChar_item hi]
    rw [lexeme_squote hscan hc]
    simp
  | @var name hv =>
    obtain ⟨d, r, hname, hd, hr⟩ := id hv
    cases hname
    have hrun : (r ++ v).takeWhile isVarChar = r := by
      refine takeWhile_append_of_longest hm hr ?_
      intro x hx
      refine .inr (.inr (.inr (.inr (.inr (.inl ⟨d, r ++ [x], rfl, hd, ?_⟩)))))
      exact List.forall_mem_append.mpr ⟨hr, List.forall_mem_singleton.mpr hx⟩
    refine ⟨'$', d :: r, rfl, ?_⟩
    rw [List.cons_append, lexeme_dollar hd, hrun]
    simp
  | word hw hf =>
    refine word _ rfl hw ?_
    simp only [fixedLexemes, List.mem_cons, List.not_mem_nil, or_false, not_or] at hf
    simp [wordToken, hf.1, hf.2.2.1, hf.2.2.2.1]

/-- At the longest integer lexeme whose value no 64-bit integer holds, the lexer fails over the
whole lexeme. -/
theorem lexeme_of_overflow {u v : List Char} (hm : LongestMatch u v) (hu : IsIntLexeme u)
    (hover : ¬ ∃ n : Int64, n.toInt = intValue u) :
    ∃ c r, u = c :: r ∧ lexeme c (r ++ v) = .failure u.length := by
  obtain ⟨c, r, hw, hl⟩ := lexeme_of_intLexeme hm hu
  rw [exists_toInt_eq_iff] at hover
  exact ⟨c, r, hw, by rw [hl, if_neg hover]⟩

/-- Where the longest lexeme is, the lexer covers exactly it. -/
theorem lexeme_width_of_longest {u v : List Char} (hm : LongestMatch u v) :
    ∃ c r, u = c :: r ∧ (lexeme c (r ++ v)).width = u.length := by
  rcases hm.1.skipped_or_reads with hs | ⟨t, ht⟩ | ⟨hi, hover⟩
  · obtain ⟨c, r, rfl, hl⟩ := lexeme_of_skipped hm hs
    exact ⟨c, r, rfl, by simp [hl, Lexeme.width]⟩
  · obtain ⟨c, r, rfl, hl⟩ := lexeme_of_reads hm ht
    exact ⟨c, r, rfl, by simp [hl, Lexeme.width]⟩
  · obtain ⟨c, r, rfl, hl⟩ := lexeme_of_overflow hm hi hover
    exact ⟨c, r, rfl, by simp [hl, Lexeme.width]⟩

/-! ## What the lexer finds is a lexeme of the rules -/

/-- The token of a word is what the rules read the word as. -/
theorem reads_wordToken {w : List Char} (hw : IsWordLexeme w) : Reads w (wordToken w) := by
  unfold wordToken
  split_ifs with h1 h2 h3
  · subst h1; exact .letKw
  · subst h2; exact .trueKw
  · subst h3; exact .nilKw
  · refine .word hw ?_
    obtain ⟨d, r, rfl, hd, -⟩ := hw
    simp only [fixedLexemes, List.mem_cons, List.not_mem_nil, or_false, not_or]
    refine ⟨h1, ?_, h2, h3, ?_⟩
    · intro h; cases h; exact absurd hd (by decide)
    · intro h; cases h; exact absurd hd (by decide)

/-- An integer the lexer reads lies in the 64-bit range, and is the integer of its digits' value
with their sign. -/
theorem intLexeme_eq_token {negative : Bool} {ds : List Char} {t : Token} {w : Nat}
    (h : intLexeme negative ds = .token t w) :
    let v : Int := if negative then -(digitsNat ds : Int) else digitsNat ds
    (-9223372036854775808 ≤ v ∧ v ≤ 9223372036854775807) ∧ t = .int (Int64.ofInt v) ∧
      w = ds.length + (if negative then 1 else 0) := by
  cases negative <;> simp only [intLexeme, ↓reduceIte, Bool.false_eq_true] at h ⊢ <;>
    split at h <;> cases h <;> exact ⟨‹_›, rfl, rfl⟩

theorem intLexeme_ne_gap (negative : Bool) (ds : List Char) (w : Nat) :
    intLexeme negative ds ≠ .gap w := by
  cases negative <;> simp only [intLexeme, ↓reduceIte, Bool.false_eq_true] <;> split <;> simp

/-- The integer a fitting value reads as. -/
theorem reads_int {u : List Char} (hu : IsIntLexeme u)
    (hr : -9223372036854775808 ≤ intValue u ∧ intValue u ≤ 9223372036854775807) :
    Reads u (.int (Int64.ofInt (intValue u))) :=
  .int hu (Int64.toInt_ofInt_of_le (by simpa using hr.1) (by omega))

/-- A sign and a run of digits that the lexer reads as a token are an integer lexeme read as
that token. -/
theorem reads_of_intLexeme {negative : Bool} {ds : List Char} {t : Token} {w : Nat}
    (hds : ∀ d ∈ ds, d.isDigit = true) (hne : ds ≠ []) (h : intLexeme negative ds = .token t w) :
    (if negative then '-' :: ds else ds).length = w ∧
      Reads (if negative then '-' :: ds else ds) t := by
  obtain ⟨hr, rfl, rfl⟩ := intLexeme_eq_token h
  have hu : IsIntLexeme (if negative then '-' :: ds else ds) :=
    ⟨ds, by cases negative <;> simp, hne, hds⟩
  rw [← intValue_signed negative hds hne] at hr ⊢
  refine ⟨?_, reads_int hu hr⟩
  cases negative <;> simp

/-- What the lexer skips is a blank run or a comment at the head of the source. -/
theorem lexeme_gap_sound {c : Char} {rest : List Char} {w : Nat} (h : lexeme c rest = .gap w) :
    ∃ u v, c :: rest = u ++ v ∧ u.length = w ∧ IsSkipped u := by
  by_cases hg : isGap c = true
  · rw [lexeme_of_isGap hg] at h
    cases h
    refine ⟨c :: rest.takeWhile isGap, rest.dropWhile isGap, by simp,
      by simp [Nat.add_comm], .inl ⟨by simp, fun x hx => ?_⟩⟩
    rcases List.mem_cons.mp hx with rfl | hx
    · exact hg
    · exact List.mem_takeWhile_imp hx
  · by_cases hs : c = ';'
    · subst hs
      rw [lexeme_semicolon] at h
      cases h
      refine ⟨';' :: rest.takeWhile (· != '\n'), rest.dropWhile (· != '\n'), by simp,
        by simp [Nat.add_comm], .inr ⟨_, rfl, fun x hx => ?_⟩⟩
      simpa using List.mem_takeWhile_imp hx
    · unfold lexeme at h
      simp only [hg, hs, if_false, Bool.false_eq_true] at h
      -- every other branch, in the lexer's order, gives a token, an integer or a failure
      split at h
      · cases h
      split at h
      · cases h
      split at h
      · exact absurd h (intLexeme_ne_gap _ _ _)
      split at h
      · split at h
        · cases h
        · exact absurd h (intLexeme_ne_gap _ _ _)
      split at h
      · cases h
      split at h
      · split at h
        · split at h <;> cases h
        · cases h
      split at h
      · split at h <;> cases h
      split at h
      · split at h
        · split at h <;> cases h
        · cases h
      cases h

/-- A run of a character class at the head of a list, and what follows it. -/
theorem cons_takeWhile_append (p : Char → Bool) (c : Char) (rest : List Char) :
    c :: rest = (c :: rest.takeWhile p) ++ rest.dropWhile p := by
  simp

/-- What the lexer reads as a token is a lexeme at the head of the source, read as that token. -/
theorem lexeme_token_sound {c : Char} {rest : List Char} {t : Token} {w : Nat}
    (h : lexeme c rest = .token t w) : ∃ u v, c :: rest = u ++ v ∧ u.length = w ∧ Reads u t := by
  unfold lexeme at h
  -- the lexer's branches one at a time, in its order; the two skipped ones give no token
  by_cases hg : isGap c = true
  · rw [if_pos hg] at h
    cases h
  rw [if_neg hg] at h
  by_cases hs : c = ';'
  · rw [if_pos hs] at h
    cases h
  rw [if_neg hs] at h
  by_cases hn : c = '\n'
  · -- the line end
    rw [if_pos hn] at h
    cases h; subst hn
    exact ⟨['\n'], rest, rfl, rfl, .newline⟩
  rw [if_neg hn] at h
  by_cases he : c = '='
  · -- `=`
    rw [if_pos he] at h
    cases h; subst he
    exact ⟨['='], rest, rfl, rfl, .eq⟩
  rw [if_neg he] at h
  by_cases hd : c.isDigit = true
  · -- a run of digits
    rw [if_pos hd] at h
    have hds : ∀ x ∈ c :: rest.takeWhile Char.isDigit, x.isDigit = true :=
      List.forall_mem_cons.mpr ⟨hd, fun x hx => List.mem_takeWhile_imp hx⟩
    obtain ⟨hw, hr⟩ := reads_of_intLexeme hds (List.cons_ne_nil _ _) h
    exact ⟨_, _, cons_takeWhile_append Char.isDigit c rest, hw, hr⟩
  rw [if_neg hd] at h
  by_cases hm : c = '-'
  · -- a minus sign and a run of digits
    rw [if_pos hm] at h
    subst hm
    split at h
    · cases h
    · rename_i hne
      obtain ⟨hw, hr⟩ := reads_of_intLexeme (fun x hx => List.mem_takeWhile_imp hx) hne h
      exact ⟨_, rest.dropWhile Char.isDigit, by simp, hw, hr⟩
  rw [if_neg hm] at h
  by_cases hws : isWordStart c = true
  · -- a word, or the fixed token it spells
    rw [if_pos hws] at h
    cases h
    exact ⟨_, _, cons_takeWhile_append isWordChar c rest, rfl,
      reads_wordToken ⟨c, _, rfl, hws, fun x hx => List.mem_takeWhile_imp hx⟩⟩
  rw [if_neg hws] at h
  by_cases hdl : c = '$'
  · -- a variable
    rw [if_pos hdl] at h
    subst hdl
    split at h
    · rename_i d more
      split_ifs at h with hd'
      cases h
      refine ⟨'$' :: d :: more.takeWhile isVarChar, more.dropWhile isVarChar, by simp, by simp,
        .var ⟨d, _, rfl, hd', fun x hx => List.mem_takeWhile_imp hx⟩⟩
    · cases h
  rw [if_neg hdl] at h
  by_cases hdq : c = '"'
  · -- a text
    rw [if_pos hdq] at h
    subst hdq
    split at h
    · rename_i width hscan
      cases h
      obtain ⟨body, more, rfl, hb, rfl⟩ := scanText_ok hscan
      refine ⟨'"' :: (body ++ ['"']), more, by simp, by simp; omega, ?_⟩
      have htake : (body ++ '"' :: more).take (1 + body.length + 1 - 2) = body := by
        rw [show 1 + body.length + 1 - 2 = body.length by omega]
        simp
      rw [htake]
      exact .text hb
    · cases h
  rw [if_neg hdq] at h
  by_cases hsq : c = '\''
  · -- a character
    rw [if_pos hsq] at h
    subst hsq
    split at h
    · rename_i width inside hscan
      split at h
      · rename_i v hv
        cases h
        obtain ⟨more, rfl, hi, rfl⟩ := scanChar_some hscan
        exact ⟨'\'' :: (inside ++ ['\'']), more, by simp, by simp, .char hi hv⟩
      · cases h
    · cases h
  rw [if_neg hsq] at h
  cases h

/-- Every lexeme has at least one character. -/
theorem Lexical.ne_nil {w : List Char} (h : Lexical w) : w ≠ [] := by
  rintro rfl
  rcases h with (⟨hne, -⟩ | ⟨r, hr, -⟩) | hf | ⟨ds, hds | hds, hne, -⟩ | ⟨b, hb, -⟩ | ⟨i, hi, -⟩ |
      ⟨d, r, hv, -⟩ | ⟨d, r, hw, -⟩
  · exact hne rfl
  all_goals simp_all [fixedLexemes]

/-- What the lexer finds at a place is the longest lexeme there: were a longer one there, the
lexer would find that one. -/
theorem longestMatch_of_lexeme {c : Char} {rest u v : List Char} (hcs : c :: rest = u ++ v)
    (hu : Lexical u) (hw : (lexeme c rest).width = u.length) : LongestMatch u v := by
  refine ⟨hu, fun y hy hpre hl => ?_⟩
  obtain ⟨x, rfl⟩ := hpre
  obtain ⟨u', v', heq, hm, hle⟩ := exists_longestMatch x hl
  obtain ⟨c', r', rfl, hw'⟩ := lexeme_width_of_longest hm
  have hsame : c :: rest = c' :: (r' ++ v') := by
    rw [hcs, ← List.append_assoc, heq, List.cons_append]
  obtain ⟨rfl, rfl⟩ := List.cons.inj hsame
  -- the lexer covers the longer lexeme, yet it covers `u`
  rw [hw'] at hw
  have hpos := List.length_pos_iff.mpr hy
  simp only [List.length_append] at hle
  omega

/-! ## Along the source -/

@[simp] theorem byteLength_nil : byteLength [] = 0 := rfl

@[simp] theorem byteLength_cons (c : Char) (cs : List Char) :
    byteLength (c :: cs) = c.utf8Size + byteLength cs := rfl

/-- The bytes of a non-empty list of characters are at least one. -/
theorem byteLength_pos {w : List Char} (h : w ≠ []) : 0 < byteLength w := by
  obtain ⟨c, r, rfl⟩ := List.exists_cons_of_ne_nil h
  rw [byteLength_cons]
  have := Char.utf8Size_pos c
  omega

theorem byteLength_append (u v : List Char) :
    byteLength (u ++ v) = byteLength u + byteLength v := by
  induction u with
  | nil => simp
  | cons c u ih => simp [ih, Nat.add_assoc]

/-- The lexer's step over a lexeme it skips. -/
theorem lexFrom_gap {c : Char} {r v : List Char} (pos : Nat)
    (h : lexeme c (r ++ v) = .gap (c :: r).length) :
    lexFrom (c :: r ++ v) pos = lexFrom v (pos + byteLength (c :: r)) := by
  rw [List.cons_append, lexFrom.eq_2, h]
  simp [Lexeme.width]

/-- The lexer's step over the lexeme of a token. -/
theorem lexFrom_token {c : Char} {r v : List Char} {t : Token} (pos : Nat)
    (h : lexeme c (r ++ v) = .token t (c :: r).length) :
    lexFrom (c :: r ++ v) pos =
      ((t, ⟨pos, pos + byteLength (c :: r)⟩) :: ·) <$> lexFrom v (pos + byteLength (c :: r)) := by
  rw [List.cons_append, lexFrom.eq_2, h]
  simp [Lexeme.width]

/-- The lexer's failure over a lexeme. -/
theorem lexFrom_failure {c : Char} {r v : List Char} (pos : Nat)
    (h : lexeme c (r ++ v) = .failure (c :: r).length) :
    lexFrom (c :: r ++ v) pos =
      .error (.lexer ("unexpected character: " ++ Text.quote (String.ofList (c :: r)))
        ⟨pos, pos + byteLength (c :: r)⟩) := by
  rw [List.cons_append, lexFrom.eq_2, h]
  simp [Lexeme.width]

/-- The lexer reads a segmented prefix as its tokens, then goes on from the remainder. -/
theorem Segments.lexFrom_eq {cs tail : List Char} {pos stop : Nat} {toks : List (Token × Span)}
    (h : Segments cs pos toks tail stop) : lexFrom cs pos = (toks ++ ·) <$> lexFrom tail stop := by
  induction h with
  | done cs pos => simp
  | skip hm hs _ ih =>
    obtain ⟨c, r, rfl, hl⟩ := lexeme_of_skipped hm hs
    rw [lexFrom_gap _ hl, ih]
  | token hm ht _ ih =>
    obtain ⟨c, r, rfl, hl⟩ := lexeme_of_reads hm ht
    rw [lexFrom_token _ hl, ih, Functor.map_map]
    rfl

/-- Where the lexer covers a lexeme of the rules, that lexeme is the longest at its place, and the
lexer goes on with what follows it, from the byte where it ends. -/
theorem lexFrom_next_of_lexical {c : Char} {rest u v : List Char} (hcs : c :: rest = u ++ v)
    (hu : Lexical u) (hw : (lexeme c rest).width = u.length) (pos : Nat) :
    LongestMatch u v ∧ (c :: rest).drop (lexeme c rest).width = v ∧
      pos + byteLength ((c :: rest).take (lexeme c rest).width) = pos + byteLength u := by
  refine ⟨longestMatch_of_lexeme hcs hu hw, ?_, ?_⟩
  · rw [hw, hcs, List.drop_left]
  · rw [hw, hcs, List.take_left]

/-- What the lexer reads in full is segmented, to the end of the source. -/
theorem segments_of_lexFrom {cs : List Char} {pos : Nat} {toks : List (Token × Span)}
    (h : lexFrom cs pos = .ok toks) : Segments cs pos toks [] (pos + byteLength cs) := by
  fun_induction lexFrom cs pos generalizing toks with
  | case1 pos =>
    cases h
    simpa using Segments.done [] pos
  | case2 pos c rest _ l taken stop w hl =>
    -- a skipped lexeme: the rest of the source is read from its end
    rename_i ih
    have hl' : lexeme c rest = .gap w := hl
    obtain ⟨u, v, hcs, rfl, hs⟩ := lexeme_gap_sound hl'
    have hwidth : (lexeme c rest).width = u.length := by
      rw [hl']
      exact Nat.max_eq_left (List.length_pos_iff.mpr (Lexical.ne_nil (.inl hs)))
    obtain ⟨hm, hdrop, hstop⟩ := lexFrom_next_of_lexical hcs (.inl hs) hwidth pos
    have hrest := ih h
    rw [show List.drop l.width (c :: rest) = v from hdrop,
      show stop = pos + byteLength u from hstop] at hrest
    rw [hcs, byteLength_append, ← Nat.add_assoc]
    exact Segments.skip hm hs hrest
  | case3 pos c rest _ l taken stop t w hl =>
    -- a token's lexeme: its token, then the tokens of the rest
    rename_i ih
    have hl' : lexeme c rest = .token t w := hl
    obtain ⟨u, v, hcs, rfl, ht⟩ := lexeme_token_sound hl'
    have hwidth : (lexeme c rest).width = u.length := by
      rw [hl']
      exact Nat.max_eq_left (List.length_pos_iff.mpr ht.lexical.ne_nil)
    obtain ⟨hm, hdrop, hstop⟩ := lexFrom_next_of_lexical hcs ht.lexical hwidth pos
    cases hnext : lexFrom (List.drop l.width (c :: rest)) stop with
    | error e => rw [hnext] at h; cases h
    | ok more =>
      rw [hnext] at h
      cases h
      have hrest := ih hnext
      rw [show List.drop l.width (c :: rest) = v from hdrop,
        show stop = pos + byteLength u from hstop] at hrest
      rw [hcs, byteLength_append, ← Nat.add_assoc, show stop = pos + byteLength u from hstop]
      exact Segments.token hm ht hrest
  | case4 => cases h

theorem SpansWithin.of_le {lo lo' hi : Nat} {toks : List (Token × Span)}
    (h : SpansWithin lo hi toks) (hle : lo' ≤ lo) : SpansWithin lo' hi toks := by
  cases toks with
  | nil => exact Nat.le_trans hle h
  | cons tok rest => exact ⟨Nat.le_trans hle h.1, h.2.1, h.2.2⟩

/-- The tokens of segmented pieces lie in order, apart, each over bytes of its own. -/
theorem Segments.spansWithin {cs tail : List Char} {pos stop : Nat} {toks : List (Token × Span)}
    (h : Segments cs pos toks tail stop) : SpansWithin pos stop toks := by
  induction h with
  | done => exact Nat.le_refl _
  | skip _ _ _ ih => exact ih.of_le (Nat.le_add_right _ _)
  | token _ ht _ ih =>
    exact ⟨Nat.le_refl _, Nat.lt_add_of_pos_right (byteLength_pos ht.lexical.ne_nil), ih⟩

/-! ## The lexer -/

/-- The script lexer cuts a source losslessly into its longest lexemes and reads each from its
lexeme. `tokenize` succeeds exactly when the source is a sequence of pieces, each the longest
lexeme of some rule at its place, blank runs and comments skipped, and every other piece read as
the token `Reads` gives it: a fixed token exactly from its own lexeme, an integer as its decimal
value, a text as its inside with the escapes resolved, a character as the one character of its
inside, a variable as its name, a word as itself. The tokens come with the byte ranges of their
lexemes, non-empty, in order, apart and within the source. An integer lexeme at such a place
whose value no 64-bit integer holds makes the lexer fail over exactly that lexeme. A character's
inside always resolves to exactly one character. -/
theorem tokenize_reads_longest_lexemes :
    (∀ (source : String) (toks : List (Token × Span)),
      tokenize source = .ok toks ↔ Segments source.toList 0 toks [] (byteLength source.toList)) ∧
    (∀ (source : String) (toks : List (Token × Span)),
      tokenize source = .ok toks → SpansWithin 0 (byteLength source.toList) toks) ∧
    (∀ (source : String) (toks : List (Token × Span)) (w rest : List Char) (pos : Nat),
      Segments source.toList 0 toks (w ++ rest) pos → LongestMatch w rest → IsIntLexeme w →
      (¬ ∃ n : Int64, n.toInt = intValue w) →
      tokenize source = .error (.lexer ("unexpected character: " ++ Text.quote (String.ofList w))
        ⟨pos, pos + byteLength w⟩)) ∧
    (∀ item : List Char, QuotedItem '\'' item → ∃ c, unescape item = [c]) := by
  have reads : ∀ source toks, tokenize source = .ok toks ↔
      Segments source.toList 0 toks [] (byteLength source.toList) := by
    intro source toks
    constructor
    · intro h
      simpa using segments_of_lexFrom h
    · intro h
      rw [tokenize, h.lexFrom_eq, lexFrom.eq_1]
      simp
  refine ⟨reads, fun source toks h => ((reads source toks).mp h).spansWithin, ?_,
    fun _ => unescape_item⟩
  intro source toks w rest pos hseg hm hi hover
  obtain ⟨c, r, rfl, hl⟩ := lexeme_of_overflow hm hi hover
  rw [tokenize, hseg.lexFrom_eq, lexFrom_failure pos hl]
  rfl

/-- One past the largest 64-bit integer is the longest lexeme of the integer rule at the head of
its source and writes a value no 64-bit integer holds: the lexer fails over its whole width. -/
theorem tokenize_int64_overflow :
    tokenize "9223372036854775808" = .error (.lexer
      ("unexpected character: " ++ Text.quote "9223372036854775808") ⟨0, 19⟩) := by
  have hw : IsIntLexeme "9223372036854775808".toList :=
    ⟨_, .inl rfl, by decide, List.all_eq_true.mp (by decide)⟩
  have hm : LongestMatch "9223372036854775808".toList [] :=
    ⟨.inr (.inr (.inl hw)), fun u hu hp => absurd (List.prefix_nil.mp hp) hu⟩
  have hover : ¬ ∃ n : Int64, n.toInt = intValue "9223372036854775808".toList := by
    have hv : intValue "9223372036854775808".toList = 9223372036854775808 := by decide
    rw [exists_toInt_eq_iff, hv]
    omega
  have hseg : Segments "9223372036854775808".toList 0 [] ("9223372036854775808".toList ++ []) 0 :=
    by simpa using Segments.done "9223372036854775808".toList 0
  have hfail := tokenize_reads_longest_lexemes.2.2.1 _ _ _ _ _ hseg hm hw hover
  have hwidth : byteLength "9223372036854775808".toList = 19 := by decide
  rw [hfail, String.ofList_toList, hwidth]

end HostInterop.Script
