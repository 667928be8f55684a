import HostInterop.Proofs.Tokenize
import HostInterop.Proofs.ScriptRun
import HostInterop.Script.Call

/-!
# The line grammar of a call script

A script's tokens are cut at the line ends into runs, empty runs dropped (`lines`). A run is a
call when it has the shape `[let NAME =] OPERATION ARG*`, where the name and the operation are
words and every argument is an integer, a character, a text, a word (read as a text), `t`, `nil`
or a variable (`CallShape`). The call's span runs from the start of the run's first token, the
`let` when there is one, to the end of its last (`runSpan`).

The parser accepts exactly this grammar (`parse_accepts_call_grammar`). When the lexer succeeds,
the parse succeeds exactly when every run has the shape of a call, and gives the calls of the
runs in order. Otherwise it fails with the error of the first run of another shape
(`LineError`): at the first token that no call has at its place, or over the run's first token
when the run stops where a call could go on. The beginnings that some call has (`Viable`) are
closed under prefixes, so the first offending token is well defined.

The parser meets the grammar on a run of the shape of a call (`CallShape.parseLine`) and on a
run with a line error (`LineError.parseLine`), and every run is one or the other
(`callShape_or_lineError`); so the parser's answers on a run are exactly the grammar's
(`parseLine_ok_iff`, `parseLine_error_iff`). The parser computes a call's span by merging token
spans with minimum and maximum; that is the run's span because the lexer's spans ascend
(`tokenize_ascending`).
-/

namespace HostInterop.Script

/-! ## The grammar -/

/-- The argument a token stands for: a word as a text, `t` and `nil` as themselves. -/
inductive DecodesArg : Token → Arg → Prop
  | int (n : Int64) : DecodesArg (.int n) (.int n)
  | char (c : Char) : DecodesArg (.char c) (.char c)
  | str (s : String) : DecodesArg (.str s) (.str s)
  | word (w : String) : DecodesArg (.word w) (.str w)
  | t : DecodesArg .trueKw .t
  | nil : DecodesArg .nilKw .nil
  | var (name : String) : DecodesArg (.var name) (.var name)

/-- A token that stands for an argument. -/
def IsArg (t : Token) : Prop := ∃ a, DecodesArg t a

/-- An argument token, and the argument it stands for over the token's span. -/
def ArgToken (x : Token × Span) (a : Arg × Span) : Prop := DecodesArg x.1 a.1 ∧ a.2 = x.2

/-- From the start of a run's first token to the end of its last. -/
def runSpan : List (Token × Span) → Span
  | [] => ⟨0, 0⟩
  | (_, s) :: rest => ⟨s.start, (rest.getLast?.map (·.2.stop)).getD s.stop⟩

/-- A run of the shape of a call, `[let NAME =] OPERATION ARG*`, and the call it stands for. -/
inductive CallShape : List (Token × Span) → Call → Prop
  | plain {op : String} {s : Span} {rest : List (Token × Span)} {args : List (Arg × Span)} :
      List.Forall₂ ArgToken rest args →
      CallShape ((.word op, s) :: rest) ⟨none, op, args, runSpan ((.word op, s) :: rest)⟩
  | bound {name op : String} {ls ns es s : Span} {rest : List (Token × Span)}
      {args : List (Arg × Span)} :
      List.Forall₂ ArgToken rest args →
      CallShape ((.letKw, ls) :: (.word name, ns) :: (.eq, es) :: (.word op, s) :: rest)
        ⟨some name, op, args,
          runSpan ((.letKw, ls) :: (.word name, ns) :: (.eq, es) :: (.word op, s) :: rest)⟩

/-- A beginning that some call begins with. -/
def Viable (pre : List (Token × Span)) : Prop := ∃ ext c, CallShape (pre ++ ext) c

/-- What a call has next after a viable beginning, as the parser names it. -/
def expectation : List (Token × Span) → String
  | [(.letKw, _)] => "a variable name"
  | [(.letKw, _), _] => "`=`"
  | [] | [(.letKw, _), _, _] => "an operation name"
  | _ => "an argument"

/-- The message for a run that stops after a viable beginning. -/
def endMessage : List (Token × Span) → String
  | [(.letKw, _)] => "expected a variable name after `let`"
  | [(.letKw, _), _] => "expected `=`"
  | _ => "expected an operation name"

/-- How a run of another shape than a call's fails: at the first token that no call has at its
place, quoted from the source with what a call has there; or, when the run stops where a call
could go on, over its first token. -/
def LineError (source : String) (run : List (Token × Span)) (e : ScriptError) : Prop :=
  (∃ pre x post, run = pre ++ x :: post ∧ Viable pre ∧ ¬ Viable (pre ++ [x]) ∧
    e = unexpected source ("expected " ++ expectation pre) x.2) ∨
  (Viable run ∧ (¬ ∃ c, CallShape run c) ∧
    ∃ x rest, run = x :: rest ∧ e = .parse (endMessage run) x.2)

/-- Token spans that ascend: each starts and ends no earlier than those before it. -/
def Ascending (toks : List (Token × Span)) : Prop :=
  toks.Pairwise fun a b => a.2.start ≤ b.2.start ∧ a.2.stop ≤ b.2.stop

/-! ## Arguments -/

theorem decodesArg_iff {t : Token} {a : Arg} : DecodesArg t a ↔ t.arg? = some a := by
  constructor
  · rintro (_ | _ | _ | _ | _ | _ | _) <;> rfl
  · intro h
    cases t <;> cases h <;> constructor

theorem isArg_of_forall₂ {rest : List (Token × Span)} {args : List (Arg × Span)}
    (h : List.Forall₂ ArgToken rest args) : ∀ x ∈ rest, IsArg x.1 := by
  induction h with
  | nil => simp
  | cons hx _ ih =>
    intro y hy
    rcases List.mem_cons.mp hy with rfl | hy
    · exact ⟨_, hx.1⟩
    · exact ih y hy

theorem exists_forall₂_of_isArg :
    ∀ {rest : List (Token × Span)}, (∀ x ∈ rest, IsArg x.1) →
      ∃ args, List.Forall₂ ArgToken rest args
  | [], _ => ⟨[], .nil⟩
  | x :: rest, h => by
    obtain ⟨a, ha⟩ := h x List.mem_cons_self
    obtain ⟨args, hargs⟩ := exists_forall₂_of_isArg fun y hy => h y (List.mem_cons_of_mem x hy)
    exact ⟨(a, x.2) :: args, .cons ⟨ha, rfl⟩ hargs⟩

/-! ## Calls and their beginnings -/

/-- A run has the shape of some call exactly when it is an operation word and argument tokens,
after `let NAME =` or not. -/
theorem exists_callShape_iff {run : List (Token × Span)} :
    (∃ c, CallShape run c) ↔
      (∃ op s rest, run = (.word op, s) :: rest ∧ ∀ x ∈ rest, IsArg x.1) ∨
      ∃ ls name ns es op s rest,
        run = (.letKw, ls) :: (.word name, ns) :: (.eq, es) :: (.word op, s) :: rest ∧
          ∀ x ∈ rest, IsArg x.1 := by
  constructor
  · rintro ⟨c, h⟩
    cases h with
    | plain hargs => exact .inl ⟨_, _, _, rfl, isArg_of_forall₂ hargs⟩
    | bound hargs => exact .inr ⟨_, _, _, _, _, _, _, rfl, isArg_of_forall₂ hargs⟩
  · rintro (⟨op, s, rest, rfl, hargs⟩ | ⟨ls, name, ns, es, op, s, rest, rfl, hargs⟩)
    · obtain ⟨args, h⟩ := exists_forall₂_of_isArg hargs
      exact ⟨_, .plain h⟩
    · obtain ⟨args, h⟩ := exists_forall₂_of_isArg hargs
      exact ⟨_, .bound h⟩

theorem CallShape.viable {run : List (Token × Span)} {c : Call} (h : CallShape run c) :
    Viable run :=
  ⟨[], c, by rwa [List.append_nil]⟩

/-- A call goes on with any argument. -/
theorem CallShape.viable_snoc {run : List (Token × Span)} {c : Call} (h : CallShape run c)
    {x : Token × Span} (hx : IsArg x.1) : Viable (run ++ [x]) := by
  rcases exists_callShape_iff.mp ⟨c, h⟩ with
    ⟨op, s, rest, rfl, hargs⟩ | ⟨ls, name, ns, es, op, s, rest, rfl, hargs⟩
  · have hmore : ∀ y ∈ rest ++ [x], IsArg y.1 :=
      List.forall_mem_append.mpr ⟨hargs, List.forall_mem_singleton.mpr hx⟩
    obtain ⟨c', h'⟩ := exists_callShape_iff.mpr (.inl ⟨op, s, rest ++ [x], rfl, hmore⟩)
    exact CallShape.viable h'
  · have hmore : ∀ y ∈ rest ++ [x], IsArg y.1 :=
      List.forall_mem_append.mpr ⟨hargs, List.forall_mem_singleton.mpr hx⟩
    obtain ⟨c', h'⟩ := exists_callShape_iff.mpr
      (.inr ⟨ls, name, ns, es, op, s, rest ++ [x], rfl, hmore⟩)
    exact CallShape.viable h'

theorem viable_nil : Viable [] := ⟨[(.word "", ⟨0, 0⟩)], _, .plain .nil⟩

theorem viable_let (ls : Span) : Viable [(.letKw, ls)] :=
  ⟨[(.word "", ⟨0, 0⟩), (.eq, ⟨0, 0⟩), (.word "", ⟨0, 0⟩)], _, .bound .nil⟩

theorem viable_let_name (ls : Span) (name : String) (ns : Span) :
    Viable [(.letKw, ls), (.word name, ns)] :=
  ⟨[(.eq, ⟨0, 0⟩), (.word "", ⟨0, 0⟩)], _, .bound .nil⟩

theorem viable_let_name_eq (ls : Span) (name : String) (ns es : Span) :
    Viable [(.letKw, ls), (.word name, ns), (.eq, es)] :=
  ⟨[(.word "", ⟨0, 0⟩)], _, .bound .nil⟩

/-- The viable beginnings: a call, or a beginning of `let NAME =`. -/
theorem viable_cases {pre : List (Token × Span)} (h : Viable pre) :
    pre = [] ∨ (∃ ls, pre = [(.letKw, ls)]) ∨
      (∃ ls name ns, pre = [(.letKw, ls), (.word name, ns)]) ∨
      (∃ ls name ns es, pre = [(.letKw, ls), (.word name, ns), (.eq, es)]) ∨
      ∃ c, CallShape pre c := by
  obtain ⟨ext, c, hc⟩ := h
  rcases exists_callShape_iff.mp ⟨c, hc⟩ with
    ⟨op, s, rest, heq, hargs⟩ | ⟨ls, name, ns, es, op, s, rest, heq, hargs⟩
  · -- a plain call: nothing yet, or the operation and some of the arguments
    rcases pre with _ | ⟨x, pre⟩
    · exact .inl rfl
    · rw [List.cons_append, List.cons.injEq] at heq
      obtain ⟨rfl, hrest⟩ := heq
      refine .inr (.inr (.inr (.inr (exists_callShape_iff.mpr (.inl ⟨op, s, pre, rfl, ?_⟩)))))
      intro y hy
      exact hargs y (hrest ▸ List.mem_append_left ext hy)
  · -- a call after `let`: a beginning of `let NAME =`, or the operation and some arguments
    rcases pre with _ | ⟨x1, _ | ⟨x2, _ | ⟨x3, _ | ⟨x4, pre⟩⟩⟩⟩
    · exact .inl rfl
    · simp only [List.cons_append, List.nil_append, List.cons.injEq] at heq
      exact .inr (.inl ⟨ls, by rw [heq.1]⟩)
    · simp only [List.cons_append, List.nil_append, List.cons.injEq] at heq
      exact .inr (.inr (.inl ⟨ls, name, ns, by rw [heq.1, heq.2.1]⟩))
    · simp only [List.cons_append, List.nil_append, List.cons.injEq] at heq
      exact .inr (.inr (.inr (.inl ⟨ls, name, ns, es, by rw [heq.1, heq.2.1, heq.2.2.1]⟩)))
    · simp only [List.cons_append, List.cons.injEq] at heq
      obtain ⟨rfl, rfl, rfl, rfl, hrest⟩ := heq
      refine .inr (.inr (.inr (.inr (exists_callShape_iff.mpr
        (.inr ⟨ls, name, ns, es, op, s, pre, rfl, ?_⟩)))))
      intro y hy
      exact hargs y (hrest ▸ List.mem_append_left ext hy)

/-- Going along a run from a viable beginning, the viable beginnings stop at the first token
that none goes on with, or reach the end. -/
theorem viable_append_or_first_nonviable :
    ∀ (run : List (Token × Span)) {done : List (Token × Span)}, Viable done →
      Viable (done ++ run) ∨
        ∃ pre x post, done ++ run = pre ++ x :: post ∧ Viable pre ∧ ¬ Viable (pre ++ [x])
  | [], done, h => .inl (by rwa [List.append_nil])
  | x :: run, done, h => by
    by_cases hx : Viable (done ++ [x])
    · have hnext := viable_append_or_first_nonviable run hx
      simpa only [List.append_assoc, List.singleton_append] using hnext
    · exact .inr ⟨done, x, run, rfl, h, hx⟩

/-- Every run is viable, or has a first token that no viable beginning goes on with. -/
theorem viable_or_first_nonviable (run : List (Token × Span)) :
    Viable run ∨ ∃ pre x post, run = pre ++ x :: post ∧ Viable pre ∧ ¬ Viable (pre ++ [x]) := by
  simpa using viable_append_or_first_nonviable run viable_nil

/-- Every run that is not empty has the shape of a call or a line error. -/
theorem callShape_or_lineError (source : String) {run : List (Token × Span)} (hne : run ≠ []) :
    (∃ c, CallShape run c) ∨ ∃ e, LineError source run e := by
  rcases viable_or_first_nonviable run with hv | ⟨pre, x, post, hrun, hpre, hx⟩
  · by_cases hc : ∃ c, CallShape run c
    · exact .inl hc
    · obtain ⟨x, rest, rfl⟩ := List.exists_cons_of_ne_nil hne
      exact .inr ⟨_, .inr ⟨hv, hc, x, rest, rfl, rfl⟩⟩
  · exact .inr ⟨_, .inl ⟨pre, x, post, hrun, hpre, hx, rfl⟩⟩

theorem expectation_of_callShape {run : List (Token × Span)} {c : Call} (h : CallShape run c) :
    expectation run = "an argument" := by
  cases h with
  | plain => rfl
  | bound => rfl

/-! ## Spans -/

theorem Span.merge_self (s : Span) : s.merge s = s := by
  cases s
  simp [Span.merge]

theorem Span.merge_of_le {a b : Span} (h1 : a.start ≤ b.start) (h2 : a.stop ≤ b.stop) :
    a.merge b = ⟨a.start, b.stop⟩ := by
  simp only [Span.merge, Span.mk.injEq, Nat.min_def, Nat.max_def]
  constructor <;> split <;> omega

theorem getD_map_getLast?_cons {α β : Type} (f : α → β) (d : β) (a : α) (l : List α) :
    ((a :: l).getLast?.map f).getD d = (l.getLast?.map f).getD (f a) := by
  rw [List.getLast?_cons]
  cases l.getLast? <;> rfl

/-- Merging the spans of ascending tokens into a span that begins and ends no later than each:
the merged span runs from its start to the end of the last token. -/
theorem foldl_merge :
    ∀ {l : List (Token × Span)} {sp : Span}, (∀ y ∈ l, sp.start ≤ y.2.start ∧ sp.stop ≤ y.2.stop) →
      Ascending l → l.foldl (fun sp x => sp.merge x.2) sp =
        ⟨sp.start, (l.getLast?.map (·.2.stop)).getD sp.stop⟩
  | [], sp, _, _ => by cases sp; rfl
  | x :: l, sp, h, hasc => by
    obtain ⟨hx, hl⟩ := List.pairwise_cons.mp hasc
    have hnext : ∀ y ∈ l, sp.start ≤ y.2.start ∧ x.2.stop ≤ y.2.stop := fun y hy =>
      ⟨(h y (List.mem_cons_of_mem x hy)).1, (hx y hy).2⟩
    rw [List.foldl_cons, Span.merge_of_le (h x List.mem_cons_self).1 (h x List.mem_cons_self).2,
      foldl_merge hnext hl, getD_map_getLast?_cons]

/-! ## The parser, one line -/

section Parser

variable (source : String)

theorem parseLine_of_ne_let {t : Token} (ht : t ≠ .letKw) (s : Span)
    (rest : List (Token × Span)) :
    parseLine source ((t, s) :: rest) = parseOperation source none s ((t, s) :: rest) := by
  cases t <;> first | rfl | exact absurd rfl ht

theorem parseLine_let_of_not_word {t : Token} (ht : ∀ n, t ≠ .word n) (ls s : Span)
    (rest : List (Token × Span)) :
    parseLine source ((.letKw, ls) :: (t, s) :: rest) =
      .error (unexpected source "expected a variable name" s) := by
  cases t <;> first | rfl | exact absurd rfl (ht _)

theorem parseLine_let_name_of_ne_eq {t : Token} (ht : t ≠ .eq) (ls : Span) (name : String)
    (ns s : Span) (rest : List (Token × Span)) :
    parseLine source ((.letKw, ls) :: (.word name, ns) :: (t, s) :: rest) =
      .error (unexpected source "expected `=`" s) := by
  cases t <;> first | rfl | exact absurd rfl ht

theorem parseLine_let_name_eq (ls : Span) (name : String) (ns es : Span)
    (more : List (Token × Span)) :
    parseLine source ((.letKw, ls) :: (.word name, ns) :: (.eq, es) :: more) =
      parseOperation source (some name) ls more := rfl

theorem parseOperation_of_not_word {t : Token} (ht : ∀ n, t ≠ .word n) (binding : Option String)
    (first s : Span) (rest : List (Token × Span)) :
    parseOperation source binding first ((t, s) :: rest) =
      .error (unexpected source "expected an operation name" s) := by
  cases t <;> first | rfl | exact absurd rfl (ht _)

theorem parseOperation_word (binding : Option String) (first : Span) (op : String) (s : Span)
    (rest : List (Token × Span)) :
    parseOperation source binding first ((.word op, s) :: rest) =
      (fun r => (⟨binding, op, r.1, r.2⟩ : Call)) <$> parseArgs source rest (first.merge s) := by
  simp only [parseOperation]
  cases parseArgs source rest (first.merge s) <;> rfl

/-- The arguments of a call, all read, and its span merged over theirs. -/
theorem parseArgs_of_forall₂ :
    ∀ {rest : List (Token × Span)} {args : List (Arg × Span)}, List.Forall₂ ArgToken rest args →
      ∀ span, parseArgs source rest span = .ok (args, rest.foldl (fun sp x => sp.merge x.2) span)
  | [], [], .nil, _ => rfl
  | (t, s) :: rest, (a, s') :: args, .cons ⟨ht, hs⟩ hrest, span => by
    cases hs
    simp only [parseArgs, decodesArg_iff.mp ht, List.foldl_cons,
      parseArgs_of_forall₂ hrest (span.merge s)]
    rfl

/-- The arguments of a call stop at the first token that stands for none. -/
theorem parseArgs_of_not_arg {t : Token} (ht : ¬ IsArg t) (s : Span)
    (post : List (Token × Span)) :
    ∀ {pre : List (Token × Span)}, (∀ y ∈ pre, IsArg y.1) → ∀ span,
      parseArgs source (pre ++ (t, s) :: post) span =
        .error (unexpected source "expected an argument" s)
  | [], _, span => by
    have hnone : t.arg? = none := by
      cases h : t.arg? with
      | none => rfl
      | some a => exact absurd ⟨a, decodesArg_iff.mpr h⟩ ht
    simp only [List.nil_append, parseArgs, hnone]
  | (u, r) :: pre, hpre, span => by
    obtain ⟨a, ha⟩ := hpre (u, r) List.mem_cons_self
    have hrest := parseArgs_of_not_arg ht s post (fun y hy => hpre y (List.mem_cons_of_mem _ hy))
      (span.merge r)
    simp only [List.cons_append, parseArgs, decodesArg_iff.mp ha, hrest]
    rfl

/-- The parser reads a run of the shape of a call as that call. -/
theorem CallShape.parseLine {run : List (Token × Span)} {c : Call} (h : CallShape run c)
    (hasc : Ascending run) : parseLine source run = .ok c := by
  cases h with
  | @plain op s rest args hargs =>
    obtain ⟨hs, hrest⟩ := List.pairwise_cons.mp hasc
    rw [parseLine_of_ne_let source (by simp) s, parseOperation_word, Span.merge_self,
      parseArgs_of_forall₂ source hargs, foldl_merge hs hrest]
    rfl
  | @bound name op ls ns es s rest args hargs =>
    -- the `let` comes first, so the merged span starts there and ends with the operation
    obtain ⟨hls, hasc⟩ := List.pairwise_cons.mp hasc
    obtain ⟨-, hasc⟩ := List.pairwise_cons.mp hasc
    obtain ⟨-, hasc⟩ := List.pairwise_cons.mp hasc
    obtain ⟨hs, hrest⟩ := List.pairwise_cons.mp hasc
    have hop := hls (.word op, s) (by simp)
    have hafter : ∀ y ∈ rest, ls.start ≤ y.2.start ∧ s.stop ≤ y.2.stop := fun y hy =>
      ⟨(hls y (by simp [hy])).1, (hs y hy).2⟩
    rw [parseLine_let_name_eq, parseOperation_word, Span.merge_of_le hop.1 hop.2,
      parseArgs_of_forall₂ source hargs, foldl_merge hafter hrest]
    simp only [runSpan, getD_map_getLast?_cons]
    rfl

/-- After a call, a token that stands for no argument is where the parser fails. -/
theorem CallShape.parseLine_of_not_arg {pre : List (Token × Span)} {c : Call}
    (h : CallShape pre c) {t : Token} (ht : ¬ IsArg t) (s : Span) (post : List (Token × Span)) :
    Script.parseLine source (pre ++ (t, s) :: post) =
      .error (unexpected source ("expected " ++ expectation pre) s) := by
  rw [expectation_of_callShape h]
  cases h with
  | @plain op s0 rest args hargs =>
    rw [List.cons_append, parseLine_of_ne_let source (by simp), parseOperation_word,
      parseArgs_of_not_arg source ht s post (isArg_of_forall₂ hargs)]
    rfl
  | @bound name op ls ns es s0 rest args hargs =>
    simp only [List.cons_append]
    rw [parseLine_let_name_eq, parseOperation_word,
      parseArgs_of_not_arg source ht s post (isArg_of_forall₂ hargs)]
    rfl

/-- The parser fails on a run with a line error with that error. -/
theorem LineError.parseLine {run : List (Token × Span)} {e : ScriptError}
    (h : LineError source run e) : parseLine source run = .error e := by
  rcases h with ⟨pre, ⟨t, s⟩, post, rfl, hpre, hx, rfl⟩ | ⟨hrun, hshape, x, rest, rfl, rfl⟩
  · -- the offending token is told apart by what the beginning before it is
    rcases viable_cases hpre with
      rfl | ⟨ls, rfl⟩ | ⟨ls, name, ns, rfl⟩ | ⟨ls, name, ns, es, rfl⟩ | ⟨c, hc⟩
    · have hlet : t ≠ .letKw := by
        rintro rfl
        exact hx (viable_let s)
      have hword : ∀ n, t ≠ .word n := by
        rintro n rfl
        exact hx (CallShape.plain .nil).viable
      rw [List.nil_append, parseLine_of_ne_let source hlet, parseOperation_of_not_word source hword]
      rfl
    · have hword : ∀ n, t ≠ .word n := by
        rintro n rfl
        exact hx (viable_let_name ls n s)
      exact parseLine_let_of_not_word source hword ls s post
    · have heq : t ≠ .eq := by
        rintro rfl
        exact hx (viable_let_name_eq ls name ns s)
      exact parseLine_let_name_of_ne_eq source heq ls name ns s post
    · have hword : ∀ n, t ≠ .word n := by
        rintro n rfl
        exact hx (CallShape.bound .nil).viable
      rw [List.cons_append, List.cons_append, List.cons_append, List.nil_append,
        parseLine_let_name_eq, parseOperation_of_not_word source hword]
      rfl
    · exact hc.parseLine_of_not_arg source (fun ha => hx (hc.viable_snoc ha)) s post
  · -- the run stops after a beginning of `let NAME =`
    rcases viable_cases hrun with
      h0 | ⟨ls, h1⟩ | ⟨ls, name, ns, h2⟩ | ⟨ls, name, ns, es, h3⟩ | hc
    · cases h0
    · obtain ⟨rfl, rfl⟩ := List.cons.inj h1
      rfl
    · obtain ⟨rfl, rfl⟩ := List.cons.inj h2
      rfl
    · obtain ⟨rfl, rfl⟩ := List.cons.inj h3
      rfl
    · exact absurd hc hshape

/-- On a run that is not empty and whose spans ascend, the parser succeeds exactly with the call
of the run's shape. -/
theorem parseLine_ok_iff {run : List (Token × Span)} (hne : run ≠ []) (hasc : Ascending run)
    (c : Call) : parseLine source run = .ok c ↔ CallShape run c := by
  constructor
  · intro h
    rcases callShape_or_lineError source hne with ⟨c', hc'⟩ | ⟨e, he⟩
    · rw [hc'.parseLine source hasc] at h
      rwa [← Except.ok.inj h]
    · rw [he.parseLine source] at h
      cases h
  · intro h
    exact h.parseLine source hasc

/-- On a run that is not empty and whose spans ascend, the parser fails exactly with the run's
line error. -/
theorem parseLine_error_iff {run : List (Token × Span)} (hne : run ≠ []) (hasc : Ascending run)
    (e : ScriptError) : parseLine source run = .error e ↔ LineError source run e := by
  constructor
  · intro h
    rcases callShape_or_lineError source hne with ⟨c, hc⟩ | ⟨e', he'⟩
    · rw [hc.parseLine source hasc] at h
      cases h
    · rw [he'.parseLine source] at h
      rwa [← Except.error.inj h]
  · intro h
    exact h.parseLine source

end Parser

/-! ## The lines of a script -/

/-- A bound computation succeeds exactly when both its parts do. -/
theorem bind_eq_ok_iff {ε α β : Type} {x : Except ε α} {f : α → Except ε β} {b : β} :
    (x >>= f) = .ok b ↔ ∃ a, x = .ok a ∧ f a = .ok b := by
  cases x with
  | error e => simp [bind, Except.bind]
  | ok a => simp [bind, Except.bind]

theorem mapM_eq_ok_iff {ε α β : Type} {f : α → Except ε β} {R : α → β → Prop} :
    ∀ {l : List α}, (∀ a ∈ l, ∀ b, f a = .ok b ↔ R a b) →
      ∀ bs, l.mapM f = .ok bs ↔ List.Forall₂ R l bs
  | [], _, bs => by
    cases bs <;> simp [List.mapM_nil, pure, Except.pure]
  | a :: l, hf, bs => by
    have hl := mapM_eq_ok_iff (l := l) fun x hx => hf x (List.mem_cons_of_mem a hx)
    -- the head's result, then the tail's, then the two put together
    rw [List.mapM_cons, bind_eq_ok_iff, List.forall₂_cons_left_iff]
    simp only [bind_eq_ok_iff, pure, Except.pure, Except.ok.injEq, hf a List.mem_cons_self, hl]
    constructor
    · rintro ⟨b, hab, bs', hrest, rfl⟩
      exact ⟨b, bs', hab, hrest, rfl⟩
    · rintro ⟨b, bs', hab, hrest, rfl⟩
      exact ⟨b, hab, bs', hrest, rfl⟩

/-- A run of computations fails at its first failure. -/
theorem exists_of_mapM_eq_error {ε α β : Type} {f : α → Except ε β} {e : ε} :
    ∀ {l : List α}, l.mapM f = .error e →
      ∃ pre a post, l = pre ++ a :: post ∧ (∀ x ∈ pre, ∃ b, f x = .ok b) ∧ f a = .error e
  | [], h => by cases h
  | a :: l, h => by
    rw [List.mapM_cons] at h
    rcases bind_eq_error h with ha | ⟨b, ha, hrest⟩
    · exact ⟨[], a, l, rfl, by simp, ha⟩
    · rcases bind_eq_error hrest with hl | ⟨bs, -, hpure⟩
      · -- the tail failed: its first failure is the whole list's
        obtain ⟨pre, x, post, rfl, hpre, hx⟩ := exists_of_mapM_eq_error hl
        refine ⟨a :: pre, x, post, rfl, fun y hy => ?_, hx⟩
        rcases List.mem_cons.mp hy with rfl | hy
        · exact ⟨b, ha⟩
        · exact hpre y hy
      · cases hpure

theorem mapM_eq_error_of_append {ε α β : Type} {f : α → Except ε β} {e : ε} {a : α}
    (ha : f a = .error e) (post : List α) :
    ∀ {pre : List α}, (∀ x ∈ pre, ∃ b, f x = .ok b) → (pre ++ a :: post).mapM f = .error e
  | [], _ => by
    rw [List.nil_append, List.mapM_cons, ha]
    rfl
  | x :: pre, hpre => by
    obtain ⟨b, hb⟩ := hpre x List.mem_cons_self
    rw [List.cons_append, List.mapM_cons, hb,
      mapM_eq_error_of_append ha post fun y hy => hpre y (List.mem_cons_of_mem x hy)]
    rfl

theorem sublist_of_mem_splitOnPPrepend {α : Type} {p : α → Bool} :
    ∀ {xs : List α} (acc : List α) {l : List α}, l ∈ List.splitOnPPrepend p xs acc →
      List.Sublist l (acc.reverse ++ xs)
  | [], acc, l, h => by
    rw [List.splitOnPPrepend_nil, List.mem_singleton] at h
    rw [h]
    exact List.sublist_append_left _ _
  | x :: xs, acc, l, h => by
    rw [List.splitOnPPrepend_cons_eq_if] at h
    split at h
    · rcases List.mem_cons.mp h with rfl | h
      · exact List.sublist_append_left _ _
      · have hsub := sublist_of_mem_splitOnPPrepend [] h
        simp only [List.reverse_nil, List.nil_append] at hsub
        exact hsub.trans ((List.sublist_cons_self x xs).trans (List.sublist_append_right _ _))
    · have hsub := sublist_of_mem_splitOnPPrepend (x :: acc) h
      simpa using hsub

/-- Each line of a script is a run of its tokens, in order, and not empty. -/
theorem mem_lines {toks : List (Token × Span)} {l : List (Token × Span)} (h : l ∈ lines toks) :
    l ≠ [] ∧ List.Sublist l toks := by
  rw [lines, List.mem_filter] at h
  obtain ⟨hmem, hne⟩ := h
  refine ⟨by simpa using hne, ?_⟩
  simpa using sublist_of_mem_splitOnPPrepend [] hmem

/-- Where spans lie in order between two bytes, each lies after the lower one and is not empty. -/
theorem SpansWithin.mem :
    ∀ {lo hi : Nat} {toks : List (Token × Span)}, SpansWithin lo hi toks →
      ∀ y ∈ toks, lo ≤ y.2.start ∧ y.2.start < y.2.stop
  | _, _, [], _ => by simp
  | lo, hi, (t, s) :: rest, ⟨hlo, hlt, hrest⟩ => by
    intro y hy
    rcases List.mem_cons.mp hy with rfl | hy
    · exact ⟨hlo, hlt⟩
    · have hy := SpansWithin.mem hrest y hy
      exact ⟨by omega, hy.2⟩

theorem SpansWithin.ascending :
    ∀ {lo hi : Nat} {toks : List (Token × Span)}, SpansWithin lo hi toks → Ascending toks
  | _, _, [], _ => List.Pairwise.nil
  | lo, hi, (t, s) :: rest, ⟨_, hlt, hrest⟩ => by
    refine List.pairwise_cons.mpr ⟨fun y hy => ?_, SpansWithin.ascending hrest⟩
    have hy := SpansWithin.mem hrest y hy
    show s.start ≤ y.2.start ∧ s.stop ≤ y.2.stop
    exact ⟨by omega, by omega⟩

/-- The lexer's tokens come with ascending spans. -/
theorem tokenize_ascending {source : String} {toks : List (Token × Span)}
    (h : tokenize source = .ok toks) : Ascending toks :=
  (segments_of_lexFrom h).spansWithin.ascending

/-! ## The parser -/

/-- The parser accepts exactly the line grammar. When the lexer succeeds, the parse succeeds
exactly when every line has the shape of a call, and gives the calls of the lines in order: each
with its binding, its operation, its arguments with their tokens' spans, and the span from the
line's first token to its last. Otherwise it fails with the line error of the first line of
another shape. -/
theorem parse_accepts_call_grammar (source : String) (toks : List (Token × Span))
    (htoks : tokenize source = .ok toks) :
    (∀ calls, parse source = .ok calls ↔ List.Forall₂ CallShape (lines toks) calls) ∧
    ∀ e, parse source = .error e ↔ ∃ done run rest, lines toks = done ++ run :: rest ∧
      (∀ l ∈ done, ∃ c, CallShape l c) ∧ LineError source run e := by
  have hparse : parse source = (lines toks).mapM (parseLine source) := by
    rw [parse, htoks]
    rfl
  -- every line is a run of the lexer's tokens, so its spans ascend
  have hline : ∀ l ∈ lines toks, l ≠ [] ∧ Ascending l := fun l hl =>
    ⟨(mem_lines hl).1, List.Pairwise.sublist (mem_lines hl).2 (tokenize_ascending htoks)⟩
  have hok : ∀ l ∈ lines toks, ∀ c, parseLine source l = .ok c ↔ CallShape l c :=
    fun l hl => parseLine_ok_iff source (hline l hl).1 (hline l hl).2
  have herr : ∀ l ∈ lines toks, ∀ e, parseLine source l = .error e ↔ LineError source l e :=
    fun l hl => parseLine_error_iff source (hline l hl).1 (hline l hl).2
  refine ⟨fun calls => ?_, fun e => ?_⟩
  · rw [hparse]
    exact mapM_eq_ok_iff hok calls
  · rw [hparse]
    constructor
    · intro h
      obtain ⟨done, run, rest, hsplit, hdone, hrun⟩ := exists_of_mapM_eq_error h
      refine ⟨done, run, rest, hsplit, fun l hl => ?_, (herr run (by simp [hsplit]) e).mp hrun⟩
      obtain ⟨c, hc⟩ := hdone l hl
      exact ⟨c, (hok l (by simp [hsplit, hl]) c).mp hc⟩
    · rintro ⟨done, run, rest, hsplit, hdone, hrun⟩
      rw [hsplit]
      refine mapM_eq_error_of_append ((herr run (by simp [hsplit]) e).mpr hrun) rest
        fun l hl => ?_
      obtain ⟨c, hc⟩ := hdone l hl
      exact ⟨c, (hok l (by simp [hsplit, hl]) c).mpr hc⟩

/-- A line with a binding and a plain line, as the lexer reads them. -/
theorem let_line_then_plain_line :
    let source := "let x = f 1\ng"
    let toks : List (Token × Span) := [(.letKw, ⟨0, 3⟩), (.word "x", ⟨4, 5⟩), (.eq, ⟨6, 7⟩),
      (.word "f", ⟨8, 9⟩), (.int 1, ⟨10, 11⟩), (.newline, ⟨11, 12⟩), (.word "g", ⟨12, 13⟩)]
    tokenize source = .ok toks ∧
      (∀ calls, parse source = .ok calls ↔ List.Forall₂ CallShape (lines toks) calls) ∧
      ∀ e, parse source = .error e ↔ ∃ done run rest, lines toks = done ++ run :: rest ∧
        (∀ l ∈ done, ∃ c, CallShape l c) ∧ LineError source run e := by
  intro source toks
  have hopt : (tokenize source).toOption = some toks := by decide +kernel
  have htoks : tokenize source = .ok toks := by
    cases h : tokenize source with
    | error e =>
      rw [h] at hopt
      cases hopt
    | ok t =>
      rw [h] at hopt
      cases hopt
      rfl
  exact ⟨htoks, parse_accepts_call_grammar source toks htoks⟩

end HostInterop.Script
