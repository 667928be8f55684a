import HostInterop.Script.Runner

/-!
# Script runs stop at the first failure

A script is read whole before anything runs, so a lexer or parse failure anywhere runs nothing:
the session, and with it every call count, and the bindings stay as they were. Otherwise the
calls run in order. A run of calls that all succeed is described by `Completes`: each call's
arguments have values, its operation succeeds, and a `let` binds the value before the next call.
A call fails in one of two ways (`Fails`): an argument names a variable that is not bound, the
first such argument, and nothing is called; or the operation fails, and the failure is reported
over the call's span.

`runScript_stops_at_first_failure` says a run is one of these: every call completes and there
is no error, or the calls before one call complete and that call fails, which ends the run. The
results are those of the completed calls in order, and the bindings are the first bindings
updated by their `let`s in order (`bindAll`); the failing call binds nothing.
-/

namespace HostInterop.Script

/-! ## Reading the script -/

/-- Whether a failure is one of reading the script: the lexer's or the parser's. -/
def ScriptError.isSyntax : ScriptError → Bool
  | .lexer .. => true
  | .parse .. => true
  | _ => false

/-- A failure of a step of a computation that fails is a failure of the step or of what follows. -/
theorem bind_eq_error {ε α β : Type} {x : Except ε α} {f : α → Except ε β} {e : ε}
    (h : (x >>= f) = .error e) : x = .error e ∨ ∃ a, x = .ok a ∧ f a = .error e := by
  cases x with
  | error e' => cases h; exact .inl rfl
  | ok a => exact .inr ⟨a, rfl, h⟩

/-- A list mapped by a function that fails only in some way fails only in that way. -/
theorem mapM_eq_error {ε α β : Type} {f : α → Except ε β} {P : ε → Prop}
    (hf : ∀ a e, f a = .error e → P e) : ∀ {l : List α} {e : ε}, l.mapM f = .error e → P e
  | [], _, h => by cases h
  | a :: l, e, h => by
    rw [List.mapM_cons] at h
    rcases bind_eq_error h with ha | ⟨_, -, hl⟩
    · exact hf a e ha
    · rcases bind_eq_error hl with hl | ⟨_, -, hp⟩
      · exact mapM_eq_error hf hl
      · cases hp

theorem lexFrom_error_isSyntax (cs : List Char) (pos : Nat) {e : ScriptError}
    (h : lexFrom cs pos = .error e) : e.isSyntax := by
  fun_induction lexFrom cs pos with
  | case1 => cases h
  | case2 pos c rest _ l taken stop w hl ih => exact ih h
  | case3 pos c rest _ l taken stop t w hl ih =>
    cases hrest : lexFrom (List.drop l.width (c :: rest)) stop with
    | error e' => rw [hrest] at h ih; cases h; exact ih rfl
    | ok toks => rw [hrest] at h; cases h
  | case4 => cases h; rfl

theorem parseArgs_error_isSyntax (source : String) :
    ∀ (toks : List (Token × Span)) (span : Span) {e : ScriptError},
      parseArgs source toks span = .error e → e.isSyntax
  | [], _, _, h => by cases h
  | (tok, s) :: rest, span, e, h => by
    unfold parseArgs at h
    split at h
    · rcases bind_eq_error h with hr | ⟨_, -, hp⟩
      · exact parseArgs_error_isSyntax source rest _ hr
      · cases hp
    · cases h; rfl

theorem parseOperation_error_isSyntax (source : String) (binding : Option String) (first : Span)
    (toks : List (Token × Span)) {e : ScriptError} (h : parseOperation source binding first toks = .error e) :
    e.isSyntax := by
  unfold parseOperation at h
  split at h
  · rcases bind_eq_error h with hr | ⟨_, -, hp⟩
    · exact parseArgs_error_isSyntax source _ _ hr
    · cases hp
  · cases h; rfl
  · cases h; rfl

theorem parseLine_error_isSyntax (source : String) (toks : List (Token × Span)) {e : ScriptError}
    (h : parseLine source toks = .error e) : e.isSyntax := by
  unfold parseLine at h
  split at h
  · cases h; rfl
  · split at h
    · exact parseOperation_error_isSyntax source _ _ _ h
    all_goals (cases h; rfl)
  · exact parseOperation_error_isSyntax source _ _ _ h

/-- Reading a script fails only with a lexer or a parse failure. -/
theorem parse_error_isSyntax {source : String} {e : ScriptError} (h : parse source = .error e) :
    e.isSyntax := by
  unfold parse at h
  rcases bind_eq_error h with ht | ⟨_, -, hl⟩
  · exact lexFrom_error_isSyntax _ _ ht
  · exact mapM_eq_error (fun toks e he => parseLine_error_isSyntax source toks he) hl

/-! ## Running the calls -/

/-- The bindings after a call with this binding gave a value: a `let` binds it, a plain call
binds nothing. -/
def bindResult (b : Bindings) : Option String → Value → Bindings
  | some name, v => b.insert name v
  | none, _ => b

/-- The bindings after results were handed on in order. -/
def bindAll (b : Bindings) (results : List (Option String × Value)) : Bindings :=
  results.foldl (fun b r => bindResult b r.1 r.2) b

/-- The first argument naming a variable that is not bound, with its span: every argument
before it has a value. -/
def FirstUnbound (b : Bindings) (args : List (Arg × Span)) (name : String) (span : Span) : Prop :=
  ∃ pre post, args = pre ++ (.var name, span) :: post ∧ b.get? name = none ∧
    ∀ a ∈ pre, ∃ v, argValue b a = .ok v

/-- Calls that run one after another from a session and bindings, each succeeding, with their
results, to a session and bindings. -/
inductive Completes : Session → Bindings → List Call → List (Option String × Value) → Session →
    Bindings → Prop where
  | nil (s : Session) (b : Bindings) : Completes s b [] [] s b
  | cons {s : Session} {b : Bindings} {c : Call} {cs : List Call} {args : List Value} {v : Value}
      {s₁ : Session} {rs : List (Option String × Value)} {s' : Session} {b' : Bindings} :
      c.args.mapM (argValue b) = .ok args → s.call c.operation args = (.ok v, s₁) →
      Completes s₁ (bindResult b c.binding v) cs rs s' b' →
      Completes s b (c :: cs) ((c.binding, v) :: rs) s' b'

/-- How a call fails from a session and bindings, with the failure and the session after it: an
argument names a variable that is not bound, reported at the first such argument, with nothing
called; or the operation fails, reported over the call's span. -/
inductive Fails (s : Session) (b : Bindings) (c : Call) : ScriptError → Session → Prop where
  | unbound {name : String} {span : Span} :
      FirstUnbound b c.args name span → Fails s b c (.unbound name span) s
  | runtime {args : List Value} {e : RuntimeError} {s' : Session} :
      c.args.mapM (argValue b) = .ok args → s.call c.operation args = (.error e, s') →
      Fails s b c (.runtime e c.span) s'

/-- Completed calls leave the bindings updated by their results in order. -/
theorem Completes.bindings_eq {s : Session} {b : Bindings} {cs : List Call}
    {rs : List (Option String × Value)} {s' : Session} {b' : Bindings}
    (h : Completes s b cs rs s' b') : b' = bindAll b rs := by
  induction h with
  | nil => rfl
  | cons _ _ _ ih => exact ih

/-- Arguments fail to have values only at the first argument naming an unbound variable. -/
theorem mapM_argValue_error (b : Bindings) :
    ∀ {args : List (Arg × Span)} {e : ScriptError}, args.mapM (argValue b) = .error e →
      ∃ name span, e = .unbound name span ∧ FirstUnbound b args name span
  | [], _, h => by cases h
  | a :: args, e, h => by
    rw [List.mapM_cons] at h
    rcases bind_eq_error h with ha | ⟨v, hv, hl⟩
    · -- the first argument is the unbound variable
      obtain ⟨arg, span⟩ := a
      cases arg
      all_goals (simp only [argValue] at ha)
      all_goals (try cases ha)
      rename_i name
      split at ha
      · cases ha
      · rename_i hget
        cases ha
        exact ⟨name, span, rfl, [], args, rfl, hget, fun _ h => absurd h List.not_mem_nil⟩
    · rcases bind_eq_error hl with hl | ⟨_, -, hp⟩
      · obtain ⟨name, span, rfl, pre, post, hargs, hget, hpre⟩ := mapM_argValue_error b hl
        refine ⟨name, span, rfl, a :: pre, post, by rw [hargs]; rfl, hget, fun a' ha' => ?_⟩
        rcases List.mem_cons.mp ha' with rfl | ha'
        · exact ⟨v, hv⟩
        · exact hpre a' ha'
      · cases hp

/-- One call succeeds and binds its value, or fails as `Fails` says and binds nothing. -/
theorem runCall_cases (s : Session) (b : Bindings) (c : Call) :
    (∃ args v s₁, c.args.mapM (argValue b) = .ok args ∧ s.call c.operation args = (.ok v, s₁) ∧
      runCall s b c = (.ok v, s₁, bindResult b c.binding v)) ∨
    (∃ e s₁, Fails s b c e s₁ ∧ runCall s b c = (.error e, s₁, b)) := by
  cases hargs : c.args.mapM (argValue b) with
  | error e =>
    obtain ⟨name, span, rfl, hfirst⟩ := mapM_argValue_error b hargs
    exact .inr ⟨_, s, .unbound hfirst, by simp only [runCall, hargs]⟩
  | ok args =>
    cases hcall : s.call c.operation args with
    | mk out s₁ =>
      cases out with
      | error e => exact .inr ⟨_, s₁, .runtime hargs hcall, by simp only [runCall, hargs, hcall]⟩
      | ok v =>
        refine .inl ⟨args, v, s₁, rfl, hcall, ?_⟩
        simp only [runCall, hargs, hcall]
        cases c.binding <;> rfl

/-- A run of calls: all of them complete with no failure, or the calls before one complete and
that one fails, ending the run. -/
theorem runCalls_spec (s : Session) (b : Bindings) (calls : List Call) :
    ((runCalls s b calls).error = none ∧
      Completes s b calls (runCalls s b calls).results (runCalls s b calls).session
        (runCalls s b calls).bindings) ∨
    ∃ done c rest s₁ e, calls = done ++ c :: rest ∧
      Completes s b done (runCalls s b calls).results s₁ (runCalls s b calls).bindings ∧
      (runCalls s b calls).error = some e ∧
      Fails s₁ (runCalls s b calls).bindings c e (runCalls s b calls).session := by
  induction calls generalizing s b with
  | nil => exact .inl ⟨rfl, .nil s b⟩
  | cons c cs ih =>
    rcases runCall_cases s b c with ⟨args, v, s₁, hargs, hcall, hrun⟩ | ⟨e, s₁, hfail, hrun⟩
    · -- the call succeeds: the rest of the run is a run from the session and bindings it left
      have hcons : runCalls s b (c :: cs) =
          { runCalls s₁ (bindResult b c.binding v) cs with
            results := (c.binding, v) :: (runCalls s₁ (bindResult b c.binding v) cs).results } := by
        simp only [runCalls, hrun]
      rw [hcons]
      rcases ih s₁ (bindResult b c.binding v) with ⟨herr, hcomp⟩ |
          ⟨done, c', rest, s₂, e, hcalls, hcomp, herr, hfail⟩
      · exact .inl ⟨herr, .cons hargs hcall hcomp⟩
      · exact .inr ⟨c :: done, c', rest, s₂, e, by rw [hcalls]; rfl, .cons hargs hcall hcomp, herr,
          hfail⟩
    · -- the call fails: nothing after it runs
      have hcons : runCalls s b (c :: cs) = ⟨[], some e, s₁, b⟩ := by
        simp only [runCalls, hrun]
      rw [hcons]
      exact .inr ⟨[], c, cs, s, e, rfl, .nil s b, rfl, hfail⟩

/-! ## The law -/

/-- Script runs stop cleanly at the first failure. A script that does not read fails with its
lexer or parse failure, runs nothing and changes neither the session nor the bindings.
Otherwise either every call completes, handing on its result in order, with no failure; or the
calls before one call complete and that call fails, the run ending there: at the first argument
naming an unbound variable, with nothing called, or with the operation's failure over the call's
span. Either way the bindings are the first bindings updated by the results' `let`s in order. -/
theorem runScript_stops_at_first_failure (s : Session) (b : Bindings) (source : String) :
    (∀ e, parse source = .error e →
      runScript s b source = ⟨[], some e, s, b⟩ ∧ e.isSyntax = true) ∧
    (∀ calls, parse source = .ok calls →
      let r := runScript s b source
      r.bindings = bindAll b r.results ∧
      ((r.error = none ∧ Completes s b calls r.results r.session r.bindings) ∨
        ∃ done c rest s₁ e, calls = done ++ c :: rest ∧
          Completes s b done r.results s₁ r.bindings ∧ r.error = some e ∧
          Fails s₁ r.bindings c e r.session)) := by
  refine ⟨fun e he => ⟨by simp only [runScript, he], parse_error_isSyntax he⟩, fun calls hc => ?_⟩
  have hrun : runScript s b source = runCalls s b calls := by simp only [runScript, hc]
  simp only [hrun]
  rcases runCalls_spec s b calls with ⟨herr, hcomp⟩ | ⟨done, c, rest, s₁, e, hcalls, hcomp, herr, hfail⟩
  · exact ⟨hcomp.bindings_eq, .inl ⟨herr, hcomp⟩⟩
  · exact ⟨hcomp.bindings_eq, .inr ⟨done, c, rest, s₁, e, hcalls, hcomp, herr, hfail⟩⟩

/-- The empty script reads and runs to its end with no failure; a lone `$` does not read, and runs
nothing. -/
theorem empty_and_unreadable_scripts :
    let s := Session.standard {}
    (parse "" = .ok [] ∧ (runScript s .empty "").error = none) ∧
    (parse "$" = .error (.lexer ("unexpected character: " ++ Text.quote "$") ⟨0, 1⟩) ∧
      (runScript s .empty "$").session = s) := by
  intro s
  have hempty : parse "" = .ok [] := by
    simp [parse, tokenize, lexFrom, lines]
    rfl
  have hdollar : parse "$" = .error (.lexer ("unexpected character: " ++ Text.quote "$") ⟨0, 1⟩) := by
    unfold parse tokenize
    rw [show "$".toList = ['$'] from rfl, lexFrom]
    rfl
  refine ⟨⟨hempty, ?_⟩, hdollar, ?_⟩
  · rcases ((runScript_stops_at_first_failure s .empty "").2 [] hempty).2 with ⟨herr, -⟩ |
        ⟨done, c, rest, -, -, hcalls, -⟩
    · exact herr
    · exact absurd hcalls (by simp)
  · rw [((runScript_stops_at_first_failure s .empty "$").1 _ hdollar).1]

end HostInterop.Script
