import Mathlib.Data.List.Induction
import HostInterop.Proofs.ForeignArity

/-!
# Call counts

A callable counts the calls its gate admits. This module follows the counts through any sequence
of calls and resets (`Session.Event`): calls through an entry point, calls with the arguments
routed by count, calls by name, resets of one count and resets of every bound callable's count.

None of these events changes anything a later event depends on for its count: the packages, the
configuration, and every callable up to its count stay as they were (`Event.run_shape`). So
whether an event counts callable `f` (`Event.counts`: it invokes `f` and the gate admits it) or
resets it (`Event.resets`) can be read off the first session. One event changes the count of `f`
as its gate and resets say (`countOf_run`), and a whole run leaves `f` counting exactly the
admitted invocations since its last reset, on top of its old count when it was never reset
(`countOf_runEvents`).
-/

set_option linter.dupNamespace false

namespace HostInterop

open Registry Registry.Registry

namespace Registry.Registry

/-- The count of a callable, zero when there is none. -/
def count (reg : Registry) (f : Nat) : Nat := ((reg.callable? f).map (·.count)).getD 0

/-- The registry with every count set to zero: what calls and resets of counts leave alone. -/
def uncounted (reg : Registry) : Registry :=
  { reg with callables := reg.callables.map fun c => { c with count := 0 } }

@[simp]
theorem packages_uncounted (reg : Registry) : reg.uncounted.packages = reg.packages := rfl

@[simp]
theorem defaultPackage_uncounted (reg : Registry) :
    reg.uncounted.defaultPackage = reg.defaultPackage := rfl

theorem packages_eq_of_uncounted {reg reg' : Registry} (h : reg'.uncounted = reg.uncounted) :
    reg'.packages = reg.packages := by
  simpa using congrArg Registry.packages h

theorem callable?_uncounted (reg : Registry) (f : Nat) :
    reg.uncounted.callable? f = (reg.callable? f).map fun c => { c with count := 0 } := by
  simp only [uncounted, callable?, List.getElem?_map]

/-- Changing one callable in its count only keeps the registry up to counts. -/
theorem uncounted_updateCallable {reg : Registry} {f : Nat} {g : Callable → Callable}
    (hg : ∀ c, reg.callable? f = some c → { g c with count := 0 } = { c with count := 0 }) :
    (reg.updateCallable f g).uncounted = reg.uncounted := by
  simp only [uncounted, updateCallable, Registry.mk.injEq, true_and]
  apply List.ext_getElem?
  intro i
  simp only [List.getElem?_map, List.getElem?_modify]
  split
  · rename_i hfi
    subst hfi
    cases hc : reg.callables[f]? with
    | none => rfl
    | some c => exact congrArg some (hg c hc)
  · simp

/-- Whether a callable is admitted with `argc` arguments depends on no count. -/
theorem any_admits_congr {reg reg' : Registry} (h : reg'.uncounted = reg.uncounted) (f argc : Nat) :
    (reg'.callable? f).any (·.admits argc) = (reg.callable? f).any (·.admits argc) := by
  have hf := congrArg (·.callable? f) h
  simp only [callable?_uncounted] at hf
  calc (reg'.callable? f).any (·.admits argc)
      = ((reg'.callable? f).map fun c => { c with count := 0 }).any (·.admits argc) := by
        cases reg'.callable? f <;> rfl
    _ = ((reg.callable? f).map fun c => { c with count := 0 }).any (·.admits argc) := by rw [hf]
    _ = (reg.callable? f).any (·.admits argc) := by cases reg.callable? f <;> rfl

theorem count_updateCallable (reg : Registry) (g : Nat) (h : Callable → Callable) (f : Nat) :
    (reg.updateCallable g h).count f =
      if f = g then (((reg.callable? g).map h).map (·.count)).getD 0 else reg.count f := by
  simp only [count, callable?_updateCallable]
  split
  · rename_i hfg; subst hfg; rfl
  · rfl

/-- Setting counts to zero one callable after another zeroes exactly those callables. -/
theorem count_foldl_clear (f : Nat) :
    ∀ (fs : List Nat) (reg : Registry),
      (fs.foldl (fun r g => r.updateCallable g fun c => { c with count := 0 }) reg).count f =
        if f ∈ fs then 0 else reg.count f
  | [], reg => by simp
  | g :: fs, reg => by
    rw [List.foldl_cons, count_foldl_clear f fs, count_updateCallable]
    by_cases hfs : f ∈ fs
    · simp [hfs]
    · by_cases hfg : f = g
      · subst hfg; cases reg.callable? f <;> simp [hfs]
      · simp [hfs, hfg]

/-- Setting counts to zero one callable after another changes no callable but in its count. -/
theorem uncounted_foldl_clear (fs : List Nat) (reg : Registry) :
    (fs.foldl (fun r g => r.updateCallable g fun c => { c with count := 0 }) reg).uncounted =
      reg.uncounted :=
  foldl_invariant (fun r => r.uncounted = reg.uncounted)
    (fun r g => r.updateCallable g fun c => { c with count := 0 }) fs reg
    (fun r g _ hr =>
      (@uncounted_updateCallable r g (fun c => { c with count := 0 }) fun _ _ => rfl).trans hr) rfl

/-- Registration counts nothing. -/
theorem count_register (reg : Registry) (f : Nat) (key : String) (g : Nat) :
    (reg.register f key).1.count g = reg.count g := by
  have h := congrArg (Option.map (·.count)) (callable?_register reg f key g)
  simp only [Option.map_map, Function.comp_def] at h
  exact congrArg (·.getD 0) h

/-- Resetting every bound callable's count zeroes exactly the bound callables. -/
theorem count_clearCounts (reg : Registry) (f : Nat) :
    reg.clearCounts.count f = if f ∈ reg.boundCallables then 0 else reg.count f :=
  count_foldl_clear f _ reg

end Registry.Registry

namespace Session

@[simp]
theorem countOf_eq (s : Session) (f : Nat) : s.countOf f = s.registry.count f := rfl

/-! ## One call -/

/-- A call counts its callable once more exactly when the gate admits it, and counts no other. -/
theorem countOf_enter (s : Session) (g : Nat) (entry : Entry) (args : List Value) (f : Nat) :
    (s.enter g entry args).2.countOf f =
      if g = f ∧ (s.registry.callable? f).any (·.admits args.length) = true then s.countOf f + 1
      else s.countOf f := by
  cases hc : s.registry.callable? g with
  | none =>
    rw [enter_of_none hc, if_neg]
    rintro ⟨rfl, h⟩
    simp [hc] at h
  | some c =>
    cases hadm : c.admits args.length
    · rw [enter_of_refused hc hadm, if_neg]
      rintro ⟨rfl, h⟩
      simp [hc, hadm] at h
    · rw [enter_of_admits hc hadm]
      simp only [countOf_eq, count_updateCallable]
      by_cases hgf : g = f
      · subst hgf; simp [hc, hadm, count]
      · simp [hgf, Ne.symm hgf]

/-- A call changes neither the configuration nor any callable but in its count. -/
theorem enter_shape (s : Session) (f : Nat) (entry : Entry) (args : List Value) :
    (s.enter f entry args).2.config = s.config ∧
      (s.enter f entry args).2.registry.uncounted = s.registry.uncounted := by
  cases hc : s.registry.callable? f with
  | none => rw [enter_of_none hc]; exact ⟨rfl, rfl⟩
  | some c =>
    cases hadm : c.admits args.length
    · rw [enter_of_refused hc hadm]; exact ⟨rfl, rfl⟩
    · rw [enter_of_admits hc hadm]
      refine ⟨rfl, uncounted_updateCallable fun c' hc' => ?_⟩
      rw [hc] at hc'
      cases hc'
      rfl

/-- Looking a function up reads only the configuration and the packages. -/
theorem function?_congr {s t : Session} (hc : t.config = s.config)
    (hr : t.registry.uncounted = s.registry.uncounted) (name : String) :
    t.function? name = s.function? name := by
  have hp := packages_eq_of_uncounted hr
  have hd : t.registry.defaultPackage = s.registry.defaultPackage := by
    simpa using congrArg Registry.defaultPackage hr
  simp only [function?, Registry.findFunction, Registry.package?, hc, hp, hd]

/-- A callable is made with the count it is given: a new callable starts uncounted. -/
theorem countOf_define (s : Session) (c : Callable) (package : Option String) :
    (s.define c package).1.countOf (s.define c package).2 = c.count := by
  unfold Session.define
  split
  · simp [count, callable?_add]
  · simp only [countOf_eq, addIn_eq, count_register]
    simp [count, callable?_add]

/-! ## Runs of calls and resets -/

/-- An invocation of a callable, or a reset of call counts. -/
inductive Event where
  /-- Call a callable through an entry point. -/
  | enter (f : Nat) (entry : Entry) (args : List Value)
  /-- Call a callable with the arguments routed by count. -/
  | apply (f : Nat) (args : List Value)
  /-- Look a function up by name and apply it. -/
  | call (name : String) (args : List Value)
  /-- Set a callable's count to zero. -/
  | clear (f : Nat)
  /-- Set the count of every bound callable to zero. -/
  | clearAll

/-- The session after an event. -/
def Event.run (s : Session) : Event → Session
  | .enter f entry args => (s.enter f entry args).2
  | .apply f args => (s.apply f args).2
  | .call name args => (s.call name args).2
  | .clear f => s.clearCount f
  | .clearAll => s.clearCounts

/-- The session after a sequence of events. -/
def runEvents (s : Session) (es : List Event) : Session := es.foldl Event.run s

/-- The callable an event invokes and the count of its arguments; none for a reset, or for a
name that finds no function. -/
def Event.invokes (s : Session) : Event → Option (Nat × Nat)
  | .enter f _ args => some (f, args.length)
  | .apply f args => some (f, args.length)
  | .call name args =>
    match s.function? name with
    | .ok f => some (f, args.length)
    | .error _ => none
  | .clear _ => none
  | .clearAll => none

/-- Whether the event invokes callable `f` and the gate admits the call. -/
def Event.counts (s : Session) (f : Nat) (e : Event) : Bool :=
  match e.invokes s with
  | some (g, argc) => g == f && (s.registry.callable? f).any (·.admits argc)
  | none => false

/-- Whether the event sets the count of callable `f` to zero. -/
def Event.resets (s : Session) (f : Nat) : Event → Bool
  | .clear g => g == f
  | .clearAll => decide (f ∈ s.registry.boundCallables)
  | _ => false

/-- The count after an invocation, by what it invokes. -/
theorem countOf_invoke {s : Session} {g : Nat} {entry : Entry} {args : List Value} (f : Nat) :
    (s.enter g entry args).2.countOf f =
      if Event.counts s f (.enter g entry args) then s.countOf f + 1 else s.countOf f := by
  rw [countOf_enter]
  simp [Event.counts, Event.invokes]

/-- One event changes the count of `f` as its reset and its gate say. -/
theorem countOf_run (s : Session) (e : Event) (f : Nat) :
    (e.run s).countOf f =
      if e.resets s f then 0 else if e.counts s f then s.countOf f + 1 else s.countOf f := by
  cases e with
  | enter g entry args => exact countOf_invoke f
  | apply g args => exact countOf_invoke f
  | call name args =>
    simp only [Event.run, call_eq]
    split
    · rename_i e hf
      simp [Event.resets, Event.counts, Event.invokes, hf]
    · rename_i g hf
      rw [countOf_enter]
      simp [Event.resets, Event.counts, Event.invokes, hf]
  | clear g =>
    simp only [Event.run, Event.resets, Event.counts, Event.invokes, clearCount, withRegistry,
      countOf_eq, count_updateCallable]
    by_cases hfg : f = g
    · subst hfg; cases s.registry.callable? f <;> simp
    · simp [hfg, Ne.symm hfg]
  | clearAll =>
    simp only [Event.run, Event.resets, Event.counts, Event.invokes, clearCounts, withRegistry,
      countOf_eq, count_clearCounts]
    simp

/-- No event changes the configuration, or any callable but in its count. -/
theorem Event.run_shape (s : Session) (e : Event) :
    (e.run s).config = s.config ∧ (e.run s).registry.uncounted = s.registry.uncounted := by
  cases e with
  | enter f entry args => exact enter_shape s f entry args
  | apply f args => exact enter_shape s f _ args
  | call name args =>
    simp only [Event.run, call_eq]
    split
    · exact ⟨rfl, rfl⟩
    · exact enter_shape s _ _ args
  | clear f => exact ⟨rfl, uncounted_updateCallable fun _ _ => rfl⟩
  | clearAll => exact ⟨rfl, uncounted_foldl_clear _ _⟩

/-- Whether an event counts or resets a callable is the same in two sessions that differ only in
counts. -/
theorem Event.counts_congr {s t : Session} (hc : t.config = s.config)
    (hr : t.registry.uncounted = s.registry.uncounted) (f : Nat) (e : Event) :
    e.counts t f = e.counts s f ∧ e.resets t f = e.resets s f := by
  have hinv : e.invokes t = e.invokes s := by
    cases e <;> simp only [Event.invokes, function?_congr hc hr]
  have hbound : t.registry.boundCallables = s.registry.boundCallables := by
    unfold boundCallables
    rw [packages_eq_of_uncounted hr]
  refine ⟨?_, ?_⟩
  · unfold Event.counts
    rw [hinv]
    split
    · rw [any_admits_congr hr]
    · rfl
  · cases e <;> simp only [Event.resets, hbound]

/-- A run changes neither the configuration nor any callable but in its count. -/
theorem runEvents_shape (s : Session) (es : List Event) :
    (s.runEvents es).config = s.config ∧
      (s.runEvents es).registry.uncounted = s.registry.uncounted :=
  foldl_invariant (fun t => t.config = s.config ∧ t.registry.uncounted = s.registry.uncounted)
    Event.run es s
    (fun t e _ ht => ⟨(Event.run_shape t e).1.trans ht.1, (Event.run_shape t e).2.trans ht.2⟩)
    ⟨rfl, rfl⟩

/-- The events after the last reset of callable `f`'s count; all of them when none resets it. -/
def sinceReset (s : Session) (f : Nat) (es : List Event) : List Event :=
  (es.reverse.takeWhile fun e => !e.resets s f).reverse

theorem sinceReset_append_singleton (s : Session) (f : Nat) (es : List Event) (e : Event) :
    sinceReset s f (es ++ [e]) = if e.resets s f then [] else sinceReset s f es ++ [e] := by
  unfold sinceReset
  rw [List.reverse_append, List.reverse_singleton, List.singleton_append, List.takeWhile_cons]
  cases e.resets s f <;> simp

/-- The call-count law: after any run of calls and resets, a callable's count is the number of
its admitted invocations since its last reset, on top of its old count when it was not reset. -/
theorem countOf_runEvents (s : Session) (f : Nat) (es : List Event) :
    (s.runEvents es).countOf f =
      (if es.any (·.resets s f) then 0 else s.countOf f) +
        (sinceReset s f es).countP (·.counts s f) := by
  induction es using List.reverseRecOn with
  | nil => simp [runEvents, sinceReset]
  | append_singleton es e ih =>
    -- the last event is read in the session the run reached, which differs only in counts
    obtain ⟨hc, hr⟩ := runEvents_shape s es
    obtain ⟨hcounts, hresets⟩ := Event.counts_congr hc hr f e
    have hrun : s.runEvents (es ++ [e]) = e.run (s.runEvents es) := by
      simp [runEvents, List.foldl_append]
    rw [hrun, countOf_run, hcounts, hresets, ih, sinceReset_append_singleton, List.any_append,
      List.any_cons, List.any_nil, Bool.or_false]
    cases e.resets s f with
    | true => simp
    | false =>
      simp only [Bool.or_false, Bool.false_eq_true, if_false, List.countP_append,
        List.countP_singleton]
      cases e.counts s f <;> cases es.any (·.resets s f) <;> simp
      all_goals omega

/-! ## The law -/

/-- The call-count law. After any run of calls and resets, a callable's count is the number of
its invocations since its last reset that its gate admitted, whatever the target did then, on top
of its old count when it was not reset; a callable is made uncounted. A call the gate refuses
changes nothing. A wrong number of arguments from a foreign-operation callable, which is what
installing the foreign operations adds, comes from its gate: nothing changes, and the error names
the operation. Resetting every bound callable's count zeroes exactly the bound callables. -/
theorem call_count_law :
    (∀ (s : Session) (es : List Event) (f : Nat),
      (s.runEvents es).countOf f =
        (if es.any (·.resets s f) then 0 else s.countOf f) +
          (sinceReset s f es).countP (·.counts s f)) ∧
    (∀ (s : Session) (name : Option String) (arity : Arity) (target : Target)
      (package : Option String),
      (s.define (.make name arity target) package).1.countOf
        (s.define (.make name arity target) package).2 = 0) ∧
    (∀ (s : Session) (f : Nat) (c : Callable) (entry : Entry) (args : List Value),
      s.registry.callable? f = some c → c.admits args.length = false →
      (s.enter f entry args).2 = s) ∧
    (∀ (s : Session) (f : Nat) (c : Callable) (op : Foreign.Operation) (entry : Entry)
      (args : List Value) (name : String) (argc : Nat),
      s.registry.callable? f = some c → c.ForeignOp op →
      (s.enter f entry args).1 = .error (.wrongNumberOfArguments name argc) →
      (s.enter f entry args).2 = s ∧ name = op.name ∧ argc = args.length) ∧
    (∀ (reg : Registry) (host : Host.Host) (package : String) (exportNames : Bool) (g : Nat)
      (c : Callable), reg.callables.length ≤ g →
      (reg.installForeign host package exportNames).1.callable? g = some c →
      ∃ op, c.ForeignOp op) ∧
    (∀ (s : Session) (f : Nat),
      s.clearCounts.countOf f = if f ∈ s.registry.boundCallables then 0 else s.countOf f) := by
  refine ⟨fun s es f => countOf_runEvents s f es, fun s name arity target package => ?_, ?_, ?_, ?_,
    ?_⟩
  · exact countOf_define s _ package
  · intro s f c entry args hc hadm
    rw [enter_of_refused hc hadm]
  · intro s f c op entry args name argc hc hop h
    exact enter_foreign_wrongNumber hc hop h
  · intro reg host package exportNames g c hg hc
    exact installForeign_foreignOp reg host package exportNames hg hc
  · intro s f
    exact count_clearCounts s.registry f

/-- Resolving a class with no argument, through a foreign-operation callable: the gate refuses
the call, which is not counted and changes nothing. -/
theorem resolveClass_without_argument_uncounted :
    let c : Callable :=
      { name := some "RESOLVE-CLASS", arity := .exact 1, target := .table (.foreign ⟨0, .standard⟩) 0 }
    let s : Session := ⟨{}, ⟨"CL-USER", [], [c]⟩, ⟨0, .standard⟩, 1⟩
    (s.enter 0 .none []).1 = .error (.wrongNumberOfArguments "RESOLVE-CLASS" 0) ∧
      (s.enter 0 .none []).2 = s := by
  intro c s
  have hrun : (s.enter 0 .none []).1 = .error (.wrongNumberOfArguments "RESOLVE-CLASS" 0) := rfl
  have hop : c.ForeignOp .resolveClass := ⟨⟨⟨0, .standard⟩, 0, rfl, rfl⟩, rfl, rfl⟩
  exact ⟨hrun, (call_count_law.2.2.2.1 s 0 c .resolveClass .none [] _ _ rfl hop hrun).1⟩

end Session

end HostInterop
