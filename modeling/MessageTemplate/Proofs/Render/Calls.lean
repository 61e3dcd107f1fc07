import MessageTemplate.Proofs.Render.Independence

/-!
# The calls of user code

A user's formatter and serializer may do more than answer, so it matters when they are called. Each
hole makes one call or none. Which one it makes depends on the hole and on its value, and on nothing
that was answered before.

- **One hole** (`Hole.Asks`): the call that a value in a hole asks for; it asks for no two
  (`Hole.Asks.unique`), and rendering the value makes this call (`calls_renderValue`).
- **All tokens** (`CallsFor`): the calls that tokens ask for, in order. There is one such sequence
  (`CallsFor.unique`).
- **Changing answers** (`renderEach`): a rendering in which the user code may answer otherwise for
  each token. It makes the calls that are asked for (`callsFor_renderEach`).
- **Calls as asked for** (`weave_calls`): so does every rendering, and no answer changes a call.
-/

namespace MessageTemplate

/-- Formats and structured values are left to the user's code. -/
def Options.HasUserCode (options : Options) : Prop :=
  (∃ formatter, options.provider.formatter? = some formatter) ∧
    ∃ run, options.serializer = .custom run

/-- The value is a structure of the user's. -/
def Argument.IsStructure (value : Argument) : Prop :=
  (∃ json, value = .record json) ∨ ∃ custom, value = .custom custom

theorem Argument.isPrimitive_eq_false_iff {value : Argument} :
    value.isPrimitive = false ↔ value.IsStructure := by
  cases value <;> simp [Argument.isPrimitive, Argument.IsStructure]

/-! ## The call of one hole -/

/-- The call that a value asks for in a hole. -/
inductive Hole.Asks (hole : Hole) (value : Argument) : Call → Prop
  /-- A format that is not overruled by a modifier is the formatter's. -/
  | format (hplain : hole.isStringify = false) (hformat : hole.format ≠ "")
      (hvalue : hole.isSpread = false ∨ value.isPrimitive = true) :
      Asks hole value (.format hole.format value)
  /-- A structure that is to be spread is the serializer's. -/
  | serialize (hspread : hole.isSpread = true) (hvalue : value.IsStructure) :
      Asks hole value (.serialize hole.format hole.lining value)

section OneHole

variable {options : Options} {hole : Hole} {value : Argument} {call call' : Call}

theorem Hole.isStringify_of_isSpread (h : hole.isSpread = true) : hole.isStringify = false := by
  have hmodifier : hole.modifier? = some .spread := by simpa [Hole.isSpread] using h
  simp [Hole.isStringify, hmodifier]

/-- No value asks for two calls. -/
theorem Hole.Asks.unique (h : hole.Asks value call) (h' : hole.Asks value call') :
    call = call' := by
  -- The formatter takes no structure that is to be spread.
  have hexclusive (hvalue : hole.isSpread = false ∨ value.isPrimitive = true)
      (hspread : hole.isSpread = true) (hstructure : value.IsStructure) : False := by
    rw [← Argument.isPrimitive_eq_false_iff] at hstructure
    rcases hvalue with hvalue | hvalue
    · cases hspread.symm.trans hvalue
    · cases hstructure.symm.trans hvalue
  cases h with
  | format _ _ hvalue =>
    cases h' with
    | format => rfl
    | serialize hspread hstructure => exact (hexclusive hvalue hspread hstructure).elim
  | serialize hspread hstructure =>
    cases h' with
    | format _ _ hvalue => exact (hexclusive hvalue hspread hstructure).elim
    | serialize => rfl

/-- Rendering a value makes the call that the value asks for, or none if it asks for none. -/
theorem calls_renderValue (hole : Hole) (value : Argument) (hcode : options.HasUserCode) :
    (∃ call, hole.Asks value call ∧ (renderValue options hole value).calls = [call]) ∨
      ((∀ call, ¬hole.Asks value call) ∧ (renderValue options hole value).calls = []) := by
  obtain ⟨⟨formatter, hformatter⟩, run, hserializer⟩ := hcode
  unfold renderValue
  by_cases hstringify : hole.isStringify = true
  · rw [if_pos hstringify]
    refine .inr ⟨?_, rfl⟩
    rintro _ (⟨hplain, -, -⟩ | ⟨hspread, -⟩)
    · cases hstringify.symm.trans hplain
    · cases hstringify.symm.trans (Hole.isStringify_of_isSpread hspread)
  rw [if_neg hstringify]
  have hplain : hole.isStringify = false := by simpa using hstringify
  by_cases hspread : (hole.isSpread && !value.isPrimitive) = true
  · rw [if_pos hspread, hserializer]
    simp only [Bool.and_eq_true, Bool.not_eq_true'] at hspread
    exact .inl ⟨_, .serialize hspread.1 (Argument.isPrimitive_eq_false_iff.mp hspread.2), rfl⟩
  rw [if_neg hspread]
  have hvalue : hole.isSpread = false ∨ value.isPrimitive = true := by
    cases h : hole.isSpread <;> simp_all
  by_cases hformat : hole.format.isEmpty = true
  · rw [if_pos hformat]
    refine .inr ⟨?_, rfl⟩
    rintro _ (⟨-, hne, -⟩ | ⟨hspread', hstructure⟩)
    · exact hne (by simpa using hformat)
    · rw [← Argument.isPrimitive_eq_false_iff] at hstructure
      simp [hspread', hstructure] at hspread
  · rw [if_neg hformat, hformatter]
    exact .inl ⟨_, .format hplain (by simpa using hformat) hvalue, rfl⟩

end OneHole

/-! ## The calls of all tokens -/

/-- The calls that tokens ask for, in the order of the tokens. -/
inductive CallsFor (binding : Binding) (arguments : List Argument) :
    List Token → List Call → Prop
  | nil : CallsFor binding arguments [] []
  | literal {l : Literal} {tokens : List Token} {calls : List Call} :
      CallsFor binding arguments tokens calls →
      CallsFor binding arguments (.literal l :: tokens) calls
  /-- A hole without a value calls nothing. -/
  | absent {hole : Hole} {tokens : List Token} {calls : List Call} :
      AbsentAt arguments (binding.position hole) → CallsFor binding arguments tokens calls →
      CallsFor binding arguments (.hole hole :: tokens) calls
  /-- Nor does a hole whose value asks for nothing. -/
  | silent {hole : Hole} {value : Argument} {tokens : List Token} {calls : List Call} :
      arguments[binding.position hole]? = some value → value.isNull = false →
      (∀ call, ¬hole.Asks value call) → CallsFor binding arguments tokens calls →
      CallsFor binding arguments (.hole hole :: tokens) calls
  | asks {hole : Hole} {value : Argument} {call : Call} {tokens : List Token}
      {calls : List Call} :
      arguments[binding.position hole]? = some value → value.isNull = false →
      hole.Asks value call → CallsFor binding arguments tokens calls →
      CallsFor binding arguments (.hole hole :: tokens) (call :: calls)

section AllTokens

variable {options : Options} {binding : Binding} {arguments : List Argument} {token : Token}
  {tokens : List Token} {calls calls' : List Call}

theorem CallsFor.unique (h : CallsFor binding arguments tokens calls)
    (h' : CallsFor binding arguments tokens calls') : calls = calls' := by
  have habsent {i : Nat} {value : Argument} (hnone : AbsentAt arguments i)
      (hget : arguments[i]? = some value) (hnull : value.isNull = false) : False := by
    have := (valueAt?_eq_none.2 hnone).symm.trans (valueAt?_eq_some.2 ⟨hget, hnull⟩)
    cases this
  induction h generalizing calls' with
  | nil => cases h'; rfl
  | literal _ ih => cases h' with | literal h' => exact ih h'
  | absent hnone _ ih =>
    cases h' with
    | absent _ h' => exact ih h'
    | silent hget hnull _ _ => exact (habsent hnone hget hnull).elim
    | asks hget hnull _ _ => exact (habsent hnone hget hnull).elim
  | silent hget hnull hsilent _ ih =>
    cases h' with
    | absent hnone _ => exact (habsent hnone hget hnull).elim
    | silent _ _ _ h' => exact ih h'
    | asks hget' _ hasks _ =>
      cases hget.symm.trans hget'
      exact (hsilent _ hasks).elim
  | asks hget hnull hasks _ ih =>
    cases h' with
    | absent hnone _ => exact (habsent hnone hget hnull).elim
    | silent hget' _ hsilent _ =>
      cases hget.symm.trans hget'
      exact (hsilent _ hasks).elim
    | asks hget' _ hasks' h' =>
      cases hget.symm.trans hget'
      rw [hasks.unique hasks', ih h']

/-- Rendering one more token makes its call before those of the others. -/
theorem CallsFor.cons (hcode : options.HasUserCode)
    (h : CallsFor binding arguments tokens calls) :
    CallsFor binding arguments (token :: tokens)
      ((renderToken options binding arguments token).calls ++ calls) := by
  cases token with
  | literal l => exact .literal h
  | hole hole =>
    cases hbound : boundValue? binding arguments hole with
    | none =>
      have hcalls : (renderToken options binding arguments (.hole hole)).calls = [] := by
        simp only [renderToken, hbound, renderHole, Traced.calls_pure]
      rw [hcalls]
      exact .absent (valueAt?_eq_none.1 hbound) h
    | some value =>
      obtain ⟨hget, hnull⟩ := valueAt?_eq_some.1 hbound
      have hcalls : (renderToken options binding arguments (.hole hole)).calls =
          (renderValue options hole value).calls := by
        simp only [renderToken, hbound, renderHole, Traced.calls_bind,
          Traced.calls_pure, List.append_nil]
      rw [hcalls]
      rcases calls_renderValue hole value hcode with ⟨call, hasks, hcall⟩ | ⟨hsilent, hnil⟩
      · rw [hcall]
        exact .asks hget hnull hasks h
      · rw [hnil]
        exact .silent hget hnull hsilent h

end AllTokens

/-! ## Changing answers -/

/-- The texts of tokens, each rendered under options of its own. User code that remembers what it
was asked may answer otherwise each time; here it is other user code each time. -/
def renderEach (binding : Binding) (arguments : List Argument) :
    List (Options × Token) → Traced (List String)
  | [] => pure []
  | (options, token) :: rest => do
    let text ← renderToken options binding arguments token
    let texts ← renderEach binding arguments rest
    pure (text :: texts)

theorem renderEach_same (options : Options) (binding : Binding) (arguments : List Argument)
    (tokens : List Token) :
    renderEach binding arguments (tokens.map fun token => (options, token)) =
      renderTokens options binding arguments tokens := by
  induction tokens with
  | nil => rfl
  | cons token tokens ih => rw [List.map_cons, renderEach, renderTokens, ih]

/-- Whatever the user code answers to each token, the calls are those that the tokens ask for. -/
theorem callsFor_renderEach (binding : Binding) (arguments : List Argument)
    (steps : List (Options × Token)) (hcode : ∀ step ∈ steps, step.1.HasUserCode) :
    CallsFor binding arguments (steps.map Prod.snd) (renderEach binding arguments steps).calls := by
  induction steps with
  | nil => exact .nil
  | cons step steps ih =>
    obtain ⟨options, token⟩ := step
    obtain ⟨hoptions, hsteps⟩ := List.forall_mem_cons.mp hcode
    have hcalls : (renderEach binding arguments ((options, token) :: steps)).calls =
        (renderToken options binding arguments token).calls ++
          (renderEach binding arguments steps).calls := by
      simp only [renderEach, Traced.calls_bind, Traced.calls_pure, List.append_nil]
    rw [List.map_cons, hcalls]
    exact (ih hsteps).cons hoptions

/-- **Calls are made as they are asked for.** When formats and structured values are left to the
user's code, a rendering makes exactly the calls that its holes ask for, one after another. What is
answered to one token, a failure too, changes no call for another. -/
theorem weave_calls (options : Options) (tokens : List Token) (arguments : List Argument)
    (hcode : options.HasUserCode) :
    (∀ calls, CallsFor (.ofTokens tokens) arguments tokens calls ↔
      (weave options tokens arguments).calls = calls) ∧
    ∀ steps : List (Options × Token), steps.map Prod.snd = tokens →
      (∀ step ∈ steps, step.1.HasUserCode) →
      (renderEach (.ofTokens tokens) arguments steps).calls =
        (weave options tokens arguments).calls := by
  have hweave : CallsFor (.ofTokens tokens) arguments tokens
      (weave options tokens arguments).calls := by
    have hsame := callsFor_renderEach (.ofTokens tokens) arguments
      (tokens.map fun token => (options, token)) (by simp [hcode])
    rw [renderEach_same, List.map_map] at hsame
    simpa [weave, Function.comp_def] using hsame
  refine ⟨fun calls => ⟨hweave.unique, fun h => h ▸ hweave⟩, fun steps htokens hsteps => ?_⟩
  have heach := callsFor_renderEach (.ofTokens tokens) arguments steps hsteps
  rw [htokens] at heach
  exact heach.unique hweave

/-- User code that always fails. Of five holes two make a call: the one that spreads a record, and
the one that would spread a number and has a format. -/
theorem weave_calls_failing :
    let options : Options :=
      { provider? := some ⟨.invariant, some ⟨fun _ _ _ => .error (.custom "E" "no")⟩⟩
        serializer? := some (.custom fun _ _ _ _ => .error (.custom "E" "no")) }
    let tokens : List Token :=
      [.hole ⟨⟨0, 6⟩, 0, "\x7b$a:f\x7d", "$a", "", "f"⟩,
       .hole ⟨⟨6, 14⟩, 1, "\x7b@b,5:f\x7d", "@b", "5", "f"⟩, .literal ⟨⟨14, 15⟩, "-", none⟩,
       .hole ⟨⟨15, 21⟩, 2, "\x7b@c:g\x7d", "@c", "", "g"⟩,
       .hole ⟨⟨21, 24⟩, 3, "\x7bd\x7d", "d", "", ""⟩,
       .hole ⟨⟨24, 29⟩, 4, "\x7be:h\x7d", "e", "", "h"⟩]
    (weave options tokens [.int 1, .record .null, .int 1, .int 1]).calls =
      [.serialize "f" "5" (.record .null), .format "g" (.int 1)] := by
  intro options tokens
  have hrank : Binding.ofTokens tokens = .rank := by decide +kernel
  have hcode : options.HasUserCode := ⟨⟨_, rfl⟩, _, rfl⟩
  obtain ⟨hcalls, -⟩ := weave_calls options tokens [.int 1, .record .null, .int 1, .int 1] hcode
  rw [← hcalls, hrank]
  refine .silent rfl rfl ?_ (.asks rfl rfl (.serialize (by decide +kernel) (.inl ⟨_, rfl⟩))
    (.literal (.asks rfl rfl (.format (by decide +kernel) (by decide) (.inr rfl))
      (.silent rfl rfl ?_ (.absent (.inl rfl) .nil)))))
  · rintro _ (⟨hplain, -, -⟩ | ⟨hspread, -⟩)
    · exact absurd hplain (by decide +kernel)
    · exact absurd hspread (by decide +kernel)
  · rintro _ (⟨-, hformat, -⟩ | ⟨hspread, -⟩)
    · exact hformat rfl
    · exact absurd hspread (by decide +kernel)

end MessageTemplate
