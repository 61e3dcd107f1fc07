import MessageTemplate.Proofs.Render.Pieces

/-!
# Holes are rendered independently

A hole reads one argument and writes one piece of the output. What the other holes read does not
reach it, and a value that has no text leaves a diagnostic in its own piece and nothing elsewhere.

- **Positions** (`SameAt`): when two argument lists cannot be told apart at a position. Null and
  nothing are the same there (`SameAt.valueAt?`), so nulls may follow the arguments
  (`valueAt?_append_null`).
- **Replacement** (`piece_set`): another argument at a position keeps the pieces of all tokens that
  do not read it.
- **Independence** (`weave_independent`): all of this for the text, the calls and the relations of
  any token list, with what the piece of a hole is in each case.
-/

namespace MessageTemplate

/-! ## Positions -/

/-- There is no argument at the position, or it is null. -/
def AbsentAt (arguments : List Argument) (i : Nat) : Prop :=
  arguments[i]? = none ∨ arguments[i]? = some .null

/-- There is the same argument at the position, not null, or on both sides it is absent. -/
def SameAt (a b : List Argument) (i : Nat) : Prop :=
  (∃ value, value.isNull = false ∧ a[i]? = some value ∧ b[i]? = some value) ∨
    (AbsentAt a i ∧ AbsentAt b i)

theorem Argument.isNull_iff {value : Argument} : value.isNull = true ↔ value = .null := by
  cases value <;> simp [Argument.isNull]

section Positions

variable {arguments a b : List Argument} {i : Nat} {value : Argument}

theorem valueAt?_eq_none : valueAt? arguments i = none ↔ AbsentAt arguments i := by
  unfold valueAt? AbsentAt
  cases arguments[i]? <;> simp [Argument.isNull_iff]

theorem valueAt?_eq_some :
    valueAt? arguments i = some value ↔ arguments[i]? = some value ∧ value.isNull = false := by
  simp [valueAt?, Option.filter_eq_some_iff]

theorem SameAt.valueAt? (h : SameAt a b i) : valueAt? a i = valueAt? b i := by
  rcases h with ⟨value, hnull, ha, hb⟩ | ⟨ha, hb⟩
  · rw [valueAt?_eq_some.2 ⟨ha, hnull⟩, valueAt?_eq_some.2 ⟨hb, hnull⟩]
  · rw [valueAt?_eq_none.2 ha, valueAt?_eq_none.2 hb]

/-- Nulls after the arguments are like no arguments. -/
theorem valueAt?_append_null (arguments : List Argument) (n i : Nat) :
    valueAt? (arguments ++ List.replicate n .null) i = valueAt? arguments i := by
  by_cases h : i < arguments.length
  · unfold valueAt?
    rw [List.getElem?_append_left h]
  · have hnull : AbsentAt (arguments ++ List.replicate n .null) i := by
      unfold AbsentAt
      rw [List.getElem?_append_right (by omega), List.getElem?_replicate]
      split
      · exact .inr rfl
      · exact .inl rfl
    have hnone : AbsentAt arguments i := .inl (List.getElem?_eq_none (by omega))
    rw [valueAt?_eq_none.2 hnull, valueAt?_eq_none.2 hnone]

end Positions

/-! ## Replacing an argument -/

/-- Whether the token is a hole that reads the argument at the position. -/
def Token.reads (binding : Binding) (i : Nat) : Token → Bool
  | .literal _ => false
  | .hole h => binding.position h == i

theorem piece_set {binding : Binding} {i : Nat} {token : Token} (options : Options)
    (arguments : List Argument) (value : Argument) (h : token.reads binding i = false) :
    piece options binding (arguments.set i value) token = piece options binding arguments token := by
  cases token with
  | literal l => rfl
  | hole hole =>
    have hne : i ≠ binding.position hole := by rintro rfl; simp [Token.reads] at h
    have hvalue : boundValue? binding (arguments.set i value) hole =
        boundValue? binding arguments hole := by
      rw [boundValue?_eq, boundValue?_eq, valueAt?, List.getElem?_set_ne hne, valueAt?]
    simp only [piece, renderToken, hvalue]

/-! ## Independence -/

/-- How a rendering depends on its arguments. -/
structure Independent (options : Options) (tokens : List Token) (arguments : List Argument) :
    Prop where
  /-- Each token writes one piece. -/
  pieces : (weave options tokens arguments).result =
    String.join (tokens.map (piece options (.ofTokens tokens) arguments))
  /-- Only what stands at the positions of the holes matters, and there null is like nothing. -/
  bound : ∀ others, (∀ hole ∈ holesOf tokens,
      SameAt arguments others ((Binding.ofTokens tokens).position hole)) →
    weave options tokens others = weave options tokens arguments ∧
      relationsOf tokens others = relationsOf tokens arguments
  /-- Nulls may follow the arguments. -/
  nulls : ∀ n, weave options tokens (arguments ++ List.replicate n .null) =
      weave options tokens arguments ∧
    relationsOf tokens (arguments ++ List.replicate n .null) = relationsOf tokens arguments
  /-- Beyond the positions of all holes anything may follow. -/
  beyond : ∀ others,
    (∀ hole ∈ holesOf tokens, (Binding.ofTokens tokens).position hole < arguments.length) →
    weave options tokens (arguments ++ others) = weave options tokens arguments ∧
      relationsOf tokens (arguments ++ others) = relationsOf tokens arguments
  /-- Another argument at a position changes only the pieces of the holes that read it. -/
  replaced : ∀ i value, i < arguments.length →
    (weave options tokens (arguments.set i value)).result = String.join (tokens.map fun token =>
      if token.reads (.ofTokens tokens) i then
        piece options (.ofTokens tokens) (arguments.set i value) token
      else piece options (.ofTokens tokens) arguments token)
  /-- A literal shows its text. -/
  literal : ∀ l, piece options (.ofTokens tokens) arguments (.literal l) = l.text
  /-- A hole without a value shows the fallback, or else its marker. -/
  absent : ∀ hole, AbsentAt arguments ((Binding.ofTokens tokens).position hole) →
    piece options (.ofTokens tokens) arguments (.hole hole) = options.fallback?.getD hole.marker
  /-- A hole shows the text of its value, filled up to the width of its field. -/
  rendered : ∀ hole value text, arguments[(Binding.ofTokens tokens).position hole]? = some value →
    value.isNull = false → (renderValue options hole value).result = .ok text →
    piece options (.ofTokens tokens) arguments (.hole hole) = align hole text
  /-- A value that has no text is told of in its place, filled up in the same way. -/
  failed : ∀ hole value e, arguments[(Binding.ofTokens tokens).position hole]? = some value →
    value.isNull = false → (renderValue options hole value).result = .error e →
    piece options (.ofTokens tokens) arguments (.hole hole) =
      align hole ("[" ++ hole.marker ++ " => " ++ e.kind ++ ": \"" ++ e.message ++ "\"]")

/-- **Holes are independent.** Every token list renders each hole from the one argument that it is
bound to, and an argument that has no text is no trouble to the rest. -/
theorem weave_independent (options : Options) (tokens : List Token) (arguments : List Argument) :
    Independent options tokens arguments := by
  have hcongr {others : List Argument} (h : ∀ hole ∈ holesOf tokens,
      valueAt? others ((Binding.ofTokens tokens).position hole) =
        valueAt? arguments ((Binding.ofTokens tokens).position hole)) :
      weave options tokens others = weave options tokens arguments ∧
        relationsOf tokens others = relationsOf tokens arguments :=
    ⟨weave_congr h, relationsOf_congr h⟩
  exact {
    pieces := weave_result options tokens arguments
    bound := fun others h => hcongr fun hole hhole => (h hole hhole).valueAt?.symm
    nulls := fun n => hcongr fun hole _ => valueAt?_append_null arguments n _
    beyond := fun others h => hcongr fun hole hhole => by
      unfold valueAt?
      rw [List.getElem?_append_left (h hole hhole)]
    replaced := fun i value _ => by
      rw [weave_result]
      congr 1
      refine List.map_congr_left fun token _ => ?_
      split
      · rfl
      next hreads => exact piece_set options arguments value (by simpa using hreads)
    literal := fun _ => rfl
    absent := fun hole h => piece_of_none (valueAt?_eq_none.2 h)
    rendered := fun hole value text hvalue hnull htext => by
      rw [piece_of_some (valueAt?_eq_some.2 ⟨hvalue, hnull⟩), htext, settle]
    failed := fun hole value e hvalue hnull he => by
      rw [piece_of_some (valueAt?_eq_some.2 ⟨hvalue, hnull⟩), he, settle, diagnostic] }

/-- A value without a text takes the place of a number. Its hole tells of it, filled up to the width
of the field, and the hole after it goes on. -/
theorem weave_independent_refusal :
    let first : Hole := ⟨⟨0, 6⟩, 0, "\x7b0,35\x7d", "0", "35", ""⟩
    let second : Hole := ⟨⟨7, 10⟩, 1, "\x7b1\x7d", "1", "", ""⟩
    let tokens : List Token := [.hole first, .literal ⟨⟨6, 7⟩, "-", none⟩, .hole second]
    let refusal : Argument := .custom ⟨0, .error (.conversion "no"), fun _ _ => none, none⟩
    (weave {} tokens ([.int 1, .int 2].set 0 refusal)).result =
      "  [\x7b0,35\x7d => ConversionError: \"no\"]-2" := by
  intro first second tokens refusal
  have hindex : Binding.ofTokens tokens = .index := by decide
  have hposition : Binding.index.position first = 0 := by decide +kernel
  have hfailed := (weave_independent {} tokens [refusal, .int 2]).failed first refusal
    (.conversion "no") (by rw [hindex, hposition]; rfl) rfl (by decide +kernel)
  rw [(weave_independent {} tokens [.int 1, .int 2]).replaced 0 refusal (by decide)]
  rw [hindex] at hfailed ⊢
  have hreads : Token.reads .index 0 (.hole first) = true ∧
      Token.reads .index 0 (.hole second) = false := by decide +kernel
  simp only [tokens, List.map_cons, List.map_nil, hreads, List.set, hfailed, if_true]
  decide +kernel

end MessageTemplate
