import Mathlib.Algebra.Order.BigOperators.Group.List
import Mathlib.Algebra.Order.Group.Nat
import Mathlib.Data.List.Forall2
import MessageTemplate.Proofs.Render.Relations

/-!
# The output, piece by piece

The text of a token list is made up of one piece for each token. The piece of a hole depends on the
options, on the hole and on the one argument that the hole is bound to, so what happens in one hole
stays there.

- **Pieces** (`weave_result`): the text is the pieces, one after another. Tokens that give the same
  pieces with the same calls give the same rendering (`renderTokens_congr`).
- **Bound values** (`weave_congr`, `relationsOf_congr`): arguments that give every hole the same
  value give the same rendering and the same relations.
- **Lengths** (`weave_ne_of_length_lt`): pieces of which none gets shorter and one gets longer make
  another text.
-/

namespace MessageTemplate

/-! ## Pieces -/

/-- The text that a token contributes to the output. -/
def piece (options : Options) (binding : Binding) (arguments : List Argument) (token : Token) :
    String :=
  (renderToken options binding arguments token).result

section Pieces

variable {options options' : Options} {binding binding' : Binding} {arguments a b : List Argument}
  {tokens tokens' : List Token} {hole : Hole} {value : Argument}

theorem result_renderTokens (options : Options) (binding : Binding) (arguments : List Argument)
    (tokens : List Token) :
    (renderTokens options binding arguments tokens).result =
      tokens.map (piece options binding arguments) := by
  induction tokens with
  | nil => rfl
  | cons token tokens ih =>
    simp only [renderTokens, Traced.result_bind, Traced.result_pure, ih, List.map_cons, piece]

/-- The text of tokens is that of their pieces. -/
theorem weave_result (options : Options) (tokens : List Token) (arguments : List Argument) :
    (weave options tokens arguments).result =
      String.join (tokens.map (piece options (.ofTokens tokens) arguments)) := by
  simp only [weave, Traced.result_bind, Traced.result_pure, result_renderTokens]

/-- Tokens that render alike one by one render alike as a whole. -/
theorem renderTokens_congr
    (h : List.Forall₂ (fun s t => renderToken options binding a s = renderToken options' binding' b t)
      tokens tokens') :
    renderTokens options binding a tokens = renderTokens options' binding' b tokens' := by
  induction h with
  | nil => rfl
  | cons htoken _ ih => simp only [renderTokens, htoken, ih]

theorem piece_of_none (h : boundValue? binding arguments hole = none) :
    piece options binding arguments (.hole hole) = unresolvedText options hole := by
  simp only [piece, renderToken, h, renderHole, Traced.result_pure]

theorem piece_of_some (h : boundValue? binding arguments hole = some value) :
    piece options binding arguments (.hole hole) =
      settle hole (renderValue options hole value).result := by
  simp only [piece, renderToken, h, renderHole, Traced.result_bind, Traced.result_pure]

/-- Without a formatter a string is its own text in every hole. -/
theorem renderValue_str (h : options.provider.formatter? = none) (hole : Hole) (text : String) :
    (renderValue options hole (.str text)).result = .ok text := by
  unfold renderValue
  split
  · rfl
  split
  next hspread => simp [Argument.isPrimitive] at hspread
  split
  · rfl
  · rw [h]; rfl

theorem mem_holesOf : hole ∈ holesOf tokens ↔ .hole hole ∈ tokens := by
  simp only [holesOf, List.mem_filterMap]
  constructor
  · rintro ⟨token, hmem, hhole⟩
    cases token with
    | literal l => cases hhole
    | hole h => cases hhole; exact hmem
  · exact fun h => ⟨_, h, rfl⟩

/-- A rendering depends on the arguments only through the values that holes are bound to. -/
theorem weave_congr (h : ∀ hole ∈ holesOf tokens,
      boundValue? (.ofTokens tokens) a hole = boundValue? (.ofTokens tokens) b hole) :
    weave options tokens a = weave options tokens b := by
  have hsame : renderTokens options (.ofTokens tokens) a tokens =
      renderTokens options (.ofTokens tokens) b tokens := by
    refine renderTokens_congr (List.forall₂_same.2 fun token htoken => ?_)
    cases token with
    | literal l => rfl
    | hole hole => simp only [renderToken, h hole (mem_holesOf.2 htoken)]
  rw [weave, hsame, weave]

/-- Relations depend on the arguments only through the values that holes are bound to. -/
theorem relationsOf_congr (h : ∀ hole ∈ holesOf tokens,
      boundValue? (.ofTokens tokens) a hole = boundValue? (.ofTokens tokens) b hole) :
    relationsOf tokens a = relationsOf tokens b := by
  refine List.foldl_ext _ _ _ fun rs hole hhole => ?_
  simp only [addRelation, h hole hhole]

/-! ## Lengths -/

/-- Pieces of which none gets shorter and one gets longer make another text. -/
theorem weave_ne_of_length_lt
    (hle : ∀ token ∈ tokens, (piece options (.ofTokens tokens) a token).length ≤
      (piece options' (.ofTokens tokens) b token).length)
    (hlt : ∃ token ∈ tokens, (piece options (.ofTokens tokens) a token).length <
      (piece options' (.ofTokens tokens) b token).length) :
    (weave options tokens a).result ≠ (weave options' tokens b).result := by
  intro heq
  have hlength := congrArg String.length heq
  rw [weave_result, weave_result, String.length_join, String.length_join, List.map_map,
    List.map_map] at hlength
  exact absurd hlength (Nat.ne_of_lt (List.sum_lt_sum _ _ hle hlt))

end Pieces

end MessageTemplate
