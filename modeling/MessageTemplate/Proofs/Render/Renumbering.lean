import MessageTemplate.Proofs.Render.Independence
import MessageTemplate.Proofs.Template.Renumbering

/-!
# Binding by rank is binding by number after renumbering

A template with a named hole binds its holes by rank. Its renumbered form says so itself: there each
hole goes by its rank, so all holes are bound by number, and to the same arguments.

- **Numbers** (`Hole.Renumbers.number?_eq`): a renumbered hole is numbered by the rank.
- **Renderings** (`renderToken_renumbers`): a hole and its renumbered form show the same text, unless
  the text quotes the marker.
- **Relations** (`map_value?_foldl_index`): numbers that do not repeat have one relation each.
- **The equivalence** (`weave_renumber`): tokens, binding, positions, relations and texts.
-/

namespace MessageTemplate

/-! ## Numbers -/

theorem rank_lt_length {template : String} {hole : Hole}
    (hmem : hole ∈ holesOf (tokenize template)) :
    hole.rank < (holesOf (tokenize template)).length := by
  have hrank : hole.rank ∈ (holesOf (tokenize template)).map Hole.rank := List.mem_map_of_mem hmem
  rw [(covers_tokenize template).ranks, List.mem_range'_1] at hrank
  omega

theorem nodup_ranks (template : String) : ((holesOf (tokenize template)).map Hole.rank).Nodup := by
  rw [(covers_tokenize template).ranks]
  exact List.nodup_range'

section Holes

variable {hole hole' : Hole} {options : Options} {arguments : List Argument}

namespace Hole.Renumbers

/-- A renumbered hole is numbered by the rank. -/
theorem number?_eq (h : hole.Renumbers hole') (hlt : hole.rank < Nat.pow 2 31) :
    hole'.number? = some hole.rank := by
  rw [number?, h.name, numberText, String.toList_ofList, readInt32?_decimalDigits hlt]

theorem position_eq (h : hole.Renumbers hole') (hlt : hole.rank < Nat.pow 2 31) :
    Binding.index.position hole' = Binding.rank.position hole := by
  simp only [Binding.position, effectiveIndex, h.number?_eq hlt, Option.getD_some]

theorem boundValue?_eq (h : hole.Renumbers hole') (hlt : hole.rank < Nat.pow 2 31) :
    boundValue? .index arguments hole' = boundValue? .rank arguments hole := by
  unfold boundValue?
  rw [h.position_eq hlt]

/-! ## Renderings -/

theorem renderValue_eq (h : hole.Renumbers hole') (options : Options) (value : Argument) :
    renderValue options hole' value = renderValue options hole value := by
  have hstringify : hole'.isStringify = hole.isStringify := by
    rw [isStringify, h.modifier?, isStringify]
  have hspread : hole'.isSpread = hole.isSpread := by rw [isSpread, h.modifier?, isSpread]
  rw [renderValue, hstringify, hspread, h.lining, h.format, renderValue]

theorem align_eq (h : hole.Renumbers hole') (text : String) :
    align hole' text = align hole text := by
  have hleft : hole'.isLeftJustified = hole.isLeftJustified := by
    rw [isLeftJustified, h.lining, isLeftJustified]
  have hright : hole'.isRightJustified = hole.isRightJustified := by
    rw [isRightJustified, h.lining, hleft, isRightJustified]
  have hpadding : padding hole' text = padding hole text := by
    rw [padding, width?, h.lining, padding, width?]
  rw [align, hleft, hright, hpadding, align]

/-- A hole and its renumbered form show the same text of a value, or the same fallback. -/
theorem renderHole_eq (h : hole.Renumbers hole') {value? : Option Argument}
    (hrenders : ∀ value ∈ value?, ∃ text, (renderValue options hole value).result = .ok text)
    (hfallback : options.fallback?.isSome ∨ value? ≠ none) :
    renderHole options hole' value? = renderHole options hole value? := by
  cases value? with
  | none =>
    obtain ⟨fallback, hsome⟩ := Option.isSome_iff_exists.1 (hfallback.resolve_right (by simp))
    simp only [renderHole, unresolvedText, hsome, Option.getD_some]
  | some value =>
    obtain ⟨text, htext⟩ := hrenders value rfl
    have hsettle : settle hole' (renderValue options hole value).result =
        settle hole (renderValue options hole value).result := by
      simp only [htext, settle, h.align_eq]
    show (renderValue options hole' value >>= fun outcome => pure (settle hole' outcome)) = _
    rw [h.renderValue_eq]
    exact congrArg (Traced.mk · _) hsettle

end Hole.Renumbers

end Holes

/-! ## Tokens -/

theorem forall₂_holesOf {tokens tokens' : List Token}
    (h : List.Forall₂ Token.Renumbers tokens tokens') :
    List.Forall₂ Hole.Renumbers (holesOf tokens) (holesOf tokens') := by
  induction h with
  | nil => exact .nil
  | cons htoken _ ih =>
    cases htoken with
    | literal => exact ih
    | hole hhole => exact .cons hhole ih

/-- Holes that go by their ranks are bound by number. -/
theorem ofTokens_eq_index {holes : List Hole} {tokens' : List Token}
    (h : List.Forall₂ (fun hole hole' => hole.rank < Nat.pow 2 31 ∧ hole.Renumbers hole') holes
      (holesOf tokens')) : Binding.ofTokens tokens' = .index := by
  suffices hall : (holesOf tokens').all Hole.isNumbered = true by rw [Binding.ofTokens, if_pos hall]
  generalize holesOf tokens' = holes' at h
  induction h with
  | nil => rfl
  | cons hhole _ ih =>
    rw [List.all_cons, ih, Hole.isNumbered, hhole.2.number?_eq hhole.1]
    rfl

/-! ## Relations -/

/-- Under distinct numbers every hole has its own relation. -/
theorem map_value?_foldl_index (arguments : List Argument) {holes : List Hole} (rs : Relations)
    (hnodup : (holes.map Hole.effectiveIndex).Nodup)
    (hnew : ∀ hole ∈ holes, rs.contains (valueLabel hole.effectiveIndex) = false) :
    (holes.foldl (addRelation .index arguments) rs).toList.map Relation.value? =
      rs.toList.map Relation.value? ++ holes.map (boundValue? .index arguments) := by
  induction holes generalizing rs with
  | nil => simp
  | cons hole holes ih =>
    obtain ⟨hfirst, hnodup⟩ := List.nodup_cons.1 hnodup
    have hadd : addRelation .index arguments rs hole =
        rs.push ⟨valueLabel hole.effectiveIndex, boundValue? .index arguments hole⟩ := by
      simp [addRelation, holeLabel, hnew hole List.mem_cons_self]
    rw [List.foldl_cons, hadd, ih _ hnodup fun other hother => ?_]
    · simp
    · have hne : hole.effectiveIndex ≠ other.effectiveIndex := fun heq =>
        hfirst (heq ▸ List.mem_map_of_mem hother)
      have hlabel : valueLabel hole.effectiveIndex ≠ valueLabel other.effectiveIndex :=
        fun heq => hne (valueLabel_injective heq)
      have hrest := hnew other (List.mem_cons_of_mem _ hother)
      rw [Bool.eq_false_iff, ne_eq, Relations.contains_eq_true_iff] at hrest ⊢
      rintro ⟨r, hr, hl⟩
      rw [Relations.toList_push, List.mem_append, List.mem_singleton] at hr
      obtain hr | rfl := hr
      · exact hrest ⟨r, hr, hl⟩
      · exact hlabel hl

/-! ## The equivalence -/

theorem map_eq_of_forall₂ {α β γ : Type} {f : α → γ} {g : β → γ} {xs : List α} {ys : List β}
    (h : List.Forall₂ (fun x y => f x = g y) xs ys) : xs.map f = ys.map g := by
  rw [← List.forall₂_eq_eq_eq, List.forall₂_map_left_iff, List.forall₂_map_right_iff]
  exact h

/-- Every hole that has a value shows a text for it, and no diagnostic. -/
def AllRender (options : Options) (tokens : List Token) (arguments : List Argument) : Prop :=
  ∀ hole ∈ holesOf tokens, ∀ value,
    arguments[(Binding.ofTokens tokens).position hole]? = some value → value.isNull = false →
      ∃ text, (renderValue options hole value).result = .ok text

/-- No hole is left with its marker: there is a fallback, or every hole has a value. -/
def NoMarker (options : Options) (tokens : List Token) (arguments : List Argument) : Prop :=
  options.fallback?.isSome ∨
    ∀ hole ∈ holesOf tokens, ¬AbsentAt arguments ((Binding.ofTokens tokens).position hole)

/-- A token and its renumbered form render alike. -/
theorem renderToken_renumbers {options : Options} {tokens : List Token} {arguments : List Argument}
    {token token' : Token} (h : token.Renumbers token') (hmem : token ∈ tokens)
    (hrank : Binding.ofTokens tokens = .rank)
    (hlt : ∀ {hole : Hole}, hole ∈ holesOf tokens → hole.rank < Nat.pow 2 31)
    (hrender : AllRender options tokens arguments) (hmarker : NoMarker options tokens arguments) :
    renderToken options .index arguments token' = renderToken options .rank arguments token := by
  cases h with
  | literal htext => rw [renderToken, htext, renderToken]
  | @hole hole hole' hhole =>
    have hhmem := mem_holesOf.2 hmem
    rw [AllRender, hrank] at hrender
    rw [NoMarker, hrank] at hmarker
    rw [renderToken, renderToken, hhole.boundValue?_eq (hlt hhmem)]
    refine hhole.renderHole_eq (fun value hvalue => ?_) (hmarker.imp_right fun hall hnone => ?_)
    · obtain ⟨hget, hnull⟩ := valueAt?_eq_some.1 hvalue
      exact hrender hole hhmem value hget hnull
    · exact hall hole hhmem (valueAt?_eq_none.1 hnone)

/-- **Ranks for names.** A template that binds by rank and its renumbered form have the same tokens
but for places and names. The renumbered form binds by number, its holes read the same positions,
and so the relations have the same values in the same order, and all texts that do not quote a
marker are the same, by the same calls. -/
theorem weave_renumber (template : String) (hrank : Binding.ofTokens (tokenize template) = .rank)
    (hcount : (holesOf (tokenize template)).length < Nat.pow 2 31) :
    List.Forall₂ Token.Renumbers (tokenize template) (tokenize (renumber template)) ∧
    Binding.ofTokens (tokenize (renumber template)) = .index ∧
    List.Forall₂ (fun hole hole' => Binding.index.position hole' = Binding.rank.position hole)
      (holesOf (tokenize template)) (holesOf (tokenize (renumber template))) ∧
    (∀ arguments, (relationsOf (tokenize (renumber template)) arguments).toList.map Relation.value? =
      (relationsOf (tokenize template) arguments).toList.map Relation.value?) ∧
    ∀ options arguments, AllRender options (tokenize template) arguments →
      NoMarker options (tokenize template) arguments →
      weave options (tokenize (renumber template)) arguments =
        weave options (tokenize template) arguments := by
  have htokens := renumbers_tokenize template
  have hlt {hole : Hole} (hmem : hole ∈ holesOf (tokenize template)) : hole.rank < Nat.pow 2 31 :=
    Nat.lt_trans (rank_lt_length hmem) hcount
  have hholes := List.forall₂_and_left _ _ |>.2 ⟨fun hole hmem => hlt hmem, forall₂_holesOf htokens⟩
  have hindex : Binding.ofTokens (tokenize (renumber template)) = .index := ofTokens_eq_index hholes
  refine ⟨htokens, hindex, hholes.imp fun hole hole' h => h.2.position_eq h.1, fun arguments => ?_,
    fun options arguments hrender hmarker => ?_⟩
  · have hnumbers : (holesOf (tokenize (renumber template))).map Hole.effectiveIndex =
        (holesOf (tokenize template)).map Hole.rank :=
      (map_eq_of_forall₂ (hholes.imp fun hole hole' h => (h.2.position_eq h.1).symm)).symm
    have hvalues : (holesOf (tokenize template)).map (boundValue? .rank arguments) =
        (holesOf (tokenize (renumber template))).map (boundValue? .index arguments) :=
      map_eq_of_forall₂ (hholes.imp fun hole hole' h => (h.2.boundValue?_eq h.1).symm)
    have hindexed := map_value?_foldl_index arguments .empty (hnumbers ▸ nodup_ranks template)
      fun _ _ => rfl
    rw [relationsOf, hindex, relationsOf, hrank, hindexed, toList_foldl_rank, ← hvalues]
    simp [Relations.empty, Function.comp_def]
  · have hmembers := List.forall₂_and_left _ _ |>.2 ⟨fun token hmem => hmem, htokens⟩
    have hsame : renderTokens options .rank arguments (tokenize template) =
        renderTokens options .index arguments (tokenize (renumber template)) :=
      renderTokens_congr (hmembers.imp fun token token' h =>
        (renderToken_renumbers h.2 h.1 hrank hlt hrender hmarker).symm)
    unfold weave
    rw [hindex, hrank, hsame]

/-- Names and a number, a rejected candidate and doubled braces; the last hole has no value. -/
theorem weave_renumber_mixed :
    let template := "\x7ba\x7d \x7b\x7bx\x7d\x7d \x7b@b,-3:f\x7d \x7bno name\x7d \x7b0\x7d"
    let renumbered := "\x7b0\x7d \x7b\x7bx\x7d\x7d \x7b@1,-3:f\x7d \x7bno name\x7d \x7b2\x7d"
    let options : Options := { fallback? := some "-" }
    let arguments : List Argument := [.str "x", .str "y"]
    Binding.ofTokens (tokenize template) = .rank ∧
      (holesOf (tokenize template)).length < Nat.pow 2 31 ∧
      AllRender options (tokenize template) arguments ∧
      NoMarker options (tokenize template) arguments ∧
      weave options (tokenize renumbered) arguments =
        weave options (tokenize template) arguments := by
  intro template renumbered options arguments
  have hrank : Binding.ofTokens (tokenize template) = .rank := by decide +kernel
  have hcount : (holesOf (tokenize template)).length < Nat.pow 2 31 := by decide +kernel
  have hrenumbered : renumber template = renumbered := by decide +kernel
  have hrender : AllRender options (tokenize template) arguments := by
    intro hole _ value hget _
    obtain ⟨text, rfl⟩ : ∃ text, value = .str text := by
      have hvalue : value = .str "x" ∨ value = .str "y" := by
        simpa [arguments] using List.mem_of_getElem? hget
      rcases hvalue with rfl | rfl
      · exact ⟨"x", rfl⟩
      · exact ⟨"y", rfl⟩
    exact ⟨text, renderValue_str rfl hole text⟩
  have hmarker : NoMarker options (tokenize template) arguments := .inl rfl
  obtain ⟨-, -, -, -, hsame⟩ := weave_renumber template hrank hcount
  rw [hrenumbered] at hsame
  exact ⟨hrank, hcount, hrender, hmarker, hsame options arguments hrender hmarker⟩

end MessageTemplate
