import MessageTemplate.Options.Basic

/-!
# Output that is cut

A text longer than the limit is cut to the limit, with an ellipsis for its last characters if the
limit leaves room for more than one.

* `length_truncateTo`: the length of a text that is cut.
* `truncateTo_truncateTo`: a text that is cut twice is cut to the smaller limit, unless the second
  cut goes through the ellipsis of the first; `truncateTo_ne` says that it does so otherwise.
* `Options.truncate_laws`: what options with a limit, or without one, make of a text.
-/

namespace MessageTemplate

/-! ## Characters -/

section Characters

variable {limit l m : Nat} {cs : List Char}

theorem length_ellipsis : ellipsis.length = 3 := rfl

theorem truncateTo_of_length_le (h : cs.length ≤ limit) : truncateTo limit cs = cs := if_pos h

/-- A limit with no room for more than an ellipsis leaves the first characters. -/
theorem truncateTo_eq_take (h : limit < cs.length) (hlimit : limit ≤ 3) :
    truncateTo limit cs = cs.take limit := by
  unfold truncateTo
  rw [if_neg (by omega), if_pos (by rwa [length_ellipsis])]

/-- A larger limit leaves the first characters and an ellipsis. -/
theorem truncateTo_eq_append (h : limit < cs.length) (hlimit : 3 < limit) :
    truncateTo limit cs = cs.take (limit - 3) ++ ellipsis := by
  unfold truncateTo
  rw [if_neg (by omega), if_neg (by rw [length_ellipsis]; omega), length_ellipsis]

theorem length_truncateTo (limit : Nat) (cs : List Char) :
    (truncateTo limit cs).length = min limit cs.length := by
  by_cases hfits : cs.length ≤ limit
  · rw [truncateTo_of_length_le hfits, Nat.min_eq_right hfits]
  by_cases hlimit : limit ≤ 3
  · rw [truncateTo_eq_take (by omega) hlimit, List.length_take]
  · rw [truncateTo_eq_append (by omega) (by omega), List.length_append, List.length_take,
      length_ellipsis]
    omega

theorem truncateTo_self (limit : Nat) (cs : List Char) :
    truncateTo limit (truncateTo limit cs) = truncateTo limit cs :=
  truncateTo_of_length_le (by rw [length_truncateTo]; exact Nat.min_le_left _ _)

/-- **Two cuts are one.** The second cut either has an ellipsis of its own, or there is none to go
through, or it is made before that ellipsis. -/
theorem truncateTo_truncateTo (h : 3 < l ∨ m ≤ 3 ∨ l + 3 ≤ m) (cs : List Char) :
    truncateTo l (truncateTo m cs) = truncateTo (min l m) cs := by
  by_cases hfits : cs.length ≤ m
  · -- The first cut does nothing, and a limit above `m` would do nothing either.
    rw [truncateTo_of_length_le hfits]
    rcases Nat.le_total l m with hle | hle
    · rw [Nat.min_eq_left hle]
    · rw [Nat.min_eq_right hle, truncateTo_of_length_le hfits, truncateTo_of_length_le (by omega)]
  have hlength : (truncateTo m cs).length = m := by rw [length_truncateTo]; omega
  by_cases hle : m ≤ l
  · rw [truncateTo_of_length_le (by omega), Nat.min_eq_right hle]
  rw [Nat.min_eq_left (by omega)]
  by_cases hl : l ≤ 3
  · rw [truncateTo_eq_take (by omega) hl, truncateTo_eq_take (by omega) hl]
    by_cases hm : m ≤ 3
    · rw [truncateTo_eq_take (by omega) hm, List.take_take, Nat.min_eq_left (by omega)]
    · have hbefore : l ≤ (cs.take (m - 3)).length := by rw [List.length_take]; omega
      rw [truncateTo_eq_append (by omega) (by omega), List.take_append_of_le_length hbefore,
        List.take_take, Nat.min_eq_left (by omega)]
  · have hbefore : l - 3 ≤ (cs.take (m - 3)).length := by rw [List.length_take]; omega
    rw [truncateTo_eq_append (by omega) (by omega), truncateTo_eq_append (by omega) (by omega),
      truncateTo_eq_append (by omega) (by omega), List.take_append_of_le_length hbefore,
      List.take_take, Nat.min_eq_left (by omega)]

/-- A cut through the ellipsis of another leaves a part of that ellipsis behind. -/
theorem truncateTo_ne (hl : l ≤ 3) (hm : 3 < m) (hlm : m < l + 3) :
    truncateTo l (truncateTo m (List.replicate 6 'a')) ≠
      truncateTo (min l m) (List.replicate 6 'a') := by
  obtain ⟨rfl, rfl⟩ | ⟨rfl, rfl⟩ | ⟨rfl, rfl⟩ :
    (l = 2 ∧ m = 4) ∨ (l = 3 ∧ m = 4) ∨ (l = 3 ∧ m = 5) := by omega
  all_goals decide

end Characters

/-! ## Options -/

/-- The text `result` is `text` cut to `limit` characters. -/
structure CutTo (limit : Nat) (text result : String) : Prop where
  /-- A text that is short enough is not cut. -/
  short : text.length ≤ limit → result = text
  /-- A longer one is cut to the limit, -/
  length : limit < text.length → result.length = limit
  /-- to its first characters if there is no room for more than an ellipsis, -/
  plain : limit < text.length → limit ≤ 3 → result.toList = text.toList.take limit
  /-- and else to its first characters and an ellipsis. -/
  dotted : limit < text.length → 3 < limit →
    result.toList = text.toList.take (limit - 3) ++ ['.', '.', '.']

namespace Options

/-- The options with another limit, or without one. -/
def limitedTo (options : Options) (limit? : Option Nat) : Options :=
  { options with maxLength? := limit? }

variable {options : Options} {limit : Nat}

theorem truncate_none (text : String) : (options.limitedTo none).truncate text = text := rfl

theorem truncate_zero (text : String) : (options.limitedTo (some 0)).truncate text = text := rfl

theorem truncate_some (h : 0 < limit) (text : String) :
    (options.limitedTo (some limit)).truncate text =
      String.ofList (truncateTo limit text.toList) := by
  have hlimit : (options.limitedTo (some limit)).limit? = some limit := by
    rw [limit?, limitedTo, Option.filter_some, if_pos (decide_eq_true h)]
  rw [truncate, hlimit]

theorem cutTo_truncate (h : 0 < limit) (text : String) :
    CutTo limit text ((options.limitedTo (some limit)).truncate text) := by
  rw [truncate_some h]
  have hlength : text.length = text.toList.length := String.length_toList.symm
  constructor
  · intro hfits
    rw [truncateTo_of_length_le (by omega), String.ofList_toList]
  · intro hlong
    rw [String.length_ofList, length_truncateTo]
    omega
  · intro hlong hlimit
    rw [String.toList_ofList, truncateTo_eq_take (by omega) hlimit]
  · intro hlong hlimit
    rw [String.toList_ofList, truncateTo_eq_append (by omega) hlimit]
    rfl

theorem truncate_truncate_self (limit? : Option Nat) (text : String) :
    (options.limitedTo limit?).truncate ((options.limitedTo limit?).truncate text) =
      (options.limitedTo limit?).truncate text := by
  match limit? with
  | none | some 0 => rfl
  | some (limit + 1) =>
    rw [truncate_some limit.succ_pos, truncate_some limit.succ_pos, String.toList_ofList,
      truncateTo_self]

/-- **Truncation.** Without a limit, and with a limit of zero, nothing is cut. A positive limit cuts
what is longer, and a second time nothing more. Two positive limits cut as the smaller of them does,
whatever the text, exactly if the second cut does not go through the ellipsis of the first. -/
theorem truncate_laws (options : Options) :
    (∀ text, (options.limitedTo none).truncate text = text ∧
      (options.limitedTo (some 0)).truncate text = text) ∧
    (∀ limit text, 0 < limit →
      CutTo limit text ((options.limitedTo (some limit)).truncate text)) ∧
    (∀ limit? text, (options.limitedTo limit?).truncate ((options.limitedTo limit?).truncate text) =
      (options.limitedTo limit?).truncate text) ∧
    ∀ l m, 0 < l → 0 < m →
      ((∀ text, (options.limitedTo (some l)).truncate ((options.limitedTo (some m)).truncate text) =
        (options.limitedTo (some (min l m))).truncate text) ↔ 3 < l ∨ m ≤ 3 ∨ l + 3 ≤ m) := by
  refine ⟨fun text => ⟨truncate_none text, truncate_zero text⟩,
    fun limit text h => cutTo_truncate h text, truncate_truncate_self, fun l m hl hm => ?_⟩
  have htwice (text : String) :
      (options.limitedTo (some l)).truncate ((options.limitedTo (some m)).truncate text) =
        String.ofList (truncateTo l (truncateTo m text.toList)) := by
    rw [truncate_some hl, truncate_some hm, String.toList_ofList]
  have honce (text : String) : (options.limitedTo (some (min l m))).truncate text =
      String.ofList (truncateTo (min l m) text.toList) := truncate_some (by omega) text
  constructor
  · intro h
    refine Decidable.byContradiction fun hrange => ?_
    have htext := h (String.ofList (List.replicate 6 'a'))
    rw [htwice, honce, String.ofList_inj, String.toList_ofList] at htext
    exact truncateTo_ne (by omega) (by omega) (by omega) htext
  · intro h text
    rw [htwice, honce, truncateTo_truncateTo h]

/-- Characters are counted and not bytes, and a limit of six leaves room for an ellipsis that a cut
to three takes away again. -/
theorem truncate_laws_six :
    (Options.limitedTo {} (some 6)).truncate "été à Paris" = "été..." ∧
      (Options.limitedTo {} (some 3)).truncate
        ((Options.limitedTo {} (some 6)).truncate "été à Paris") = "été" := by
  obtain ⟨-, hcut, -, htwice⟩ := truncate_laws {}
  have hsix := (hcut 6 "été à Paris" (by decide)).dotted (by decide) (by decide)
  have hthree := (hcut 3 "été à Paris" (by decide)).plain (by decide) (by decide)
  have hboth := (htwice 3 6 (by decide) (by decide)).2 (by decide) "été à Paris"
  rw [hboth]
  exact ⟨String.toList_inj.1 hsix, String.toList_inj.1 hthree⟩

end Options

end MessageTemplate
