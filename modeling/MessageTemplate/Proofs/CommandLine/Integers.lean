import Mathlib.Data.List.TakeWhile
import MessageTemplate.CommandLine.Run
import MessageTemplate.Proofs.Json.Integers
import MessageTemplate.Proofs.Number.NumeralParts
import MessageTemplate.Proofs.Render.Pieces

/-!
# Integers on the command line

An argument of a command line is a word of its own kind or a JSON text. Both can be the decimal text
of an integer of 64 bits, and need not stand for the same argument then.

- **Reading** (`readInt64?_integerText`, `Binary64.read?_decimalDigits`): what decimal texts are
  read as.
- **Arguments** (`Argument.ofJsonNumber_wholeNumber`, `Argument.infer_integerText`): what a JSON
  number and a word become.
- **Outcomes** (`CommandLine.runSettings_hole`): what is printed for a template of one hole.
- **The two modes** (`CommandLine.modes_of_integer`): where they agree, and what becomes of the
  integers on which they do not.
-/

namespace MessageTemplate

/-! ## Reading integers -/

section Reading

variable {n : Int}

theorem readInt?_integerText (n : Int) : readInt? (integerText n) = some n := by
  obtain ⟨hdigits, hvalue, -⟩ := isDecimalOf_decimalDigits n.natAbs
  rw [readInt?_eq_some_iff, integerText]
  split
  next hneg =>
    have hminus := DenotesInt.minus hdigits
    rw [hvalue] at hminus
    have heq : -(n.natAbs : Int) = n := by omega
    rwa [heq] at hminus
  next hneg =>
    have hunsigned := DenotesInt.unsigned hdigits
    rw [hvalue] at hunsigned
    have heq : (n.natAbs : Int) = n := by omega
    rwa [heq] at hunsigned

theorem readInt64?_integerText (n : Int) : readInt64? (integerText n) =
    if -2 ^ 63 ≤ n ∧ n < 2 ^ 63 then some (Int64.ofInt n) else none := by
  have hsigned : isSigned 64 n = true ↔ -2 ^ 63 ≤ n ∧ n < 2 ^ 63 := by
    have hpow : Nat.pow 2 (64 - 1) = 2 ^ 63 := rfl
    rw [isSigned, Bool.and_eq_true, decide_eq_true_eq, decide_eq_true_eq, hpow]
    norm_cast
  rw [readInt64?, readSigned?, readInt?_integerText, Option.filter_some]
  split
  next h => rw [if_pos (hsigned.1 h)]; rfl
  next h => rw [if_neg (mt hsigned.2 h)]; rfl

theorem toLower_of_isDigit {c : Char} (h : c.isDigit = true) : c.toLower = c :=
  dif_neg (of_decide_eq_false (Bool.or_eq_false_iff.1 (isAlpha_of_isDigit h)).1)

namespace Binary64

/-- Digits are no word. -/
theorem ofList_toLower_ne {cs : List Char} {word : String}
    (hword : ∃ c ∈ word.toList, c.isDigit = false) (hdigits : ∀ c ∈ cs, c.isDigit = true) :
    (String.ofList (cs.map Char.toLower) == word) = false := by
  refine beq_eq_false_iff_ne.2 fun heq => ?_
  obtain ⟨c, hc, hno⟩ := hword
  rw [← heq, String.toList_ofList] at hc
  obtain ⟨d, hd, rfl⟩ := List.mem_map.1 hc
  rw [toLower_of_isDigit (hdigits d hd), hdigits d hd] at hno
  cases hno

/-- Decimal digits are read as the value nearest to their number. -/
theorem read?_decimalDigits (n : Nat) : read? (decimalDigits n) = some (ofInt n) := by
  have hdigits : ∀ c ∈ decimalDigits n, c.isDigit = true := fun _ hc =>
    isDigit_of_mem_decimalDigits hc
  have hvalue : Nat.ofDigitChars 10 (decimalDigits n) 0 = n := Nat.ofDigitChars_ten_toDigits
  obtain ⟨c, cs, hcons⟩ := List.exists_cons_of_ne_nil (decimalDigits_ne_nil n)
  rw [hcons] at hdigits hvalue ⊢
  have hne {d : Char} (hd : d.isDigit = false) : c ≠ d :=
    ne_of_isDigit (hdigits c List.mem_cons_self) hd
  have hwhole : (c :: cs).takeWhile Char.isDigit = c :: cs := List.takeWhile_eq_self_iff.2 hdigits
  have hrest : (c :: cs).dropWhile Char.isDigit = [] := List.dropWhile_eq_nil_iff.2 hdigits
  have hparts : readParts? (c :: cs) = some ⟨n, 0⟩ := by
    unfold readParts?
    simp only [hwhole, hrest, List.append_nil, hvalue]
    rfl
  have hround : ofDecimal false n 0 = ofInt n := by
    have hsign : decide ((n : Int) < 0) = false :=
      decide_eq_false (Int.not_lt.2 (Int.natCast_nonneg n))
    have hscale : scaleTen n 1 0 = (n * 10 ^ 0, 1) := scaleTen_natCast n 1 0
    rw [ofDecimal_eq_ofRatio, hscale, Nat.pow_zero, Nat.mul_one, ofInt, hsign, Int.natAbs_natCast]
  unfold read? readBy?
  split
  next heq => exact absurd (List.cons.inj heq).1 (hne rfl)
  next heq => exact absurd (List.cons.inj heq).1 (hne rfl)
  next =>
    have hnegative : ((c :: cs).head? == some '-') = false :=
      beq_eq_false_iff_ne.2 fun heq => hne rfl (Option.some.inj heq)
    have hinf : (String.ofList ((c :: cs).map Char.toLower) == "inf") = false :=
      ofList_toLower_ne ⟨'i', by decide +kernel, rfl⟩ hdigits
    have hinfinity : (String.ofList ((c :: cs).map Char.toLower) == "infinity") = false :=
      ofList_toLower_ne ⟨'i', by decide +kernel, rfl⟩ hdigits
    have hnan : (String.ofList ((c :: cs).map Char.toLower) == "nan") = false :=
      ofList_toLower_ne ⟨'n', by decide +kernel, rfl⟩ hdigits
    simp only [hinf, hinfinity, hnan, hparts, hnegative]
    exact congrArg some hround

end Binary64

/-! ## Integers as arguments -/

/-- The argument that stands for an integer of 64 bits: a signed one if it can be. -/
def Argument.ofInteger (n : Int) : Argument :=
  if n < 2 ^ 63 then .int (Int64.ofInt n) else .uint (UInt64.ofNat n.toNat)

theorem Argument.integer?_ofInteger (hlow : -2 ^ 63 ≤ n) (hhigh : n < 2 ^ 64) :
    (Argument.ofInteger n).integer? = some n := by
  rw [ofInteger]
  split
  next hlt => exact congrArg some (Int64.toInt_ofInt_of_le hlow hlt)
  next hge =>
    have hvalue : ((UInt64.ofNat n.toNat).toNat : Int) = n := by
      rw [UInt64.toNat_ofNat', Nat.mod_eq_of_lt (by omega)]
      omega
    exact congrArg some hvalue

/-- An integer in JSON text becomes the argument that stands for it. -/
theorem Argument.ofJsonNumber_wholeNumber (hlow : -2 ^ 63 ≤ n) (hhigh : n < 2 ^ 64) :
    ofJsonNumber (Json.wholeNumber (n < 0) n.natAbs) = .ofInteger n := by
  by_cases hneg : n < 0
  · have hvalue : -(n.natAbs : Int) = n := by omega
    rw [decide_eq_true hneg, Json.wholeNumber_negative (by omega) (by omega), hvalue, ofInteger,
      if_pos (by omega)]
    rfl
  · have hvalue : (UInt64.ofNat n.natAbs).toNat = n.natAbs := by
      rw [UInt64.toNat_ofNat', Nat.mod_eq_of_lt (by omega)]
    have hnatural : Json.wholeNumber false n.natAbs = .natural (.ofNat n.natAbs) := rfl
    have hpow : Nat.pow 2 63 = 2 ^ 63 := rfl
    have htoNat : n.toNat = n.natAbs := by omega
    rw [decide_eq_false hneg, hnatural, ofJsonNumber, hvalue, ofInteger, htoNat, hpow]
    by_cases hlt : n < 2 ^ 63
    · have hint : Int64.ofInt n = Int64.ofNat n.natAbs := by
        rw [← Int64.ofInt_eq_ofNat, Int.natAbs_of_nonneg (Int.not_lt.1 hneg)]
      rw [if_pos hlt, if_pos (by omega), hint]
    · rw [if_neg hlt, if_neg (by omega)]

/-- A word in decimal digits is taken for an integer only if it is a signed one of 64 bits. Any
other becomes the nearest floating-point value. -/
theorem Argument.infer_integerText (hlow : -2 ^ 63 ≤ n) (hhigh : n < 2 ^ 64) :
    Argument.infer (String.ofList (integerText n)) =
      if n < 2 ^ 63 then .ofInteger n else .float (.ofInt n) := by
  unfold infer
  rw [String.toList_ofList, readInt64?_integerText]
  by_cases hlt : n < 2 ^ 63
  · rw [if_pos hlt, if_pos ⟨hlow, hlt⟩, ofInteger, if_pos hlt]
  · have hn : (n.natAbs : Int) = n := by omega
    have htext : integerText n = decimalDigits n.natAbs := by
      rw [integerText, if_neg (by omega), List.nil_append]
    have hfinite : (Binary64.ofInt n).isFinite = true := Binary64.isFinite_ofInt (by omega)
    rw [if_neg hlt, if_neg (fun h => hlt h.2), htext, Binary64.read?_decimalDigits, hn,
      Option.filter_some, if_pos hfinite]

theorem Argument.display_of_integer? {a : Argument} (h : a.integer? = some n) :
    a.display = .ok (String.ofList (integerText n)) := by
  cases a with
  | int m => cases h; rfl
  | uint m =>
    cases h
    rw [integerText, if_neg (by omega), List.nil_append, Int.natAbs_natCast]
    rfl
  | _ => cases h

theorem Argument.letters?_of_integer? {a : Argument} (h : a.integer? = some n) :
    a.letters? = some integerLetters := by
  cases a with
  | int | uint => rfl
  | _ => cases h

/-- Without a precision the decimal form is the default text. -/
theorem Argument.formatWith_D {a : Argument} (separators : Separators) (h : a.integer? = some n) :
    a.formatWith separators "D" = some (.ok (String.ofList (integerText n))) := by
  have hspec : Specifier.Spelled "D" 'D' [] := ⟨by decide +kernel, nofun, by decide⟩
  have hpad : (decimalDigits n.natAbs).leftpad 0 '0' = decimalDigits n.natAbs := by
    rw [List.leftpad, Nat.zero_sub, List.replicate_zero, List.nil_append]
  have hwrite : formatIntegerBy separators (.ofDigits 'D' []) n =
      .ok (signText n ++ (decimalDigits n.natAbs).leftpad 0 '0') :=
    formatIntegerBy_decimal separators n rfl
  rw [hpad] at hwrite
  exact a.formatWith_of_spelled hspec h hwrite

end Reading

namespace CommandLine

/-! ## Words -/

/-- An integer in decimal digits. -/
def integerWord (n : Int) : String := String.ofList (integerText n)

theorem ofJson_integerWord {n : Int} (hlow : -2 ^ 63 ≤ n) (hhigh : n < 2 ^ 64) :
    (Json.read (integerWord n)).map Argument.ofJson = .ok (.ofInteger n) := by
  have hsize : Json.maxSignificand = 2 ^ 64 - 1 := rfl
  rw [integerWord, Json.read_integerText (by omega), Except.map, Argument.ofJson,
    Argument.ofJsonNumber_wholeNumber hlow hhigh]

theorem argumentsOf_true {word : String} {a : Argument}
    (h : (Json.read word).map Argument.ofJson = .ok a) : argumentsOf true [word] = .ok [a] := by
  rw [argumentsOf, if_pos rfl, List.mapM_cons, h]
  rfl

/-! ## Outcomes -/

/-- A command line of a template and one argument. -/
def oneWord (json : Bool) (template word : String) : Settings where
  template := template
  arguments := [word]
  config? := none
  fallback? := none
  maxLength? := none
  json := json
  relations := false
  check := false
  verbose := false

section Outcomes

variable {readFile : String → Except FileError String} {json : Bool} {template word : String}
  {hole : Hole} {a : Argument} {letters : List Char}

/-- A template that is one hole prints the text of the number that stands in it. -/
theorem runSettings_hole (harguments : argumentsOf json [word] = .ok [a])
    (htokens : tokenize template = [.hole hole])
    (hzero : (Binding.ofTokens [.hole hole]).position hole = 0)
    (h : a.letters? = some letters) :
    runSettings readFile (oneWord json template word) =
      ⟨0, settle hole (if hole.isStringify || hole.format.isEmpty then a.display
        else (a.formatWith .invariant hole.format).getD a.display) ++ "\n", ""⟩ := by
  have hexpand : Argument.expand [a] = [a] := Argument.expand_cons (by rintro items rfl; cases h) []
  have hbound : boundValue? (.ofTokens [.hole hole]) [a] hole = some a := by
    rw [boundValue?, hzero]
    cases a with
    | int | uint | float => rfl
    | _ => cases h
  have hvalue : (renderValue {} hole a).result = if hole.isStringify || hole.format.isEmpty
      then a.display else (a.formatWith .invariant hole.format).getD a.display :=
    renderValue_of_letters? rfl h
  have hjoin (text : String) : String.join [text] = text := String.empty_append
  have hformat : (formatWith {} template [a]).result =
      settle hole (renderValue {} hole a).result := by
    have hweave : (formatWith {} template [a]).result =
        (weave {} (tokenize template) (Argument.expand [a])).result := rfl
    rw [hweave, htokens, hexpand, weave_result, List.map_singleton, piece_of_some hbound, hjoin]
  have hrun : runSettings readFile (oneWord json template word) =
      renderOutcome (oneWord json template word) {} [a] := by
    unfold runSettings
    simp only [oneWord, harguments]
    rfl
  have houtcome : renderOutcome (oneWord json template word) {} [a] =
      ⟨0, String.join [(formatWith {} template [a]).result ++ "\n"], ""⟩ := rfl
  rw [hrun, houtcome, hjoin, hformat, hvalue]

theorem settle_ok {hole : Hole} (h : hole.lining = "") (text : String) :
    settle hole (.ok text) = text := by
  have hright : hole.isRightJustified = false := by
    rw [Hole.isRightJustified, h]
    rfl
  have hleft : hole.isLeftJustified = false := by
    rw [Hole.isLeftJustified, h]
    decide +kernel
  rw [settle, align, hright, hleft]
  rfl

theorem tokenize_default :
    tokenize "\x7b0\x7d" = [.hole ⟨⟨0, 3⟩, 0, "\x7b0\x7d", "0", "", ""⟩] := by
  decide +kernel

theorem tokenize_decimal :
    tokenize "\x7b0:D\x7d" = [.hole ⟨⟨0, 5⟩, 0, "\x7b0:D\x7d", "0", "", "D"⟩] := by
  decide +kernel

theorem tokenize_hex :
    tokenize "\x7b0:X\x7d" = [.hole ⟨⟨0, 5⟩, 0, "\x7b0:X\x7d", "0", "", "X"⟩] := by
  decide +kernel

/-- An argument that stands for an integer is printed in full digits. -/
theorem runSettings_of_integer? {n : Int} (harguments : argumentsOf json [word] = .ok [a])
    (h : a.integer? = some n) :
    runSettings readFile (oneWord json "\x7b0\x7d" word) = ⟨0, integerWord n ++ "\n", ""⟩ ∧
    runSettings readFile (oneWord json "\x7b0:D\x7d" word) = ⟨0, integerWord n ++ "\n", ""⟩ ∧
    ∃ text, IsHexForm true (n % UInt64.size).toNat 0 text ∧
      runSettings readFile (oneWord json "\x7b0:X\x7d" word) = ⟨0, text ++ "\n", ""⟩ := by
  have hletters := a.letters?_of_integer? h
  have hspec : Specifier.Spelled "X" 'X' [] := ⟨by decide +kernel, nofun, by decide⟩
  obtain ⟨text, htext, hform⟩ := a.exists_hexForm .invariant hspec (.inl rfl) h
  refine ⟨?_, ?_, text, hform, ?_⟩
  · rw [runSettings_hole harguments tokenize_default (by decide +kernel) hletters,
      if_pos (by decide +kernel), a.display_of_integer? h, settle_ok rfl]
    rfl
  · rw [runSettings_hole harguments tokenize_decimal (by decide +kernel) hletters,
      if_neg (by decide +kernel), a.formatWith_D .invariant h, Option.getD_some, settle_ok rfl]
    rfl
  · rw [runSettings_hole harguments tokenize_hex (by decide +kernel) hletters,
      if_neg (by decide +kernel), htext, Option.getD_some, settle_ok rfl]

/-- Floating-point values have neither a decimal nor a hexadecimal form. -/
theorem formatWith_float {letter : Char} (x : Binary64) (spec : String)
    (hspec : Specifier.parse spec = .ok ⟨letter, none⟩) (hletter : letter = 'D' ∨ letter = 'X') :
    (Argument.float x).formatWith .invariant spec =
      some (.error (.invalidFormat spec (Specifier.Error.unsupported.message spec))) := by
  have hformat : formatFloat .invariant spec x = .error .unsupported := by
    rw [formatFloat, hspec]
    rcases hletter with rfl | rfl <;> rfl
  rw [Argument.formatWith, hformat]
  rfl

theorem runSettings_of_float {x : Binary64}
    (harguments : argumentsOf json [word] = .ok [.float x]) :
    runSettings readFile (oneWord json "\x7b0\x7d" word) = ⟨0, x.text ++ "\n", ""⟩ ∧
    runSettings readFile (oneWord json "\x7b0:D\x7d" word) = ⟨0,
      "[\x7b0:D\x7d => FormatError: \"format specifier 'D' is not supported\"]\n", ""⟩ ∧
    runSettings readFile (oneWord json "\x7b0:X\x7d" word) = ⟨0,
      "[\x7b0:X\x7d => FormatError: \"format specifier 'X' is not supported\"]\n", ""⟩ := by
  have hletters : (Argument.float x).letters? = some floatLetters := rfl
  have hdecimal := formatWith_float x "D" (by decide +kernel) (.inl rfl)
  have hhex := formatWith_float x "X" (by decide +kernel) (.inr rfl)
  refine ⟨?_, ?_, ?_⟩
  · rw [runSettings_hole harguments tokenize_default (by decide +kernel) hletters,
      if_pos (by decide +kernel)]
    exact congrArg (fun text => (⟨0, text ++ "\n", ""⟩ : Outcome)) (settle_ok rfl x.text)
  · rw [runSettings_hole harguments tokenize_decimal (by decide +kernel) hletters,
      if_neg (by decide +kernel), hdecimal, Option.getD_some]
    decide +kernel
  · rw [runSettings_hole harguments tokenize_hex (by decide +kernel) hletters,
      if_neg (by decide +kernel), hhex, Option.getD_some]
    decide +kernel

end Outcomes

/-- **The two modes** take the text of an integer for the same argument as long as it is a signed
one of 64 bits, and write it in full digits. A greater one keeps its digits in JSON text alone; as a
word it is the nearest floating-point value, which is written as such and has neither a decimal nor
a hexadecimal form. -/
theorem modes_of_integer {n : Int} (hlow : -2 ^ 63 ≤ n) (hhigh : n < 2 ^ 64)
    (readFile : String → Except FileError String) :
    (Json.read (integerWord n)).map Argument.ofJson = .ok (.ofInteger n) ∧
    Argument.infer (integerWord n) = (if n < 2 ^ 63 then .ofInteger n else .float (.ofInt n)) ∧
    (∀ json, json = true ∨ n < 2 ^ 63 →
      runSettings readFile (oneWord json "\x7b0\x7d" (integerWord n)) =
        ⟨0, integerWord n ++ "\n", ""⟩ ∧
      runSettings readFile (oneWord json "\x7b0:D\x7d" (integerWord n)) =
        ⟨0, integerWord n ++ "\n", ""⟩ ∧
      ∃ text, IsHexForm true (n % UInt64.size).toNat 0 text ∧
        runSettings readFile (oneWord json "\x7b0:X\x7d" (integerWord n)) =
          ⟨0, text ++ "\n", ""⟩) ∧
    (2 ^ 63 ≤ n →
      runSettings readFile (oneWord false "\x7b0\x7d" (integerWord n)) =
        ⟨0, (Binary64.ofInt n).text ++ "\n", ""⟩ ∧
      runSettings readFile (oneWord false "\x7b0:D\x7d" (integerWord n)) = ⟨0,
        "[\x7b0:D\x7d => FormatError: \"format specifier 'D' is not supported\"]\n", ""⟩ ∧
      runSettings readFile (oneWord false "\x7b0:X\x7d" (integerWord n)) = ⟨0,
        "[\x7b0:X\x7d => FormatError: \"format specifier 'X' is not supported\"]\n", ""⟩) := by
  have hjson := ofJson_integerWord hlow hhigh
  have hinfer := Argument.infer_integerText hlow hhigh
  have hinteger := Argument.integer?_ofInteger hlow hhigh
  have hwords : argumentsOf false [integerWord n] = .ok [Argument.infer (integerWord n)] := rfl
  rw [integerWord] at hwords ⊢
  refine ⟨hjson, hinfer, fun json hmode => ?_, fun hlarge => ?_⟩
  · refine runSettings_of_integer? ?_ hinteger
    cases json with
    | true => exact argumentsOf_true hjson
    | false =>
      have hlt : n < 2 ^ 63 := hmode.resolve_left Bool.false_ne_true
      rw [hwords, hinfer, if_pos hlt]
  · refine runSettings_of_float ?_
    rw [hwords, hinfer, if_neg (by omega)]

/-- The ends of both ranges. -/
theorem modes_of_integer_ends :
    let readFile : String → Except FileError String := fun _ => .error .notFound
    runSettings readFile (oneWord false "\x7b0:D\x7d" "-9223372036854775808") =
      ⟨0, "-9223372036854775808\n", ""⟩ ∧
    runSettings readFile (oneWord true "\x7b0\x7d" "18446744073709551615") =
      ⟨0, "18446744073709551615\n", ""⟩ ∧
    runSettings readFile (oneWord false "\x7b0\x7d" "18446744073709551615") =
      ⟨0, (Binary64.ofInt 18446744073709551615).text ++ "\n", ""⟩ := by
  intro readFile
  have hleast : integerWord (-9223372036854775808) = "-9223372036854775808" := by decide +kernel
  have hgreatest : integerWord 18446744073709551615 = "18446744073709551615" := by decide +kernel
  obtain ⟨-, -, hsigned, -⟩ :=
    modes_of_integer (n := -9223372036854775808) (by decide) (by decide) readFile
  obtain ⟨-, -, hjson, hlarge⟩ :=
    modes_of_integer (n := 18446744073709551615) (by decide) (by decide) readFile
  rw [hleast] at hsigned
  rw [hgreatest] at hjson hlarge
  exact ⟨(hsigned false (.inr (by decide))).2.1, (hjson true (.inl rfl)).1, (hlarge (by decide)).1⟩

/-- The greatest integer of 64 bits has a decimal form in one mode only. -/
theorem modes_of_integer_differ :
    let readFile : String → Except FileError String := fun _ => .error .notFound
    runSettings readFile (oneWord true "\x7b0:D\x7d" "18446744073709551615") =
      ⟨0, "18446744073709551615\n", ""⟩ ∧
    runSettings readFile (oneWord false "\x7b0:D\x7d" "18446744073709551615") = ⟨0,
      "[\x7b0:D\x7d => FormatError: \"format specifier 'D' is not supported\"]\n", ""⟩ := by
  constructor <;> decide +kernel

end CommandLine

end MessageTemplate
