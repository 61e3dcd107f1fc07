import Mathlib.Control.Monad.Basic
import MessageTemplate.Proofs.Template.BodyGrammar
import MessageTemplate.Proofs.Template.Scanning
import MessageTemplate.Render.Format

/-!
# Encoding text and holes as a template

Text is encoded by doubling its braces, and a hole by putting its body between braces. Written one
after another, these make a template whose tokens are the texts and the holes again, whatever braces
meet where a text and a hole are joined.

* `escape`: text with its braces doubled.
* `tokensFrom_escapeChars`: escaped text before the rest of a template is put before its tokens.
* `Part`: a hole body that is read, and the text after it.
* `encode`, `encodedTokens`: the template of a text and parts, and its tokens.
* `tokenize_encode`: the tokens of an encoded template, and the text that escaped text gives.
-/

namespace MessageTemplate

open Segment

/-! ## Escaped text -/

/-- A brace twice, any other character once. -/
def doubleBrace (c : Char) : List Char := if isBrace c then [c, c] else [c]

/-- The characters with their braces doubled. -/
def escapeChars (cs : List Char) : List Char := cs.flatMap doubleBrace

/-- The text with its braces doubled. -/
def escape (text : String) : String := String.ofList (escapeChars text.toList)

theorem escapeChars_cons (c : Char) (cs : List Char) :
    escapeChars (c :: cs) = doubleBrace c ++ escapeChars cs := List.flatMap_cons

/-- Puts escaped text that begins at byte `start` before tokens. -/
def addEscaped (start : Nat) (cs : List Char) (tokens : List Token) : List Token :=
  if cs = [] then tokens else Token.addText (.ofText start (escapeChars cs)) cs tokens

theorem tokensFrom_doubleBrace (start rank : Nat) (c : Char) (rest : List Char) :
    tokensFrom start rank (doubleBrace c ++ rest) =
      Token.addText (.ofText start (doubleBrace c)) [c]
        (tokensFrom (start + byteLength (doubleBrace c)) rank rest) := by
  cases hc : isBrace c with
  | false =>
    rw [doubleBrace, hc]
    exact tokensFrom_text hc
  | true =>
    rcases isBrace_eq_true.mp hc with rfl | rfl
    · exact tokensFrom_escapedOpen
    · exact tokensFrom_escapedClose

/-- Whatever follows escaped text, no brace of the text is paired with one that follows it. -/
theorem tokensFrom_escapeChars (start rank : Nat) (cs rest : List Char) :
    tokensFrom start rank (escapeChars cs ++ rest) =
      addEscaped start cs (tokensFrom (start + byteLength (escapeChars cs)) rank rest) := by
  induction cs generalizing start with
  | nil => simp [escapeChars, addEscaped]
  | cons c cs ih =>
    rw [escapeChars_cons, List.append_assoc, tokensFrom_doubleBrace, ih, byteLength_append,
      ← Nat.add_assoc, addEscaped, addEscaped, if_neg (List.cons_ne_nil c cs), escapeChars_cons]
    split
    next hcs => subst hcs; simp [escapeChars]
    next hcs => rw [Token.addText_addText, Span.ofText_upTo_ofText]; rfl

/-! ## Encoded templates -/

/-- A hole, with the fields that its body is read as, and the text that follows it. -/
structure Part where
  body : String
  fields : Body.Fields
  parse_body : Body.parse body = .ok fields
  text : String

namespace Part

/-- The body between braces. -/
def marker (p : Part) : String := "\x7b" ++ p.body ++ "\x7d"

/-- The hole that the part stands for. -/
def hole (start rank : Nat) (p : Part) : Hole :=
  ⟨.ofText start p.marker.toList, rank, p.marker, p.fields.symbol, p.fields.lining, p.fields.format⟩

theorem toList_marker (p : Part) : p.marker.toList = '{' :: (p.body.toList ++ ['}']) := by
  simp [marker]

theorem tokensFrom_marker (start rank : Nat) (p : Part) (rest : List Char) :
    tokensFrom start rank (p.marker.toList ++ rest) =
      .hole (p.hole start rank) ::
        tokensFrom (start + byteLength p.marker.toList) (rank + 1) rest := by
  obtain ⟨-, hbrace⟩ := Body.parseChars_ok_char p.parse_body
  have hhead : p.body.toList.head? ≠ some '{' := fun h =>
    absurd (hbrace _ (List.mem_of_head? h)) (by decide)
  have hclose : '}' ∉ p.body.toList := fun h => absurd (hbrace _ h) (by decide)
  have hmarker : String.ofList ('{' :: (p.body.toList ++ ['}'])) = p.marker := by
    rw [← toList_marker, String.ofList_toList]
  have hhole : tokensFrom start rank ('{' :: (p.body.toList ++ '}' :: rest)) = _ :=
    tokensFrom_hole hhead hclose p.parse_body
  rw [hole, toList_marker, ← hmarker]
  simpa using hhole

end Part

/-- The template of a text and the parts after it. -/
def encode (text : String) : List Part → String
  | [] => escape text
  | p :: ps => escape text ++ p.marker ++ encode p.text ps

/-- The token of a text whose escaped form begins at byte `start`; the empty text has none. -/
def textToken (start : Nat) (text : String) : List Token :=
  if text.isEmpty then [] else [.literal ⟨.ofText start (escape text).toList, text, none⟩]

/-- The tokens of a text and the parts after it, from byte `start` on and with `rank` holes before
them: a literal for each text that is not empty, and a hole for each part. -/
def encodedTokens (start rank : Nat) (text : String) : List Part → List Token
  | [] => textToken start text
  | p :: ps =>
    let markerStart := start + byteLength (escape text).toList
    textToken start text ++ .hole (p.hole markerStart rank) ::
      encodedTokens (markerStart + byteLength p.marker.toList) (rank + 1) p.text ps

/-- Escaped text before tokens that do not begin with text has a token of its own. -/
theorem addEscaped_eq {start : Nat} {text : String} {tokens : List Token}
    (h : ∀ span cs, Token.addText span cs tokens =
      .literal ⟨span, String.ofList cs, none⟩ :: tokens) :
    addEscaped start text.toList tokens = textToken start text ++ tokens := by
  unfold addEscaped textToken
  by_cases htext : text = ""
  · simp [htext]
  · simp [htext, h, escape]

theorem tokensFrom_encode (start rank : Nat) (text : String) (parts : List Part) :
    tokensFrom start rank (encode text parts).toList = encodedTokens start rank text parts := by
  induction parts generalizing start rank text with
  | nil =>
    have h := tokensFrom_escapeChars start rank text.toList []
    rw [List.append_nil, tokensFrom_nil, addEscaped_eq fun _ _ => rfl, List.append_nil] at h
    rwa [encode, escape, String.toList_ofList]
  | cons p ps ih =>
    rw [encode, String.toList_append, String.toList_append, List.append_assoc, escape,
      String.toList_ofList, tokensFrom_escapeChars, Part.tokensFrom_marker, ih,
      addEscaped_eq fun _ _ => rfl]
    rw [encodedTokens, escape, String.toList_ofList]

/-! ## Escaped text is its own result -/

theorem formatTemplate_escape (text : String) (arguments : List Argument) :
    formatTemplate (escape text) arguments = text := by
  have htokens : tokenize (escape text) = textToken 0 text := tokensFrom_encode 0 0 text []
  unfold formatTemplate formatWith
  rw [htokens]
  by_cases htext : text = ""
  · subst htext; rfl
  · simp [textToken, htext, weave, renderTokens, renderToken, Options.truncate, Options.limit?,
      String.join]

/-- **Encoding is undone by tokenizing.** The tokens of an encoded template are its texts and its
holes, and a template of escaped text alone gives the text, whatever the arguments. -/
theorem tokenize_encode (text : String) (parts : List Part) :
    tokenize (encode text parts) = encodedTokens 0 0 text parts ∧
      ∀ arguments, formatTemplate (escape text) arguments = text :=
  ⟨tokensFrom_encode 0 0 text parts, formatTemplate_escape text⟩

/-- Of three braces in a row those of the text are paired, and the one next to the body belongs to
the hole. -/
theorem tokenize_encode_braces :
    let number : Part := ⟨"0", ⟨"0", "", ""⟩, by decide +kernel, "\x7d"⟩
    let name : Part := ⟨"@usér,-5:a,b", ⟨"@usér", "-5", "a,b"⟩, by decide +kernel, ""⟩
    let template := "\x7b\x7b\x7b0\x7d\x7d\x7d\x7b@usér,-5:a,b\x7d"
    encode "\x7b" [number, name] = template ∧
      tokenize template =
        [.literal ⟨⟨0, 2⟩, "\x7b", none⟩,
          .hole ⟨⟨2, 5⟩, 0, "\x7b0\x7d", "0", "", ""⟩,
          .literal ⟨⟨5, 7⟩, "\x7d", none⟩,
          .hole ⟨⟨7, 22⟩, 1, "\x7b@usér,-5:a,b\x7d", "@usér", "-5", "a,b"⟩] ∧
      formatTemplate "\x7b\x7b0\x7d\x7d" [.int 7] = "\x7b0\x7d" := by
  intro number name template
  have hencode : encode "\x7b" [number, name] = template := by decide +kernel
  have hescape : escape "\x7b0\x7d" = "\x7b\x7b0\x7d\x7d" := by decide +kernel
  obtain ⟨hparts, -⟩ := tokenize_encode "\x7b" [number, name]
  obtain ⟨-, htext⟩ := tokenize_encode "\x7b0\x7d" []
  rw [hencode] at hparts
  rw [hescape] at htext
  exact ⟨hencode, hparts.trans (by decide +kernel), htext [.int 7]⟩

end MessageTemplate
