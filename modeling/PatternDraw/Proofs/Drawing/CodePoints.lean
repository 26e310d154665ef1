import PatternDraw.Proofs.Guarding.Operations
import PatternDraw.Proofs.Letters.Lookup
import PatternDraw.Proofs.Reading.BracketText
import PatternDraw.Proofs.Text.SingleBytes

/-!
# Code points of what is drawn

The atoms of a pattern list single bytes and characters that are written in the pattern, and a
range lists nothing above the character that ends it.  So no character that is drawn is above both
U+00FF and the greatest one in the pattern.  A pattern without characters above U+00FF draws texts
that can be written one byte for each character, and so do the usual letters.
-/

namespace PatternDraw

/-! ## Alphabets -/

/-- No candidate has a code point above `greatest`. -/
def Alphabet.IsUpTo (greatest : Nat) (alphabet : Alphabet) : Prop :=
  ∀ ch ∈ alphabet, ch.toNat ≤ greatest

namespace Alphabet

theorem IsUpTo.mono {alphabet : Alphabet} {least greatest : Nat}
    (upTo : alphabet.IsUpTo least) (ordered : least ≤ greatest) : alphabet.IsUpTo greatest :=
  fun ch member => Nat.le_trans (upTo ch member) ordered

theorem isUpTo_single {ch : Char} {greatest : Nat} (within : ch.toNat ≤ greatest) :
    (single ch).IsUpTo greatest := by
  intro other member
  rw [mem_iff_mem_toList, toList_single, List.mem_singleton] at member
  rwa [member]

theorem isUpTo_interval (first last : Nat) : (interval first last).IsUpTo last :=
  fun _ member => (mem_interval_iff.mp member).2

/-- The alphabet of listed characters is checked one by one. -/
theorem isUpTo_of_all {alphabet : Alphabet} {greatest : Nat}
    (all : alphabet.toList.all (fun ch => decide (ch.toNat ≤ greatest)) = true) :
    alphabet.IsUpTo greatest := by
  intro ch member
  have within := List.all_eq_true.mp all ch (mem_iff_mem_toList.mp member)
  exact of_decide_eq_true within

end Alphabet

/-- Shorthand escapes stand for ASCII characters. -/
theorem Shorthand.isUpTo_alphabet (shorthand : Shorthand) : shorthand.alphabet.IsUpTo 0x7f := by
  cases shorthand <;> exact Alphabet.isUpTo_of_all (by decide +kernel)

/-- The usual letters stand for single bytes. -/
theorem LetterTable.isUpTo_of_get?_standard {letter : Char} {alphabet : Alphabet}
    (bound : standard.get? letter = some alphabet) : alphabet.IsUpTo 0xff := by
  have member := mem_of_find?_eq_some bound
  rw [bindings_standard] at member
  simp only [List.mem_cons, Prod.mk.injEq, List.not_mem_nil, or_false] at member
  rcases member with ⟨_, rfl⟩ | ⟨_, rfl⟩ | ⟨_, rfl⟩ | ⟨_, rfl⟩ | ⟨_, rfl⟩ | ⟨_, rfl⟩ | ⟨_, rfl⟩
  case inr.inr.inr.inl => exact Alphabet.isUpTo_interval _ _
  all_goals exact Alphabet.isUpTo_of_all (by decide +kernel)

/-! ## Atoms -/

/-- Reading a text between brackets lists nothing above its characters. -/
theorem Bracket.Expands.le_of_mem {offset : Nat} {listed text members : List Char}
    {warnings : List Warning} (expands : Expands offset listed text members warnings)
    {greatest : Nat} (listedUpTo : ∀ ch ∈ listed, ch.toNat ≤ greatest)
    (textUpTo : ∀ ch ∈ text, ch.toNat ≤ greatest) : ∀ ch ∈ members, ch.toNat ≤ greatest := by
  induction expands with
  | done => exact listedUpTo
  | literal _ _ ih =>
      obtain ⟨here, behind⟩ := List.forall_mem_cons.mp textUpTo
      refine ih (List.forall_mem_append.mpr ⟨listedUpTo, ?_⟩) behind
      exact List.forall_mem_singleton.mpr here
  | @range _ _ _ run _ _ last _ isRun _ ih =>
      obtain ⟨lastUpTo, behind⟩ := List.forall_mem_cons.mp (List.forall_mem_cons.mp textUpTo).2
      refine ih (List.forall_mem_append.mpr ⟨listedUpTo, ?_⟩) behind
      intro ch member
      have within : ch.toNat ≤ last.toNat := ((isRun.2 ch).mp member).2
      exact Nat.le_trans within lastUpTo

/-- Two hexadecimal digits spell a byte. -/
theorem Atom.toNat_hexChar_le (high low : Char) : (hexChar high low).toNat ≤ 0xff := by
  have digit (ch : Char) : (hexDigit? ch).getD 0 < 16 := by
    cases digit : hexDigit? ch with
    | none => decide
    | some value => exact hexDigit?_lt digit
  have byte : 16 * (hexDigit? high).getD 0 + (hexDigit? low).getD 0 < 256 := by
    have upper := digit high
    have lower := digit low
    omega
  have valid : Nat.isValidChar (16 * (hexDigit? high).getD 0 + (hexDigit? low).getD 0) :=
    .inl (Nat.lt_trans byte (by decide))
  rw [hexChar, Char.ofNat, dif_pos valid]
  exact Nat.le_of_lt_succ byte

/-- An atom lists single bytes and nothing above the characters of its text. -/
theorem Atom.isUpTo_alphabet {part : Atom} {greatest : Nat} (bytes : 0xff ≤ greatest)
    (upTo : ∀ ch ∈ part.text, ch.toNat ≤ greatest) : part.alphabet.IsUpTo greatest := by
  have ascii (shorthand : Shorthand) : shorthand.alphabet.IsUpTo greatest :=
    shorthand.isUpTo_alphabet.mono (Nat.le_trans (by decide) bytes)
  cases part with
  | literal ch => exact Alphabet.isUpTo_single (upTo ch List.mem_cons_self)
  | dot => exact ascii .nonSpace
  | hexEscape high low =>
      exact Alphabet.isUpTo_single (Nat.le_trans (toNat_hexChar_le high low) bytes)
  | escape ch =>
      simp only [alphabet]
      split
      · exact ascii _
      · exact Alphabet.isUpTo_single (upTo ch (by simp [text]))
  | bracket body =>
      have expands := Bracket.expands_alphabet 0 body
      have body : ∀ ch ∈ body, ch.toNat ≤ greatest := fun ch member =>
        upTo ch (by simp [text, member])
      intro ch member
      exact expands.le_of_mem (by simp) body ch (Alphabet.mem_iff_mem_toList.mp member)

/-! ## Patterns -/

/-- The slots to which the constructs of a pattern lead list single bytes and nothing above the
characters of the pattern. -/
theorem Realizes.isUpTo {limits : Limits} {pattern : List Char} {constructs : List Construct}
    {counts : List Nat} {slots : List Slot} (splits : Splits pattern constructs)
    (realizes : Realizes limits 0 constructs [] counts slots) {greatest : Nat}
    (bytes : 0xff ≤ greatest) (upTo : ∀ ch ∈ pattern, ch.toNat ≤ greatest) :
    ∀ slot ∈ slots, slot.alphabet.IsUpTo greatest := by
  refine realizes.forall_slots ?_ (by simp)
  intro offset part placed
  refine Atom.isUpTo_alphabet bytes ?_
  intro ch member
  refine upTo ch ?_
  rw [splits.eq_textOf]
  exact List.mem_flatMap.mpr ⟨_, construct_mem_of_mem_place placed, member⟩

/-- Candidates of slots up to some code point are characters up to there. -/
theorem le_of_forall₂_mem {drawn : List Char} {slots : List Slot}
    (members : List.Forall₂ (fun ch slot => ch ∈ slot.alphabet) drawn slots) {greatest : Nat}
    (upTo : ∀ slot ∈ slots, slot.alphabet.IsUpTo greatest) : ∀ ch ∈ drawn, ch.toNat ≤ greatest := by
  induction members with
  | nil => exact fun ch member => absurd member List.not_mem_nil
  | cons member _ ih =>
      obtain ⟨here, behind⟩ := List.forall_mem_cons.mp upTo
      exact List.forall_mem_cons.mpr ⟨here _ member, ih behind⟩

/-- The texts of a pattern have no characters above U+00FF and above those of the pattern. -/
theorem le_of_mem_language {limits : Limits} {pattern text : List Char}
    (member : text ∈ language limits pattern) {greatest : Nat} (bytes : 0xff ≤ greatest)
    (upTo : ∀ ch ∈ pattern, ch.toNat ≤ greatest) : ∀ ch ∈ text, ch.toNat ≤ greatest := by
  obtain ⟨constructs, counts, slots, splits, realizes, members⟩ := member
  exact le_of_forall₂_mem members (realizes.isUpTo splits bytes upTo)

variable {σ : Type} [EntropySource σ]

namespace Composer

open Text

/-- Texts that are drawn from usual letters are narrow. -/
theorem isNarrow_of_drawLetters {composer : Composer} (usual : composer.letters = .standard)
    {letters text : String} {source : σ}
    (drawn : (composer.drawLetters letters source).result = .ok text) : Latin1.IsNarrow text := by
  obtain ⟨template, names, rfl⟩ := exists_names_of_drawLetters_eq_ok drawn
  rw [usual] at names
  have inhabited : ∀ slot ∈ template.toList, 0 < slot.alphabet.size := by
    intro slot member
    obtain ⟨letter, bound⟩ := names.exists_get? slot member
    exact LetterTable.isInhabited_standard.size_pos_of_get? bound
  have upTo : ∀ slot ∈ template.toList, slot.alphabet.IsUpTo 0xff := by
    intro slot member
    obtain ⟨letter, bound⟩ := names.exists_get? slot member
    exact LetterTable.isUpTo_of_get?_standard bound
  exact le_of_forall₂_mem (Template.forall₂_mem_draw inhabited source) upTo

/-- For every code point from U+00FF on up to which the characters of a pattern go: the candidates
of a template that is compiled from the pattern go up to there at most, and so do the characters of
every text that is drawn from it.  So a text that cannot be written in single bytes comes only from
a pattern that has a character above U+00FF itself.  Every text that is drawn from usual letters
can be written in single bytes. -/
theorem drawn_upTo_pattern (composer : Composer) (pattern letters : String) (source : σ) :
    (∀ greatest, 0xff ≤ greatest → (∀ ch ∈ pattern.toList, ch.toNat ≤ greatest) →
      (∀ template, (Compilation.ofPattern composer.limits pattern source).outcome = .ok template →
        ∀ slot ∈ template.toList, ∀ ch ∈ slot.alphabet, ch.toNat ≤ greatest) ∧
      ∀ text, (composer.drawPattern pattern source).result = .ok text →
        ∀ ch ∈ text.toList, ch.toNat ≤ greatest) ∧
    (∀ text, (composer.drawPattern pattern source).result = .ok text →
      Latin1.encode? text = none → ∃ ch ∈ pattern.toList, 0xff < ch.toNat) ∧
    (composer.letters = .standard → ∀ text,
      (composer.drawLetters letters source).result = .ok text →
      ∃ bytes, Latin1.encode? text = some bytes) := by
  refine ⟨?_, ?_, fun usual text drawn =>
    Latin1.exists_encode?_eq_some (isNarrow_of_drawLetters usual drawn)⟩
  · intro greatest bytes upTo
    constructor
    · intro template compiled
      obtain ⟨constructs, splits, realizes, _⟩ := Compilation.exists_of_ofPattern_eq_ok compiled
      exact realizes.isUpTo splits bytes upTo
    · intro text drawn
      exact le_of_mem_language (mem_language_of_drawPattern drawn) bytes upTo
  · intro text drawn notEncoded
    by_contra absent
    have upTo : ∀ ch ∈ pattern.toList, ch.toNat ≤ 0xff := fun ch member =>
      Nat.le_of_not_lt fun above => absent ⟨ch, member, above⟩
    exact Latin1.encode?_eq_none_iff.mp notEncoded
      (le_of_mem_language (mem_language_of_drawPattern drawn) (Nat.le_refl _) upTo)

/-- The greatest single byte, from a range and from an escape, and a pattern beyond the bytes. -/
theorem drawn_upTo_pattern_of_ranges :
    let words : CyclicWords := ⟨0xffffffff, [], []⟩
    let composer := withLimits {}
    ((∀ ch ∈ "[à-ÿ]\\xfF.".toList, ch.toNat ≤ 0xff) ∧
      (composer.drawPattern "[à-ÿ]\\xfF." words).result = .ok "ÿÿ~" ∧
      ∀ ch ∈ "ÿÿ~".toList, ch.toNat ≤ 0xff) ∧
    ((composer.drawPattern "[aā]" words).result = .ok "ā" ∧ Latin1.encode? "ā" = none ∧
      ∃ ch ∈ "[aā]".toList, 0xff < ch.toNat) ∧
    (composer.letters = .standard ∧ (composer.drawLetters "Cn" words).result = .ok "Z9" ∧
      ∃ bytes, Latin1.encode? "Z9" = some bytes) := by
  intro words composer
  have upTo : ∀ ch ∈ "[à-ÿ]\\xfF.".toList, ch.toNat ≤ 0xff := by simp
  have drawnBytes : (composer.drawPattern "[à-ÿ]\\xfF." words).result = .ok "ÿÿ~" := by
    decide +kernel
  have drawnWide : (composer.drawPattern "[aā]" words).result = .ok "ā" := by decide +kernel
  have notEncoded : Latin1.encode? "ā" = none := by decide +kernel
  have usual : composer.letters = .standard := by simp only [composer, withLimits]
  have names : composer.letters.Names "Cn".toList ⟨#[⟨.upper, 0⟩, ⟨.digit, 1⟩]⟩ := by
    rw [usual]
    refine List.Forall₂.cons ?_ (List.Forall₂.cons ?_ .nil)
    all_goals
      rw [LetterTable.get?, LetterTable.bindings_standard]
      rfl
  have drawnLetters : (composer.drawLetters "Cn" words).result = .ok "Z9" := by
    rw [drawLetters_of_names names]
    decide +kernel
  obtain ⟨within, _, _⟩ := drawn_upTo_pattern composer "[à-ÿ]\\xfF." "" words
  obtain ⟨_, beyond, letters⟩ := drawn_upTo_pattern composer "[aā]" "Cn" words
  exact ⟨⟨upTo, drawnBytes, (within 0xff (Nat.le_refl _) upTo).2 _ drawnBytes⟩,
    ⟨drawnWide, notEncoded, beyond _ drawnWide notEncoded⟩,
    ⟨usual, drawnLetters, letters usual _ drawnLetters⟩⟩

end Composer

end PatternDraw
