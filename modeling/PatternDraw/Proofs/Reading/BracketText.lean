import Mathlib.Data.Char
import Mathlib.Data.List.Sort
import PatternDraw.Proofs.Reading.Places

/-!
# Texts between brackets

A text between brackets is read from left to right, one character at a time, with a view of the
members that are listed so far.  A dash with a member before it and a character behind it is a
range, which goes on from the last member; every other character is a member itself.  This
reading determines the members, their order and the warnings, and the alphabet of a bracket is
what it leads to.
-/

namespace PatternDraw.Bracket

/-! ## Runs of characters -/

/-- The characters behind `first` up to and including `last`, once each and in ascending order. -/
def IsRun (first last : Char) (run : List Char) : Prop :=
  run.Pairwise (· < ·) ∧ ∀ ch, ch ∈ run ↔ first < ch ∧ ch ≤ last

/-- The bounds determine a run. -/
theorem IsRun.unique {first last : Char} {run other : List Char} (isRun : IsRun first last run)
    (otherIsRun : IsRun first last other) : run = other := by
  apply isRun.1.eq_of_mem_iff otherIsRun.1
  intro ch
  rw [isRun.2, otherIsRun.2]

/-- A range that is reversed, or that ends where it starts, has no run. -/
theorem IsRun.eq_nil {first last : Char} {run : List Char} (isRun : IsRun first last run)
    (short : last ≤ first) : run = [] := by
  apply List.eq_nil_iff_forall_not_mem.mpr
  intro ch member
  obtain ⟨behind, within⟩ := (isRun.2 ch).mp member
  exact absurd (within.trans short) behind.not_ge

/-- A run that is not empty ends with its last character. -/
theorem IsRun.exists_eq_append {first last : Char} {run : List Char} (isRun : IsRun first last run)
    (ordered : first < last) : ∃ more, run = more ++ [last] := by
  have member : last ∈ run := (isRun.2 last).mpr ⟨ordered, le_refl last⟩
  obtain ⟨more, behind, rfl⟩ := List.append_of_mem member
  cases behind with
  | nil => exact ⟨more, rfl⟩
  | cons ch behind =>
      have ascending := (List.pairwise_append.mp isRun.1).2.1
      have greater := List.rel_of_pairwise_cons ascending List.mem_cons_self
      have listed : ch ∈ more ++ last :: ch :: behind := by simp
      exact absurd ((isRun.2 ch).mp listed).2 greater.not_ge

/-- Behind a member and the range that goes on from it, the last member is the end of the range, or
the same as before if the range is reversed. -/
theorem IsRun.exists_append_eq {start last : Char} {run : List Char} (isRun : IsRun start last run)
    (earlier : List Char) :
    ∃ more, earlier ++ [start] ++ run = more ++ [if start ≤ last then last else start] := by
  by_cases ordered : start ≤ last
  · rw [if_pos ordered]
    rcases lt_or_eq_of_le ordered with longer | rfl
    · obtain ⟨more, rfl⟩ := isRun.exists_eq_append longer
      exact ⟨earlier ++ [start] ++ more, by simp⟩
    · rw [isRun.eq_nil ordered]
      exact ⟨earlier, by simp⟩
  · rw [if_neg ordered, isRun.eq_nil (le_of_not_ge ordered)]
    exact ⟨earlier, by simp⟩

/-- The characters of an interval of code points are a run. -/
theorem isRun_interval (first last : Char) :
    IsRun first last (Alphabet.interval (first.toNat + 1) last.toNat).toList := by
  constructor
  · rw [Alphabet.toList_interval]
    apply (List.pairwise_lt_range' _).filterMap
    intro code other ascending ch scalar otherCh otherScalar
    rw [Text.scalar?_eq_some_iff] at scalar otherScalar
    subst scalar otherScalar
    exact ascending
  · intro ch
    rw [← Alphabet.mem_iff_mem_toList, Alphabet.mem_interval_iff]
    exact Iff.rfl

/-! ## The reading -/

/-- Reading the text from `offset` on, with the given members listed so far, leads to these members
in all and to these warnings. -/
inductive Expands : Nat → List Char → List Char → List Char → List Warning → Prop
  | done (offset : Nat) (listed : List Char) : Expands offset listed [] listed []
  | literal {offset : Nat} {listed rest members : List Char} {ch : Char} {warnings : List Warning}
      (plain : ch = '-' → listed = [] ∨ rest = [])
      (onward : Expands (offset + 1) (listed ++ [ch]) rest members warnings) :
      Expands offset listed (ch :: rest) members
        ((if ch.isAlphanum ∨ ch = '_' then [] else [⟨.bracketLiteral, ch, offset⟩]) ++ warnings)
  | range {offset : Nat} {earlier rest run members : List Char} {start last : Char}
      {warnings : List Warning} (isRun : IsRun start last run)
      (onward : Expands (offset + 2) (earlier ++ [start] ++ run) rest members warnings) :
      Expands offset (earlier ++ [start]) ('-' :: last :: rest) members
        ((if start ≤ last then [] else [⟨.reversedRange, last, offset + 1⟩]) ++ warnings)

/-- The text determines its members and its warnings. -/
theorem Expands.unique {offset : Nat} {listed text members : List Char} {warnings : List Warning}
    (expands : Expands offset listed text members warnings) {others : List Char}
    {otherWarnings : List Warning}
    (otherExpands : Expands offset listed text others otherWarnings) :
    others = members ∧ otherWarnings = warnings := by
  induction expands generalizing others otherWarnings with
  | done =>
      cases otherExpands
      exact ⟨rfl, rfl⟩
  | literal plain _ ih =>
      cases otherExpands with
      | literal _ otherOnward =>
          obtain ⟨rfl, rfl⟩ := ih otherOnward
          exact ⟨rfl, rfl⟩
      | range => simp at plain
  | @range offset earlier rest run members start last warnings isRun _ ih =>
      generalize listedEq : earlier ++ [start] = listed at otherExpands
      cases otherExpands with
      | literal plain =>
          subst listedEq
          simp at plain
      | range otherIsRun otherOnward =>
          obtain ⟨rfl, startEq⟩ := List.append_inj' listedEq rfl
          cases startEq
          rw [← isRun.unique otherIsRun] at otherOnward
          obtain ⟨rfl, rfl⟩ := ih otherOnward
          exact ⟨rfl, rfl⟩

/-- A text without a dash lists its characters. -/
theorem Expands.eq_append {offset : Nat} {listed text members : List Char}
    {warnings : List Warning} (expands : Expands offset listed text members warnings)
    (noDash : '-' ∉ text) : members = listed ++ text := by
  induction expands with
  | done => rw [List.append_nil]
  | literal _ _ ih =>
      rw [ih fun member => noDash (List.mem_cons_of_mem _ member), List.append_assoc]
      rfl
  | range => exact absurd List.mem_cons_self noDash

/-! ## The alphabet of a bracket -/

theorem warnings_single (start : Char) (offset : Nat) (ch : Char) :
    (BracketItem.single ch).warnings start offset =
      if ch.isAlphanum ∨ ch = '_' then [] else [⟨.bracketLiteral, ch, offset⟩] := by
  simp [BracketItem.warnings, BracketItem.isWordChar]

/-- The entries behind a member lead to what reading leads to. -/
theorem expands_read {start : Char} (text : List Char) (offset : Nat) {listed : Array Char}
    {earlier : List Char} (ends : listed.toList = earlier ++ [start]) :
    Expands offset listed.toList text
      (BracketItem.appendAll listed start (BracketItem.read text)).toList
      (BracketItem.allWarnings start offset (BracketItem.read text)) := by
  fun_induction BracketItem.read text generalizing start offset listed earlier with
  | case1 last rest ih =>
      have isRun := isRun_interval start last
      have listedNext : (Text.appendInterval listed (start.toNat + 1) last.toNat).toList =
          earlier ++ [start] ++ (Alphabet.interval (start.toNat + 1) last.toNat).toList := by
        rw [Alphabet.toList_interval, Text.appendInterval, Text.toList_appendRun, ends]
      obtain ⟨more, moreEq⟩ := isRun.exists_append_eq earlier
      have onward := ih (offset + 2) (listedNext.trans moreEq)
      rw [listedNext] at onward
      rw [ends]
      exact .range isRun onward
  | case2 ch rest notRange ih =>
      have pushed : (listed.push ch).toList = listed.toList ++ [ch] := Array.toList_push
      have onward := ih (offset + 1) pushed
      rw [pushed] at onward
      have plain : ch = '-' → listed.toList = [] ∨ rest = [] := by
        intro isDash
        right
        cases rest with
        | nil => rfl
        | cons last rest => exact (notRange last rest isDash rfl).elim
      rw [BracketItem.allWarnings, warnings_single]
      exact .literal plain onward
  | case3 => exact .done offset listed.toList

/-- The alphabet and the warnings of a bracket are what reading its text leads to. -/
theorem expands_alphabet (offset : Nat) (body : List Char) :
    Expands offset [] body (alphabet body).toList (warnings offset body) := by
  cases body with
  | nil => exact .done offset []
  | cons ch rest =>
      -- The first character is a member whatever it is, so a range behind it has a start.
      have single : (#[ch] : Array Char).toList = [] ++ [ch] := rfl
      have onward := expands_read rest (offset + 1) single
      rw [warnings, warnings_single]
      exact .literal (fun _ => .inl rfl) onward

end PatternDraw.Bracket
