import PatternDraw.Entropy.Cyclic
import PatternDraw.Proofs.Compiling.Denotation
import PatternDraw.Proofs.Reading.Displacement

/-!
# Compiling a pattern behind another

Once a pattern is compiled, a second one behind it is compiled as if it stood alone, with every
offset moved by the length of the first.  Its quantifiers cannot reach the slots of the first
pattern unless the second one alone has a dangling quantifier, and the two are kept apart only
if no closing brace of the second one meets a loose opening brace of the first.
-/

namespace PatternDraw.Compilation

variable {σ : Type} [EntropySource σ]

/-! ## The same steps on top of other slots -/

/-- The template `lifted` has the slots of `template`, moved by the distance, on top of `base`. -/
def OnTop (distance : Nat) (base : List Slot) (template lifted : Template) : Prop :=
  lifted.toList = base ++ template.toList.map (Slot.displace distance)

theorem OnTop.last? {distance : Nat} {base : List Slot} {template lifted : Template}
    (onTop : OnTop distance base template lifted) {slot : Slot}
    (last : template.last? = some slot) : lifted.last? = some (slot.displace distance) := by
  obtain ⟨before, slots⟩ := Template.last?_eq_some_iff.mp last
  refine Template.last?_eq_some_iff.mpr ⟨base ++ before.map (Slot.displace distance), ?_⟩
  rw [onTop, slots]
  simp

theorem OnTop.push {distance : Nat} {base : List Slot} {template lifted : Template}
    (onTop : OnTop distance base template lifted) (slot : Slot) :
    OnTop distance base (template.push slot) (lifted.push (slot.displace distance)) := by
  unfold OnTop at onTop ⊢
  simp [onTop]

theorem OnTop.replaceLast {distance : Nat} {base before : List Slot}
    {template lifted next : Template} {slot : Slot} {count : Nat}
    (onTop : OnTop distance base template lifted) (slots : template.toList = before ++ [slot])
    (nextSlots : next.toList = before ++ List.replicate count slot) :
    OnTop distance base next (lifted.replaceLast count (slot.displace distance)) := by
  have liftedSlots : lifted.toList =
      (base ++ before.map (Slot.displace distance)) ++ [slot.displace distance] := by
    rw [onTop, slots]
    simp
  unfold OnTop
  rw [Template.toList_replaceLast_of_eq liftedSlots, nextSlots]
  simp

theorem repetitions_displace (distance : Nat) (limits : Limits) (offset : Nat) (bounds : Bounds)
    (source : σ) :
    repetitions limits (offset + distance) bounds source =
      ((repetitions limits offset bounds source).1.mapError (Fault.displace distance),
        (repetitions limits offset bounds source).2) := by
  unfold repetitions
  dsimp only
  split
  · rfl
  · split
    · rfl
    · split <;> rfl

/-- A fault is not that of a quantifier without a slot. -/
def IsAttached (fault : Fault) : Prop :=
  ∀ offset, fault ≠ .danglingQuantifier offset

/-- A step that succeeds does the same on top of other slots. -/
theorem applyPiece_onTop_of_ok {limits : Limits} {distance : Nat} {base : List Slot}
    {piece : Piece} {template lifted next : Template} {source after : σ}
    (onTop : OnTop distance base template lifted)
    (applied : applyPiece limits piece template source = (.ok next, after)) :
    ∃ liftedNext, applyPiece limits (piece.displace distance) lifted source =
      (.ok liftedNext, after) ∧ OnTop distance base next liftedNext := by
  rcases piece with ⟨offset, part | part⟩
  · cases applied
    exact ⟨_, rfl, onTop.push _⟩
  · change repeatLast limits offset part.bounds template source = _ at applied
    change ∃ liftedNext, repeatLast limits (offset + distance) part.bounds lifted source = _ ∧ _
    obtain ⟨before, slot, count, slots, chosen, nextSlots⟩ := exists_of_repeatLast_eq_ok applied
    have last := onTop.last? (Template.last?_eq_some_iff.mpr ⟨before, slots⟩)
    rw [repeatLast_of_last last, repetitions_displace, chosen]
    exact ⟨_, rfl, onTop.replaceLast slots nextSlots⟩

/-- A step that fails, other than for want of a slot, fails on top of other slots as well. -/
theorem applyPiece_onTop_of_error {limits : Limits} {distance : Nat} {base : List Slot}
    {piece : Piece} {template lifted : Template} {source after : σ} {fault : Fault}
    (onTop : OnTop distance base template lifted) (attached : IsAttached fault)
    (applied : applyPiece limits piece template source = (.error fault, after)) :
    applyPiece limits (piece.displace distance) lifted source =
      (.error (fault.displace distance), after) := by
  rcases piece with ⟨offset, part | part⟩
  · cases applied
  · change repeatLast limits offset part.bounds template source = _ at applied
    change repeatLast limits (offset + distance) part.bounds lifted source = _
    by_cases allowed : Allowed limits part.bounds
    · cases last : template.last? with
      | none =>
          rw [repeatLast_of_empty allowed last] at applied
          cases applied
          exact absurd rfl (attached offset)
      | some slot =>
          rw [repeatLast_of_last last] at applied
          rw [repeatLast_of_last (onTop.last? last), repetitions_displace]
          cases found : (repetitions limits offset part.bounds source).1 with
          | error own =>
              rw [found] at applied
              cases applied
              rfl
          | ok count =>
              rw [found] at applied
              cases applied
    · obtain ⟨own, refused, failed⟩ := repeatLast_of_not_allowed allowed offset source
      obtain ⟨liftedOwn, liftedRefused, liftedFailed⟩ :=
        repeatLast_of_not_allowed allowed (offset + distance) source
      rw [failed] at applied
      cases applied
      rw [repetitions_displace, refused] at liftedRefused
      cases liftedRefused
      exact liftedFailed lifted

/-! ## The same run on top of other slots -/

theorem ofPieces_onTop_of_ok {limits : Limits} {distance : Nat} {base : List Slot}
    {halt : Option Halt} {pieces : List Piece} {template lifted result : Template} {source : σ}
    (onTop : OnTop distance base template lifted)
    (compiled : (ofPieces limits halt pieces template source).outcome = .ok result) :
    ∃ liftedResult, OnTop distance base result liftedResult ∧
      ofPieces limits (halt.map (Halt.displace distance)) (pieces.map (Piece.displace distance))
          lifted source =
        ⟨.ok liftedResult,
          (ofPieces limits halt pieces template source).warnings.map (Warning.displace distance),
          (ofPieces limits halt pieces template source).source⟩ := by
  induction pieces generalizing template lifted source with
  | nil =>
      cases halt with
      | none =>
          cases compiled
          exact ⟨lifted, onTop, rfl⟩
      | some halt => cases compiled
  | cons piece rest ih =>
      obtain ⟨next, after, applied, behind⟩ := exists_of_ofPieces_cons_eq_ok compiled
      obtain ⟨liftedNext, liftedApplied, nextOnTop⟩ := applyPiece_onTop_of_ok onTop applied
      obtain ⟨liftedResult, resultOnTop, onward⟩ := ih nextOnTop behind
      refine ⟨liftedResult, resultOnTop, ?_⟩
      rw [ofPieces_of_ok applied, List.map_cons, ofPieces_of_ok liftedApplied, onward]
      simp [prependWarnings, Piece.warnings_displace]

theorem ofPieces_onTop_of_error {limits : Limits} {distance : Nat} {base : List Slot}
    {halt : Option Halt} {pieces : List Piece} {template lifted : Template} {source : σ}
    {fault : Fault} (onTop : OnTop distance base template lifted) (attached : IsAttached fault)
    (failed : (ofPieces limits halt pieces template source).outcome = .error fault) :
    ofPieces limits (halt.map (Halt.displace distance)) (pieces.map (Piece.displace distance))
        lifted source =
      ⟨.error (fault.displace distance),
        (ofPieces limits halt pieces template source).warnings.map (Warning.displace distance),
        (ofPieces limits halt pieces template source).source⟩ := by
  induction pieces generalizing template lifted source with
  | nil =>
      cases halt with
      | none => cases failed
      | some halt =>
          cases failed
          rfl
  | cons piece rest ih =>
      cases applied : applyPiece limits piece template source with
      | mk outcome after =>
          cases outcome with
          | error own =>
              rw [ofPieces_of_error applied] at failed ⊢
              cases failed
              have liftedApplied := applyPiece_onTop_of_error onTop attached applied
              rw [List.map_cons, ofPieces_of_error liftedApplied, Piece.warnings_displace]
          | ok next =>
              obtain ⟨liftedNext, liftedApplied, nextOnTop⟩ := applyPiece_onTop_of_ok onTop applied
              rw [ofPieces_of_ok applied] at failed ⊢
              have onward := ih nextOnTop failed
              rw [List.map_cons, ofPieces_of_ok liftedApplied, onward]
              simp [prependWarnings, Piece.warnings_displace]

/-! ## One run behind another -/

/-- Pieces are compiled from where the pieces before them left off. -/
theorem ofPieces_append {limits : Limits} {first : List Piece} {template middle : Template}
    {source : σ} (compiled : (ofPieces limits none first template source).outcome = .ok middle)
    (halt : Option Halt) (second : List Piece) :
    ofPieces limits halt (first ++ second) template source =
      prependWarnings (ofPieces limits none first template source).warnings
        (ofPieces limits halt second middle
          (ofPieces limits none first template source).source) := by
  induction first generalizing template source with
  | nil =>
      cases compiled
      rfl
  | cons piece rest ih =>
      obtain ⟨next, after, applied, behind⟩ := exists_of_ofPieces_cons_eq_ok compiled
      rw [List.cons_append, ofPieces_of_ok applied, ofPieces_of_ok applied, ih behind,
        prependWarnings_append]
      rfl

/-- A loose brace is noted in a warning. -/
theorem looseBrace_warning_mem {constructs : List Construct} (loose : looseBrace ∈ constructs)
    (start : Nat) :
    ∃ warning ∈ allWarnings (place start constructs),
      warning.kind = .metacharacter ∧ warning.ch = '\x7b' := by
  have placed : looseBrace ∈ (place start constructs).map Piece.construct := by
    rw [map_construct_place]
    exact loose
  obtain ⟨piece, member, isLoose⟩ := List.mem_map.mp placed
  refine ⟨⟨.metacharacter, '\x7b', piece.offset⟩, ?_, rfl, rfl⟩
  refine List.mem_flatMap.mpr ⟨piece, member, ?_⟩
  rw [Piece.warnings, isLoose]
  exact List.mem_cons_self

/-- Whether the first pattern can be read apart from what is behind it: it keeps no opening brace
literally, or no closing brace follows. -/
def KeptApart (warnings : List Warning) (behind : List Char) : Prop :=
  (∀ warning ∈ warnings, ¬ (warning.kind = .metacharacter ∧ warning.ch = '\x7b')) ∨
    '\x7d' ∉ behind

/-- Where the warnings keep the two patterns apart, no loose brace of the first one meets a closing
brace of the second one. -/
theorem KeptApart.unclosed {warnings : List Warning} {behind : List Char}
    (apart : KeptApart warnings behind) {start : Nat} {constructs : List Construct}
    (warned : allWarnings (place start constructs) ⊆ warnings)
    (loose : looseBrace ∈ constructs) : '\x7d' ∉ behind := by
  obtain ⟨warning, member, isLoose⟩ := looseBrace_warning_mem loose start
  exact apart.resolve_left fun noneLoose => noneLoose warning (warned member) isLoose

/-- A joined pattern is read as the first one and, behind it, as the second one. -/
theorem ofPattern_append_of_splits {first : List Char} {constructs : List Construct}
    (splits : Splits first constructs) {second : List Char}
    (unclosed : looseBrace ∈ constructs → '\x7d' ∉ second) :
    Scan.ofPattern (first ++ second) =
      ⟨place 0 constructs ++ (Scan.ofPattern second).pieces.map (Piece.displace first.length),
        (Scan.ofPattern second).halt.map (Halt.displace first.length)⟩ := by
  rw [Scan.ofPattern_eq_readFrom, Scan.readFrom_append_of_splits splits unclosed, Nat.zero_add,
    Scan.readFrom_eq_displace]
  rfl

/-- Behind a pattern that compiles, the reading goes on from its end, and what is read there is
compiled from its template on. -/
theorem ofPattern_append_reading {limits : Limits} {first second : String} {source : σ}
    {template : Template} (compiled : (ofPattern limits first source).outcome = .ok template)
    (apart : KeptApart (ofPattern limits first source).warnings second.toList) :
    let reading := Scan.readFrom Scan.closesInRest .ready first.length second.toList
    ofPattern limits (first ++ second) source =
      prependWarnings (ofPattern limits first source).warnings
        (ofPieces limits reading.halt reading.pieces template
          (ofPattern limits first source).source) := by
  intro reading
  obtain ⟨constructs, splits, _, compiledEq⟩ := exists_of_ofPattern_eq_ok compiled
  have unclosed : looseBrace ∈ constructs → '\x7d' ∉ second.toList := by
    rw [compiledEq] at apart
    exact apart.unclosed (List.Subset.refl _)
  have firstEq : ofPattern limits first source =
      ofPieces limits none (place 0 constructs) .empty source := by
    rw [ofPattern, ofScan, Scan.ofPattern_of_splits splits]
  rw [firstEq] at compiled ⊢
  rw [ofPattern, ofScan, String.toList_append, Scan.ofPattern_eq_readFrom,
    Scan.readFrom_append_of_splits splits unclosed, Nat.zero_add, String.length_toList]
  exact ofPieces_append compiled _ _

/-- A joined pattern is compiled as the first one, and from its template on as the second one. -/
theorem ofPattern_append {limits : Limits} {first second : String} {source : σ}
    {template : Template} (compiled : (ofPattern limits first source).outcome = .ok template)
    (apart : KeptApart (ofPattern limits first source).warnings second.toList) :
    ofPattern limits (first ++ second) source =
      prependWarnings (ofPattern limits first source).warnings
        (ofPieces limits
          ((Scan.ofPattern second.toList).halt.map (Halt.displace first.length))
          ((Scan.ofPattern second.toList).pieces.map (Piece.displace first.length))
          template (ofPattern limits first source).source) := by
  rw [ofPattern_append_reading compiled apart, Scan.readFrom_eq_displace]
  rfl

/-- Compiling is a homomorphism for concatenation.  Behind a pattern that compiles and that is
kept apart, a second one that compiles with what is left of the source adds its slots and its
warnings, moved by the length of the first; and if it fails other than for want of a slot, the
joined pattern fails with that fault, moved likewise.  What is left of the source is in both
cases what the second one leaves. -/
theorem ofPattern_append_eq (limits : Limits) (first second : String) (source : σ)
    (template : Template) (compiled : (ofPattern limits first source).outcome = .ok template)
    (apart : KeptApart (ofPattern limits first source).warnings second.toList) :
    let before := ofPattern limits first source
    let behind := ofPattern limits second before.source
    let warnings := before.warnings ++ behind.warnings.map (Warning.displace first.length)
    (∀ added, behind.outcome = .ok added → ∃ joined,
      joined.toList = template.toList ++ added.toList.map (Slot.displace first.length) ∧
      ofPattern limits (first ++ second) source = ⟨.ok joined, warnings, behind.source⟩) ∧
    ∀ fault, behind.outcome = .error fault → (∀ offset, fault ≠ .danglingQuantifier offset) →
      ofPattern limits (first ++ second) source =
        ⟨.error (fault.displace first.length), warnings, behind.source⟩ := by
  intro before behind warnings
  have onTop : OnTop first.length template.toList .empty template := by
    simp [OnTop]
  have joinedEq := ofPattern_append compiled apart
  constructor
  · intro added addedCompiled
    obtain ⟨joined, resultOnTop, onward⟩ := ofPieces_onTop_of_ok onTop addedCompiled
    refine ⟨joined, resultOnTop, ?_⟩
    rw [joinedEq, onward]
    rfl
  · intro fault failed attached
    rw [joinedEq, ofPieces_onTop_of_error onTop attached failed]
    rfl

/-- A second pattern whose quantifier keeps to its own slots. -/
theorem exists_ofPattern_append_eq_ok :
    let words : CyclicWords := ⟨0, [], []⟩
    (ofPattern {} "a(b?" words).outcome = .ok ⟨#[⟨.single 'a', 0⟩, ⟨.single '(', 1⟩]⟩ ∧
      KeptApart (ofPattern {} "a(b?" words).warnings "c\x7b2\x7d)".toList ∧
      ∃ joined : Template,
        joined.toList = [⟨.single 'a', 0⟩, ⟨.single '(', 1⟩,
          ⟨.single 'c', 4⟩, ⟨.single 'c', 4⟩, ⟨.single ')', 8⟩] ∧
        ofPattern {} ("a(b?" ++ "c\x7b2\x7d)") words =
          ⟨.ok joined, [⟨.metacharacter, '(', 1⟩, ⟨.metacharacter, ')', 8⟩], words⟩ := by
  intro words
  have compiled : (ofPattern {} "a(b?" words).outcome =
      .ok ⟨#[⟨.single 'a', 0⟩, ⟨.single '(', 1⟩]⟩ := by
    decide +kernel
  have apart : KeptApart (ofPattern {} "a(b?" words).warnings "c\x7b2\x7d)".toList :=
    .inl (by decide +kernel)
  have law := ofPattern_append_eq {} "a(b?" "c\x7b2\x7d)" words _ compiled apart
  obtain ⟨joined, slots, joinedEq⟩ := law.1
    ⟨#[⟨.single 'c', 0⟩, ⟨.single 'c', 0⟩, ⟨.single ')', 4⟩]⟩ (by decide +kernel)
  refine ⟨compiled, apart, joined, slots, ?_⟩
  rw [joinedEq]
  congr 1 <;> decide +kernel

end PatternDraw.Compilation
