import Mathlib.Data.List.Forall2
import PatternDraw.Text.Latin1

/-!
# Texts of single bytes

A text can be written in single bytes exactly if it has no character above U+00FF.  Its bytes
are then the code points of its characters, so they can be read back.
-/

namespace PatternDraw.Text.Latin1

/-! ## Bytes in a row -/

private theorem toList_loop (bytes : ByteArray) (index : Nat) (read : List UInt8) :
    ByteArray.toList.loop bytes index read =
      read.reverse ++ bytes.data.toList.drop index := by
  fun_induction ByteArray.toList.loop bytes index read with
  | case1 index read inside ih =>
      have here : index < bytes.data.toList.length := inside
      rw [ih, List.reverse_cons, List.append_assoc, List.drop_eq_getElem_cons here]
      simp [ByteArray.get!, inside]
  | case2 index read outside =>
      have nothing : bytes.data.toList.drop index = [] :=
        List.drop_eq_nil_of_le (Nat.le_of_not_lt outside)
      rw [nothing, List.append_nil]

theorem toList_eq_data (bytes : ByteArray) : bytes.toList = bytes.data.toList := by
  rw [ByteArray.toList, toList_loop]
  rfl

theorem toList_append (first second : ByteArray) :
    (first ++ second).toList = first.toList ++ second.toList := by
  simp [toList_eq_data]

theorem toList_toByteArray (bytes : List UInt8) : bytes.toByteArray.toList = bytes := by
  simp [toList_eq_data]

/-! ## Encoding -/

/-- No character of the text is above U+00FF. -/
def IsNarrow (text : String) : Prop :=
  ∀ ch ∈ text.toList, ch.toNat ≤ 0xff

theorem isNarrow_append {first second : String} :
    IsNarrow (first ++ second) ↔ IsNarrow first ∧ IsNarrow second := by
  simp only [IsNarrow, String.toList_append, List.forall_mem_append]

theorem encodeChar?_eq_some_iff {ch : Char} {byte : UInt8} :
    encodeChar? ch = some byte ↔ ch.toNat = byte.toNat := by
  unfold encodeChar?
  constructor
  · intro encoded
    split at encoded
    · rename_i fits
      cases encoded
      exact (UInt8.toNat_ofNat_of_lt' fits).symm
    · cases encoded
  · intro same
    rw [same, if_pos byte.toNat_lt]
    exact congrArg some UInt8.ofNat_toNat

theorem encodeList?_eq_some_iff {chars : List Char} {bytes : List UInt8} :
    encodeList? chars = some bytes ↔ chars.map Char.toNat = bytes.map UInt8.toNat := by
  induction chars generalizing bytes with
  | nil => cases bytes <;> simp [encodeList?]
  | cons ch rest ih =>
      unfold encodeList? at ih ⊢
      cases bytes with
      | nil => simp [Option.bind_eq_some_iff]
      | cons byte bytes =>
          rw [List.map_cons, List.map_cons, List.cons.injEq, ← ih, ← encodeChar?_eq_some_iff]
          simp [Option.bind_eq_some_iff]

/-- The bytes of a text are the code points of its characters. -/
theorem encode?_eq_some_iff {text : String} {bytes : ByteArray} :
    encode? text = some bytes ↔ text.toList.map Char.toNat = bytes.toList.map UInt8.toNat := by
  rw [← encodeList?_eq_some_iff, encode?, Option.map_eq_some_iff]
  constructor
  · rintro ⟨encoded, found, rfl⟩
    rwa [toList_toByteArray]
  · intro found
    exact ⟨bytes.toList, found, by simp [toList_eq_data, ByteArray.ext_iff]⟩

/-- A text can be written in single bytes if it is narrow. -/
theorem exists_encode?_eq_some {text : String} (narrow : IsNarrow text) :
    ∃ bytes, encode? text = some bytes := by
  refine ⟨(text.toList.map fun ch => ch.toNat.toUInt8).toByteArray, encode?_eq_some_iff.mpr ?_⟩
  rw [toList_toByteArray, List.map_map]
  refine List.map_congr_left ?_
  intro ch member
  exact (UInt8.toNat_ofNat_of_lt' (Nat.lt_succ_of_le (narrow ch member))).symm

/-- Only narrow texts can be written in single bytes. -/
theorem isNarrow_of_encode? {text : String} {bytes : ByteArray}
    (encoded : encode? text = some bytes) : IsNarrow text := by
  intro ch member
  have listed : ch.toNat ∈ text.toList.map Char.toNat := List.mem_map_of_mem member
  rw [encode?_eq_some_iff.mp encoded] at listed
  obtain ⟨byte, _, same⟩ := List.mem_map.mp listed
  rw [← same]
  exact Nat.le_of_lt_succ byte.toNat_lt

theorem encode?_eq_none_iff {text : String} : encode? text = none ↔ ¬ IsNarrow text := by
  constructor
  · intro failed narrow
    obtain ⟨bytes, encoded⟩ := exists_encode?_eq_some narrow
    rw [failed] at encoded
    cases encoded
  · intro wide
    cases encoded : encode? text with
    | none => rfl
    | some bytes => exact absurd (isNarrow_of_encode? encoded) wide

/-! ## ASCII -/

end PatternDraw.Text.Latin1
