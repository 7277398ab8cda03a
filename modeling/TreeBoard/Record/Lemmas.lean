import TreeBoard.Positional.Lemmas
import TreeBoard.Record

/-!
# Records and their bytes

Results: `ofBytes_toBytes`, the bytes of a record determine it.
-/

namespace TreeBoard.Record

/-- The bytes of a record determine it. -/
theorem ofBytes_toBytes (record : Record) : ofBytes record.toBytes = record := by
  have bounded : ∀ digit ∈ Positional.digits 256 byteCount record.toNat, digit < 256 :=
    Positional.digits_lt (by decide) _ _
  have restored : (Positional.digits 256 byteCount record.toNat).map (UInt8.toNat ∘ UInt8.ofNat) =
      Positional.digits 256 byteCount record.toNat := by
    conv => rhs; rw [← List.map_id (Positional.digits 256 byteCount record.toNat)]
    apply List.map_congr_left
    intro digit member
    simp [Nat.mod_eq_of_lt (bounded digit member)]
  have value : Positional.ofDigits 256 (record.toBytes.toList.reverse.map UInt8.toNat) =
      record.toNat := by
    simp only [toBytes, Vector.toList_mk, List.map_reverse, List.reverse_reverse, List.map_map,
      restored]
    rw [Positional.ofDigits_digits]
    exact Nat.mod_eq_of_lt record.bits.isLt
  unfold ofBytes
  rw [value]
  simp [ofNat, toNat]

end TreeBoard.Record
