namespace MigrationScript

def int32? (value : Int) : Option Int32 :=
  if -2147483648 ≤ value ∧ value ≤ 2147483647 then some (.ofInt value) else none

def int64? (value : Int) : Option Int64 :=
  if -9223372036854775808 ≤ value ∧ value ≤ 9223372036854775807 then some (.ofInt value) else none

def uint64? (value : Int) : Option UInt64 :=
  if 0 ≤ value ∧ value ≤ 18446744073709551615 then some (.ofNat value.toNat) else none

@[simp]
theorem int32?_toInt (value : Int32) : int32? value.toInt = some value := by
  have hlow := value.le_toInt
  have hhigh := value.toInt_lt
  rw [int32?, if_pos (by omega), Int32.ofInt_toInt]

@[simp]
theorem int64?_toInt (value : Int64) : int64? value.toInt = some value := by
  have hlow := value.le_toInt
  have hhigh := value.toInt_lt
  rw [int64?, if_pos (by omega), Int64.ofInt_toInt]

theorem int32?_eq_some_iff {value : Int} {word : Int32} :
    int32? value = some word ↔ word.toInt = value := by
  constructor
  · intro h
    rw [int32?] at h
    split at h
    · rename_i hrange
      simp only [Option.some.injEq] at h
      rw [← h, Int32.toInt_ofInt]
      exact Int.bmod_eq_of_le (by simp only [Int32.size]; omega) (by simp only [Int32.size]; omega)
    · simp at h
  · rintro rfl
    exact int32?_toInt word

theorem int64?_eq_some_iff {value : Int} {word : Int64} :
    int64? value = some word ↔ word.toInt = value := by
  constructor
  · intro h
    rw [int64?] at h
    split at h
    · rename_i hrange
      simp only [Option.some.injEq] at h
      rw [← h, Int64.toInt_ofInt]
      exact Int.bmod_eq_of_le (by simp only [Int64.size]; omega) (by simp only [Int64.size]; omega)
    · simp at h
  · rintro rfl
    exact int64?_toInt word

end MigrationScript
