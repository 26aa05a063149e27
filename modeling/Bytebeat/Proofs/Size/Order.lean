import Bytebeat.Proofs.Size.Reading
import Bytebeat.Proofs.Size.Renditions

namespace Bytebeat.Size

variable {scale : Scale} {size larger : ℕ} {b d t : Text} {compact : Bool}

def InOrder (read? : Text → Option ℚ) (s t : Text) : Prop := ∃ v w, read? s = some v ∧ read? t = some w ∧ v ≤ w

theorem Scale.amount?_mono (proper : scale.Proper) (legible : scale.Legible) (reached : scale.base ≤ size)
    (le : size ≤ larger) (first : scale.render? size = some b) (second : scale.render? larger = some d) :
    InOrder scale.amount? b d := by
  obtain ⟨m, p, rfl, prints⟩ := scale.printsIn proper reached first
  have readFirst := amount?_hundredths legible prints.unit.1.1 m
  rcases Nat.eq_or_lt_of_le le with rfl | less
  · cases first.symm.trans second
    exact ⟨_, _, readFirst, readFirst, le_rfl⟩
  · obtain ⟨n, q, rfl, prints'⟩ := scale.printsIn proper (reached.trans le) second
    have hundredfold : (m : ℚ) * (scale.base : ℚ) ^ p ≤ n * (scale.base : ℚ) ^ q := by
      exact_mod_cast prints.mono prints' proper less
    exact ⟨_, _, readFirst, amount?_hundredths legible prints'.unit.1.1 n, by linarith⟩

theorem Scale.PrintsIn.renditions_eq (prints : scale.PrintsIn size t) (legible : scale.Legible) :
    renditions t = [t] := by
  obtain ⟨n, p, rfl, prints⟩ := prints
  exact legible.renditions_eq prints.unit.1.1 (hundredths_ne_nil n) fun _ => numeral_of_mem_hundredths

theorem read_label (reached : plainLimit ≤ size) (labelled : label size compact = .ok t) :
    ∃ b d, binary.render? size = some b ∧ decimal.render? size = some d ∧
      binaryValue? t = binary.amount? b ∧ decimalValue? t = decimal.amount? d := by
  obtain ⟨b, d, inBinary, inDecimal, rfl⟩ := label_eq_ok reached labelled
  obtain ⟨baseBinary, baseDecimal⟩ := base_le reached
  have first := (binary.printsIn binary_proper baseBinary inBinary).renditions_eq binary_legible
  have second := (decimal.printsIn decimal_proper baseDecimal inDecimal).renditions_eq decimal_legible
  refine ⟨b, d, inBinary, inDecimal, ?_⟩
  rw [binaryValue?, decimalValue?, renditions_label first second]
  exact ⟨rfl, rfl⟩

theorem read_plain (small : size < plainLimit) (labelled : label size compact = .ok t) :
    decimalValue? t = some (size : ℚ) := by
  cases (label_of_lt small compact).symm.trans labelled
  have units : 0 < decimal.units.length := by decide
  have some : Text.ofNat size ≠ [] := by simp [Text.ofNat]
  have only := decimal_legible.renditions_eq units some fun _ => Text.numeral_of_mem_ofNat
  have read := Scale.amount?_ofNat decimal_legible units size
  show (renditions (Text.ofNat size ++ decimal.units.getD 0 [])).getLast?.bind decimal.amount? = _
  rw [only]
  exact read

theorem exists_plainLimit : ∃ d, decimal.render? plainLimit = some d ∧ decimal.amount? d = some (plainLimit : ℚ) := by
  refine ⟨hundredths 200 ++ decimal.units.getD 1 [], rfl, ?_⟩
  rw [Scale.amount?_hundredths decimal_legible (by decide)]
  norm_num [decimal, plainLimit]

theorem decimal_of_plain {s t : ℕ} {x y : Text} {compact' : Bool} (small : s < plainLimit) (reached : plainLimit ≤ t)
    (first : label s compact = .ok x) (second : label t compact' = .ok y) : InOrder decimalValue? x y := by
  obtain ⟨-, d, -, inDecimal, -, read⟩ := read_label reached second
  obtain ⟨d₀, startsAs, start⟩ := exists_plainLimit
  obtain ⟨v, w, readStart, readSecond, more⟩ :=
    decimal.amount?_mono decimal_proper decimal_legible (base_le le_rfl).2 reached startsAs inDecimal
  cases start.symm.trans readStart
  refine ⟨s, w, read_plain small first, read.trans readSecond, le_trans ?_ more⟩
  exact_mod_cast Nat.le_of_lt small

/--
The labels of two sizes stand in the order of the sizes, whatever their forms: the decimal renditions or plain counts
for all sizes, the binary renditions from where there are any. Renditions come from the nearest floating-point numbers
and are rounded half to even.
-/
theorem label_monotone {s t : ℕ} {x y : Text} {compact compact' : Bool} (le : s ≤ t)
    (first : label s compact = .ok x) (second : label t compact' = .ok y) :
    InOrder decimalValue? x y ∧
      (plainLimit ≤ s → InOrder binaryValue? x y ∧
        ∃ b d : Text, x = (if compact then b ++ "/" ++ d else b ++ " (" ++ d ++ ")") ∧
          binary.PrintsIn s b ∧ decimal.PrintsIn s d) := by
  rcases Nat.lt_or_ge s plainLimit with small | reached
  · refine ⟨?_, fun reached => absurd small (Nat.not_lt.mpr reached)⟩
    rcases Nat.lt_or_ge t plainLimit with small' | reached'
    · exact ⟨s, t, read_plain small first, read_plain small' second, by exact_mod_cast le⟩
    · exact decimal_of_plain small reached' first second
  · obtain ⟨b, d, inBinary, inDecimal, readBinary, readDecimal⟩ := read_label reached first
    obtain ⟨b', d', inBinary', inDecimal', readBinary', readDecimal'⟩ := read_label (reached.trans le) second
    obtain ⟨baseBinary, baseDecimal⟩ := base_le reached
    refine ⟨?_, fun _ => ⟨?_, label_prints reached first⟩⟩
    · rw [InOrder, readDecimal, readDecimal']
      exact decimal.amount?_mono decimal_proper decimal_legible baseDecimal le inDecimal inDecimal'
    · rw [InOrder, readBinary, readBinary']
      exact binary.amount?_mono binary_proper binary_legible baseBinary le inBinary inBinary'

theorem label_monotone_megabyte :
    999999 ≤ 1000000 ∧ label 999999 = .ok "976.56KiB (1000.00KB)" ∧ label 1000000 true = .ok "976.56KiB/1.00MB" ∧
      InOrder decimalValue? "976.56KiB (1000.00KB)" "976.56KiB/1.00MB" := by
  have le : 999999 ≤ 1000000 := by decide
  have first : label (999999 : ℕ) = .ok "976.56KiB (1000.00KB)" := rfl
  have second : label (1000000 : ℕ) true = .ok "976.56KiB/1.00MB" := rfl
  exact ⟨le, first, second, (label_monotone le first second).1⟩

end Bytebeat.Size
