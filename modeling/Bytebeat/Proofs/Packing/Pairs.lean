import Bytebeat.Proofs.Packing.RoundTrip

namespace Bytebeat.Packing

def pairAt? (us : List CodeUnit) (place : Nat) : Option Nat := do
  let first ← us[place]?
  let second ← us[place + 1]?
  return ((first.val <<< 8) ||| second.val) &&& 0xFFFF

def pairs? (us : List CodeUnit) : Option (List Nat) := (List.range' 0 ((us.length + 1) / 2) 2).mapM (pairAt? us)

theorem val_packPair_eq_and (a b : CodeUnit) : (packPair a b).val = ((a.val <<< 8) ||| b.val) &&& 0xFFFF :=
  (Nat.and_two_pow_sub_one_eq_mod _ 16).symm

theorem pairAt?_zero (a b : CodeUnit) (rest : List CodeUnit) :
    pairAt? (a :: b :: rest) 0 = some (packPair a b).val := by
  rw [val_packPair_eq_and]
  rfl

theorem pairAt?_add_two (a b : CodeUnit) (rest : List CodeUnit) (place : Nat) :
    pairAt? (a :: b :: rest) (2 + place) = pairAt? rest place := by
  rw [Nat.add_comm]
  rfl

theorem pairs?_cons_cons (a b : CodeUnit) (rest : List CodeUnit) :
    pairs? (a :: b :: rest) = (pairs? rest).map ((packPair a b).val :: ·) := by
  have places : ((a :: b :: rest).length + 1) / 2 = (rest.length + 1) / 2 + 1 := by
    simp only [List.length_cons]
    omega
  have later : List.range' (0 + 2) ((rest.length + 1) / 2) 2 =
      (List.range' 0 ((rest.length + 1) / 2) 2).map (2 + ·) := by
    rw [List.map_add_range']
  have shifted : pairAt? (a :: b :: rest) ∘ (2 + ·) = pairAt? rest := by
    funext place
    exact pairAt?_add_two a b rest place
  rw [pairs?, places, List.range'_succ, List.mapM_cons, pairAt?_zero, later, List.mapM_map, shifted, ← pairs?]
  cases pairs? rest <;> rfl

theorem pairs?_of_even {us : List CodeUnit} (even : us.length % 2 = 0) :
    pairs? us = some ((packUnits us).map CodeUnit.val) := by
  induction us using pair_induct with
  | nil => rfl
  | single a => exact absurd even (by simp)
  | pair a b rest ih =>
      rw [pairs?_cons_cons, ih (even_of_pair even), packUnits_cons]
      rfl

theorem length_packUnits (us : List CodeUnit) : (packUnits us).length = us.length / 2 := by
  induction us using pair_induct with
  | nil => rfl
  | single a => simp [packUnits, packOnto]
  | pair a b rest ih =>
      rw [packUnits_cons, List.length_cons, ih, List.length_cons, List.length_cons]
      omega

theorem getElem?_packUnits (us : List CodeUnit) (i : Nat) :
    (packUnits us)[i]? = us[2 * i]?.bind fun a => us[2 * i + 1]?.map (packPair a) := by
  induction us using pair_induct generalizing i with
  | nil => rfl
  | single a => cases i <;> rfl
  | pair a b rest ih =>
      rw [packUnits_cons]
      cases i with
      | zero => rfl
      | succ i => exact ih i

end Bytebeat.Packing
