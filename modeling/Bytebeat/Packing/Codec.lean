import Bytebeat.Packing.Escape
import Bytebeat.Packing.Wrapper

namespace Bytebeat.Packing

def pad (t : Text) : Text := if t.units.length % 2 = 1 then t ++ " " else t

def collapseOnto (done : Text) : Text → Text
  | c :: d :: rest =>
    if c = ',' && d = ' ' then collapseOnto (c :: done) rest else collapseOnto (c :: done) (d :: rest)
  | rest => done.reverse ++ rest

def collapse (t : Text) : Text := collapseOnto [] t

theorem collapseOnto_eq : ∀ done t : Text, collapseOnto done t = done.reverse ++ collapse t
  | done, c :: d :: rest => by
    by_cases h : (decide (c = ',') && decide (d = ' ')) = true
    · rw [collapse, collapseOnto, collapseOnto, if_pos h, if_pos h, collapseOnto_eq _ rest, collapseOnto_eq [c] rest]
      simp
    · rw [collapse, collapseOnto, collapseOnto, if_neg h, if_neg h, collapseOnto_eq _ (d :: rest),
        collapseOnto_eq [c] (d :: rest)]
      simp
  | done, [] => by simp [collapse, collapseOnto]
  | done, [c] => by simp [collapse, collapseOnto]

theorem collapse_comma (t : Text) : collapse (',' :: ' ' :: t) = (',' : CodePoint) :: collapse t := by
  rw [collapse, collapseOnto, if_pos (by decide), collapseOnto_eq]
  rfl

theorem collapse_cons {c : CodePoint} {t : Text} (h : c ≠ ',' ∨ t.head? ≠ some (' ' : CodePoint)) :
    collapse (c :: t) = c :: collapse t := by
  match t with
  | [] => rfl
  | d :: rest =>
    have : ¬ (decide (c = ',') && decide (d = ' ')) = true := by
      simp only [List.head?_cons, ne_eq, Option.some.injEq] at h
      simp only [Bool.and_eq_true, decide_eq_true_eq]
      exact fun ⟨hc, hd⟩ => h.elim (· hc) (· hd)
    rw [collapse, collapseOnto, if_neg this, collapseOnto_eq]
    rfl

/-- The form in which code is packed: collapsed, and padded before and after. -/
def normalize (code : Text) : Text := pad (collapse (pad code))

theorem even_units_pad (t : Text) : (pad t).units.length % 2 = 0 := by
  unfold pad
  split
  · rename_i h
    have : (Text.units " ").length = 1 := rfl
    simp only [Text.units_append, List.length_append, this]
    omega
  · omega

theorem even_units_normalize (code : Text) : (normalize code).units.length % 2 = 0 := even_units_pad _

/-- Two units in one: the first moved up by eight bits, the second laid over it, and 16 bits kept. -/
def packPair (a b : CodeUnit) : CodeUnit := .ofNat ((a.val <<< 8) ||| b.val)

def packOnto (done : List CodeUnit) : List CodeUnit → List CodeUnit
  | a :: b :: rest => packOnto (packPair a b :: done) rest
  | _ => done.reverse

def packUnits (us : List CodeUnit) : List CodeUnit := packOnto [] us

theorem packOnto_eq : ∀ done us : List CodeUnit, packOnto done us = done.reverse ++ packUnits us
  | done, a :: b :: rest => by
    rw [packUnits, packOnto, packOnto, packOnto_eq _ rest, packOnto_eq [packPair a b] rest]
    simp
  | done, [] => by simp [packUnits, packOnto]
  | done, [_] => by simp [packUnits, packOnto]

@[simp] theorem packUnits_nil : packUnits [] = [] := rfl

@[simp] theorem packUnits_cons (a b : CodeUnit) (rest : List CodeUnit) :
    packUnits (a :: b :: rest) = packPair a b :: packUnits rest := by
  rw [packUnits, packOnto, packOnto_eq]
  rfl

def wrap (code : Text) : Wrapper := { payload := .ofUnits (packUnits (normalize code).units) }

def encode (code : Text) : Text := (wrap code).render

def unpackPayload (payload : Text) : Text := unescape (mark (escape payload))

def decode (code : Text) : Text :=
  match payload? code with
  | some payload => unpackPayload payload
  | none => code.trim

theorem Wrapper.trim_render (w : Wrapper) : w.render.trim = w.render := by
  have starts : w.render.head? = some ('e' : CodePoint) := rfl
  have ends : w.render.getLast? = some (')' : CodePoint) := by
    rw [render, ending, List.getLast?_append, List.getLast?_append]
    rfl
  exact Text.trimWhere_of_ends starts ends (by decide) (by decide)

theorem payload?_render (w : Wrapper) : payload? w.render = some w.payload := by
  rw [payload?, Wrapper.trim_render, Wrapper.read?_render]
  rfl

theorem payload?_encode (code : Text) : payload? (encode code) = some (.ofUnits (packUnits (normalize code).units)) :=
  payload?_render (wrap code)

end Bytebeat.Packing
