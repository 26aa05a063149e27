import Bytebeat.Size.Binary64
import Bytebeat.Text.Digit

namespace Bytebeat.Size

structure Scale where
  base : Nat
  units : List Text

def binary : Scale := ⟨1024, ["B", "KiB", "MiB", "GiB", "TiB"]⟩

def decimal : Scale := ⟨1000, ["B", "KB", "MB", "GB", "TB"]⟩

def plainLimit : Nat := 2000

inductive LabelError where
  | negative (size : Int)
  | tooLarge
  deriving DecidableEq

def LabelError.message : LabelError → Text
  | negative size => Text.endingWith "size must be non-negative, got " size
  | tooLarge => "integer division result too large for a float"

def climb (base size power : Nat) : List Text → Nat
  | [] => power
  | _ :: above => if base.pow (power + 1) ≤ size then climb base size (power + 1) above else power

def Scale.power (scale : Scale) (size : Nat) : Nat := climb scale.base size 0 scale.units.tail

def hundredths (n : Nat) : Text := Text.ofNat (n / 100) ++ "." ++ Text.ofNat (n / 10 % 10) ++ Text.ofNat (n % 10)

def Scale.render? (scale : Scale) (size : Nat) : Option Text :=
  let power := scale.power size
  let name := scale.units.getD power []
  if power = 0 then some (Text.ofNat size ++ name)
  else (Binary64.ofQuotient? size (scale.base.pow power)).map fun x => hundredths (x.roundTimes 100) ++ name

def label (size : Int) (compact : Bool := false) : Except LabelError Text :=
  if size < 0 then .error (.negative size)
  else if size < plainLimit then .ok (Text.ofInt size ++ "B")
  else
    match binary.render? size.toNat, decimal.render? size.toNat with
    | some b, some d => .ok (if compact then b ++ "/" ++ d else b ++ " (" ++ d ++ ")")
    | _, _ => .error .tooLarge

end Bytebeat.Size
