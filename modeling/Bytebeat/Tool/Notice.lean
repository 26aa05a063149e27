import Bytebeat.Text.Basic

namespace Bytebeat

inductive Level where
  | debug
  | info
  | warning
  | error
  deriving DecidableEq

namespace Level

def name : Level → Text
  | debug => "DEBUG"
  | info => "INFO"
  | warning => "WARNING"
  | error => "ERROR"

def rank : Level → Nat
  | debug => 0
  | info => 1
  | warning => 2
  | error => 3

end Level

structure Notice where
  level : Level
  source : Text
  message : Text
  deriving DecidableEq

namespace Notice

def line (n : Notice) : Text := n.level.name ++ " " ++ n.source ++ ": " ++ n.message ++ "\n"

def log (least : Level) (notices : List Notice) : Text :=
  (notices.filter fun n => least.rank ≤ n.level.rank).flatMap line

end Notice
end Bytebeat
