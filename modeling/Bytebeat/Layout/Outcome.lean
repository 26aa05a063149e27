import Bytebeat.Value

namespace Bytebeat.Layout

inductive Imbalance where
  | array
  | parenthesis
  deriving DecidableEq

namespace Imbalance

def reason : Imbalance → Text
  | array => "unbalanced array"
  | parenthesis => "unbalanced parenthesis"

def all : List Imbalance := [array, parenthesis]

def ofReason? (t : Text) : Option Imbalance := all.find? (·.reason = t)

theorem ofReason?_reason (i : Imbalance) : ofReason? i.reason = some i := by
  cases i <;> decide

end Imbalance

abbrev Outcome := Except Imbalance Text

inductive OutcomeError where
  | missingText
  | unexpectedReason
  | unexpectedText
  | unknownReason (got : Option Text)
  deriving DecidableEq

def OutcomeError.message : OutcomeError → Text
  | missingText => "successful FormatResult requires text"
  | unexpectedReason => "successful FormatResult cannot carry a reason"
  | unexpectedText => "failed FormatResult cannot carry text"
  | unknownReason got =>
    "reason must be one of " ++ (Value.list (Imbalance.all.map (.text ·.reason))).display ++ ", got "
      ++ (got.elim Value.null .text).display

namespace Outcome

def text? : Outcome → Option Text
  | .ok t => some t
  | .error _ => none

def reason? : Outcome → Option Text
  | .ok _ => none
  | .error i => some i.reason

def ofParts (ok : Bool) (text reason : Option Text) : Except OutcomeError Outcome :=
  match ok, text, reason with
  | true, none, _ => .error .missingText
  | true, some _, some _ => .error .unexpectedReason
  | true, some t, none => .ok (.ok t)
  | false, some _, _ => .error .unexpectedText
  | false, none, reason =>
    match reason.bind Imbalance.ofReason? with
    | some i => .ok (.error i)
    | none => .error (.unknownReason reason)

end Outcome
end Bytebeat.Layout
