import Bytebeat.Layout.Scan
import Bytebeat.Packing.Codec
import Bytebeat.Size.Label
import Bytebeat.Text.Utf8
import Bytebeat.Tool.Basic

namespace Bytebeat.Tool

def withText (args : Arguments) (name : Text) (next : Text → Execution) : Execution :=
  match args.get? name with
  | some (.text t) => next t
  | _ => { outcome := .error name.quoted }

def withFlag (args : Arguments) (name : Text) (next : Bool → Execution) : Execution :=
  match args.get? name with
  | some (.bool b) => next b
  | _ => { outcome := .error name.quoted }

def withValue (args : Arguments) (name : Text) (next : Value → Execution) : Execution :=
  match args.get? name with
  | some v => next v
  | none => { outcome := .error name.quoted }

def withLabel (size : Nat) (compact : Bool) (next : Text → Execution) : Execution :=
  match Size.label size compact with
  | .ok label => next label
  | .error e => { outcome := .error e.message }

def codeParameter (description : Text) : Parameter := { name := "code", kind := .text, description }

/-! ## Measure -/

def measure (code : Text) (compact : Bool) : Execution :=
  withLabel code.utf8Length compact fun label =>
    { outcome := .ok (.success [("bytes", .int code.utf8Length), ("label", .text label)]
        (some [("length", .int code.length)])) }

def codeSize : Tool where
  name := "code_size"
  className := "CodeSize"
  description := "Measure code size in UTF-8 bytes and return a label such as " ++
    "'2.93KiB (3.00KB)'. Sizes under 2000 bytes are shown as plain bytes."
  parameters := [codeParameter "Code to measure.",
    { name := "compact", kind := .bool, required := false, default := .bool false
      description := "Use the 'KiB/KB' form instead of 'KiB (KB)'. Default: false." }]
  execute args := withText args "code" fun code => withFlag args "compact" fun compact => measure code compact

/-! ## Lay out -/

def formatLog : Text := "tools.code.format_code"

def layOut (config : Layout.Config) (code : Text) : Execution :=
  match Layout.format config code with
  | .error i =>
    { outcome := .ok (.failure (.unbalanced i) (some [("reason", .text i.reason)]))
      notices := [⟨.info, formatLog, "format_code: " ++ i.reason⟩] }
  | .ok text =>
    let inserted : Int := text.occurrences '\n' - code.occurrences '\n'
    { outcome := .ok (.success [("code", .text text), ("changed", .bool (0 < inserted))]
        (some [("line_breaks_inserted", .int inserted)]))
      notices := [⟨.debug, formatLog, "format_code: inserted " ++ Text.ofInt inserted ++ " line break(s)"⟩] }

def formatCode : Tool where
  name := "format_code"
  className := "FormatCode"
  description := "Format terse bytebeat code by inserting a line break after each comma " ++
    "outside strings and arrays, at or above the allowed parenthesis depth. " ++
    "Fails with 'unbalanced array' or 'unbalanced parenthesis' when " ++
    "brackets do not match."
  parameters := [codeParameter "Source code to format.",
    { name := "consider_parens", kind := .bool, required := false, default := .bool true
      description := "Only split commas shallower than max_paren_depth + 1. Default: true." },
    { name := "max_paren_depth", kind := .int, required := false, default := .int 0
      description := "Deepest parenthesis level whose commas are split. Default: 0." }]
  execute args :=
    withText args "code" fun code => withValue args "consider_parens" fun considerParens =>
      withValue args "max_paren_depth" fun maxParenDepth =>
        match Layout.Config.ofValues considerParens maxParenDepth with
        | .error e => { outcome := .ok (.failure (.badConfig e) none) }
        | .ok config => layOut config code

/-! ## Pack -/

def packLog : Text := "tools.code.pack_code"

def hasCommaSpace : Text → Bool
  | c :: d :: rest => (c = ',' && d = ' ') || hasCommaSpace (d :: rest)
  | _ => false

/-- Pack code that is not packed, if unpacking gives its normal form back. -/
def pack (code : Text) : Execution :=
  if Packing.isPacked code then
    { outcome := .ok (.failure .alreadyPacked none)
      notices := [⟨.warning, packLog, "pack_code: refusing to pack code twice"⟩] }
  else
    let packed := Packing.encode code
    if Packing.decode packed ≠ Packing.normalize code then
      { outcome := .ok (.failure .notReversible none)
        notices := [⟨.warning, packLog, "pack_code: packed code does not round-trip, reverting"⟩] }
    else
      let progress : Notice := ⟨.info, packLog,
        "pack_code: " ++ Text.ofNat code.length ++ " -> " ++ Text.ofNat packed.length ++ " chars"⟩
      withLabel code.utf8Length false fun sourceSize => withLabel packed.utf8Length false fun packedSize =>
        { outcome := .ok (.success
            [("code", .text packed), ("original_size", .text sourceSize), ("packed_size", .text packedSize)]
            (some [("original_length", .int code.length), ("packed_length", .int packed.length),
              ("original_bytes", .int code.utf8Length), ("packed_bytes", .int packed.utf8Length),
              ("lossy", .bool (hasCommaSpace code))]))
          notices := [progress] }

def packCode : Tool where
  name := "pack_code"
  className := "PackCode"
  description := "Pack bytebeat code into an eval(unescape(escape`...`)) wrapper that " ++
    "stores two characters per code unit. Refuses code that is already " ++
    "packed and reverts when the packed code would not decode back."
  parameters := [codeParameter "Source code to pack."]
  execute args := withText args "code" pack

/-! ## Unpack -/

def unpackLog : Text := "tools.code.unpack_code"

def unpack (code : Text) : Execution :=
  let packed := Packing.isPacked code
  let unpacked := Packing.decode code
  { outcome := .ok (.success [("code", .text unpacked), ("changed", .bool packed)]
      (some [("packed_length", .int code.length), ("unpacked_length", .int unpacked.length)]))
    notices := [⟨.debug, unpackLog, "unpack_code: packed=" ++ (Value.bool packed).display⟩] }

def unpackCode : Tool where
  name := "unpack_code"
  className := "UnpackCode"
  description := "Unpack an eval(unescape(escape`...`)) wrapper produced by pack_code " ++
    "back into source code. Accepts backtick, ('...'), (\"...\") and " ++
    "(`...`) payloads; code that is not packed is returned trimmed."
  parameters := [codeParameter "Packed wrapper expression."]
  execute args := withText args "code" unpack

def builtin : List Tool := [codeSize, formatCode, packCode, unpackCode]

end Bytebeat.Tool
