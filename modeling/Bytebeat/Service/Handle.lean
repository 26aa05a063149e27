import Bytebeat.Service.Framework
import Bytebeat.Service.State

namespace Bytebeat.Service.State

variable (f : Framework)

def withSettings (s : State) (handle : State → Settings → State × Reply) : State × Reply :=
  match s.requestSettings with
  | .error _ => (s.load, f.write (.error .broken))
  | .ok (settings, s) => handle s settings

def callRoute (s : State) (payload : Payload) : Route → State × Reply
  | .format => s.withSettings f fun s settings =>
    let (formatter, s) := s.getFormatter settings
    let result := f.checkFormat payload >>= formatCode settings formatter.value
    (s, f.write (result.map FormatReply.toValue))
  | .pack => s.withSettings f fun s settings =>
    let result := f.checkCode payload >>= packCode settings
    (s, f.write (result.map PackReply.toValue))
  | .unpack => s.withSettings f fun s settings =>
    let result := f.checkCode payload >>= unpackCode settings
    (s, f.write (result.map UnpackReply.toValue))
  | .measure => s.withSettings f fun s settings =>
    let result := f.checkSize payload >>= measureCode settings
    (s, f.write (result.map SizeReply.toValue))
  | .call => s.withSettings f fun s settings =>
    match f.checkCall payload with
    | .error refusal => (s, f.write (.error refusal))
    | .ok request =>
      let (registry, s) := s.getRegistry
      (s, f.write ((callTool settings registry.value request).map CallReply.toValue))
  | .list =>
    let (registry, s) := s.getRegistry
    (s, f.write (.ok (.list registry.value.describe)))
  | .health => (s, f.write (.ok (.dict [("status", .text "ok")])))

def handle (s : State) (r : Request) (f : Framework := .standard) : State × Reply :=
  match f.dispatch r with
  | .error reply => (s, reply)
  | .ok (route, payload) =>
    let (s, reply) := s.callRoute f payload route
    (s, f.finish r reply)

end Bytebeat.Service.State
