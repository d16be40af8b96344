import Whereabouts.Program.Failure
import Whereabouts.Service
import Whereabouts.Url.Host

/-!
# The server

Serves a pipeline on the web.
-/

namespace Whereabouts.Program

/-- The command line of the server. -/
structure ServerOptions where
  listen : String
  config : String
deriving Repr

namespace ServerOptions

def options : List Opt := [⟨"listen", some 'l', .text⟩, configOption]

def ofLine (line : List String) : Except Usage ServerOptions := do
  let given ← arguments options line
  return ⟨(given.get? "listen").getD "0.0.0.0:3000", (given.get? "config").getD defaultConfig⟩

end ServerOptions

/-- Whether a text is an address with the number of a socket that can be listened on. -/
def isSocketAddress (s : String) : Bool :=
  let (host, socket) := Url.splitSocket s.toList
  match socket with
  | _ :: digits =>
    !digits.isEmpty && Url.isSocket socket
      && (Url.isBracketed host
        || ((Text.pieces (· == '.') host).length == 4
          && (Text.pieces (· == '.') host).all Url.isOctet))
  | [] => false

def serverPipeline {m : Type → Type} [Monad m] (line : List String) (files : Files)
    (get : Url → m (Option WebResponse)) : Except Failure (ServerOptions × Pipeline m) := do
  let options ← (ServerOptions.ofLine line).mapError .usage
  let pipeline ← loadPipeline (← loadConfig options.config files) files get
  if isSocketAddress options.listen then return (options, pipeline) else throw .badAddress

end Whereabouts.Program
