import Whereabouts.Pipeline
import Whereabouts.Program.Arguments

/-!
# Failures of the programs

Why a program stops, the text that it prints then, and its exit code.
-/

namespace Whereabouts.Program

/-- Why a program stops. -/
inductive Failure where
  | usage (cause : Usage)
  | config (cause : ConfigError)
  | noInstances
  | pipeline (cause : PipelineError)
  | broker (cause : BrokerError)
  | cannotOpen (path : String)
  | cannotRead (path : String)
  | cannotCreate (path : String)
  | badAddress
deriving DecidableEq, Repr

namespace Failure

def message : Failure → String
  | .usage cause => cause.message
  | .config cause => cause.message
  | .noInstances => "--instances must be positive"
  | .pipeline cause => cause.message
  | .broker cause => cause.message
  | .cannotOpen path => "Failed to open " ++ path
  | .cannotRead path => "Failed to read " ++ path
  | .cannotCreate path => "Failed to create " ++ path
  | .badAddress => "invalid socket address syntax"

def exitCode : Failure → Nat
  | .usage .help => 0
  | .usage _ => 2
  | _ => 1

end Failure

/-- The contents of files by their paths, missing where there is no such file. -/
abbrev Files := String → Option (List UInt8)

/-- The name of the configuration where none is given. -/
def defaultConfig : String := "whereabouts.toml"

def configOption : Opt := ⟨"config", some 'c', .path⟩

def loadConfig (path : String) (files : Files) : Except Failure Config :=
  (Config.ofFile path (files path)).mapError .config

def loadPipeline {m : Type → Type} [Monad m] (config : Config) (files : Files)
    (get : Url → m (Option WebResponse)) : Except Failure (Pipeline m) :=
  (Pipeline.load config files get).mapError .pipeline

end Whereabouts.Program
