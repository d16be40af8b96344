import Whereabouts.Config
import Whereabouts.Enrich.Batch
import Whereabouts.GeoJson.File
import Whereabouts.GeoJson.Layers
import Whereabouts.Geometry.Ellipsoid.Area

/-!
# Pipelines

The map data of a configuration, loaded from its files, and the enricher that works with it.
-/

namespace Whereabouts

/-- Why a pipeline was not loaded. -/
inductive PipelineError where
  | data (cause : GeoJson.LoadError)
  | routing (cause : ServiceError)
deriving DecidableEq, Repr

def PipelineError.message : PipelineError → String
  | .data cause => cause.message
  | .routing cause => cause.message

/-- Map data and an enricher on it. -/
structure Pipeline (m : Type → Type) where
  data : MapData Float
  enricher : Enricher m Float

namespace Pipeline

/-- Loads the three layers. `contents` gives what is in a file, if there is one. -/
def loadData (files : DataFiles) (contents : String → Option (List UInt8)) :
    Except GeoJson.LoadError (MapData Float) := do
  let boundaries ← GeoJson.readCollection files.boundaries (contents files.boundaries)
  let stops ← GeoJson.readCollection files.stops (contents files.stops)
  let lines ← GeoJson.readCollection files.lines (contents files.lines)
  return MapData.ofFeatures (GeoJson.boundaries boundaries) (GeoJson.stops stops)
    (GeoJson.lines lines)

variable {m : Type → Type} [Monad m]

/-- The pipeline on map data; `get` asks an address on the web. -/
def ofData (config : Config) (data : MapData Float) (get : Url → m (Option WebResponse)) :
    Except PipelineError (Pipeline m) := do
  let service ← (config.routing.mapM TableService.ofConfig).mapError .routing
  return ⟨data, data.gateway m, config.matcher, service.map fun s => s.router get⟩

def load (config : Config) (contents : String → Option (List UInt8))
    (get : Url → m (Option WebResponse)) : Except PipelineError (Pipeline m) := do
  ofData config (← (loadData config.data contents).mapError .data) get

end Pipeline

end Whereabouts
