import SpotForecast.Pipeline
import SpotForecast.Registry

/-!
# Forecast services

A service makes forecasts for the categories of a registry and for no others; it does not fetch
anything for those.  `Service.fixedForecast` is the answer of a service that has no model.
-/

namespace SpotForecast

/-- A pipeline and the categories that it is used for. -/
structure Service where
  pipeline : Pipeline
  registry : Registry
deriving DecidableEq

namespace Service

/-- Whether a service makes forecasts for a category. -/
def supports (s : Service) (category : String) : Bool :=
  s.registry.contains category

/-- The forecast of a service. -/
def forecast {m : Type → Type} [Monad m] (s : Service) (fetch : Fetch m) (category : String)
    (generatedAt : Instant) : m (Except (Stop ForecastFault) Forecast) :=
  if s.supports category then s.pipeline.forecast fetch category generatedAt
  else pure (.error (.fault (.unsupportedCategory category)))

/-- The only category of the service without a model. -/
def fixedCategory : String := "dummy__category"

/-- The start of 2021. -/
def fixedTime : Instant := Instant.ofSeconds 1609459200

/-- The answer of the service without a model, whatever it is asked for. -/
def fixedForecast : Forecast := ⟨9.9, 9.9, fixedTime, 7, fixedCategory⟩

end Service

end SpotForecast
