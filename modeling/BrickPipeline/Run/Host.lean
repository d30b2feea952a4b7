import BrickPipeline.Brick.Registry
import BrickPipeline.Schema

/-!
Hosts: the bricks that pipelines can run, how their arguments are rendered and checked, and where
alerts go.
-/
namespace BrickPipeline

/-- A channel for deployment alerts: what it writes to the log, and the failure to deliver. It may
look at how far the run has come, so of two equal alerts one can be delivered and the other not. -/
structure Alerter (σ : Type) where
  entries : Alert → List Log.Entry
  failure : σ → Alert → Option Error

namespace Alerter

variable {σ : Type}

def silent : Alerter σ := ⟨fun _ => [], fun _ _ => none⟩

def logged : Alerter σ :=
  ⟨fun alert => [⟨.error, "Deployment alert",
      [("brick_id", .string alert.brickId.text), ("deployment_id", .string alert.deploymentId),
        ("error", .string alert.error.render)]⟩],
    fun _ _ => none⟩

def failing (error : Error) : Alerter σ := ⟨fun _ => [], fun _ _ => some error⟩

end Alerter

/-- The wiring of a host: its bricks and how arguments are rendered, checked and alerts sent. -/
structure Host (σ : Type) where
  registry : Registry σ
  renderers : Renderers
  validator : Validator
  alerter : Alerter σ

namespace Host

variable {σ : Type}

def ofRegistry (registry : Registry σ) : Host σ :=
  ⟨registry, .standard, Schema.violations, .silent⟩

end Host
end BrickPipeline
