import Mathlib.Data.Set.Basic

/-! Layers that are drawn over each other, point by point. -/

set_option autoImplicit false

namespace Luma.Library

/-- What a layer makes of a point, given what is behind it. Where the layer is solid, that does not matter. -/
structure Layer (Point Color : Type) where
  draw : Point → Color → Color
  solid : Set Point
  hides : ∀ point ∈ solid, ∀ behind behind', draw point behind = draw point behind'

namespace Layer

variable {Point Color : Type}

/-- The layers from the front to the back, over a backdrop. -/
def compose : List (Layer Point Color) → Point → Color → Color
  | [], _, backdrop => backdrop
  | layer :: behind, point, backdrop => layer.draw point (compose behind point backdrop)

theorem compose_append (front behind : List (Layer Point Color)) (point : Point) (backdrop : Color) :
    compose (front ++ behind) point backdrop = compose front point (compose behind point backdrop) := by
  induction front with
  | nil => rfl
  | cons layer front ih =>
    rw [List.cons_append, compose, ih]
    rfl

/-- Behind a solid point everything may change. -/
theorem compose_hides {layers : List (Layer Point Color)} {point : Point} {layer : Layer Point Color}
    (there : layer ∈ layers) (solid : point ∈ layer.solid) (backdrop backdrop' : Color) :
    compose layers point backdrop = compose layers point backdrop' := by
  induction layers with
  | nil => cases there
  | cons front behind ih =>
    rcases List.mem_cons.mp there with rfl | farther
    · exact layer.hides point solid _ _
    · exact congrArg (front.draw point) (ih farther)

end Layer

end Luma.Library
