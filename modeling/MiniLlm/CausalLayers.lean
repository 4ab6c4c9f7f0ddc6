import Mathlib.Data.List.TakeDrop
import Mathlib.Tactic.Common

/-!
# Sequences through a stack of layers

A layer makes an entry of each row, and a new row of each position from the
entries it looks at. The rows behind a stack of layers depend on no more of
the sequence than each layer looks at.
-/

set_option autoImplicit false

namespace MiniLlm

variable {X E : Type*}

structure CausalLayer (X E : Type*) where
  entry : X → E
  attend : ℕ → (ℕ → E) → X → X

namespace CausalLayer

def entries (layer : CausalLayer X E) (x : ℕ → X) : ℕ → E := fun t => layer.entry (x t)

def outputs (layer : CausalLayer X E) (x : ℕ → X) : ℕ → X := fun t =>
  layer.attend t (layer.entries x) (x t)

def through (layers : List (CausalLayer X E)) (x : ℕ → X) : ℕ → X :=
  layers.foldl (fun x layer => layer.outputs x) x

/-- How far a position looks; what it looks at looks no further. -/
structure Reach (reach : ℕ → ℕ) : Prop where
  self : ∀ t, t < reach t
  closed : ∀ s t, s < reach t → reach s ≤ reach t

def Within (reach : ℕ → ℕ) (layer : CausalLayer X E) : Prop :=
  ∀ t e e' x, (∀ s < reach t, e s = e' s) → layer.attend t e x = layer.attend t e' x

variable {reach : ℕ → ℕ} {x y : ℕ → X}

theorem outputs_congr (hr : Reach reach) {layer : CausalLayer X E} (h : layer.Within reach) {t : ℕ}
    (hxy : ∀ s < reach t, x s = y s) : ∀ s < reach t, layer.outputs x s = layer.outputs y s := by
  intro s hs
  have hlooks (u : ℕ) (hu : u < reach s) : layer.entries x u = layer.entries y u :=
    congrArg layer.entry (hxy u (Nat.lt_of_lt_of_le hu (hr.closed s t hs)))
  rw [outputs, outputs, hxy s hs, h s _ _ (y s) hlooks]

theorem through_congr (hr : Reach reach) (layers : List (CausalLayer X E))
    (h : ∀ layer ∈ layers, layer.Within reach) {t : ℕ} (hxy : ∀ s < reach t, x s = y s) :
    ∀ s < reach t, through layers x s = through layers y s := by
  induction layers generalizing x y with
  | nil => exact hxy
  | cons layer layers ih =>
    have hfirst := outputs_congr hr (h layer List.mem_cons_self) hxy
    exact ih (fun l hl => h l (List.mem_cons_of_mem layer hl)) hfirst

theorem through_succ (layers : List (CausalLayer X E)) {l : ℕ} {layer : CausalLayer X E}
    (hl : layers[l]? = some layer) :
    through (layers.take (l+1)) x = layer.outputs (through (layers.take l) x) := by
  rw [List.take_add_one, hl, through, List.foldl_append]
  rfl

end CausalLayer

end MiniLlm
