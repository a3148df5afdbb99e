import ClusterMap.Proofs.Draw.Regions
import ClusterMap.Proofs.Session.Change

/-!
# What a session keeps is never stale

A session keeps the layout of its tree, the transform of the layout, and, between two changes of
what is on the screen, the areas of the last frame. `Session.Fresh` says that all three are what
they would be if they were worked out anew; every call keeps it (`Session.fresh_invariant`), and so
it holds after any run.

The delicate part are the areas. A change that leaves them in place must leave the open menu, the
viewport and the diagram in place as well, and it may move the pointer and the focus and may let a
tooltip come up.
-/

namespace ClusterMap

namespace Session

variable {α : Type} [Scalar α]

/-- All that is kept is as it would be if it were worked out now. -/
structure Fresh (s : Session α) : Prop where
  layout : s.layout = Layout.ofTree s.config s.tree
  transform : s.transform = Transform.fit s.layout s.view.viewport s.config
  /-- The areas may have been dropped. -/
  regions : s.regions = none ∨ s.regions = some s.freshRegions

namespace Fresh

variable {s : Session α}

/-- What is laid out and fitted anew is fresh, whatever it was before. -/
theorem of_settled (s : Session α) (mode : Mode α) : (s.settled mode).Fresh :=
  ⟨rfl, rfl, Or.inl rfl⟩

theorem currentRegions_eq (h : s.Fresh) : s.currentRegions = s.freshRegions := by
  unfold currentRegions
  rcases h.regions with hr | hr
  · rw [hr, Option.getD_none]
  · rw [hr, Option.getD_some]

/-- A change of the view that leaves the open menu and the viewport in place may keep the areas. -/
theorem of_view (h : s.Fresh) {view : ViewState α} (hmenu : view.openMenu? = s.view.openMenu?)
    (hviewport : view.viewport = s.view.viewport) : Fresh { s with view } := by
  have hregions : freshRegions { s with view } = s.freshRegions :=
    Artist.hitRegions_congr rfl rfl rfl hmenu hviewport
  refine ⟨h.layout, ?_, ?_⟩
  · change s.transform = Transform.fit s.layout view.viewport s.config
    rw [hviewport]
    exact h.transform
  · rw [hregions]
    exact h.regions

theorem withRegions (h : s.Fresh) : s.withRegions.Fresh :=
  ⟨h.layout, h.transform, Or.inr (congrArg some h.currentRegions_eq)⟩

theorem setMode (h : s.Fresh) (mode : Mode α) : (s.setMode mode).Fresh :=
  ⟨h.layout, h.transform, Or.inl rfl⟩

end Fresh

/-- A new session is fresh. -/
theorem fresh_start (threshold : Nat) (config : LayoutConfig α) (artist : Artist α)
    (requested : Option String) (viewport : Viewport α) :
    (Session.start threshold config artist requested viewport).Fresh :=
  ⟨rfl, rfl, Or.inl rfl⟩

/-- **Every call keeps a session fresh.** -/
theorem fresh_invariant : Invariant (Fresh (α := α)) where
  change h hc := by
    cases hc with
    | pointer pointer => exact h.of_view rfl rfl
    | focused id => exact h.of_view rfl rfl
    | lookUp => exact h.withRegions
    | frame => exact ⟨h.layout, h.transform, Or.inr rfl⟩
    | hover p id hmenu hid =>
      -- a tooltip comes up without the areas being dropped: none of them is its own
      refine h.of_view ?_ rfl
      rw [hmenu]
      rfl
    | rest => exact h.setMode .idle
    | refit viewport fullscreen p => exact ⟨h.layout, rfl, Or.inl rfl⟩
    | toggle id flag view tree mode htoggle hmode => exact .of_settled _ mode
    | expand s₁ p hexp => exact .of_settled s₁ _
  opened h _ := h.withRegions.setMode _
  taken _ _ _ _ := .of_settled _ _

/-- **What is kept is never stale.** After any calls to a new session the layout is that of the
tree, the transform that of the layout, and the areas, unless they have been dropped, those of a
frame drawn now. -/
theorem kept_eq_recomputed (threshold : Nat) (config : LayoutConfig α) (artist : Artist α)
    (requested : Option String) (viewport : Viewport α) (calls : List (Call α)) :
    let s := (Session.start threshold config artist requested viewport).run calls
    s.layout = Layout.ofTree config s.tree ∧
      s.transform = Transform.fit s.layout s.view.viewport config ∧
      ∀ sequence, s.regions = none ∨ s.regions =
        some (artist.draw ⟨s.tree, s.layout, s.transform, s.view⟩ sequence).hitRegions := by
  intro s
  have hfresh : s.Fresh :=
    fresh_invariant.run (fresh_start threshold config artist requested viewport) calls
  have hsame : SameSettings (Session.start threshold config artist requested viewport) s :=
    sameSettings_run _ calls
  have hconfig : s.config = config := hsame.config
  have hartist : s.artist = artist := hsame.artist
  refine ⟨hconfig ▸ hfresh.layout, hconfig ▸ hfresh.transform, fun sequence => ?_⟩
  -- the areas of a frame do not hang on its number
  have hregions := hfresh.regions
  rw [freshRegions, hartist] at hregions
  exact hregions

end Session

end ClusterMap
