import ClusterMap.Proofs.Draw.Parts

/-!
# What a diagram consists of

The commands of a diagram are sorted by layer, and edges have the two lowest layers to themselves.
So a diagram begins with one connector for every edge, in the order of the edges; then come the
erasers, which paint over some of the connectors again; and then what the shapes of the nodes draw
(`Artist.exists_diagram_eq`).
-/

namespace ClusterMap

variable {α : Type}

/-! ### Splitting by layer -/

/-- What is sorted by layer begins with what lies at most on a layer. -/
theorem eq_filter_append_filter_of_sorted {l : List (DrawCommand α)}
    (h : l.Pairwise fun c d => c.layer ≤ d.layer) (layer : Int) :
    l = l.filter (fun c => decide (c.layer ≤ layer)) ++
      l.filter fun c => decide (layer < c.layer) := by
  induction l with
  | nil => rfl
  | cons c rest ih =>
    obtain ⟨hc, hrest⟩ := List.pairwise_cons.mp h
    by_cases hlayer : c.layer ≤ layer
    · rw [List.filter_cons_of_pos (by simpa using hlayer),
        List.filter_cons_of_neg (by simpa using hlayer), List.cons_append, ← ih hrest]
    · -- everything after a command above the layer is above the layer as well
      have habove : ∀ d ∈ c :: rest, layer < d.layer := by
        refine List.forall_mem_cons.mpr ⟨not_le.mp hlayer, fun d hd => ?_⟩
        exact (not_le.mp hlayer).trans_le (hc d hd)
      rw [List.filter_eq_nil_iff.mpr fun d hd => by simpa using habove d hd,
        List.filter_eq_self.mpr fun d hd => by simpa using habove d hd, List.nil_append]

variable [Scalar α]

/-! ### The commands of an edge -/

/-- The command that draws an edge. -/
def EdgePath.connector (theme : Theme α) (e : EdgePath α) : DrawCommand α where
  id := "edge:" ++ e.parent ++ "->" ++ e.child
  layer := edgeLayer
  primitive := .path e.points (e.style == .dashed)
  style := .line theme.edge theme.edgeWidth

/-- The command that paints over a connector: the same line, wider and in the colour of the
background. -/
def DrawCommand.eraser (theme : Theme α) (connector : DrawCommand α) : DrawCommand α :=
  { connector with
    id := connector.id ++ ":overlay"
    layer := edgeCoverLayer
    style := .line theme.background (theme.edgeWidth + theme.coverExtraWidth) }

/-- The erasers of an edge: one if it is to be hidden. -/
def EdgePath.erasers (theme : Theme α) (e : EdgePath α) : List (DrawCommand α) :=
  if e.style = .hiddenOverlay then [(e.connector theme).eraser theme] else []

namespace EdgePath

theorem draw_eq_cons (theme : Theme α) (e : EdgePath α) :
    e.draw theme = e.connector theme :: e.erasers theme := by
  obtain ⟨parent, child, style, points⟩ := e
  cases style <;> rfl

theorem layer_of_mem_erasers {theme : Theme α} {e : EdgePath α} {cmd : DrawCommand α}
    (h : cmd ∈ e.erasers theme) : cmd.layer = edgeCoverLayer := by
  unfold erasers at h
  split at h
  · obtain rfl := List.mem_singleton.mp h
    rfl
  · exact absurd h List.not_mem_nil

theorem layer_of_mem_draw {theme : Theme α} {e : EdgePath α} {cmd : DrawCommand α}
    (h : cmd ∈ e.draw theme) : cmd.layer = edgeLayer ∨ cmd.layer = edgeCoverLayer := by
  rw [draw_eq_cons] at h
  rcases List.mem_cons.mp h with rfl | h
  · exact .inl rfl
  · exact .inr (layer_of_mem_erasers h)

/-- Of the commands of an edge, the connector is the one on the lower layer. -/
theorem filter_edgeLayer_draw (theme : Theme α) (e : EdgePath α) :
    (e.draw theme).filter (fun cmd => decide (cmd.layer ≤ edgeLayer)) = [e.connector theme] := by
  rw [draw_eq_cons, List.filter_cons_of_pos (by exact decide_eq_true (le_refl edgeLayer)),
    List.filter_eq_nil_iff.mpr fun cmd hcmd => ?_]
  rw [layer_of_mem_erasers hcmd]
  decide

/-- Of the commands of an edge, the erasers are those on the upper layer. -/
theorem filter_edgeCoverLayer_draw (theme : Theme α) (e : EdgePath α) :
    (e.draw theme).filter (fun cmd => decide (cmd.layer ≤ edgeCoverLayer) &&
      decide (edgeLayer < cmd.layer)) = e.erasers theme := by
  have hconnector : ¬ edgeLayer < (e.connector theme).layer := lt_irrefl edgeLayer
  rw [draw_eq_cons, List.filter_cons_of_neg fun h => hconnector (by
    exact of_decide_eq_true (Bool.and_eq_true_iff.mp h).2)]
  refine List.filter_eq_self.mpr fun cmd hcmd => ?_
  rw [layer_of_mem_erasers hcmd]
  decide

end EdgePath

/-! ### The commands of a node -/

namespace Shape

theorem map_layer_cardCommands (c : ShapeContext α) (card : Card α) :
    ∃ layers ⊆ [boxLayer, contentLayer, affixLayer],
      (cardCommands c card).map (·.layer) = layers := by
  obtain ⟨size, subtitle, appearance, showActions⟩ := card
  cases subtitle <;> cases showActions
  · exact ⟨boxLayer :: List.replicate 4 contentLayer, by decide, rfl⟩
  · exact ⟨boxLayer :: List.replicate 4 contentLayer ++ [affixLayer], by decide, rfl⟩
  · exact ⟨boxLayer :: List.replicate 5 contentLayer, by decide, rfl⟩
  · exact ⟨boxLayer :: List.replicate 5 contentLayer ++ [affixLayer], by decide, rfl⟩

/-- The commands of a shape lie above those of the edges. -/
theorem edgeCoverLayer_lt_of_mem_draw {k : Kind} {c : ShapeContext α} {cmd : DrawCommand α}
    (h : cmd ∈ (draw k c).commands) : edgeCoverLayer < cmd.layer := by
  have habove : ∀ layer ∈ [boxLayer, contentLayer, affixLayer], edgeCoverLayer < layer := by decide
  obtain ⟨card, h | h⟩ := mem_commands_draw h
  · obtain ⟨layers, hsub, hmap⟩ := map_layer_cardCommands c card
    exact habove _ (hsub (hmap ▸ List.mem_map_of_mem h))
  · have hmap : (toggle c card.size).commands.map (·.layer) = List.replicate 3 affixLayer := rfl
    have hlayer : cmd.layer = affixLayer :=
      List.eq_of_mem_replicate (hmap ▸ List.mem_map_of_mem h)
    rw [hlayer]
    decide

end Shape

/-! ### The whole diagram -/

namespace Artist

variable {a : Artist α} {s : Scene α}

/-- Commands of nodes lie above those of edges. -/
theorem edgeCoverLayer_lt_of_mem_shapes {cmd : DrawCommand α}
    (h : cmd ∈ (a.shapes s).flatMap (·.commands)) : edgeCoverLayer < cmd.layer := by
  obtain ⟨shape, hshape, hcmd⟩ := List.mem_flatMap.mp h
  obtain ⟨p, -, hdraw⟩ := List.mem_filterMap.mp hshape
  obtain ⟨c, rfl⟩ := exists_of_shapeOf? hdraw
  exact Shape.edgeCoverLayer_lt_of_mem_draw hcmd

/-- What lies on one of the layers of edges comes from edges, in their order. -/
theorem filter_diagram {q : DrawCommand α → Bool} {layer : Int}
    (hq : ∀ cmd, q cmd → cmd.layer ≤ edgeCoverLayer)
    (hlayer : ∀ cmd, cmd.layer = edgeLayer ∨ cmd.layer = edgeCoverLayer → q cmd →
      cmd.layer = layer) :
    (a.diagram s).filter q = s.layout.edges.flatMap fun e => (e.draw a.theme).filter q := by
  have hnodes : ∀ cmd ∈ (a.shapes s).flatMap (·.commands), ¬ q cmd := by
    intro cmd hcmd hqcmd
    exact absurd (hq cmd hqcmd) (not_le.mpr (edgeCoverLayer_lt_of_mem_shapes hcmd))
  have hone : ∀ cmd ∈ s.layout.edges.flatMap (EdgePath.draw a.theme) ++
      (a.shapes s).flatMap (·.commands), q cmd → cmd.layer = layer := by
    intro cmd hcmd hqcmd
    rcases List.mem_append.mp hcmd with hcmd | hcmd
    · obtain ⟨e, -, hcmd⟩ := List.mem_flatMap.mp hcmd
      exact hlayer cmd (EdgePath.layer_of_mem_draw hcmd) hqcmd
    · exact absurd hqcmd (hnodes cmd hcmd)
  rw [diagram, filter_mergeSort hone, List.filter_append, List.filter_eq_nil_iff.mpr hnodes,
    List.append_nil, List.filter_flatMap]

/-- **A diagram consists of connectors, erasers and what the nodes draw**, in this order: there is
one connector for every edge, and an eraser for every edge that is to be hidden. -/
theorem exists_diagram_eq (a : Artist α) (s : Scene α) : ∃ cards,
    a.diagram s = s.layout.edges.map (EdgePath.connector a.theme) ++
      s.layout.edges.flatMap (EdgePath.erasers a.theme) ++ cards ∧
    ∀ cmd ∈ cards, ∃ shape ∈ a.shapes s, cmd ∈ shape.commands := by
  have hsorted : (a.diagram s).Pairwise fun c d => c.layer ≤ d.layer :=
    (List.pairwise_mergeSort layer_le_trans layer_le_total _).imp fun h => of_decide_eq_true h
  have hlt : edgeLayer < edgeCoverLayer := by decide
  -- the lower layer of the edges, the upper one, and everything above
  have hconnectors : (a.diagram s).filter (fun cmd => decide (cmd.layer ≤ edgeLayer)) =
      s.layout.edges.map (EdgePath.connector a.theme) := by
    have hlayer : ∀ cmd : DrawCommand α, cmd.layer = edgeLayer ∨ cmd.layer = edgeCoverLayer →
        decide (cmd.layer ≤ edgeLayer) → cmd.layer = edgeLayer := by
      intro cmd hcmd hlow
      have hlow : cmd.layer ≤ edgeLayer := of_decide_eq_true hlow
      exact hcmd.resolve_right fun hcover => absurd (hcover ▸ hlow) (not_le.mpr hlt)
    rw [filter_diagram (fun cmd h => (of_decide_eq_true h).trans hlt.le) hlayer,
      List.map_eq_flatMap]
    exact congrArg (s.layout.edges.flatMap ·) (funext (EdgePath.filter_edgeLayer_draw a.theme))
  have herasers : ((a.diagram s).filter fun cmd => decide (edgeLayer < cmd.layer)).filter
      (fun cmd => decide (cmd.layer ≤ edgeCoverLayer)) =
      s.layout.edges.flatMap (EdgePath.erasers a.theme) := by
    have hlayer : ∀ cmd : DrawCommand α, cmd.layer = edgeLayer ∨ cmd.layer = edgeCoverLayer →
        (decide (cmd.layer ≤ edgeCoverLayer) && decide (edgeLayer < cmd.layer)) →
        cmd.layer = edgeCoverLayer := by
      intro cmd hcmd hup
      have hup : edgeLayer < cmd.layer := of_decide_eq_true (Bool.and_eq_true_iff.mp hup).2
      exact hcmd.resolve_left fun hedge => absurd (hedge ▸ hup) (lt_irrefl edgeLayer)
    rw [List.filter_filter,
      filter_diagram (fun cmd h => of_decide_eq_true (Bool.and_eq_true_iff.mp h).1) hlayer]
    exact congrArg (s.layout.edges.flatMap ·)
      (funext (EdgePath.filter_edgeCoverLayer_draw a.theme))
  refine ⟨((a.diagram s).filter fun cmd => decide (edgeLayer < cmd.layer)).filter
    fun cmd => decide (edgeCoverLayer < cmd.layer), ?_, fun cmd hcmd => ?_⟩
  · rw [← hconnectors, ← herasers, List.append_assoc,
      ← eq_filter_append_filter_of_sorted (hsorted.filter _),
      ← eq_filter_append_filter_of_sorted hsorted]
  · obtain ⟨hcmd, habove⟩ := List.mem_filter.mp hcmd
    have hmem := List.mem_mergeSort.mp (List.mem_filter.mp hcmd).1
    rcases List.mem_append.mp hmem with hmem | hmem
    · -- edges do not reach above their layers
      obtain ⟨e, -, hmem⟩ := List.mem_flatMap.mp hmem
      have habove : edgeCoverLayer < cmd.layer := of_decide_eq_true habove
      rcases EdgePath.layer_of_mem_draw hmem with hlayer | hlayer
      · exact absurd (hlayer ▸ habove) (not_lt.mpr hlt.le)
      · exact absurd (hlayer ▸ habove) (lt_irrefl edgeCoverLayer)
    · exact List.mem_flatMap.mp hmem

end Artist

end ClusterMap
