import ClusterMap.Tree.Basic
import Mathlib.Data.List.Nodup

/-!
# Walks over a tree

The walks and searches of `Node` recurse over a node and over a list of nodes together. Here each of
them is tied to the list of descendants in pre-order, so that what follows can reason about lists:

* `find?_eq` — a search finds the first of the descendants with the identifier;
* `descendants_mapInfo`, `find?_mapInfo` — changing what the nodes hold commutes with walking and
  with searching, as long as identifiers stay;
* `modify?_induction` — the one induction over the replacement of a node. What a replacement keeps
  is proven from it in four cases: at the node, above it, beside it on the right and on the left.
-/

namespace ClusterMap

/-- Where the keys of a list are different, a search by its key finds every element. -/
theorem find?_of_nodup_map {β : Type} {key : β → String} {l : List β} (hl : (l.map key).Nodup)
    {b : β} (hb : b ∈ l) : l.find? (key · == key b) = some b := by
  have hsome : (l.find? (key · == key b)).isSome := List.find?_isSome.mpr ⟨b, hb, by simp⟩
  obtain ⟨b', hb'⟩ := Option.isSome_iff_exists.mp hsome
  have hkey : key b' = key b := by simpa using List.find?_some hb'
  rw [hb', List.inj_on_of_nodup_map hl (List.mem_of_find?_eq_some hb') hb hkey]

namespace Node

@[simp] theorem id_mk (i : NodeInfo) (cs : List Node) : (Node.mk i cs).id = i.id := rfl

/-! ### Searching -/

mutual
/-- A search finds the first of the descendants with the identifier. -/
theorem find?_eq (id : String) : ∀ n : Node, n.find? id = n.descendants.find? (·.id == id)
  | ⟨i, cs⟩ => by
    rw [find?, descendants, findIn?_eq id cs]
    by_cases h : i.id = id
    · rw [if_pos h, List.find?_cons_of_pos (by simpa using h)]
    · rw [if_neg h, List.find?_cons_of_neg (by simpa using h)]
/-- A search in a list finds the first of all descendants with the identifier. -/
theorem findIn?_eq (id : String) :
    ∀ ns : List Node, findIn? id ns = (descendantsOf ns).find? (·.id == id)
  | [] => rfl
  | n :: rest => by
    rw [findIn?, descendantsOf, List.find?_append, find?_eq id n, findIn?_eq id rest]
end

theorem id_of_find? {id : String} {n m : Node} (h : n.find? id = some m) : m.id = id := by
  rw [find?_eq] at h
  simpa using List.find?_some h

theorem mem_descendants_of_find? {id : String} {n m : Node} (h : n.find? id = some m) :
    m ∈ n.descendants := by
  rw [find?_eq] at h
  exact List.mem_of_find?_eq_some h

theorem isSome_find?_iff {id : String} {n : Node} :
    (n.find? id).isSome ↔ id ∈ n.descendants.map Node.id := by
  rw [find?_eq, List.find?_isSome, List.mem_map]
  simp only [beq_iff_eq]

mutual
/-- What is visible is there. -/
theorem visible_sublist : ∀ n : Node, n.visible.Sublist n.descendants
  | ⟨i, cs⟩ => by
    rw [visible, descendants]
    refine List.Sublist.cons_cons _ ?_
    split
    · exact List.nil_sublist _
    · exact visibleOf_sublist cs
theorem visibleOf_sublist : ∀ ns : List Node, (visibleOf ns).Sublist (descendantsOf ns)
  | [] => List.Sublist.refl _
  | n :: rest => (visible_sublist n).append (visibleOf_sublist rest)
end

/-- A node itself is visible, and comes first. -/
theorem visible_eq_cons (n : Node) : n.visible = n :: n.visible.tail := by
  obtain ⟨i, cs⟩ := n
  rw [visible, List.tail_cons]

/-- What is visible is found. -/
theorem exists_find?_of_visible {id : String} {n : Node} (h : id ∈ n.visibleIds) :
    ∃ m, n.find? id = some m :=
  Option.isSome_iff_exists.mp (isSome_find?_iff.mpr (((visible_sublist n).map _).subset h))

/-! ### Changing what nodes hold -/

section MapInfo

variable {f : NodeInfo → NodeInfo}

@[simp] theorem info_mapInfo (n : Node) : (n.mapInfo f).info = f n.info := by
  obtain ⟨i, cs⟩ := n
  rfl

/-- A change that keeps identifiers keeps that of the node. -/
theorem id_mapInfo (hf : ∀ i, (f i).id = i.id) (n : Node) : (n.mapInfo f).id = n.id := by
  rw [Node.id, info_mapInfo, hf]
  rfl

/-- Changing every node of a list is changing each of them. -/
theorem mapInfoOf_eq_map (ns : List Node) : mapInfoOf f ns = ns.map (mapInfo f) := by
  induction ns with
  | nil => rfl
  | cons n rest ih => rw [mapInfoOf, ih, List.map_cons]

mutual
/-- Changing every node changes the descendants one by one. -/
theorem descendants_mapInfo (f : NodeInfo → NodeInfo) :
    ∀ n : Node, (n.mapInfo f).descendants = n.descendants.map (mapInfo f)
  | ⟨i, cs⟩ => by
    rw [mapInfo, descendants, descendants, List.map_cons, mapInfo, descendantsOf_mapInfoOf f cs]
/-- Changing every node of a list changes their descendants one by one. -/
theorem descendantsOf_mapInfoOf (f : NodeInfo → NodeInfo) :
    ∀ ns : List Node, descendantsOf (mapInfoOf f ns) = (descendantsOf ns).map (mapInfo f)
  | [] => rfl
  | n :: rest => by
    rw [mapInfoOf, descendantsOf, descendantsOf, List.map_append, descendants_mapInfo f n,
      descendantsOf_mapInfoOf f rest]
end

/-- A change that keeps identifiers does not change what a search finds. -/
theorem find?_mapInfo (hf : ∀ i, (f i).id = i.id) (id : String) (n : Node) :
    (n.mapInfo f).find? id = (n.find? id).map (mapInfo f) := by
  -- the test of the search does not see the change
  have hid : (fun m : Node => m.id == id) ∘ mapInfo f = fun m : Node => m.id == id := by
    funext m
    exact congrArg (· == id) (id_mapInfo hf m)
  rw [find?_eq, find?_eq, descendants_mapInfo, List.find?_map, hid]

mutual
/-- Two changes one after the other are one change. -/
theorem mapInfo_mapInfo (f g : NodeInfo → NodeInfo) :
    ∀ n : Node, (n.mapInfo f).mapInfo g = n.mapInfo (g ∘ f)
  | ⟨i, cs⟩ => by
    rw [mapInfo, mapInfo, mapInfo, mapInfoOf_mapInfoOf f g cs]
    rfl
theorem mapInfoOf_mapInfoOf (f g : NodeInfo → NodeInfo) :
    ∀ ns : List Node, mapInfoOf g (mapInfoOf f ns) = mapInfoOf (g ∘ f) ns
  | [] => rfl
  | n :: rest => by
    rw [mapInfoOf, mapInfoOf, mapInfoOf, mapInfo_mapInfo f g n, mapInfoOf_mapInfoOf f g rest]
end

mutual
/-- A change that changes no descendant changes nothing. -/
theorem mapInfo_id : ∀ n : Node, n.mapInfo (fun i => i) = n
  | ⟨i, cs⟩ => by rw [mapInfo, mapInfoOf_id cs]
theorem mapInfoOf_id : ∀ ns : List Node, mapInfoOf (fun i => i) ns = ns
  | [] => rfl
  | n :: rest => by rw [mapInfoOf, mapInfo_id n, mapInfoOf_id rest]
end

end MapInfo

/-! ### Replacing a node -/

section Modify

variable {id : String} {f : Node → Node}

mutual
/-- There is something to replace exactly if a search succeeds. -/
theorem modify?_isSome (id : String) (f : Node → Node) :
    ∀ n : Node, (n.modify? id f).isSome = (n.find? id).isSome
  | ⟨i, cs⟩ => by
    rw [modify?, find?]
    split
    · rfl
    · rw [Option.isSome_map, modifyIn?_isSome id f cs]
theorem modifyIn?_isSome (id : String) (f : Node → Node) :
    ∀ ns : List Node, (modifyIn? id f ns).isSome = (findIn? id ns).isSome
  | [] => rfl
  | n :: rest => by
    have hn := modify?_isSome id f n
    rw [modifyIn?, findIn?, Option.isSome_or, ← hn, ← modifyIn?_isSome id f rest]
    cases n.modify? id f <;> simp
end

/-- A relation between nodes and one between lists of nodes that hold across the replacement of a
node: they hold at the node itself, and are kept going up to the parent, adding siblings on the
right, and adding siblings on the left that do not have the identifier. -/
structure ReplaceClosed (id : String) (f : Node → Node) (P : Node → Node → Prop)
    (Q : List Node → List Node → Prop) : Prop where
  here : ∀ i cs, i.id = id → P ⟨i, cs⟩ (f ⟨i, cs⟩)
  below : ∀ i cs cs', i.id ≠ id → Q cs cs' → P ⟨i, cs⟩ ⟨i, cs'⟩
  head : ∀ n n' rest, P n n' → Q (n :: rest) (n' :: rest)
  tail : ∀ n rest rest', n.find? id = none → Q rest rest' → Q (n :: rest) (n :: rest')

mutual
/-- **Induction over a replacement.** -/
theorem modify?_induction {P : Node → Node → Prop} {Q : List Node → List Node → Prop}
    (hc : ReplaceClosed id f P Q) : ∀ {n n' : Node}, n.modify? id f = some n' → P n n'
  | ⟨i, cs⟩, n', h => by
    rw [modify?] at h
    split at h
    next hid => exact Option.some.inj h ▸ hc.here i cs hid
    next hid =>
      -- the replacement happens below, and the node keeps what it holds
      obtain ⟨cs', hcs, rfl⟩ := Option.map_eq_some_iff.mp h
      exact hc.below i cs cs' hid (modifyIn?_induction hc hcs)
/-- Induction over a replacement in a list of nodes. -/
theorem modifyIn?_induction {P : Node → Node → Prop} {Q : List Node → List Node → Prop}
    (hc : ReplaceClosed id f P Q) :
    ∀ {ns ns' : List Node}, modifyIn? id f ns = some ns' → Q ns ns'
  | [], _, h => absurd h (by simp [modifyIn?])
  | n :: rest, ns', h => by
    rw [modifyIn?] at h
    cases hn : n.modify? id f with
    | some n' =>
      rw [hn] at h
      exact Option.some.inj h ▸ hc.head n n' rest (modify?_induction hc hn)
    | none =>
      rw [hn] at h
      obtain ⟨rest', hrest, rfl⟩ := Option.map_eq_some_iff.mp h
      -- a node without a replacement is one in which a search fails
      have hnone : n.find? id = none := by
        rw [← Option.not_isSome_iff_eq_none, ← modify?_isSome id f, hn]
        simp
      exact hc.tail n rest rest' hnone (modifyIn?_induction hc hrest)
end

end Modify

end Node

end ClusterMap
