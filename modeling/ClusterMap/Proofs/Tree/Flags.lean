import ClusterMap.Proofs.Data.Entries
import ClusterMap.Proofs.Tree.Walk
import ClusterMap.View.State

/-!
# Collapse flags

The flags are the only part of a tree that a user changes. `Node.unflagged` takes them away, so that
two trees are the same up to their flags when `unflagged` makes them equal; flipping the flag of a
node that has one changes nothing else (`unflagged_of_modify?`), and expanding a node never hides
another (`visibleIds_sublist_of_modify?`).

Where all identifiers are different, the remembered flags and those in the tree are two forms of the
same thing: what is remembered under an identifier is the flag of its node (`get?_collapseFlags`),
flipping a flag in the tree is putting it into the memory (`collapseFlags_of_modify?`), and what is
remembered of a tree restores it on any tree that differs in its flags alone
(`mapInfo_recall_of_unflagged_eq`). So it is enough to know what becomes of the remembered flags to
know what becomes of the tree (`Tree.eq_reflag`).
-/

namespace ClusterMap

/-- What a node holds, without the value of its flag. That it can be collapsed stays. -/
def NodeInfo.unflagged (i : NodeInfo) : NodeInfo :=
  { i with collapsed := i.collapsed.map fun _ => false }

/-- What a node holds, with its flag, if it has one, changed as its identifier says. -/
def NodeInfo.reflag (g : String → Bool → Bool) (i : NodeInfo) : NodeInfo :=
  { i with collapsed := i.collapsed.map (g i.id) }

namespace Node

/-- The node and all below it without the values of their flags. -/
def unflagged (n : Node) : Node := n.mapInfo NodeInfo.unflagged

/-- No two nodes have the same identifier. -/
def DistinctIds (n : Node) : Prop := (n.descendants.map Node.id).Nodup

instance (n : Node) : Decidable n.DistinctIds := inferInstanceAs (Decidable (List.Nodup _))

end Node

/-- The tree without the values of its flags. -/
def Tree.unflagged (t : Tree) : Tree := { t with root := t.root.unflagged }

namespace Node

/-! ### Identifiers -/

@[simp] theorem id_mapInfo_unflagged (n : Node) : (n.mapInfo NodeInfo.unflagged).id = n.id :=
  id_mapInfo (f := NodeInfo.unflagged) (fun _ => rfl) n

theorem map_id_descendants_unflagged (n : Node) :
    n.unflagged.descendants.map Node.id = n.descendants.map Node.id := by
  rw [unflagged, descendants_mapInfo, List.map_map]
  exact List.map_congr_left fun m _ => id_mapInfo_unflagged m

theorem children_unflagged (n : Node) : n.unflagged.children = n.children.map unflagged := by
  obtain ⟨i, cs⟩ := n
  exact mapInfoOf_eq_map cs

/-- A search does not hang on the flags. -/
theorem find?_unflagged (id : String) (n : Node) :
    n.unflagged.find? id = (n.find? id).map unflagged :=
  find?_mapInfo (f := NodeInfo.unflagged) (fun _ => rfl) id n

/-- Whether the identifiers are different does not hang on the flags. -/
theorem DistinctIds.congr {n n' : Node} (h : n.unflagged = n'.unflagged) (hn : n.DistinctIds) :
    n'.DistinctIds := by
  unfold DistinctIds at *
  rwa [← map_id_descendants_unflagged, ← h, map_id_descendants_unflagged]

/-- With different identifiers, a search finds every node by its own. -/
theorem DistinctIds.find?_eq_some_iff {n m : Node} (hn : n.DistinctIds) {id : String} :
    n.find? id = some m ↔ m ∈ n.descendants ∧ m.id = id := by
  refine ⟨fun h => ⟨mem_descendants_of_find? h, id_of_find? h⟩, ?_⟩
  rintro ⟨hm, rfl⟩
  rw [find?_eq, find?_of_nodup_map hn hm]

/-! ### Setting one flag -/

section Set

variable {id : String} {flag : Option Bool}

/-- What is insensitive to the flag of the found node does not see it being set. -/
theorem mapInfo_of_modify? {g : NodeInfo → NodeInfo} {n n' : Node}
    (h : n.modify? id (·.withCollapsed flag) = some n')
    (hg : ∀ m, n.find? id = some m → g { m.info with collapsed := flag } = g m.info) :
    n'.mapInfo g = n.mapInfo g := by
  refine modify?_induction
    (P := fun n n' => (∀ m, n.find? id = some m → g { m.info with collapsed := flag } = g m.info) →
      n'.mapInfo g = n.mapInfo g)
    (Q := fun ns ns' => (∀ m, findIn? id ns = some m →
      g { m.info with collapsed := flag } = g m.info) → mapInfoOf g ns' = mapInfoOf g ns)
    ?_ h hg
  constructor
  case here =>
    intro i cs hid hg
    -- the only place where the flag differs
    have hi := hg ⟨i, cs⟩ (by rw [find?, if_pos hid])
    rw [withCollapsed, mapInfo, mapInfo]
    exact congrArg (Node.mk · _) hi
  case below =>
    intro i cs cs' hid hQ hg
    rw [mapInfo, mapInfo, hQ fun m hm => hg m (by rw [find?, if_neg hid, hm])]
  case head =>
    intro n n' rest hP hg
    rw [mapInfoOf, mapInfoOf, hP fun m hm => hg m (by rw [findIn?, hm, Option.some_or])]
  case tail =>
    intro n rest rest' hn hQ hg
    -- nothing is found on the left, so both searches find what is found in the rest
    rw [mapInfoOf, mapInfoOf, hQ fun m hm => hg m (by rw [findIn?, hn, Option.none_or, hm])]

/-- Setting the flag of a node that has one changes the flags alone. -/
theorem unflagged_of_modify? {b : Bool} {n n' m : Node}
    (h : n.modify? id (·.withCollapsed (some b)) = some n') (hm : n.find? id = some m)
    (hflag : m.info.collapsed.isSome) : n'.unflagged = n.unflagged := by
  refine mapInfo_of_modify? h fun m' hm' => ?_
  obtain rfl : m = m' := Option.some.inj (hm.symm.trans hm')
  obtain ⟨c, hc⟩ := Option.isSome_iff_exists.mp hflag
  simp [NodeInfo.unflagged, hc]

/-- Setting a flag is seen in the first node with the identifier and nowhere else. -/
theorem map_collapsed_find?_of_modify? {n n' : Node}
    (h : n.modify? id (·.withCollapsed flag) = some n') (k : String) :
    (n'.find? k).map (·.info.collapsed) =
      if k = id then some flag else (n.find? k).map (·.info.collapsed) := by
  refine modify?_induction
    (P := fun n n' => (n'.find? k).map (·.info.collapsed) =
      if k = id then some flag else (n.find? k).map (·.info.collapsed))
    (Q := fun ns ns' => (findIn? k ns').map (·.info.collapsed) =
      if k = id then some flag else (findIn? k ns).map (·.info.collapsed)) ?_ h
  constructor
  case here =>
    intro i cs hid
    rw [withCollapsed, find?, find?]
    -- below the node nothing changes, so only its own identifier matters
    by_cases hk : k = id
    · rw [if_pos hk, if_pos (hid.trans hk.symm)]
      rfl
    · have hik : i.id ≠ k := fun hik => hk (hik.symm.trans hid)
      rw [if_neg hk, if_neg hik, if_neg hik]
  case below =>
    intro i cs cs' hid hQ
    rw [find?, find?]
    by_cases hik : i.id = k
    · have hk : k ≠ id := fun hk => hid (hik.trans hk)
      rw [if_pos hik, if_pos hik, if_neg hk]
      rfl
    · rw [if_neg hik, if_neg hik, hQ]
  case head =>
    intro n n' rest hP
    rw [findIn?, findIn?]
    by_cases hk : k = id
    · rw [if_pos hk] at hP ⊢
      -- it is found in the first of the nodes, before the others are searched
      obtain ⟨m, hm, hflag⟩ := Option.map_eq_some_iff.mp hP
      rw [hm, Option.some_or, Option.map_some, hflag]
    · rw [if_neg hk] at hP ⊢
      rw [Option.map_or, Option.map_or, hP]
  case tail =>
    intro n rest rest' hn hQ
    rw [findIn?, findIn?, Option.map_or, Option.map_or, hQ]
    by_cases hk : k = id
    · rw [if_pos hk, if_pos hk, hk, hn]
      rfl
    · rw [if_neg hk, if_neg hk]

/-- A flag that was set is what is looked up under the identifier. -/
theorem collapsed_of_modify? {n n' : Node}
    (h : n.modify? id (·.withCollapsed flag) = some n') (k : String) :
    (n'.find? k).bind (·.info.collapsed) =
      if k = id then flag else (n.find? k).bind (·.info.collapsed) := by
  -- a look-up is the join of what is said of the first node with the identifier
  have hjoin : ∀ o : Option Node, o.bind (·.info.collapsed) = (o.map (·.info.collapsed)).join := by
    intro o
    cases o <;> rfl
  rw [hjoin, map_collapsed_find?_of_modify? h k, hjoin]
  split <;> rfl

/-- Expanding a node hides nothing. -/
theorem visibleIds_sublist_of_modify? {n n' : Node}
    (h : n.modify? id (·.withCollapsed (some false)) = some n') :
    n.visibleIds.Sublist n'.visibleIds := by
  refine modify?_induction
    (P := fun n n' => (n.visible.map Node.id).Sublist (n'.visible.map Node.id))
    (Q := fun ns ns' => ((visibleOf ns).map Node.id).Sublist ((visibleOf ns').map Node.id)) ?_ h
  constructor
  case here =>
    intro i cs hid
    rw [withCollapsed, visible, visible, List.map_cons, List.map_cons]
    refine List.Sublist.cons_cons _ ?_
    -- what was hidden below the node comes into view
    cases i.collapsed.getD false
    · exact List.Sublist.refl _
    · exact List.nil_sublist _
  case below =>
    intro i cs cs' hid hQ
    rw [visible, visible, List.map_cons, List.map_cons]
    refine List.Sublist.cons_cons _ ?_
    cases i.collapsed.getD false
    · exact hQ
    · exact List.nil_sublist _
  case head =>
    intro n n' rest hP
    rw [visibleOf, visibleOf, List.map_append, List.map_append]
    exact hP.append (List.Sublist.refl _)
  case tail =>
    intro n rest rest' hn hQ
    rw [visibleOf, visibleOf, List.map_append, List.map_append]
    exact (List.Sublist.refl _).append hQ

end Set

/-! ### The remembered flags -/

/-- The flags of a list of nodes stand under the identifiers of those nodes. -/
private theorem get?_filterMap_flags {l : List Node} (hl : (l.map Node.id).Nodup) (id : String) :
    Entries.get? (l.filterMap fun n => n.info.collapsed.map (n.id, ·)) id =
      (l.find? (·.id == id)).bind (·.info.collapsed) := by
  induction l with
  | nil => rfl
  | cons n rest ih =>
    obtain ⟨hn, hrest⟩ := List.nodup_cons.mp hl
    by_cases hid : n.id = id
    · -- no later node has the identifier, so a node without a flag hides none
      have hnone : rest.find? (·.id == id) = none := by
        rw [List.find?_eq_none]
        intro m hm heq
        exact hn (List.mem_map.mpr ⟨m, hm, (by simpa using heq : m.id = id).trans hid.symm⟩)
      rw [List.find?_cons_of_pos (by simpa using hid), Option.bind_some]
      cases hc : n.info.collapsed with
      | none => rw [List.filterMap_cons_none (by rw [hc]; rfl), ih hrest, hnone]; rfl
      | some flag =>
        rw [List.filterMap_cons_some (by rw [hc]; rfl), Entries.get?_cons, if_pos hid]
    · rw [List.find?_cons_of_neg (by simpa using hid), ← ih hrest]
      cases hc : n.info.collapsed with
      | none => rw [List.filterMap_cons_none (by rw [hc]; rfl)]
      | some flag =>
        rw [List.filterMap_cons_some (by rw [hc]; rfl), Entries.get?_cons, if_neg hid]

/-- The keys of the flags are among the identifiers. -/
private theorem map_fst_filterMap_flags_sublist (l : List Node) :
    ((l.filterMap fun n => n.info.collapsed.map (n.id, ·)).map Prod.fst).Sublist
      (l.map Node.id) := by
  induction l with
  | nil => exact List.Sublist.refl _
  | cons n rest ih =>
    cases hc : n.info.collapsed with
    | none =>
      rw [List.filterMap_cons_none (by rw [hc]; rfl)]
      exact ih.cons _
    | some flag =>
      rw [List.filterMap_cons_some (by rw [hc]; rfl)]
      exact ih.cons_cons _

/-- What is remembered under an identifier is the flag of its node. -/
theorem get?_collapseFlags {n : Node} (hn : n.DistinctIds) (id : String) :
    n.collapseFlags.get? id = (n.find? id).bind (·.info.collapsed) := by
  have hkeys := (map_fst_filterMap_flags_sublist n.descendants).nodup hn
  rw [collapseFlags, Entries.get?_ofList hkeys, get?_filterMap_flags hn, find?_eq]

/-- What is remembered of a tree are the flags of the nodes that have one. -/
theorem get?_collapseFlags_eq_some_iff {n : Node} (hn : n.DistinctIds) {id : String}
    {flag : Bool} : n.collapseFlags.get? id = some flag ↔
      ∃ m ∈ n.descendants, m.id = id ∧ m.info.collapsed = some flag := by
  rw [get?_collapseFlags hn, Option.bind_eq_some_iff]
  constructor
  · rintro ⟨m, hm, hflag⟩
    exact ⟨m, mem_descendants_of_find? hm, id_of_find? hm, hflag⟩
  · rintro ⟨m, hm, hid, hflag⟩
    exact ⟨m, hn.find?_eq_some_iff.mpr ⟨hm, hid⟩, hflag⟩

/-- Setting a flag in the tree is putting it into the memory. -/
theorem collapseFlags_of_modify? {id : String} {b : Bool} {n n' m : Node} (hn : n.DistinctIds)
    (h : n.modify? id (·.withCollapsed (some b)) = some n') (hm : n.find? id = some m)
    (hflag : m.info.collapsed.isSome) :
    n'.collapseFlags = n.collapseFlags.insert id b := by
  have hn' : n'.DistinctIds := hn.congr (unflagged_of_modify? h hm hflag).symm
  -- both sides are sorted, so it is enough to compare what is found in them
  refine Entries.ext (Entries.sorted_ofList _) ((Entries.sorted_ofList _).insert id b) fun k => ?_
  rw [get?_collapseFlags hn', Entries.get?_insert, get?_collapseFlags hn]
  rw [collapsed_of_modify? h k]
  by_cases hk : k = id
  · rw [if_pos hk, if_pos hk.symm]
  · rw [if_neg hk, if_neg fun h => hk h.symm]

/-! ### Changing flags by identifiers -/

/-- Changing flags changes the flags alone. -/
theorem unflagged_reflag (g : String → Bool → Bool) (n : Node) :
    (n.mapInfo (NodeInfo.reflag g)).unflagged = n.unflagged := by
  have hreflag : NodeInfo.unflagged ∘ NodeInfo.reflag g = NodeInfo.unflagged := by
    funext i
    obtain ⟨id, kind, status, name, collapsed, detail⟩ := i
    cases collapsed <;> rfl
  rw [unflagged, mapInfo_mapInfo, hreflag, unflagged]

/-- What is remembered after flags were changed are the changed flags. -/
theorem get?_collapseFlags_reflag {n : Node} (hn : n.DistinctIds) (g : String → Bool → Bool)
    (id : String) : (n.mapInfo (NodeInfo.reflag g)).collapseFlags.get? id =
      (n.collapseFlags.get? id).map (g id) := by
  rw [get?_collapseFlags (hn.congr (unflagged_reflag g n).symm), get?_collapseFlags hn,
    find?_mapInfo (f := NodeInfo.reflag g) fun _ => rfl]
  cases hm : n.find? id with
  | none => rfl
  | some m =>
    obtain rfl := id_of_find? hm
    rw [Option.map_some, Option.bind_some, Option.bind_some, info_mapInfo]
    rfl

/-! ### Restoring the flags -/

/-- Recalling flags changes the flags alone. -/
theorem unflagged_mapInfo_recall (flags : Entries Bool) (n : Node) :
    (n.mapInfo (NodeInfo.recall flags)).unflagged = n.unflagged := by
  have hrecall : NodeInfo.recall flags =
      NodeInfo.reflag fun id flag => (flags.get? id).getD flag := by
    funext i
    obtain ⟨id, kind, status, name, collapsed, detail⟩ := i
    cases collapsed with
    | none => rfl
    | some flag =>
      change NodeInfo.mk id kind status name ((flags.get? id).or (some flag)) detail = _
      cases h : flags.get? id <;> simp [NodeInfo.reflag, h]
  rw [hrecall, unflagged_reflag]

/-- Recalling a node's own flag on what differs from it in the flag alone gives the node back. -/
private theorem recall_of_unflagged_eq {flags : Entries Bool} {i j : NodeInfo}
    (h : i.unflagged = j.unflagged)
    (hj : ∀ flag, j.collapsed = some flag → flags.get? j.id = some flag) :
    i.recall flags = j := by
  obtain ⟨id, kind, status, name, ci, detail⟩ := i
  obtain ⟨jid, jkind, jstatus, jname, cj, jdetail⟩ := j
  simp only [NodeInfo.unflagged, NodeInfo.mk.injEq] at h
  obtain ⟨rfl, rfl, rfl, rfl, hc, rfl⟩ := h
  -- without their values, the flags tell whether there are any
  cases cj with
  | none =>
    obtain rfl : ci = none := by simpa using hc
    rfl
  | some flag =>
    obtain ⟨c, rfl⟩ : ∃ c, ci = some c := by
      cases ci with
      | none => exact absurd hc (by simp)
      | some c => exact ⟨c, rfl⟩
    simp [NodeInfo.recall, NodeInfo.isCollapsible, hj flag rfl]

mutual
private theorem mapInfo_recall {flags : Entries Bool} : ∀ a b : Node, a.unflagged = b.unflagged →
    (∀ m ∈ b.descendants, ∀ flag, m.info.collapsed = some flag → flags.get? m.id = some flag) →
    a.mapInfo (NodeInfo.recall flags) = b
  | ⟨i, cs⟩, ⟨j, ds⟩, h, hflags => by
    rw [unflagged, unflagged, mapInfo, mapInfo, Node.mk.injEq] at h
    rw [descendants, List.forall_mem_cons] at hflags
    rw [mapInfo, recall_of_unflagged_eq h.1 hflags.1, mapInfoOf_recall cs ds h.2 hflags.2]
private theorem mapInfoOf_recall {flags : Entries Bool} : ∀ as bs : List Node,
    mapInfoOf NodeInfo.unflagged as = mapInfoOf NodeInfo.unflagged bs →
    (∀ m ∈ descendantsOf bs, ∀ flag, m.info.collapsed = some flag →
      flags.get? m.id = some flag) →
    mapInfoOf (NodeInfo.recall flags) as = bs
  | [], [], _, _ => rfl
  | [], b :: bs, h, _ => absurd h (by simp [mapInfoOf])
  | a :: as, [], h, _ => absurd h (by simp [mapInfoOf])
  | a :: as, b :: bs, h, hflags => by
    rw [mapInfoOf, mapInfoOf, List.cons.injEq] at h
    rw [descendantsOf, List.forall_mem_append] at hflags
    rw [mapInfoOf, mapInfo_recall a b h.1 hflags.1, mapInfoOf_recall as bs h.2 hflags.2]
end

/-- What is remembered of a tree restores it on any tree that differs in its flags alone. -/
theorem mapInfo_recall_of_unflagged_eq {a b : Node} (hb : b.DistinctIds)
    (h : a.unflagged = b.unflagged) : a.mapInfo (NodeInfo.recall b.collapseFlags) = b := by
  refine mapInfo_recall a b h fun m hm flag hflag => ?_
  exact (get?_collapseFlags_eq_some_iff hb).mpr ⟨m, hm, rfl, hflag⟩

/-- Trees that differ in their flags alone are equal if the same is remembered of them. -/
theorem eq_of_collapseFlags_eq {a b : Node} (hb : b.DistinctIds) (h : a.unflagged = b.unflagged)
    (hflags : a.collapseFlags = b.collapseFlags) : a = b := by
  calc a = a.mapInfo (NodeInfo.recall a.collapseFlags) :=
        (mapInfo_recall_of_unflagged_eq (hb.congr h.symm) rfl).symm
    _ = a.mapInfo (NodeInfo.recall b.collapseFlags) := by rw [hflags]
    _ = b := mapInfo_recall_of_unflagged_eq hb h

/-- Changed flags that are remembered, on a tree that differs in its flags alone, make the changed
tree. -/
theorem eq_mapInfo_reflag {n n' : Node} (hn : n.DistinctIds) (h : n'.unflagged = n.unflagged)
    {g : String → Bool → Bool}
    (hflags : ∀ k, n'.collapseFlags.get? k = (n.collapseFlags.get? k).map (g k)) :
    n' = n.mapInfo (NodeInfo.reflag g) := by
  have hreflag := unflagged_reflag g n
  refine eq_of_collapseFlags_eq (hn.congr hreflag.symm) (h.trans hreflag.symm) ?_
  refine Entries.ext (Entries.sorted_ofList _) (Entries.sorted_ofList _) fun k => ?_
  rw [hflags, get?_collapseFlags_reflag hn]

end Node

namespace Tree

variable {t t' : Tree}

theorem current_eq_of_unflagged (h : t.unflagged = t'.unflagged) : t.current = t'.current := by
  have hcurrent := congrArg Tree.current h
  exact hcurrent

/-- A tree is known if it differs in its flags alone from one with different identifiers, and what
becomes of each flag is known. -/
theorem eq_reflag (hd : t.root.DistinctIds) (h : t'.unflagged = t.unflagged)
    {g : String → Bool → Bool}
    (hflags : ∀ k, t'.root.collapseFlags.get? k = (t.root.collapseFlags.get? k).map (g k)) :
    t' = { t with root := t.root.mapInfo (NodeInfo.reflag g) } := by
  have hroot := Node.eq_mapInfo_reflag hd (congrArg Tree.root h) hflags
  exact congr (congrArg Tree.mk hroot) (current_eq_of_unflagged h)

end Tree

end ClusterMap
