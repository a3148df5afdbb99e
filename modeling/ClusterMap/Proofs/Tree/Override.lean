import ClusterMap.Proofs.Data.Entries
import ClusterMap.Proofs.Tree.Flags
import Mathlib.Data.List.Induction

/-!
# Overriding collapse flags

`Tree.overrideAll` assigns flags to nodes by their identifiers. An identifier stands for the first
node that has it, and a flag that is assigned to a node without one is ignored. Only flags change
(`Tree.unflagged_overrideAll`), so which node an identifier stands for does not hang on what was
assigned before: assignments to different identifiers can be made in any order
(`Tree.override_comm`), of several to the same one the last counts (`Tree.override_override`), and
it makes no difference whether they are made one after another or collected in a map first
(`Tree.overrideAll_ofList`).
-/

namespace ClusterMap

/-- What a node holds, with another value of its flag if it has one. -/
def NodeInfo.withFlag (flag : Bool) (i : NodeInfo) : NodeInfo :=
  { i with collapsed := i.collapsed.map fun _ => flag }

namespace NodeInfo

variable (flag flag' : Bool)

@[simp] theorem id_withFlag (i : NodeInfo) : (i.withFlag flag).id = i.id := rfl

/-- Of two flags the second one counts. -/
theorem withFlag_comp : withFlag flag' ∘ withFlag flag = withFlag flag' := by
  funext i
  change { i with collapsed := (i.collapsed.map _).map _ } = { i with collapsed := _ }
  rw [Option.map_map]
  rfl

end NodeInfo

namespace Node

/-! ### Changing what the first node holds -/

/-- Changes what the first node with an identifier holds. -/
def adjust (id : String) (g : NodeInfo → NodeInfo) (n : Node) : Node :=
  (n.modify? id fun m => ⟨g m.info, m.children⟩).getD n

/-- Changes what the first node with an identifier in a list holds. -/
def adjustIn (id : String) (g : NodeInfo → NodeInfo) (ns : List Node) : List Node :=
  (modifyIn? id (fun m => ⟨g m.info, m.children⟩) ns).getD ns

section Adjust

variable {id k : String} {g h : NodeInfo → NodeInfo}

theorem adjust_mk (i : NodeInfo) (cs : List Node) : (Node.mk i cs).adjust id g =
    if i.id = id then ⟨g i, cs⟩ else ⟨i, adjustIn id g cs⟩ := by
  rw [adjust, modify?, adjustIn]
  split
  · rfl
  · cases modifyIn? id (fun m => ⟨g m.info, m.children⟩) cs <;> rfl

theorem adjustIn_cons (n : Node) (rest : List Node) : adjustIn id g (n :: rest) =
    if (n.find? id).isSome then n.adjust id g :: rest else n :: adjustIn id g rest := by
  rw [adjustIn, modifyIn?, ← modify?_isSome id fun m => ⟨g m.info, m.children⟩, adjust, adjustIn]
  cases n.modify? id fun m => ⟨g m.info, m.children⟩ with
  | some n' => rfl
  | none => cases modifyIn? id (fun m => ⟨g m.info, m.children⟩) rest <;> rfl

mutual
theorem map_id_descendants_adjust (hg : ∀ i, (g i).id = i.id) : ∀ n : Node,
    (n.adjust id g).descendants.map Node.id = n.descendants.map Node.id
  | ⟨i, cs⟩ => by
    rw [adjust_mk, descendants]
    split
    · rw [descendants, List.map_cons, List.map_cons, id_mk, id_mk, hg]
    · rw [descendants, List.map_cons, List.map_cons, id_mk, id_mk,
        map_id_descendantsOf_adjustIn hg cs]
theorem map_id_descendantsOf_adjustIn (hg : ∀ i, (g i).id = i.id) : ∀ ns : List Node,
    (descendantsOf (adjustIn id g ns)).map Node.id = (descendantsOf ns).map Node.id
  | [] => rfl
  | n :: rest => by
    rw [adjustIn_cons, descendantsOf]
    split
    · rw [descendantsOf, List.map_append, List.map_append, map_id_descendants_adjust hg n]
    · rw [descendantsOf, List.map_append, List.map_append, map_id_descendantsOf_adjustIn hg rest]
end

/-- Whether an identifier occurs does not hang on what was changed. -/
theorem isSome_find?_adjust (hg : ∀ i, (g i).id = i.id) (n : Node) :
    ((n.adjust k g).find? id).isSome = (n.find? id).isSome := by
  rw [Bool.eq_iff_iff, isSome_find?_iff, isSome_find?_iff, map_id_descendants_adjust hg n]

mutual
/-- Two changes of the same node are one change. -/
theorem adjust_adjust (hg : ∀ i, (g i).id = i.id) : ∀ n : Node,
    (n.adjust id g).adjust id h = n.adjust id (h ∘ g)
  | ⟨i, cs⟩ => by
    rw [adjust_mk, adjust_mk]
    by_cases hid : i.id = id
    · rw [if_pos hid, if_pos hid, adjust_mk, if_pos ((hg i).trans hid)]
      rfl
    · rw [if_neg hid, if_neg hid, adjust_mk, if_neg hid, adjustIn_adjustIn hg cs]
theorem adjustIn_adjustIn (hg : ∀ i, (g i).id = i.id) : ∀ ns : List Node,
    adjustIn id h (adjustIn id g ns) = adjustIn id (h ∘ g) ns
  | [] => rfl
  | n :: rest => by
    rw [adjustIn_cons, adjustIn_cons]
    by_cases hn : (n.find? id).isSome
    · rw [if_pos hn, if_pos hn, adjustIn_cons, if_pos (by rwa [isSome_find?_adjust hg]),
        adjust_adjust hg n]
    · rw [if_neg hn, if_neg hn, adjustIn_cons, if_neg hn, adjustIn_adjustIn hg rest]
end

mutual
/-- Changes of different nodes can be made in any order. -/
theorem adjust_comm (hg : ∀ i, (g i).id = i.id) (hh : ∀ i, (h i).id = i.id) (hne : id ≠ k) :
    ∀ n : Node, (n.adjust id g).adjust k h = (n.adjust k h).adjust id g
  | ⟨i, cs⟩ => by
    rw [adjust_mk, adjust_mk]
    -- the node itself is at most one of the two, and keeps its identifier
    by_cases hid : i.id = id
    · have hk : i.id ≠ k := fun hk => hne (hid.symm.trans hk)
      rw [if_pos hid, if_neg hk, adjust_mk, adjust_mk, if_neg (by rwa [hg]), if_pos hid]
    · by_cases hk : i.id = k
      · rw [if_neg hid, if_pos hk, adjust_mk, adjust_mk, if_pos hk, if_neg (by rwa [hh])]
      · rw [if_neg hid, if_neg hk, adjust_mk, adjust_mk, if_neg hk, if_neg hid,
          adjustIn_comm hg hh hne cs]
theorem adjustIn_comm (hg : ∀ i, (g i).id = i.id) (hh : ∀ i, (h i).id = i.id) (hne : id ≠ k) :
    ∀ ns : List Node, adjustIn k h (adjustIn id g ns) = adjustIn id g (adjustIn k h ns)
  | [] => rfl
  | n :: rest => by
    rw [adjustIn_cons, adjustIn_cons]
    -- each of the two is found in the first node of the list, or else further to the right
    by_cases hid : (n.find? id).isSome <;> by_cases hk : (n.find? k).isSome
    · rw [if_pos hid, if_pos hk, adjustIn_cons, adjustIn_cons,
        if_pos (by rwa [isSome_find?_adjust hg]), if_pos (by rwa [isSome_find?_adjust hh]),
        adjust_comm hg hh hne n]
    · rw [if_pos hid, if_neg hk, adjustIn_cons, adjustIn_cons,
        if_neg (by rwa [isSome_find?_adjust hg]), if_pos hid]
    · rw [if_neg hid, if_pos hk, adjustIn_cons, adjustIn_cons, if_pos hk,
        if_neg (by rwa [isSome_find?_adjust hh])]
    · rw [if_neg hid, if_neg hk, adjustIn_cons, adjustIn_cons, if_neg hk, if_neg hid,
        adjustIn_comm hg hh hne rest]
end

mutual
/-- What a change does not show it does not show in the node either. -/
theorem mapInfo_adjust {f : NodeInfo → NodeInfo} (hf : ∀ i, f (g i) = f i) : ∀ n : Node,
    (n.adjust id g).mapInfo f = n.mapInfo f
  | ⟨i, cs⟩ => by
    rw [adjust_mk]
    split
    · rw [mapInfo, mapInfo, hf]
    · rw [mapInfo, mapInfo, mapInfoOf_adjustIn hf cs]
theorem mapInfoOf_adjustIn {f : NodeInfo → NodeInfo} (hf : ∀ i, f (g i) = f i) :
    ∀ ns : List Node, mapInfoOf f (adjustIn id g ns) = mapInfoOf f ns
  | [] => rfl
  | n :: rest => by
    rw [adjustIn_cons]
    split
    · rw [mapInfoOf, mapInfoOf, mapInfo_adjust hf n]
    · rw [mapInfoOf, mapInfoOf, mapInfoOf_adjustIn hf rest]
end

mutual
/-- Only the node that is found matters for its replacement. -/
theorem modify?_congr {p q : Node → Node} : ∀ n : Node,
    (∀ m, n.find? id = some m → p m = q m) → n.modify? id p = n.modify? id q
  | ⟨i, cs⟩, hf => by
    rw [modify?, modify?]
    rw [find?] at hf
    split at hf
    next hid => rw [if_pos hid, if_pos hid, hf _ rfl]
    next hid => rw [if_neg hid, if_neg hid, modifyIn?_congr cs hf]
theorem modifyIn?_congr {p q : Node → Node} : ∀ ns : List Node,
    (∀ m, findIn? id ns = some m → p m = q m) → modifyIn? id p ns = modifyIn? id q ns
  | [], _ => rfl
  | n :: rest, hf => by
    rw [findIn?] at hf
    cases hn : n.find? id with
    | some m =>
      -- nothing to the right is looked at
      obtain ⟨n', hn'⟩ : ∃ n', n.modify? id p = some n' := by
        rw [← Option.isSome_iff_exists, modify?_isSome, hn]
        rfl
      have heq : n.modify? id p = n.modify? id q :=
        modify?_congr n fun m' hm' => hf m' (by rw [hm', Option.some_or])
      rw [modifyIn?, modifyIn?, ← heq, hn']
    | none =>
      have hnone : ∀ r : Node → Node, n.modify? id r = none := by
        intro r
        rw [← Option.not_isSome_iff_eq_none, modify?_isSome, hn]
        exact Bool.false_ne_true
      rw [modifyIn?, modifyIn?, hnone, hnone,
        modifyIn?_congr rest fun m hm => hf m (by rw [hn, Option.none_or, hm])]
end

/-- A change that leaves what the found node holds changes nothing. -/
theorem adjust_eq_self {n : Node} (h : ∀ m, n.find? id = some m → g m.info = m.info) :
    n.adjust id g = n := by
  have hsame : n.modify? id (fun m => ⟨g m.info, m.children⟩) = n.modify? id fun m => m := by
    refine modify?_congr n fun m hm => ?_
    obtain ⟨i, cs⟩ := m
    exact congrArg (Node.mk · cs) (h _ hm)
  rw [adjust, hsame]
  cases hn : n.modify? id fun m => m with
  | none => rfl
  | some n' =>
    refine modify?_induction (P := fun n n' => n' = n) (Q := fun ns ns' => ns' = ns) ?_ hn
    exact
      { here := fun i cs _ => rfl
        below := fun i cs cs' _ hQ => congrArg (Node.mk i) hQ
        head := fun n n' rest hP => congrArg (· :: rest) hP
        tail := fun n rest rest' _ hQ => congrArg (n :: ·) hQ }

end Adjust

end Node

namespace Tree

/-! ### Assigning flags -/

/-- Sets the flag of the first node with an identifier, if that node has one. -/
def override (t : Tree) (id : String) (flag : Bool) : Tree :=
  { t with root := t.root.adjust id (NodeInfo.withFlag flag) }

/-- Sets flags one after another. -/
def overrideAll (t : Tree) (flags : List (String × Bool)) : Tree :=
  flags.foldl (fun t (id, flag) => t.override id flag) t

variable (t : Tree) {id k : String} (flag flag' : Bool)

theorem overrideAll_cons (flags : List (String × Bool)) :
    t.overrideAll ((id, flag) :: flags) = (t.override id flag).overrideAll flags := rfl

theorem overrideAll_append (flags flags' : List (String × Bool)) :
    t.overrideAll (flags ++ flags') = (t.overrideAll flags).overrideAll flags' :=
  List.foldl_append

theorem unflagged_override : (t.override id flag).unflagged = t.unflagged := by
  -- forgetting the value of a flag is setting it to one and the same value
  have hflag : ∀ i : NodeInfo, (i.withFlag flag).unflagged = i.unflagged :=
    congrFun (NodeInfo.withFlag_comp flag false)
  exact congrArg (fun root => { t with root }) (Node.mapInfo_adjust hflag t.root)

/-- Nothing but flags changes. -/
theorem unflagged_overrideAll (flags : List (String × Bool)) :
    (t.overrideAll flags).unflagged = t.unflagged := by
  induction flags generalizing t with
  | nil => rfl
  | cons e rest ih => exact (ih (t.override e.1 e.2)).trans (t.unflagged_override e.2)

/-- Of two flags for the same node the second one counts. -/
theorem override_override :
    (t.override id flag).override id flag' = t.override id flag' := by
  have hroot :
      (t.root.adjust id (NodeInfo.withFlag flag)).adjust id (NodeInfo.withFlag flag') = _ :=
    Node.adjust_adjust (NodeInfo.id_withFlag flag) t.root
  rw [NodeInfo.withFlag_comp] at hroot
  exact congrArg (fun root => { t with root }) hroot

/-- A node that has no flag, or has this one, stays as it is. -/
theorem override_eq_self (h : (t.find? id).bind (·.info.collapsed) ≠ some (!flag)) :
    t.override id flag = t := by
  refine congrArg (fun root => { t with root }) (Node.adjust_eq_self fun m hm => ?_)
  have hflag : m.info.collapsed ≠ some (!flag) := by
    rwa [find?, hm, Option.bind_some] at h
  have hself : m.info.collapsed.map (fun _ => flag) = m.info.collapsed := by
    cases hc : m.info.collapsed with
    | none => rfl
    | some own =>
      rw [hc] at hflag
      cases own <;> cases flag <;> simp_all
  exact congrArg (fun collapsed => { m.info with collapsed }) hself

/-- The flag of a node that has one is replaced. -/
theorem override_eq_of_modify? {n root : Node} (hn : t.find? id = some n)
    (hflag : n.info.collapsed.isSome)
    (h : t.root.modify? id (·.withCollapsed (some flag)) = some root) :
    t.override id flag = { t with root } := by
  refine congrArg (fun root => { t with root }) ?_
  rw [Node.adjust, Node.modify?_congr (q := (·.withCollapsed (some flag))) t.root, h,
    Option.getD_some]
  intro m hm
  obtain rfl : n = m := Option.some.inj (hn.symm.trans hm)
  obtain ⟨own, hown⟩ := Option.isSome_iff_exists.mp hflag
  obtain ⟨i, cs⟩ := n
  have hown : i.collapsed = some own := hown
  rw [Node.info_mk, Node.children_mk, NodeInfo.withFlag, hown]
  rfl

/-- Flags of different nodes can be set in any order. -/
theorem override_comm (hne : id ≠ k) :
    (t.override id flag).override k flag' = (t.override k flag').override id flag :=
  congrArg (fun root => { t with root })
    (Node.adjust_comm (NodeInfo.id_withFlag flag) (NodeInfo.id_withFlag flag') hne t.root)

/-- A flag can be set before or after those of other nodes. -/
theorem override_overrideAll {flags : List (String × Bool)} (hne : ∀ e ∈ flags, e.1 ≠ id) :
    (t.override id flag).overrideAll flags = (t.overrideAll flags).override id flag := by
  induction flags generalizing t with
  | nil => rfl
  | cons e rest ih =>
    obtain ⟨hid, hrest⟩ := List.forall_mem_cons.mp hne
    rw [overrideAll_cons, overrideAll_cons, ← ih _ hrest, override_comm t e.2 flag hid]

/-- Putting a flag into a map is setting it last. -/
theorem overrideAll_insert {flags : Entries Bool} (h : flags.Sorted) :
    t.overrideAll (flags.insert id flag) = (t.overrideAll flags).override id flag := by
  induction flags generalizing t with
  | nil => rfl
  | cons e rest ih =>
    obtain ⟨k, old⟩ := e
    obtain ⟨hlt, hrest⟩ := List.pairwise_cons.mp h
    rw [Entries.insert]
    split
    next hid =>
      -- an earlier flag is replaced, and no later entry is about the same node
      subst hid
      have hne : ∀ e ∈ rest, e.1 ≠ id := fun e he => (String.ne_of_lt (hlt e he)).symm
      rw [overrideAll_cons, overrideAll_cons, override_overrideAll _ flag hne,
        override_overrideAll _ old hne, override_override]
    next hid =>
      split
      next hlt' =>
        have hne : ∀ e ∈ (k, old) :: rest, e.1 ≠ id := by
          refine List.forall_mem_cons.mpr ⟨fun h => hid h.symm, fun e he => ?_⟩
          exact (String.ne_of_lt (String.lt_trans hlt' (hlt e he))).symm
        rw [overrideAll_cons, override_overrideAll _ flag hne]
      next => exact ih (t.override k old) hrest

/-- **Setting flags one after another is setting those of the map that they make up.** -/
theorem overrideAll_ofList (flags : List (String × Bool)) :
    t.overrideAll (Entries.ofList flags) = t.overrideAll flags := by
  induction flags using List.reverseRecOn with
  | nil => rfl
  | append_singleton flags e ih =>
    have hinsert : Entries.ofList (flags ++ [e]) = (Entries.ofList flags).insert e.1 e.2 := by
      rw [Entries.ofList, List.foldl_append]
      rfl
    rw [hinsert, overrideAll_insert t e.2 (Entries.sorted_ofList flags), ih, overrideAll_append]
    rfl

end Tree

end ClusterMap
