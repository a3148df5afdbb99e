import ClusterMap.Proofs.Tree.Way
import ClusterMap.Snapshot.Sample
import ClusterMap.Tree.Build

/-!
# What is around a node

A tree falls into one of its nodes, with everything below it, and what is around this node: the
nodes above it, each with the children on both sides of the one that leads down. `Surroundings` are
such a tree with a gap, and `Surroundings.fill` puts a node into the gap. Two nodes of a tree that
do not differ have different surroundings, so they tell which one is meant where identifiers are
not.

The search for a node, the search for the way to it and the replacement of it recurse each on its
own. All three stop at the first node in pre-order with the identifier (`Node.IsFirst`), and a
replacement fills the gap around it with something else (`Node.searches_agree`).
-/

namespace ClusterMap

/-- What is around a node of a tree: nothing if it is the topmost one, and otherwise what the
topmost one holds, its children on both sides of the one that leads down, and what is around the
node there. -/
inductive Surroundings where
  | top
  | under (info : NodeInfo) (left : List Node) (around : Surroundings) (right : List Node)

namespace Surroundings

/-- The tree with a node in its gap. -/
def fill : Surroundings → Node → Node
  | .top, m => m
  | .under i left around right, m => ⟨i, left ++ around.fill m :: right⟩

/-- What the nodes before the gap hold, in pre-order. -/
def before : Surroundings → List NodeInfo
  | .top => []
  | .under i left around _ => i :: (Node.descendantsOf left).map Node.info ++ around.before

/-- What the nodes behind the gap hold, in pre-order. -/
def behind : Surroundings → List NodeInfo
  | .top => []
  | .under _ _ around right => around.behind ++ (Node.descendantsOf right).map Node.info

/-- The identifiers of the nodes above, from the root down to the parent. -/
def way : Surroundings → List String
  | .top => []
  | .under i _ around _ => i.id :: around.way

end Surroundings

namespace Node

/-! ### Passing siblings -/

section Siblings

variable {id : String} {f : Node → Node} {left rest : List Node}

theorem descendantsOf_append (left rest : List Node) :
    descendantsOf (left ++ rest) = descendantsOf left ++ descendantsOf rest := by
  induction left with
  | nil => rfl
  | cons n left ih =>
    rw [List.cons_append, descendantsOf, descendantsOf, ih, List.append_assoc]

/-- Where a node is not found, there is no way to it. -/
theorem ancestors?_of_not_found {n : Node} (h : n.find? id = none) : n.ancestors? id = none := by
  rw [ancestors?_eq_none_iff, ← isSome_find?_iff, h]
  exact Bool.false_ne_true

/-- Where a node is not found, nothing is replaced. -/
theorem modify?_of_not_found {n : Node} (h : n.find? id = none) : n.modify? id f = none := by
  rw [← Option.isNone_iff_eq_none, ← Option.not_isSome, modify?_isSome, h]
  rfl

theorem findIn?_append_of_none (h : findIn? id left = none) :
    findIn? id (left ++ rest) = findIn? id rest := by
  rw [findIn?_eq, descendantsOf_append, List.find?_append, ← findIn?_eq, h, Option.none_or,
    ← findIn?_eq]

theorem ancestorsIn?_append_of_none (h : findIn? id left = none) :
    ancestorsIn? id (left ++ rest) = ancestorsIn? id rest := by
  induction left with
  | nil => rfl
  | cons n left ih =>
    obtain ⟨hn, hleft⟩ := Option.or_eq_none_iff.mp h
    rw [List.cons_append, ancestorsIn?, ancestors?_of_not_found hn, Option.none_or, ih hleft]

theorem modifyIn?_append_of_none (h : findIn? id left = none) :
    modifyIn? id f (left ++ rest) = (modifyIn? id f rest).map (left ++ ·) := by
  induction left with
  | nil => exact Option.map_id'.symm
  | cons n left ih =>
    obtain ⟨hn, hleft⟩ := Option.or_eq_none_iff.mp h
    rw [List.cons_append, modifyIn?, modify?_of_not_found hn, ih hleft, Option.map_map]
    rfl

end Siblings

/-- A node is the first one in pre-order with an identifier, and this is around it. -/
structure IsFirst (n : Node) (id : String) (around : Surroundings) (m : Node) : Prop where
  fill_eq : around.fill m = n
  id_eq : m.id = id
  before : ∀ i ∈ around.before, i.id ≠ id

end Node

/-! ### Filling the gap -/

namespace Surroundings

open Node

variable {id : String} {m : Node} {around : Surroundings}

/-- **What is around a node does not hang on the node**: what is before it and what is behind it in
pre-order stay in their places. -/
theorem map_info_descendants_fill (around : Surroundings) (m : Node) :
    (around.fill m).descendants.map info =
      around.before ++ m.descendants.map info ++ around.behind := by
  induction around with
  | top => simp [fill, before, behind]
  | under i left around right ih =>
    rw [fill, descendants, descendantsOf_append, descendantsOf, List.map_cons, List.map_append,
      List.map_append, ih, before, behind]
    simp

/-- Nothing before a gap has an identifier: not the topmost node, nor what is below its children on
the left, nor what is before the gap further down. -/
theorem forall_before_under {i : NodeInfo} {left right : List Node} :
    (∀ j ∈ (under i left around right).before, j.id ≠ id) ↔
      i.id ≠ id ∧ findIn? id left = none ∧ ∀ j ∈ around.before, j.id ≠ id := by
  have hleft : findIn? id left = none ↔ ∀ j ∈ (descendantsOf left).map info, j.id ≠ id := by
    rw [findIn?_eq, List.find?_eq_none, List.forall_mem_map]
    exact forall₂_congr fun n _ => not_congr beq_iff_eq
  rw [before, List.cons_append, List.forall_mem_cons, List.forall_mem_append, hleft]

theorem find?_fill (hm : m.id = id) (h : ∀ i ∈ around.before, i.id ≠ id) :
    (around.fill m).find? id = some m := by
  -- one level down at a time: the topmost node is passed, then the children on the left
  induction around with
  | top =>
    obtain ⟨i, cs⟩ := m
    exact if_pos hm
  | under i left around right ih =>
    obtain ⟨hi, hleft, hbefore⟩ := forall_before_under.mp h
    rw [fill, find?, if_neg hi, findIn?_append_of_none hleft, findIn?, ih hbefore, Option.some_or]

theorem ancestors?_fill (hm : m.id = id) (h : ∀ i ∈ around.before, i.id ≠ id) :
    (around.fill m).ancestors? id = some around.way := by
  induction around with
  | top =>
    obtain ⟨i, cs⟩ := m
    exact if_pos hm
  | under i left around right ih =>
    obtain ⟨hi, hleft, hbefore⟩ := forall_before_under.mp h
    rw [fill, ancestors?, if_neg hi, ancestorsIn?_append_of_none hleft, ancestorsIn?, ih hbefore,
      Option.some_or]
    rfl

theorem modify?_fill (hm : m.id = id) (h : ∀ i ∈ around.before, i.id ≠ id) (f : Node → Node) :
    (around.fill m).modify? id f = some (around.fill (f m)) := by
  induction around with
  | top =>
    obtain ⟨i, cs⟩ := m
    exact if_pos hm
  | under i left around right ih =>
    obtain ⟨hi, hleft, hbefore⟩ := forall_before_under.mp h
    rw [fill, modify?, if_neg hi, modifyIn?_append_of_none hleft, modifyIn?, ih hbefore]
    rfl

end Surroundings

namespace Node

/-! ### The first node with an identifier -/

mutual
/-- An identifier that is there has a first node. -/
theorem exists_isFirst {id : String} : ∀ {n : Node}, id ∈ n.descendants.map Node.id →
    ∃ around m, n.IsFirst id around m
  | ⟨i, cs⟩, h => by
    by_cases hid : i.id = id
    · exact ⟨.top, ⟨i, cs⟩, rfl, hid, List.forall_mem_nil _⟩
    · -- the first child below which it is found leads down, those on its left are passed
      rw [descendants, List.map_cons] at h
      have hcs : id ∈ (descendantsOf cs).map Node.id :=
        (List.mem_cons.mp h).resolve_left fun h => hid h.symm
      obtain ⟨left, n, right, rfl, hleft, around, m, hfirst⟩ := exists_isFirst_of_mem hcs
      refine ⟨.under i left around right, m, ?_, hfirst.id_eq,
        Surroundings.forall_before_under.mpr ⟨hid, hleft, hfirst.before⟩⟩
      rw [Surroundings.fill, hfirst.fill_eq]
/-- It is below the first node of a list in which the identifier is found. -/
theorem exists_isFirst_of_mem {id : String} : ∀ {ns : List Node},
    id ∈ (descendantsOf ns).map Node.id → ∃ left n right, ns = left ++ n :: right ∧
      findIn? id left = none ∧ ∃ around m, n.IsFirst id around m
  | [], h => absurd h List.not_mem_nil
  | n :: rest, h => by
    by_cases hn : id ∈ n.descendants.map Node.id
    · exact ⟨[], n, rest, rfl, rfl, exists_isFirst hn⟩
    · rw [descendantsOf, List.map_append] at h
      obtain ⟨left, n', right, rfl, hleft, hfirst⟩ :=
        exists_isFirst_of_mem ((List.mem_append.mp h).resolve_left hn)
      have hnone : n.find? id = none := by
        rwa [← isSome_find?_iff, Option.not_isSome_iff_eq_none] at hn
      refine ⟨n :: left, n', right, rfl, ?_, hfirst⟩
      rw [findIn?, hnone, Option.none_or, hleft]
end

/-- **The searches of a tree stop at the same node**, also where an identifier is used more than
once.

* The search for a node finds the first one in pre-order with the identifier. Without one there is
  nothing to find, no way and nothing to replace.
* Where there is one, and for whatever is around the first of them, the search for the way gives the
  identifiers of the nodes above it from the root down.
* A replacement puts what became of this node into the same surroundings: what nodes before it and
  behind it in pre-order hold stays in its place. If the node keeps its identifier, it is still the
  first node that has it. -/
theorem searches_agree (n : Node) (id : String) :
    n.find? id = n.descendants.find? (·.id == id) ∧
    (id ∉ n.descendants.map Node.id →
      n.find? id = none ∧ n.ancestors? id = none ∧ ∀ f, n.modify? id f = none) ∧
    (id ∈ n.descendants.map Node.id → ∃ around m, n.IsFirst id around m) ∧
    ∀ around m, n.IsFirst id around m →
      n.descendants.map info = around.before ++ m.descendants.map info ++ around.behind ∧
      n.find? id = some m ∧ n.ancestors? id = some around.way ∧
      ∀ f : Node → Node, n.modify? id f = some (around.fill (f m)) ∧
        (around.fill (f m)).descendants.map info =
          around.before ++ (f m).descendants.map info ++ around.behind ∧
        ((f m).id = id → (around.fill (f m)).IsFirst id around (f m)) := by
  refine ⟨find?_eq id n, fun hnot => ?_, exists_isFirst, ?_⟩
  · have hnone : n.find? id = none := by
      rwa [← isSome_find?_iff, Option.not_isSome_iff_eq_none] at hnot
    exact ⟨hnone, ancestors?_of_not_found hnone, fun f => modify?_of_not_found hnone⟩
  · rintro around m ⟨rfl, hm, hbefore⟩
    refine ⟨around.map_info_descendants_fill m, Surroundings.find?_fill hm hbefore,
      Surroundings.ancestors?_fill hm hbefore, fun f => ?_⟩
    exact ⟨Surroundings.modify?_fill hm hbefore f, around.map_info_descendants_fill (f m),
      fun hid => ⟨rfl, hid, hbefore⟩⟩

/-- Where the zone of a cluster has the identifier of the cluster, the searches stop at the cluster,
and it is the cluster that is collapsed. -/
theorem searches_agree_namesake :
    let zone := { Snapshot.Sample.zone "c1" 1 1 with name := "c1" }
    let cluster := { Snapshot.Sample.cluster "c1" [] .primary with zones := [zone] }
    let root := (Tree.build defaultThreshold [cluster] (some "c1")).root
    "c1" ∈ root.descendants.map Node.id ∧ ∃ around m, root.IsFirst "c1" around m ∧
      m.kind = .cluster ∧ root.find? "c1" = some m ∧ around.way = ["root"] ∧
      root.ancestors? "c1" = some around.way ∧
      root.modify? "c1" (·.withCollapsed (some true)) =
        some (around.fill (m.withCollapsed (some true))) := by
  intro zone cluster root
  have hmem : "c1" ∈ root.descendants.map Node.id := by decide +kernel
  obtain ⟨-, -, hfirst, hsearches⟩ := searches_agree root "c1"
  obtain ⟨around, m, hm⟩ := hfirst hmem
  obtain ⟨-, hfind, hway, hmodify⟩ := hsearches around m hm
  have hkind : (root.find? "c1").map Node.kind = some .cluster := by decide +kernel
  have hroot : root.ancestors? "c1" = some ["root"] := by decide +kernel
  rw [hfind] at hkind
  rw [hway] at hroot
  exact ⟨hmem, around, m, hm, Option.some.inj hkind, hfind, Option.some.inj hroot, hway,
    (hmodify _).1⟩

end Node

end ClusterMap
