import ClusterMap.Proofs.Data.Unknown
import ClusterMap.Proofs.Snapshot.Spelling

/-!
# Unknown members of a snapshot

Clusters, zones, servers and tenants may have members that nobody knows, at any place and of any
value. What a document is decoded to does not change by them, and a document that is refused is
refused with them as well (`ofValue_of_enlarged`).

What is enlarged is what stands where a cluster, zone, server or tenant is expected. A list holds
one cluster if an identifier stands in front, and clusters otherwise (`IsMany`); the two are not
mixed up, since the role of a cluster may be given as a record, of which each member counts.
-/

namespace ClusterMap

open Decode

namespace Snapshot

/-! ### Enlarged values -/

/-- A server with unknown members. -/
def Server.Enlarged : Value → Value → Prop := Decode.Enlarged Server.fields.names (InParts [])

/-- A tenant with unknown members. -/
def Tenant.Enlarged : Value → Value → Prop := Decode.Enlarged Tenant.fields.names (InParts [])

/-- A zone with unknown members, also in its servers. -/
def Zone.Enlarged : Value → Value → Prop :=
  Decode.Enlarged Zone.fields.names (InParts [("servers", Each Server.Enlarged)])

/-- A cluster with unknown members, also in its zones and tenants. -/
def Cluster.Enlarged : Value → Value → Prop :=
  Decode.Enlarged Cluster.fields.names
    (InParts [("zones", Each Zone.Enlarged), ("tenants", Each Tenant.Enlarged)])

/-- The value is a list of clusters and not the list of the fields of one: no identifier stands in
front. -/
def IsMany (v : Value) : Prop :=
  ∃ items, v = .list items ∧ ∀ first ∈ items.head?, ∀ id, identifier first ≠ .ok id

/-- A document with unknown members in its clusters. -/
inductive Enlarged : Value → Value → Prop
  | many {items items' : List Value} (hmany : IsMany (.list items))
      (h : List.Forall₂ Cluster.Enlarged items items') : Enlarged (.list items) (.list items')
  | single {v v' : Value} (hsingle : ¬ IsMany v) (h : Cluster.Enlarged v v') : Enlarged v v'

/-! ### Decoding -/

theorem Server.agrees_of_enlarged (v v' : Value) (h : Server.Enlarged v v') :
    Agrees Server.decode v v' := by
  have hfields : Server.fields.Respects (InParts []) :=
    (Fields.respects_none Server.mk)
      |>.plain "id" (by decide)
      |>.plain "ip" (by decide)
      |>.plain "port" (by decide)
      |>.plain "sqlPort" (by decide)
      |>.plain "status" (by decide)
      |>.plain "connectionCount" (by decide)
      |>.plain "qps" (by decide)
  exact agrees_record hfields h

theorem Tenant.agrees_of_enlarged (v v' : Value) (h : Tenant.Enlarged v v') :
    Agrees Tenant.decode v v' := by
  have hfields : Tenant.fields.Respects (InParts []) :=
    (Fields.respects_none Tenant.mk)
      |>.plain "name" (by decide)
      |>.plain "status" (by decide)
  exact agrees_record hfields h

theorem Zone.agrees_of_enlarged (v v' : Value) (h : Zone.Enlarged v v') :
    Agrees Zone.decode v v' := by
  have hfields : Zone.fields.Respects (InParts [("servers", Each Server.Enlarged)]) :=
    (Fields.respects_none Zone.mk)
      |>.plain "name" (by decide)
      |>.plain "regionName" (by decide)
      |>.plain "status" (by decide)
      |>.plain "rootServer" (by decide)
      |>.plain "cpuCount" (by decide)
      |>.plain "memorySize" (by decide)
      |>.plain "unitCount" (by decide)
      |>.plain "connectionCount" (by decide)
      |>.plain "qps" (by decide)
      |>.part (by decide) (.head _) Server.agrees_of_enlarged
  exact agrees_record hfields h

theorem Cluster.agrees_of_enlarged (v v' : Value) (h : Cluster.Enlarged v v') :
    Agrees Cluster.decode v v' := by
  have hfields : Cluster.fields.Respects
      (InParts [("zones", Each Zone.Enlarged), ("tenants", Each Tenant.Enlarged)]) :=
    (Fields.respects_none Cluster.mk)
      |>.plain "id" (by decide)
      |>.plain "name" (by decide)
      |>.plain "status" (by decide)
      |>.plain "obVersion" (by decide)
      |>.plain "role" (by decide)
      |>.plain "autoDetectEnabled" (by decide)
      |>.part (by decide) (.head _) Zone.agrees_of_enlarged
      |>.part (by decide) (.tail _ (.head _)) Tenant.agrees_of_enlarged
  exact agrees_record hfields h

/-! ### Documents -/

theorem isMany_of_decodeMany {v : Value} {clusters : List Cluster}
    (h : decodeMany v = .ok clusters) : IsMany v := by
  obtain ⟨items, rfl, hitems⟩ := listOf_eq_ok_iff.mp h
  refine ⟨items, rfl, fun first hfirst id hid => ?_⟩
  obtain ⟨rest, rfl⟩ := List.head?_eq_some_iff.mp hfirst
  obtain ⟨c, _, hc, -, -⟩ := List.forall₂_cons_left_iff.mp hitems
  rcases identifier_eq_ok hid with ⟨s, rfl⟩ | ⟨n, rfl⟩ <;> cases hc

theorem not_isMany_of_decode {v : Value} {c : Cluster} (h : Cluster.decode v = .ok c) :
    ¬ IsMany v := by
  rintro ⟨items, rfl, hfirst⟩
  obtain ⟨first, id, hitem, hid⟩ := exists_identifier_of_decode h
  exact hfirst first (List.head?_eq_getElem?.trans hitem) id hid

/-- What becomes of a list of clusters is one as well. -/
theorem isMany_of_forall₂ {items items' : List Value} (hmany : IsMany (.list items))
    (h : List.Forall₂ Cluster.Enlarged items items') : IsMany (.list items') := by
  obtain ⟨_, ⟨⟩, hfirst⟩ := hmany
  refine ⟨items', rfl, fun first' hfirst' id hid => ?_⟩
  obtain ⟨rest', rfl⟩ := List.head?_eq_some_iff.mp hfirst'
  obtain ⟨first, rest, hcluster, -, rfl⟩ := List.forall₂_cons_right_iff.mp h
  -- an identifier has no members, so that it was there before
  have hsame : first = first' := by
    rcases identifier_eq_ok hid with ⟨s, rfl⟩ | ⟨n, rfl⟩ <;> cases hcluster <;> rfl
  exact hfirst first rfl id (hsame ▸ hid)

/-- A single cluster does not become a list of clusters: its identifier stays in front. -/
theorem not_isMany_of_enlarged {v v' : Value} (hsingle : ¬ IsMany v) (h : Cluster.Enlarged v v') :
    ¬ IsMany v' := by
  rintro ⟨items', rfl, hfirst'⟩
  cases h with
  | same => exact hsingle ⟨items', rfl, hfirst'⟩
  | listed hlength h =>
    rename_i items
    refine hsingle ⟨items, rfl, fun first hfirst => hfirst' first ?_⟩
    rw [List.head?_eq_getElem?] at hfirst ⊢
    obtain ⟨hlt, -⟩ := List.getElem?_eq_some_iff.mp hfirst
    have hitem' := List.getElem?_eq_getElem (hlength ▸ hlt)
    rcases h 0 first _ hfirst hitem' with rfl | ⟨name, hname, hinside⟩
    · exact hitem'
    · obtain rfl : "id" = name := Option.some.inj hname
      obtain ⟨R, hR, -⟩ := hinside
      simp at hR

/-- A document hangs on what its two readings give. -/
theorem ofValue_congr (origin : String) {v v' : Value} (hmany : Agrees decodeMany v v')
    (hsingle : Agrees Cluster.decode v v') : ofValue origin v' = ofValue origin v := by
  unfold ofValue decodeDocument
  cases hm : decodeMany v with
  | ok clusters => rw [(hmany clusters).mp hm]
  | error e =>
    cases hm' : decodeMany v' with
    | ok clusters => rw [(hmany clusters).mpr hm'] at hm; cases hm
    | error e' =>
      cases hs : Cluster.decode v with
      | ok c => rw [(hsingle c).mp hs]
      | error e =>
        cases hs' : Cluster.decode v' with
        | ok c => rw [(hsingle c).mpr hs'] at hs; cases hs
        | error e' => rfl

/-- **What a document is decoded to hangs on known members only.** If members with unknown names are
put anywhere into the clusters, zones, servers and tenants of a document, then it is decoded to the
same clusters, or it is refused as it was before. The clusters of a document are those that are
read: a list that can be read as clusters holds them, and what can be read as one cluster does
not. -/
theorem ofValue_of_enlarged (origin : String) :
    (∀ v v', Enlarged v v' → ofValue origin v' = ofValue origin v) ∧
      (∀ v clusters, decodeMany v = .ok clusters → IsMany v) ∧
      ∀ v c, Cluster.decode v = .ok c → ¬ IsMany v := by
  refine ⟨fun v v' h => ?_, fun _ _ => isMany_of_decodeMany, fun _ _ => not_isMany_of_decode⟩
  cases h with
  | many hmany h =>
    refine ofValue_congr origin (agrees_listOf (h.imp Cluster.agrees_of_enlarged)) fun c => ?_
    -- neither list holds the fields of one cluster
    exact iff_of_false (fun hc => not_isMany_of_decode hc hmany) fun hc =>
      not_isMany_of_decode hc (isMany_of_forall₂ hmany h)
  | single hsingle h =>
    refine ofValue_congr origin (fun clusters => ?_) (Cluster.agrees_of_enlarged v v' h)
    exact iff_of_false (fun hc => hsingle (isMany_of_decodeMany hc)) fun hc =>
      not_isMany_of_enlarged hsingle h (isMany_of_decodeMany hc)

/-- A cluster with one zone, which has one server, and a tenant, with unknown members in all of
them. The cluster is decoded if it has a name, and refused if it has none. -/
theorem ofValue_of_enlarged_nested :
    let server : List (String × Value) :=
      [("id", .text "s1"), ("ip", .text "a"), ("port", .ofNat 1)]
    let zone (server : Value) : List (String × Value) :=
      [("name", .text "z"), ("servers", .list [server])]
    let cluster (zone tenant : Value) : List (String × Value) :=
      [("id", .ofNat 7), ("zones", .list [zone]), ("tenants", .list [tenant])]
    let named := cluster (.ofMembers (zone (.ofMembers server))) (.ofMembers [("name", .text "t")])
    let zone' := ("rack", .null) :: zone (.ofMembers (server ++ [("name", .ofNat 1)]))
    let named' := ("zone", .list []) ::
      cluster (.ofMembers zone') (.ofMembers [("ip", .null), ("name", .text "t")])
    let v (members : List (String × Value)) : Value := .list [.ofMembers members]
    (∃ clusters, ofValue "json" (v (named ++ [("name", .text "c")])) = .ok clusters ∧
      ofValue "json" (v (named' ++ [("name", .text "c")])) = .ok clusters) ∧
    ∃ e, ofValue "json" (v named) = .error e ∧ ofValue "json" (v named') = .error e := by
  intro server zone cluster named zone' named' v
  have hserver :
      Server.Enlarged (.ofMembers server) (.ofMembers (server ++ [("name", .ofNat 1)])) :=
    .named (.same _ (.same _ (.same _ (.extra (by decide) _ .nil))))
  have hzone : Zone.Enlarged (.ofMembers (zone (.ofMembers server))) (.ofMembers zone') :=
    .named (.extra (by decide) _ (.same _ (.inside
      ⟨_, .head _, _, _, rfl, rfl, .cons hserver .nil⟩ .nil)))
  have htenant : Tenant.Enlarged (.ofMembers [("name", .text "t")])
      (.ofMembers [("ip", .null), ("name", .text "t")]) :=
    .named (.extra (by decide) _ (.same _ .nil))
  have hmembers (members : List (String × Value)) :
      Enlarged (v (named ++ members)) (v (named' ++ members)) := by
    refine .many ⟨_, rfl, ?_⟩ (.cons (.named ?_) .nil)
    · rintro first hfirst id hid
      obtain rfl := Option.some.inj hfirst
      cases hid
    · exact .extra (by decide) _ (.same _
        (.inside ⟨_, .head _, _, _, rfl, rfl, .cons hzone .nil⟩
          (.inside ⟨_, .tail _ (.head _), _, _, rfl, rfl, .cons htenant .nil⟩
            (moreMembers_refl _))))
  obtain ⟨hsame, -⟩ := ofValue_of_enlarged "json"
  constructor
  · obtain ⟨clusters, hv⟩ : ∃ clusters,
        ofValue "json" (v (named ++ [("name", .text "c")])) = .ok clusters := ⟨_, rfl⟩
    exact ⟨clusters, hv, (hsame _ _ (hmembers _)).trans hv⟩
  · obtain ⟨e, hv⟩ : ∃ e, ofValue "json" (v named) = .error e := ⟨_, rfl⟩
    exact ⟨e, hv, (hsame _ _ (hmembers [])).trans hv⟩

end Snapshot

end ClusterMap
