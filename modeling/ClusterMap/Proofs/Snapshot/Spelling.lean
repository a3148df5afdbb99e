import ClusterMap.Proofs.Data.Record
import ClusterMap.Snapshot.Source

/-!
# Spellings of a snapshot

A cluster can be written in many ways: it, and each zone, server and tenant in it, as a record whose
members are in any order or as the list of the values of its fields (`Cluster.Spelled`), and a
snapshot as the list of its clusters, or as its cluster alone if it has only one. Decoding undoes
all of them (`Cluster.decode_of_spelled`), as long as rates are finite; one that is not has no
written form.

A list may be a list of clusters or the list of the values of one cluster, but never both. A cluster
is a record or a list, and an identifier is neither, so the first item tells
(`not_decode_of_decodeMany`).
-/

namespace ClusterMap

open Decode

/-! ### Scalars -/

namespace Decode

theorem optional_ofText? (s : Option String) : optional text (.ofText? s) = .ok s := by
  cases s <;> rfl

theorem word16_ofNat (n : UInt16) : word16 (.ofNat n.toNat) = .ok n := by
  unfold word16
  rw [unsigned_ofNat "u16" n.toNat_lt]
  exact congrArg Except.ok UInt16.ofNat_toNat

theorem word32_ofNat (n : UInt32) : word32 (.ofNat n.toNat) = .ok n := by
  unfold word32
  rw [unsigned_ofNat "u32" n.toNat_lt]
  exact congrArg Except.ok UInt32.ofNat_toNat

theorem word64_ofNat (n : UInt64) : word64 (.ofNat n.toNat) = .ok n := by
  unfold word64
  rw [unsigned_ofNat "u64" n.toNat_lt]
  exact congrArg Except.ok UInt64.ofNat_toNat

/-- A count or null is read back if counts are. -/
theorem optional_ofNat? {α : Type} {d : Decoder α} {toNat : α → Nat}
    (h : ∀ a, d (.ofNat (toNat a)) = .ok a) (a : Option α) :
    optional d (.ofNat? (a.map toNat)) = .ok a := by
  cases a with
  | none => rfl
  | some a => exact optional_of_ok nofun (h a)

end Decode

namespace Snapshot

/-- A rate that is not finite has no written form. -/
def IsFiniteRate (rate : Option Float) : Prop := ∀ x ∈ rate, x.isFinite = true

/-- The rates of a zone and of its servers are finite. -/
def Zone.HasFiniteRates (z : Zone) : Prop :=
  IsFiniteRate z.qps ∧ ∀ s ∈ z.servers, IsFiniteRate s.qps

/-- All rates in a cluster are finite. -/
def Cluster.HasFiniteRates (c : Cluster) : Prop := ∀ z ∈ c.zones, z.HasFiniteRates

theorem optional_rateValue {rate : Option Float} (h : IsFiniteRate rate) :
    optional float64 (rateValue rate) = .ok rate := by
  cases rate with
  | none => rfl
  | some x =>
    have hx : Value.ofFloat x = .real x := if_pos (h x rfl)
    change Decode.optional float64 (Value.ofFloat x) = _
    rw [hx]
    rfl

theorem choice_name (r : Role) : choice Role.names false (.text r.name) = .ok r := by
  cases r <;> rfl

/-! ### Values of fields -/

/-- The values of the fields of a tenant. -/
def Tenant.values (t : Tenant) : List Value := [.text t.name, .ofText? t.status]

/-- The values of the fields of a server. -/
def Server.values (s : Server) : List Value :=
  [.text s.id, .text s.ip, .ofNat s.port.toNat, .ofNat? (s.sqlPort.map (·.toNat)),
    .ofText? s.status, .ofNat? (s.connectionCount.map (·.toNat)), rateValue s.qps]

/-- The values of the fields of a zone whose servers are written as given values. -/
def Zone.values (z : Zone) (servers : List Value) : List Value :=
  [.text z.name, .ofText? z.regionName, .ofText? z.status, .ofText? z.rootServer,
    .ofNat? (z.cpuCount.map (·.toNat)), .ofText? z.memorySize,
    .ofNat? (z.unitCount.map (·.toNat)), .ofNat? (z.connectionCount.map (·.toNat)),
    rateValue z.qps, .list servers]

/-- The values of the fields of a cluster whose zones and tenants are written as given values. -/
def Cluster.values (c : Cluster) (zones tenants : List Value) : List Value :=
  [.text c.id, .text c.name, .ofText? c.status, .ofText? c.obVersion, .text c.role.name,
    .bool c.autoDetectEnabled, .list zones, .list tenants]

/-! ### Spellings -/

/-- A tenant is written as a value. -/
def Tenant.Spelled (t : Tenant) (v : Value) : Prop := Spelling Tenant.fields.names t.values v

/-- A server is written as a value. -/
def Server.Spelled (s : Server) (v : Value) : Prop := Spelling Server.fields.names s.values v

/-- A zone is written as a value, its servers in any of their spellings. -/
def Zone.Spelled (z : Zone) (v : Value) : Prop :=
  ∃ servers, List.Forall₂ Server.Spelled z.servers servers ∧
    Spelling Zone.fields.names (z.values servers) v

/-- A cluster is written as a value, its zones and tenants in any of their spellings. -/
def Cluster.Spelled (c : Cluster) (v : Value) : Prop :=
  ∃ zones tenants, List.Forall₂ Zone.Spelled c.zones zones ∧
    List.Forall₂ Tenant.Spelled c.tenants tenants ∧
    Spelling Cluster.fields.names (c.values zones tenants) v

private theorem forall₂_map_self {α β : Type} {R : α → β → Prop} {f : α → β}
    (h : ∀ a, R a (f a)) (l : List α) : List.Forall₂ R l (l.map f) := by
  rw [List.forall₂_map_right_iff]
  exact List.forall₂_same.mpr fun a _ => h a

theorem Tenant.spelled_toValue (t : Tenant) : t.Spelled t.toValue := .named (.refl _)

theorem Server.spelled_toValue (s : Server) : s.Spelled s.toValue := .named (.refl _)

theorem Zone.spelled_toValue (z : Zone) : z.Spelled z.toValue :=
  ⟨_, forall₂_map_self Server.spelled_toValue z.servers, .named (.refl _)⟩

/-- The value of a cluster is one of its spellings. -/
theorem Cluster.spelled_toValue (c : Cluster) : c.Spelled c.toValue :=
  ⟨_, _, forall₂_map_self Zone.spelled_toValue c.zones,
    forall₂_map_self Tenant.spelled_toValue c.tenants, .named (.refl _)⟩

/-! ### Reading -/

theorem Tenant.decode_of_spelled {t : Tenant} {v : Value} (hv : t.Spelled v) :
    Tenant.decode v = .ok t := by
  refine record_of_spelling (by decide) ?_ hv
  exact (Fields.reads_none Tenant.mk)
    |>.need "name" rfl
    |>.orElse "status" none (optional_ofText? t.status)

theorem Server.decode_of_spelled {s : Server} (hs : IsFiniteRate s.qps) {v : Value}
    (hv : s.Spelled v) : Server.decode v = .ok s := by
  refine record_of_spelling (by decide) ?_ hv
  exact (Fields.reads_none Server.mk)
    |>.need "id" rfl
    |>.need "ip" rfl
    |>.need "port" (word16_ofNat s.port)
    |>.orElse "sqlPort" none (optional_ofNat? word16_ofNat s.sqlPort)
    |>.orElse "status" none (optional_ofText? s.status)
    |>.orElse "connectionCount" none (optional_ofNat? word64_ofNat s.connectionCount)
    |>.orElse "qps" none (optional_rateValue hs)

/-- A list is read back if its items are, however each is written. -/
theorem listOf_of_spelled {α : Type} {d : Decoder α} {Spelled : α → Value → Prop} {as : List α}
    {items : List Value} (hitems : List.Forall₂ Spelled as items)
    (h : ∀ a ∈ as, ∀ v, Spelled a v → d v = .ok a) : listOf d (.list items) = .ok as := by
  refine listOf_eq_ok_iff.mpr ⟨items, rfl, ?_⟩
  induction hitems with
  | nil => exact .nil
  | cons hv _ ih =>
    exact .cons (h _ List.mem_cons_self _ hv) (ih fun a ha => h a (List.mem_cons_of_mem _ ha))

theorem Zone.decode_of_spelled {z : Zone} (hz : z.HasFiniteRates) {v : Value} (hv : z.Spelled v) :
    Zone.decode v = .ok z := by
  obtain ⟨servers, hservers, hv⟩ := hv
  have hlist : listOf Server.decode (.list servers) = .ok z.servers :=
    listOf_of_spelled hservers fun s hs _ => Server.decode_of_spelled (hz.2 s hs)
  refine record_of_spelling (by decide) ?_ hv
  exact (Fields.reads_none Zone.mk)
    |>.need "name" rfl
    |>.orElse "regionName" none (optional_ofText? z.regionName)
    |>.orElse "status" none (optional_ofText? z.status)
    |>.orElse "rootServer" none (optional_ofText? z.rootServer)
    |>.orElse "cpuCount" none (optional_ofNat? word32_ofNat z.cpuCount)
    |>.orElse "memorySize" none (optional_ofText? z.memorySize)
    |>.orElse "unitCount" none (optional_ofNat? word32_ofNat z.unitCount)
    |>.orElse "connectionCount" none (optional_ofNat? word64_ofNat z.connectionCount)
    |>.orElse "qps" none (optional_rateValue hz.1)
    |>.orElse "servers" [] hlist

/-- **A cluster is read back from all its spellings.** -/
theorem Cluster.decode_of_spelled {c : Cluster} (hc : c.HasFiniteRates) {v : Value}
    (hv : c.Spelled v) : Cluster.decode v = .ok c := by
  obtain ⟨zones, tenants, hzones, htenants, hv⟩ := hv
  have hzonelist : listOf Zone.decode (.list zones) = .ok c.zones :=
    listOf_of_spelled hzones fun z hz _ => Zone.decode_of_spelled (hc z hz)
  have htenantlist : listOf Tenant.decode (.list tenants) = .ok c.tenants :=
    listOf_of_spelled htenants fun _ _ _ => Tenant.decode_of_spelled
  refine record_of_spelling (by decide) ?_ hv
  exact (Fields.reads_none Cluster.mk)
    |>.need "id" rfl
    |>.need "name" rfl
    |>.orElse "status" none (optional_ofText? c.status)
    |>.orElse "obVersion" none (optional_ofText? c.obVersion)
    |>.orElse "role" .primary (choice_name c.role)
    |>.orElse "autoDetectEnabled" false rfl
    |>.orElse "zones" [] hzonelist
    |>.orElse "tenants" [] htenantlist

/-! ### Lists and single clusters -/

/-- An identifier is a text or a number. -/
theorem identifier_eq_ok {v : Value} {id : String} (h : identifier v = .ok id) :
    (∃ s, v = .text s) ∨ ∃ n, v = .integer n := by
  cases v with
  | text s => exact .inl ⟨s, rfl⟩
  | integer n => exact .inr ⟨n, rfl⟩
  | _ => cases h

/-- What a list holds in front is an identifier, if the list can be read as a cluster. -/
theorem exists_identifier_of_decode {items : List Value} {c : Cluster}
    (h : Cluster.decode (.list items) = .ok c) :
    ∃ v id, items[0]? = some v ∧ identifier v = .ok id := by
  change fromItems _ Cluster.fields items = .ok c at h
  unfold fromItems at h
  dsimp only at h
  cases hread : Cluster.fields.read 0 (.listed items) with
  | error e => rw [hread] at h; cases h
  | ok c' =>
    have hfirst : Cluster.fields.Extends ((Fields.none Cluster.mk).need "id" identifier) :=
      (Fields.Extends.refl _).and.and.and.and.and.and.and
    obtain ⟨_, hid⟩ := hfirst 0 _ c' hread
    exact Fields.exists_item_of_read_need hid

/-- **No value is both a list of clusters and a single cluster.** -/
theorem not_decode_of_decodeMany {v : Value} {clusters : List Cluster}
    (h : decodeMany v = .ok clusters) (c : Cluster) : Cluster.decode v ≠ .ok c := by
  intro hc
  obtain ⟨items, rfl, hitems⟩ := listOf_eq_ok_iff.mp h
  obtain ⟨v, id, hv, hid⟩ := exists_identifier_of_decode hc
  -- the first item would be an identifier as well as a cluster
  obtain ⟨rest, rfl⟩ : ∃ rest, items = v :: rest := by
    cases items with
    | nil => cases hv
    | cons w rest => exact ⟨rest, by rw [Option.some.inj hv]⟩
  obtain ⟨c', _, hc', -, -⟩ := List.forall₂_cons_left_iff.mp hitems
  rcases identifier_eq_ok hid with ⟨s, rfl⟩ | ⟨n, rfl⟩ <;> cases hc'

/-- A document is what either of its two readings gives, whichever is tried first. -/
theorem ofValue_eq_ok_iff {origin : String} {v : Value} {clusters : List Cluster} :
    ofValue origin v = .ok clusters ↔
      decodeMany v = .ok clusters ∨ ∃ c, Cluster.decode v = .ok c ∧ clusters = [c] := by
  unfold ofValue decodeDocument
  cases hmany : decodeMany v with
  | ok clusters' =>
    -- then it is not a single cluster
    have hsingle : ¬ ∃ c, Cluster.decode v = .ok c ∧ clusters = [c] := fun ⟨c, hc, _⟩ =>
      not_decode_of_decodeMany hmany c hc
    rw [or_iff_left hsingle]
    simp [Except.mapError]
  | error e =>
    cases hsingle : Cluster.decode v with
    | ok c => simp [Except.mapError, eq_comm]
    | error e' => simp [Except.mapError]

/-- **Decoding undoes encoding, in all spellings and in one way only.** Let the rates of some
clusters be finite. The clusters are read back from the document that holds them, each of them from
its own value as well, and this does not change if clusters, zones, servers or tenants anywhere in
it are written as the lists of their fields, or with their members in another order. No value at all
is both a list of clusters and a single one, so that a document is what either reading gives,
whichever is tried first. -/
theorem document_read_back (origin : String) {clusters : List Cluster}
    (h : ∀ c ∈ clusters, c.HasFiniteRates) :
    ofValue origin (toDocument clusters) = .ok clusters ∧
      (∀ items, List.Forall₂ Cluster.Spelled clusters items →
        ofValue origin (.list items) = .ok clusters) ∧
      (∀ c ∈ clusters, ofValue origin c.toValue = .ok [c] ∧
        ∀ v, c.Spelled v → ofValue origin v = .ok [c]) ∧
      (∀ v many single, decodeMany v = .ok many → Cluster.decode v ≠ .ok single) ∧
      ∀ v result, ofValue origin v = .ok result ↔
        decodeMany v = .ok result ∨ ∃ c, Cluster.decode v = .ok c ∧ result = [c] := by
  have hmany : ∀ items, List.Forall₂ Cluster.Spelled clusters items →
      ofValue origin (.list items) = .ok clusters := fun items hitems =>
    ofValue_eq_ok_iff.mpr
      (.inl (listOf_of_spelled hitems fun c hc _ => Cluster.decode_of_spelled (h c hc)))
  have hsingle : ∀ c ∈ clusters, ∀ v, c.Spelled v → ofValue origin v = .ok [c] := fun c hc v hv =>
    ofValue_eq_ok_iff.mpr (.inr ⟨c, Cluster.decode_of_spelled (h c hc) hv, rfl⟩)
  exact ⟨hmany _ (forall₂_map_self Cluster.spelled_toValue clusters), hmany,
    fun c hc => ⟨hsingle c hc _ c.spelled_toValue, hsingle c hc⟩,
    fun _ _ c hclusters => not_decode_of_decodeMany hclusters c, fun _ _ => ofValue_eq_ok_iff⟩

/-- A cluster written as the list of its fields, with a zone whose members are in reverse order and
whose server is written as the list of its fields. -/
theorem document_read_back_mixed :
    let server : Server := ⟨"s1", "10.0.0.1", 2882, none, some "RUNNING", some 4, some 120.5⟩
    let zone : Zone :=
      ⟨"zone1", none, some "RUNNING", none, some 16, none, none, none, none, [server]⟩
    let cluster : Cluster := ⟨"c1", "c1-name", some "RUNNING", none, .standby, true, [zone], []⟩
    let members := Zone.fields.names.zip (zone.values [.list server.values])
    let v : Value := .list (cluster.values [.ofMembers members.reverse] [])
    cluster.HasFiniteRates ∧ ofValue "request body" v = .ok [cluster] ∧
      ofValue "request body" (.list [v, cluster.toValue]) = .ok [cluster, cluster] := by
  intro server zone cluster members v
  have hserver : IsFiniteRate server.qps := by
    intro x hx
    obtain rfl : (120.5 : Float) = x := Option.some.inj hx
    decide
  have hrates : cluster.HasFiniteRates := by
    intro z hz
    obtain rfl := List.mem_singleton.mp hz
    refine ⟨nofun, fun s hs => ?_⟩
    obtain rfl := List.mem_singleton.mp hs
    exact hserver
  have hzone : zone.Spelled (.ofMembers members.reverse) :=
    ⟨_, .cons .listed .nil, .named (List.reverse_perm _)⟩
  have hv : cluster.Spelled v := ⟨_, _, .cons hzone .nil, .nil, .listed⟩
  have hboth : ∀ c ∈ [cluster, cluster], c.HasFiniteRates := by
    intro c hc
    obtain rfl : c = cluster := by simpa using hc
    exact hrates
  obtain ⟨-, hmany, hsingle, -⟩ := document_read_back "request body" hboth
  exact ⟨hrates, (hsingle cluster List.mem_cons_self).2 v hv,
    hmany _ (.cons hv (.cons cluster.spelled_toValue .nil))⟩

end Snapshot

end ClusterMap
