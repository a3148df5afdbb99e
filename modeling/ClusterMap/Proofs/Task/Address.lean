import ClusterMap.Proofs.Text.Percent
import ClusterMap.Task.Address
import Mathlib.Data.List.TakeWhile

/-!
# Where an address leads

The address of a cluster's actions is put together from texts, and the service takes it apart again:
it ends where a query or a fragment begins, slashes divide it into segments (`segments`), and the
escapes in a segment are undone (`Text.unescape`). An address leads to a cluster if the segments of
the service are followed by `clusters`, one that stands for the identifier, and `actions`
(`LeadsTo`).

An identifier is put into the address as it is, and its own slashes, question marks, number signs
and escapes are taken for those of the address. Where it has none of them, and only there, the
address leads to its cluster (`actionsUrl_leadsTo_iff`).
-/

namespace ClusterMap.Task

open Text (unescape utf8 HasEscape)

/-- Whether a query or a fragment begins at a character. -/
def endsPath (c : Char) : Bool := c == '?' || c == '#'

/-- The segments of an address, without its query and its fragment. -/
def segments (url : String) : List (List Char) := (url.toList.takeWhile (!endsPath ·)).splitOn '/'

/-- An address leads to the actions of a cluster of the service at a base address. -/
def LeadsTo (base url clusterId : String) : Prop :=
  ∃ segment, unescape segment = utf8 clusterId.toList ∧ segments url =
    segments (dropSlashes base) ++ ["clusters".toList, segment, "actions".toList]

/-- What is left of an identifier and of what stands behind it where the address ends. -/
def remains (clusterId : String) : List Char :=
  (clusterId.toList ++ '/' :: "actions".toList).takeWhile (!endsPath ·)

/-! ### Dividing texts -/

section Split

variable {cs cs' segment : List Char} {c : Char}

/-- Texts that are divided alike are equal. -/
theorem splitOn_inj (h : cs.splitOn c = cs'.splitOn c) : cs = cs' :=
  calc cs = [c].intercalate (cs.splitOn c) := (List.intercalate_splitOn c).symm
    _ = [c].intercalate (cs'.splitOn c) := by rw [h]
    _ = cs' := List.intercalate_splitOn c

theorem splitOn_eq_singleton_iff : cs.splitOn c = [segment] ↔ cs = segment ∧ c ∉ cs := by
  constructor
  · intro h
    have hcs : [c].intercalate (cs.splitOn c) = segment := by simp [h]
    refine ⟨(List.intercalate_splitOn c).symm.trans hcs, fun hc => ?_⟩
    -- before and behind a divider there is a part each
    obtain ⟨before, behind, rfl⟩ := List.append_of_mem hc
    rw [List.splitOn_append_cons_self] at h
    have hlength := congrArg List.length h
    have hbefore := List.length_pos_of_ne_nil (List.splitOn_ne_nil c before)
    have hbehind := List.length_pos_of_ne_nil (List.splitOn_ne_nil c behind)
    rw [List.length_append, List.length_singleton] at hlength
    omega
  · rintro ⟨rfl, hc⟩
    exact List.splitOn_eq_singleton hc

end Split

/-! ### The address of a cluster -/

section Address

variable {base clusterId : String}

theorem not_endsPath_of_mem_dropSlashes (hbase : ∀ c ∈ base.toList, endsPath c = false) :
    ∀ c ∈ (dropSlashes base).toList, endsPath c = false := by
  intro c hc
  rw [dropSlashes, String.toList_ofList, List.mem_reverse] at hc
  exact hbase c (List.mem_reverse.mp ((List.dropWhile_suffix _).subset hc))

/-- The segments behind those of the service hang on the identifier alone. -/
theorem segments_actionsUrl (hbase : ∀ c ∈ base.toList, endsPath c = false) (clusterId : String) :
    segments (actionsUrl base clusterId) =
      segments (dropSlashes base) ++ "clusters".toList :: (remains clusterId).splitOn '/' := by
  have hdrop : ∀ c ∈ (dropSlashes base).toList, (!endsPath c) = true := fun c hc => by
    rw [not_endsPath_of_mem_dropSlashes hbase c hc]
    rfl
  have htext : (actionsUrl base clusterId).toList = (dropSlashes base).toList ++
      '/' :: ("clusters".toList ++ '/' :: (clusterId.toList ++ '/' :: "actions".toList)) := by
    simp [actionsUrl]
  have hpath : (actionsUrl base clusterId).toList.takeWhile (!endsPath ·) =
      (dropSlashes base).toList ++ '/' :: ("clusters".toList ++ '/' :: remains clusterId) := by
    rw [htext, List.takeWhile_append_of_pos hdrop]
    rfl
  have hservice : segments (dropSlashes base) = (dropSlashes base).toList.splitOn '/' := by
    rw [segments, List.takeWhile_eq_self_iff.mpr hdrop]
  have hclusters : '/' ∉ "clusters".toList := by decide
  rw [segments, hpath, List.splitOn_append_cons_self, List.splitOn_append_cons_self, hservice,
    List.splitOn_eq_singleton hclusters]
  rfl

theorem leadsTo_actionsUrl_iff (hbase : ∀ c ∈ base.toList, endsPath c = false) :
    LeadsTo base (actionsUrl base clusterId) clusterId ↔
      ∃ segment, unescape segment = utf8 clusterId.toList ∧
        (remains clusterId).splitOn '/' = [segment, "actions".toList] := by
  simp [LeadsTo, segments_actionsUrl hbase]

/-- An identifier in which no query and no fragment begins remains as a whole. -/
theorem remains_of_forall (h : ∀ c ∈ clusterId.toList, endsPath c = false) :
    remains clusterId = clusterId.toList ++ '/' :: "actions".toList := by
  rw [remains, List.takeWhile_append_of_pos (by simpa using h)]
  rfl

/-- Of any other identifier a part is lost. -/
theorem exists_lost (h : ¬ ∀ c ∈ clusterId.toList, endsPath c = false) :
    ∃ lost, clusterId.toList = remains clusterId ++ lost := by
  refine ⟨clusterId.toList.dropWhile (!endsPath ·), ?_⟩
  have hlength : (clusterId.toList.takeWhile (!endsPath ·)).length ≠ clusterId.toList.length := by
    intro hlength
    have hall := List.takeWhile_eq_self_iff.mp
      ((List.takeWhile_prefix (!endsPath ·)).eq_of_length hlength)
    exact h (by simpa using hall)
  rw [remains, List.takeWhile_append, if_neg hlength, List.takeWhile_append_dropWhile]

/-- **Which identifiers are addressed.** -/
theorem splitOn_remains_iff :
    (∃ segment, unescape segment = utf8 clusterId.toList ∧
        (remains clusterId).splitOn '/' = [segment, "actions".toList]) ↔
      (∀ c ∈ clusterId.toList, c ≠ '/' ∧ c ≠ '?' ∧ c ≠ '#') ∧ ¬ HasEscape clusterId.toList := by
  have hactions : '/' ∉ "actions".toList := by decide
  constructor
  · rintro ⟨segment, hsegment, hsplit⟩
    by_cases hends : ∀ c ∈ clusterId.toList, endsPath c = false
    · rw [remains_of_forall hends, List.splitOn_append_cons_self,
        List.splitOn_eq_singleton hactions] at hsplit
      change _ = [segment] ++ ["actions".toList] at hsplit
      rw [List.append_left_inj, splitOn_eq_singleton_iff] at hsplit
      obtain ⟨rfl, hslash⟩ := hsplit
      refine ⟨fun c hc => ⟨fun h => hslash (h ▸ hc), ?_⟩,
        (Text.unescape_eq_utf8_iff clusterId.toList).mp hsegment⟩
      simpa [endsPath] using hends c hc
    · -- the segment is shorter than the identifier, of which a part is lost
      obtain ⟨lost, hlost⟩ := exists_lost hends
      have hremains : remains clusterId = segment ++ '/' :: "actions".toList :=
        calc remains clusterId = ['/'].intercalate ((remains clusterId).splitOn '/') :=
              (List.intercalate_splitOn '/').symm
          _ = segment ++ '/' :: "actions".toList := by simp [hsplit]
      have hle := Text.length_unescape_le segment
      rw [hsegment, hlost, hremains] at hle
      simp only [Text.utf8_append, Text.utf8_cons, List.length_append] at hle
      have hslash := Text.length_utf8EncodeChar_pos '/'
      omega
  · rintro ⟨hplain, hescape⟩
    have hends : ∀ c ∈ clusterId.toList, endsPath c = false := fun c hc => by
      simpa [endsPath] using (hplain c hc).2
    refine ⟨clusterId.toList, (Text.unescape_eq_utf8_iff _).mpr hescape, ?_⟩
    rw [remains_of_forall hends, List.splitOn_append_cons_self,
      List.splitOn_eq_singleton hactions,
      List.splitOn_eq_singleton fun hslash => (hplain '/' hslash).1 rfl]
    rfl

end Address

/-- **Where the address of a cluster's actions leads.** Let a base address have no query and no
fragment. Its segments are followed by `clusters`, and what follows then hangs on the identifier
alone. The address leads to the cluster exactly if its identifier has no slash, no question mark, no
number sign and no escape. Addresses that lead to their clusters are told apart by their segments
also after the escapes in them are undone; and two clusters do not have the same segments unless a
query or a fragment begins in the identifier of one of them. -/
theorem actionsUrl_leadsTo_iff {base : String} (hbase : ∀ c ∈ base.toList, endsPath c = false) :
    (∀ id, segments (actionsUrl base id) =
      segments (dropSlashes base) ++ "clusters".toList :: (remains id).splitOn '/') ∧
    (∀ id, LeadsTo base (actionsUrl base id) id ↔
      (∀ c ∈ id.toList, c ≠ '/' ∧ c ≠ '?' ∧ c ≠ '#') ∧ ¬ HasEscape id.toList) ∧
    (∀ id id', LeadsTo base (actionsUrl base id) id → LeadsTo base (actionsUrl base id') id' →
      (segments (actionsUrl base id)).map unescape = (segments (actionsUrl base id')).map unescape →
      id = id') ∧
    (∀ id id', segments (actionsUrl base id) = segments (actionsUrl base id') → id ≠ id' →
      ∃ c ∈ id.toList ++ id'.toList, endsPath c = true) := by
  refine ⟨segments_actionsUrl hbase,
    fun id => (leadsTo_actionsUrl_iff hbase).trans splitOn_remains_iff, ?_, ?_⟩
  · rintro id id' ⟨segment, hid, hsegments⟩ ⟨segment', hid', hsegments'⟩ hsame
    rw [hsegments, hsegments', List.map_append, List.map_append, List.append_right_inj] at hsame
    have hbytes : unescape segment = unescape segment' := by simpa using hsame
    exact Text.utf8_toList_inj (by rw [← hid, ← hid', hbytes])
  · intro id id' hsame hne
    by_contra hnone
    have hends : ∀ c ∈ id.toList ++ id'.toList, endsPath c = false := by simpa using hnone
    obtain ⟨hid, hid'⟩ := List.forall_mem_append.mp hends
    rw [segments_actionsUrl hbase, segments_actionsUrl hbase, List.append_right_inj,
      List.cons_inj_right] at hsame
    have hremains := splitOn_inj hsame
    rw [remains_of_forall hid, remains_of_forall hid', List.append_left_inj] at hremains
    exact hne (String.toList_injective hremains)

/-- A cluster with a plain identifier is addressed below a base address with a slash at its end. -/
theorem actionsUrl_leadsTo_plain :
    (∀ c ∈ "http://tasks.local/api/v1/".toList, endsPath c = false) ∧
      LeadsTo "http://tasks.local/api/v1/"
        (actionsUrl "http://tasks.local/api/v1/" "100%-c 1") "100%-c 1" := by
  have hbase : ∀ c ∈ "http://tasks.local/api/v1/".toList, endsPath c = false := by simp [endsPath]
  refine ⟨hbase, ((actionsUrl_leadsTo_iff hbase).2.1 "100%-c 1").mpr ⟨by simp, ?_⟩⟩
  rw [← Text.unescape_eq_utf8_iff]
  decide

/-- The address of a cluster whose identifier has a slash has one segment too many. With a number
sign in it the address even is that of another cluster, to which the actions are posted then. -/
theorem actionsUrl_leadsTo_fails_slash :
    let base := "http://tasks.local/api/v1"
    ¬ LeadsTo base (actionsUrl base "a/b") "a/b" ∧
      segments (actionsUrl base "a/b") =
        segments base ++ ["clusters".toList, ['a'], ['b'], "actions".toList] ∧
      LeadsTo base (actionsUrl base "c1/actions#") "c1" ∧
      segments (actionsUrl base "c1/actions#") = segments (actionsUrl base "c1") := by
  intro base
  have hbase : ∀ c ∈ base.toList, endsPath c = false := by simp [base, endsPath]
  refine ⟨fun h => ?_, by decide, ⟨"c1".toList, by decide, by decide⟩, by decide⟩
  have hplain := (splitOn_remains_iff.mp ((leadsTo_actionsUrl_iff hbase).mp h)).1
  exact (hplain '/' (by decide)).1 rfl

end ClusterMap.Task
