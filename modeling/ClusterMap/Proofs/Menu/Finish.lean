import ClusterMap.Menu.Basic
import ClusterMap.Proofs.Data.Core

/-!
# Finished menus

Menus are put together in groups, and a group may come out empty. So there may be dividers at the
ends of a menu, which `Menu.finish` takes away: what it keeps is the core of the menu (`IsCore`),
and where that is empty a single line says that there is nothing to be done. Whatever is finished
can be shown (`Menu.IsFinished`), and nothing that can be shown is changed
(`Menu.finish_of_isFinished`).
-/

namespace ClusterMap

namespace MenuEntry

variable {e : MenuEntry}

theorem isDivider_iff : e.isDivider = true ↔ e = .divider := by
  cases e <;> simp [isDivider]

theorem isDivider_eq_false_iff : e.isDivider = false ↔ ∃ i, e = .item i := by
  cases e <;> simp [isDivider]

end MenuEntry

namespace Menu

open MenuEntry (isDivider)

/-- A menu that can be shown: it has lines, and it neither begins nor ends with a divider. -/
structure IsFinished (m : Menu) : Prop where
  ne_nil : m ≠ []
  head : ∀ e ∈ m.head?, e.isDivider = false
  last : ∀ e ∈ m.getLast?, e.isDivider = false

/-- The line that says that there is nothing to be done. -/
def placeholder : MenuEntry := .item (.disabled .noOperation none)

variable {entries m : Menu}

theorem finish_of_isCore (h : IsCore isDivider entries m) :
    finish entries = if m.isEmpty then [placeholder] else m := by
  rw [← isCore_iff.mp h]
  rfl

/-- Where there is an item, the core is not empty. -/
theorem core_ne_nil (h : IsCore isDivider entries m) {i : MenuItem} (hi : .item i ∈ entries) :
    m ≠ [] := by
  rintro rfl
  obtain ⟨front, back, rfl, hfront, hback⟩ := h.exists_ends
  rw [List.append_nil, List.mem_append] at hi
  have hdivider : (MenuEntry.item i).isDivider = true := hi.elim (hfront _) (hback _)
  cases hdivider

/-- **Items and all that is between them are kept.** -/
theorem isCore_finish {i : MenuItem} (hi : .item i ∈ entries) :
    IsCore isDivider entries (finish entries) := by
  have hcore := isCore_rdropWhile_dropWhile isDivider entries
  have hne := core_ne_nil hcore hi
  rw [finish_of_isCore hcore, if_neg (by simpa using hne)]
  exact hcore

/-- Of dividers alone nothing is kept. -/
theorem finish_of_dividers (h : ∀ e ∈ entries, e.isDivider = true) :
    finish entries = [placeholder] := by
  have hcore : IsCore isDivider entries [] :=
    ⟨⟨entries, [], by simp, h, by simp⟩, by simp, by simp⟩
  exact finish_of_isCore hcore

theorem isFinished_finish (entries : Menu) : (finish entries).IsFinished := by
  by_cases h : ∃ i, .item i ∈ entries
  · obtain ⟨i, hi⟩ := h
    have hcore := isCore_finish hi
    exact ⟨core_ne_nil hcore hi, hcore.head, hcore.last⟩
  · have hdividers : ∀ e ∈ entries, e.isDivider = true := by
      intro e he
      by_contra hnot
      obtain ⟨i, rfl⟩ := MenuEntry.isDivider_eq_false_iff.mp (by simpa using hnot)
      exact h ⟨i, he⟩
    rw [finish_of_dividers hdividers]
    exact ⟨by simp, by simp [placeholder, isDivider], by simp [placeholder, isDivider]⟩

/-- What can be shown is left as it is. -/
theorem finish_of_isFinished (h : m.IsFinished) : finish m = m := by
  have hcore : IsCore isDivider m m := ⟨⟨[], [], by simp⟩, h.head, h.last⟩
  rw [finish_of_isCore hcore, if_neg (by simpa using h.ne_nil)]

/-- There are no items among dividers. -/
theorem filterMap_item?_of_dividers (h : ∀ e ∈ m, e.isDivider = true) :
    m.filterMap MenuEntry.item? = [] := by
  refine List.filterMap_eq_nil_iff.mpr fun e he => ?_
  rw [MenuEntry.isDivider_iff.mp (h e he)]
  rfl

/-- **Finishing a menu takes nothing away but the dividers at its ends.** The outcome can always be
shown. If there is an item, the outcome is the part of the menu from the first item to the last one,
with all items in their order and every divider between them. If there is none, the outcome is a
single line that cannot be chosen. Finishing twice is finishing once.

So the menu of a node can be shown, whatever the node is and whether or not its cluster is
current. -/
theorem finish_keeps_items (entries : Menu) :
    (finish entries).IsFinished ∧
    ((∃ i, .item i ∈ entries) →
      (∃ front back, entries = front ++ finish entries ++ back ∧
        (∀ e ∈ front, e = .divider) ∧ ∀ e ∈ back, e = .divider) ∧
      (finish entries).filterMap MenuEntry.item? = entries.filterMap MenuEntry.item?) ∧
    ((∀ i, .item i ∉ entries) →
      finish entries = [.item ⟨.noOperation, Action.noOperation.label, false, none⟩]) ∧
    finish (finish entries) = finish entries ∧
    ∀ (n : Node) (isCurrent : Bool), (ofNode n isCurrent).IsFinished := by
  refine ⟨isFinished_finish entries, ?_, ?_, ?_, ?_⟩
  · rintro ⟨i, hi⟩
    obtain ⟨front, back, hentries, hfront, hback⟩ := (isCore_finish hi).exists_ends
    refine ⟨⟨front, back, hentries, ?_, ?_⟩, ?_⟩
    · intro e he
      exact MenuEntry.isDivider_iff.mp (hfront e he)
    · intro e he
      exact MenuEntry.isDivider_iff.mp (hback e he)
    · -- the items are all in the core
      conv_rhs => rw [hentries]
      rw [List.filterMap_append, List.filterMap_append, filterMap_item?_of_dividers hfront,
        filterMap_item?_of_dividers hback, List.nil_append, List.append_nil]
  · intro hnone
    refine finish_of_dividers fun e he => ?_
    cases e with
    | item i => exact absurd he (hnone i)
    | divider => rfl
  · exact finish_of_isFinished (isFinished_finish entries)
  · intro n isCurrent
    exact isFinished_finish _

/-- A divider between two items stays, and those around them go. -/
theorem finish_keeps_items_between :
    let entries : Menu := [.divider, .offer .start, .divider, .offer .stop, .divider, .divider]
    (∃ i, .item i ∈ entries) ∧
      (finish entries).filterMap MenuEntry.item? = [.offer .start, .offer .stop] ∧
      (∀ i, .item i ∉ ([.divider, .divider] : Menu)) ∧
      finish [.divider, .divider] = [placeholder] := by
  intro entries
  have hitem : ∃ i, .item i ∈ entries := ⟨.offer .start, by decide⟩
  have hnone : ∀ i, .item i ∉ ([.divider, .divider] : Menu) := by simp
  obtain ⟨-, hkept, -⟩ := finish_keeps_items entries
  obtain ⟨-, -, hplaceholder, -⟩ := finish_keeps_items [.divider, .divider]
  exact ⟨hitem, (hkept hitem).2, hnone, hplaceholder hnone⟩

end Menu

end ClusterMap
