import Mathlib
import Fitout.Journal.Metric

/-!
# What the metrics of a name come to

The metrics show each series that changed once, with its count. So all that they show under a name
comes to the number of events that count under it.
-/

namespace Fitout.Journal

/-- The series that the events count in, one for each event that counts. -/
def series (journal : Journal) : List Series :=
  journal.filterMap Series.ofEvent?

/-- What the metrics of a name come to in all. -/
def total (name : String) (journal : Journal) : Nat :=
  ((journal.metrics.filter (·.1.name == name)).map (·.2)).sum

@[simp] theorem series_append (journal more : Journal) :
    series (journal ++ more) = series journal ++ series more :=
  List.filterMap_append

theorem count_eq (journal : Journal) (s : Series) : journal.count s = (series journal).count s := by
  rw [count, series, List.count_filterMap]

theorem nodup_eraseDups {α : Type} [BEq α] [LawfulBEq α] (l : List α) : l.eraseDups.Nodup := by
  match l with
  | [] => exact List.nodup_nil
  | a :: rest =>
    rw [List.eraseDups_cons, List.nodup_cons]
    exact ⟨by simp, nodup_eraseDups _⟩
termination_by l.length
decreasing_by exact Nat.lt_succ_of_le (List.length_filter_le _ _)

theorem perm_eraseDups {α : Type} [DecidableEq α] (l : List α) : l.eraseDups.Perm l.dedup :=
  (List.perm_ext_iff_of_nodup (nodup_eraseDups l) l.nodup_dedup).mpr fun a => by simp

/-- The gauge apart, what is shown under a name is what was counted under it. -/
theorem total_eq {name : String} (other : name ≠ Series.activeSessions.name) (journal : Journal) :
    journal.total name = (series journal).countP (·.name == name) := by
  have gauge : (Series.activeSessions.name == name) = false := beq_false_of_ne other.symm
  have counters : (journal.metrics.filter (·.1.name == name)).Perm
      (((series journal).eraseDups.filter (·.name == name)).map fun s => (s, journal.count s)) := by
    refine ((List.mergeSort_perm _ _).filter _).trans ?_
    have gauges : (if journal.activeSessions == 0 then []
        else [(Series.activeSessions, journal.activeSessions)]).filter (·.1.name == name) = [] := by
      split <;> simp [gauge]
    rw [List.filter_append, gauges, List.append_nil, List.filter_map]
    exact .rfl
  have shown : (((series journal).eraseDups.filter (·.name == name)).map
      (series journal).count).Perm _ :=
    ((perm_eraseDups (series journal)).filter _).map _
  rw [total, (counters.map _).sum_eq, List.map_map, ← List.sum_map_count_dedup_filter_eq_countP,
    ← shown.sum_eq]
  simp only [Function.comp_def, count_eq]

end Fitout.Journal
