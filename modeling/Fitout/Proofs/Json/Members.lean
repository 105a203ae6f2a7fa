import Fitout.Proofs.Json.Shape

/-!
# The order of members

Members that are set one after the other stand in the order in which their names came first. A name
that comes again keeps its place and takes the later value, and names that differ from each other
leave the members as they are.
-/

namespace Fitout.Json

variable {α β : Type} {key : String} {value : α} {known later : List (String × α)}

theorem keys_setMember_of_mem (present : key ∈ known.map (·.1)) :
    (setMember key value known).map (·.1) = known.map (·.1) := by
  induction known with
  | nil => cases present
  | cons member rest inductionHypothesis =>
    obtain ⟨first, old⟩ := member
    rw [setMember]
    split
    · rename_i same
      obtain rfl := beq_iff_eq.mp same
      rfl
    · rename_i other
      obtain rfl | present := List.mem_cons.mp present
      · exact absurd (beq_self_eq_true _) other
      · rw [List.map_cons, List.map_cons, inductionHypothesis present]

theorem setMember_of_notMem (fresh : key ∉ known.map (·.1)) :
    setMember key value known = known ++ [(key, value)] := by
  induction known with
  | nil => rfl
  | cons member rest inductionHypothesis =>
    obtain ⟨first, old⟩ := member
    obtain ⟨other, fresh⟩ := not_or.mp (mt List.mem_cons.mpr fresh)
    rw [setMember, if_neg fun same => other (beq_iff_eq.mp same).symm, inductionHypothesis fresh,
      List.cons_append]

theorem mem_setMember_self : (key, value) ∈ setMember key value known := by
  induction known with
  | nil => exact List.mem_singleton_self _
  | cons member rest inductionHypothesis =>
    obtain ⟨first, old⟩ := member
    rw [setMember]
    split
    · exact List.mem_cons_self
    · exact List.mem_cons_of_mem _ inductionHypothesis

theorem mem_setMember_of_mem {member : String × α} (held : member ∈ known)
    (other : member.1 ≠ key) : member ∈ setMember key value known := by
  induction known with
  | nil => cases held
  | cons first rest inductionHypothesis =>
    obtain ⟨name, old⟩ := first
    rw [setMember]
    obtain rfl | held := List.mem_cons.mp held
    · rw [if_neg fun same => other (beq_iff_eq.mp same)]
      exact List.mem_cons_self
    · split
      · exact List.mem_cons_of_mem _ held
      · exact List.mem_cons_of_mem _ (inductionHypothesis held)

theorem setMember_map (f : α → β) :
    setMember key (f value) (known.map fun member => (member.1, f member.2)) =
      (setMember key value known).map fun member => (member.1, f member.2) := by
  induction known with
  | nil => rfl
  | cons member rest inductionHypothesis =>
    obtain ⟨first, old⟩ := member
    rw [List.map_cons, setMember, setMember, inductionHypothesis]
    split <;> rfl

/-- Set members one after the other, when some are there already. -/
def setMembers (known later : List (String × α)) : List (String × α) :=
  later.foldl (fun known (key, value) => setMember key value known) known

theorem setMembers_cons (member : String × α) (later : List (String × α)) :
    setMembers known (member :: later) = setMembers (setMember member.1 member.2 known) later :=
  rfl

theorem distinctMembers_append (first later : List (String × α)) :
    distinctMembers (first ++ later) = setMembers (distinctMembers first) later :=
  List.foldl_append

/-- The new names follow the known ones, in the order in which they are set. -/
theorem keys_setMembers (distinct : (later.map (·.1)).Nodup) :
    (setMembers known later).map (·.1) =
      known.map (·.1) ++ (later.map (·.1)).filter (· ∉ known.map (·.1)) := by
  induction later generalizing known with
  | nil => exact (List.append_nil _).symm
  | cons member rest inductionHypothesis =>
    obtain ⟨key, value⟩ := member
    obtain ⟨single, distinct⟩ := List.nodup_cons.mp distinct
    rw [setMembers_cons, inductionHypothesis distinct, List.map_cons]
    by_cases present : key ∈ known.map (·.1)
    · rw [keys_setMember_of_mem present, List.filter_cons_of_neg (by simpa using present)]
    · rw [setMember_of_notMem present, List.map_append, List.append_assoc,
        List.filter_cons_of_pos (by simpa using present)]
      have others : (rest.map (·.1)).filter (· ∉ known.map (·.1) ++ [key]) =
          (rest.map (·.1)).filter (· ∉ known.map (·.1)) := by
        refine List.filter_congr fun name held => ?_
        have other : name ≠ key := fun same => single (same ▸ held)
        simp [other]
      rw [← others]
      rfl

theorem mem_setMembers_of_mem {member : String × α} (held : member ∈ known)
    (unset : member.1 ∉ later.map (·.1)) : member ∈ setMembers known later := by
  induction later generalizing known with
  | nil => exact held
  | cons next rest inductionHypothesis =>
    obtain ⟨other, unset⟩ := not_or.mp (mt List.mem_cons.mpr unset)
    exact inductionHypothesis (mem_setMember_of_mem held other) unset

theorem mem_setMembers {member : String × α} (distinct : (later.map (·.1)).Nodup)
    (held : member ∈ later) : member ∈ setMembers known later := by
  induction later generalizing known with
  | nil => cases held
  | cons next rest inductionHypothesis =>
    obtain ⟨single, distinct⟩ := List.nodup_cons.mp distinct
    rw [setMembers_cons]
    obtain rfl | held := List.mem_cons.mp held
    · exact mem_setMembers_of_mem mem_setMember_self single
    · exact inductionHypothesis distinct held

theorem setMembers_of_nodup (known : List (String × α))
    (distinct : ((known ++ later).map (·.1)).Nodup) : setMembers known later = known ++ later := by
  induction later generalizing known with
  | nil => exact (List.append_nil _).symm
  | cons member rest inductionHypothesis =>
    obtain ⟨key, value⟩ := member
    have fresh : key ∉ known.map (·.1) := by
      rw [List.map_append, List.nodup_append] at distinct
      exact fun present => distinct.2.2 key present key List.mem_cons_self rfl
    rw [List.append_cons] at distinct ⊢
    rw [setMembers_cons, setMember_of_notMem fresh, inductionHypothesis _ distinct]

theorem distinctMembers_of_nodup (distinct : (later.map (·.1)).Nodup) :
    distinctMembers later = later :=
  setMembers_of_nodup [] distinct

theorem setMembers_map (f : α → β) (known : List (String × α)) :
    setMembers (known.map fun member => (member.1, f member.2))
        (later.map fun member => (member.1, f member.2)) =
      (setMembers known later).map fun member => (member.1, f member.2) := by
  induction later generalizing known with
  | nil => rfl
  | cons member rest inductionHypothesis =>
    obtain ⟨key, value⟩ := member
    rw [List.map_cons, setMembers_cons, setMembers_cons, setMember_map f, inductionHypothesis]

theorem distinctMembers_map (f : α → β) :
    distinctMembers (later.map fun member => (member.1, f member.2)) =
      (distinctMembers later).map fun member => (member.1, f member.2) :=
  setMembers_map f []

end Fitout.Json
