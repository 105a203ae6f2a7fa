import Fitout.Json.Body
import Fitout.Proofs.Fallible
import Fitout.Proofs.Text.Codes

/-!
# The shape of values that were read

A value that was read off a text has each name once in each of its objects, and no more lists and
objects inside each other than the reader had room for. A text that opens more lists is too deep.
-/

namespace Fitout.Json

mutual

/-- Whether a value and all that lies in it are of a kind. -/
def Everywhere (p : Json → Prop) : Json → Prop
  | .list items => p (.list items) ∧ ItemsEverywhere p items
  | .object members => p (.object members) ∧ MembersEverywhere p members
  | value => p value

def ItemsEverywhere (p : Json → Prop) : List Json → Prop
  | [] => True
  | item :: rest => item.Everywhere p ∧ ItemsEverywhere p rest

def MembersEverywhere (p : Json → Prop) : List (String × Json) → Prop
  | [] => True
  | (_, value) :: rest => value.Everywhere p ∧ MembersEverywhere p rest

end

/-- Whether the members of an object have different names. -/
def NamesDiffer : Json → Prop
  | .object members => (members.map (·.1)).Nodup
  | _ => True

/-- Whether a value has the shape of one that was read, with room for so many containers. -/
structure Shaped (room : Nat) (value : Json) : Prop where
  shallow : value.depth ≤ room
  named : value.Everywhere NamesDiffer

section SetMember

variable {α : Type} {key name : String} {value : α} {members : List (String × α)}

theorem mem_keys_setMember : name ∈ (setMember key value members).map (·.1) ↔
    name = key ∨ name ∈ members.map (·.1) := by
  induction members with
  | nil => simp [setMember]
  | cons member rest inductionHypothesis =>
    obtain ⟨first, old⟩ := member
    rw [setMember]
    split
    · rename_i same
      obtain rfl := beq_iff_eq.mp same
      simp
    · simp only [List.map_cons, List.mem_cons, inductionHypothesis]
      exact or_left_comm

theorem nodup_keys_setMember (distinct : (members.map (·.1)).Nodup) :
    ((setMember key value members).map (·.1)).Nodup := by
  induction members with
  | nil => simp [setMember]
  | cons member rest inductionHypothesis =>
    obtain ⟨first, old⟩ := member
    obtain ⟨fresh, others⟩ := List.nodup_cons.mp distinct
    rw [setMember]
    split
    · rename_i same
      obtain rfl := beq_iff_eq.mp same
      exact distinct
    · rename_i other
      refine List.nodup_cons.mpr ⟨fun member => ?_, inductionHypothesis others⟩
      obtain rfl | member := mem_keys_setMember.mp member
      · exact other (beq_self_eq_true _)
      · exact fresh member

theorem lookup_setMember_self : (setMember key value members).lookup key = some value := by
  induction members with
  | nil => simp [setMember]
  | cons member rest inductionHypothesis =>
    obtain ⟨first, old⟩ := member
    rw [setMember]
    split
    · rw [List.lookup_cons, beq_self_eq_true]
    · rename_i other
      rw [List.lookup_cons, beq_false_of_ne fun same => other (beq_iff_eq.mpr same.symm)]
      exact inductionHypothesis

theorem lookup_setMember_of_ne (ne : name ≠ key) :
    (setMember key value members).lookup name = members.lookup name := by
  induction members with
  | nil => simp [setMember, ne]
  | cons member rest inductionHypothesis =>
    obtain ⟨first, old⟩ := member
    rw [setMember]
    split
    · rename_i same
      obtain rfl := beq_iff_eq.mp same
      rw [List.lookup_cons, List.lookup_cons, beq_false_of_ne ne]
    · rw [List.lookup_cons, List.lookup_cons, inductionHypothesis]

theorem of_mem_setMember {member : String × α} (held : member ∈ setMember key value members) :
    member = (key, value) ∨ member ∈ members := by
  induction members with
  | nil => exact .inl (List.mem_singleton.mp held)
  | cons first rest inductionHypothesis =>
    obtain ⟨name, old⟩ := first
    rw [setMember] at held
    split at held
    · obtain rfl | held := List.mem_cons.mp held
      · exact .inl rfl
      · exact .inr (List.mem_cons_of_mem _ held)
    · obtain rfl | held := List.mem_cons.mp held
      · exact .inr List.mem_cons_self
      · exact (inductionHypothesis held).imp_right (List.mem_cons_of_mem _)

/-- What holds of the empty list and is kept by setting each member holds of all. -/
theorem distinctMembers_induction {p : List (String × α) → Prop} (empty : p [])
    (set : ∀ known, ∀ member ∈ members, p known → p (setMember member.1 member.2 known)) :
    p (distinctMembers members) := by
  unfold distinctMembers
  exact List.foldlRecOn members _ empty fun known kept member held => set known member held kept

theorem nodup_keys_distinctMembers : ((distinctMembers members).map (·.1)).Nodup :=
  distinctMembers_induction (p := fun known => (known.map (·.1)).Nodup) List.nodup_nil
    fun _ _ _ distinct => nodup_keys_setMember distinct

theorem of_mem_distinctMembers {member : String × α} (held : member ∈ distinctMembers members) :
    member ∈ members := by
  have kept : ∀ member ∈ distinctMembers members, member ∈ members :=
    distinctMembers_induction (p := fun known => ∀ member ∈ known, member ∈ members)
      (fun _ none => absurd none List.not_mem_nil)
      fun known first held old member inside => by
        obtain rfl | inside := of_mem_setMember inside
        · exact held
        · exact old member inside
  exact kept member held

end SetMember

section Parts

variable {p : Json → Prop} {room : Nat}

theorem itemsEverywhere_iff {items : List Json} :
    ItemsEverywhere p items ↔ ∀ item ∈ items, item.Everywhere p := by
  induction items with
  | nil => simp [ItemsEverywhere]
  | cons item rest inductionHypothesis =>
    rw [ItemsEverywhere, inductionHypothesis, List.forall_mem_cons]

theorem membersEverywhere_iff {members : List (String × Json)} :
    MembersEverywhere p members ↔ ∀ member ∈ members, member.2.Everywhere p := by
  induction members with
  | nil => simp [MembersEverywhere]
  | cons member rest inductionHypothesis =>
    obtain ⟨name, value⟩ := member
    rw [MembersEverywhere, inductionHypothesis, List.forall_mem_cons]

theorem depthOfItems_le_iff {items : List Json} :
    depthOfItems items ≤ room ↔ ∀ item ∈ items, item.depth ≤ room := by
  induction items with
  | nil => simp [depthOfItems]
  | cons item rest inductionHypothesis =>
    rw [depthOfItems, Nat.max_le, inductionHypothesis, List.forall_mem_cons]

theorem depthOfMembers_le_iff {members : List (String × Json)} :
    depthOfMembers members ≤ room ↔ ∀ member ∈ members, member.2.depth ≤ room := by
  induction members with
  | nil => simp [depthOfMembers]
  | cons member rest inductionHypothesis =>
    obtain ⟨name, value⟩ := member
    rw [depthOfMembers, Nat.max_le, inductionHypothesis, List.forall_mem_cons]

theorem shaped_list {items : List Json} (parts : ∀ item ∈ items, item.Shaped room) :
    (list items).Shaped (room + 1) where
  shallow := by
    rw [depth]
    exact Nat.succ_le_succ (depthOfItems_le_iff.mpr fun item held => (parts item held).shallow)
  named := ⟨trivial, itemsEverywhere_iff.mpr fun item held => (parts item held).named⟩

theorem shaped_object {members : List (String × Json)}
    (distinct : (members.map (·.1)).Nodup) (parts : ∀ member ∈ members, member.2.Shaped room) :
    (object members).Shaped (room + 1) where
  shallow := by
    rw [depth]
    exact Nat.succ_le_succ
      (depthOfMembers_le_iff.mpr fun member held => (parts member held).shallow)
  named := ⟨distinct, membersEverywhere_iff.mpr fun member held => (parts member held).named⟩

end Parts

theorem shaped_of_depth_eq_zero {value : Json} (flat : value.depth = 0) {room : Nat} :
    value.Shaped room := by
  refine ⟨flat ▸ Nat.zero_le room, ?_⟩
  cases value with
  | list items => cases flat
  | object members => cases flat
  | _ => trivial

section Read

variable {cs : List Char}

theorem depth_of_readUnsigned {negative : Bool} {part : Part Json cs.length}
    (read : readUnsigned negative cs = .ok part) : part.value.depth = 0 := by
  unfold readUnsigned at read
  split at read
  · cases read
  · split at read
    · split at read <;> (obtain rfl := Except.ok.inj read; rfl)
    · split at read
      · obtain rfl := Except.ok.inj read
        rfl
      · split at read
        · cases read
        · obtain rfl := Except.ok.inj read
          rfl

theorem depth_of_readWord {part : Part Json cs.length} (read : readWord cs = some part) :
    part.value.depth = 0 := by
  unfold readWord at read
  split at read <;> cases read <;> rfl

theorem depth_of_readAtom {part : Part Json cs.length} (read : readAtom cs = .ok part) :
    part.value.depth = 0 := by
  unfold readAtom at read
  split at read
  · rename_i word
    obtain rfl := Except.ok.inj read
    exact depth_of_readWord word
  · split at read
    · obtain ⟨number, readNumber, rfl⟩ := of_map_eq_ok read
      exact (depth_of_readUnsigned readNumber :)
    · exact depth_of_readUnsigned read

theorem length_lt_of_skipSpace_eq_cons {c : Char} {tail : List Char}
    (skipped : skipSpace cs = c :: tail) : (skipSpace tail).length < cs.length := by
  have first := length_skipSpace_le cs
  have later := length_skipSpace_le tail
  rw [skipped, List.length_cons] at first
  omega

mutual

/-- Lists and objects are read with less room than there is, so the depth never exceeds it. -/
theorem shaped_of_readValue {room : Nat} {cs : List Char} {part : Part Json cs.length}
    (read : readValue room cs = .ok part) : part.value.Shaped room := by
  unfold readValue at read
  split at read
  · obtain ⟨text, -, rfl⟩ := of_map_eq_ok read
    exact shaped_of_depth_eq_zero rfl
  · rename_i rest
    split at read
    · cases read
    · rename_i left
      obtain ⟨room, rfl⟩ := Nat.exists_eq_succ_of_ne_zero left
      have shorter := length_skipSpace_le rest
      split at read
      · obtain rfl := Except.ok.inj read
        exact shaped_list fun item none => absurd none List.not_mem_nil
      · obtain ⟨items, readItems, rfl⟩ := of_map_eq_ok read
        exact shaped_list (shaped_of_readItems readItems)
  · rename_i rest
    split at read
    · cases read
    · rename_i left
      obtain ⟨room, rfl⟩ := Nat.exists_eq_succ_of_ne_zero left
      have shorter := length_skipSpace_le rest
      split at read
      · obtain rfl := Except.ok.inj read
        exact shaped_object List.nodup_nil fun member none => absurd none List.not_mem_nil
      · obtain ⟨members, readMembers, rfl⟩ := of_map_eq_ok read
        have parts := shaped_of_readMembers readMembers
        exact shaped_object nodup_keys_distinctMembers fun member held =>
          parts member (of_mem_distinctMembers held)
  · exact shaped_of_depth_eq_zero (depth_of_readAtom read)
termination_by 2 * cs.length
decreasing_by
  all_goals
    subst_vars
    rw [List.length_cons]
    omega

theorem shaped_of_readItems {room : Nat} {cs : List Char} {part : Part (List Json) cs.length}
    (read : readItems room cs = .ok part) : ∀ item ∈ part.value, item.Shaped room := by
  unfold readItems at read
  split at read
  · cases read
  · rename_i item readItem
    have first : item.value.Shaped room := shaped_of_readValue readItem
    have shorter := item.shorter
    split at read
    · obtain rfl := Except.ok.inj read
      exact List.forall_mem_singleton.mpr first
    · rename_i comma
      have next := length_lt_of_skipSpace_eq_cons comma
      obtain ⟨others, readOthers, rfl⟩ := of_map_eq_ok read
      exact List.forall_mem_cons.mpr ⟨first, shaped_of_readItems readOthers⟩
    · cases read
termination_by 2 * cs.length + 1

theorem shaped_of_readMembers {room : Nat} {cs : List Char}
    {part : Part (List (String × Json)) cs.length} (read : readMembers room cs = .ok part) :
    ∀ member ∈ part.value, member.2.Shaped room := by
  unfold readMembers at read
  split at read
  · split at read
    · cases read
    · rename_i key readKey
      have keyShorter := key.shorter
      split at read
      · rename_i colon
        have inside := length_lt_of_skipSpace_eq_cons colon
        split at read
        · cases read
        · rename_i value readFirst
          have first : value.value.Shaped room := shaped_of_readValue readFirst
          have shorter := value.shorter
          split at read
          · obtain rfl := Except.ok.inj read
            exact List.forall_mem_singleton.mpr first
          · rename_i comma
            have next := length_lt_of_skipSpace_eq_cons comma
            obtain ⟨others, readOthers, rfl⟩ := of_map_eq_ok read
            exact List.forall_mem_cons.mpr ⟨first, shaped_of_readMembers readOthers⟩
          · cases read
      · cases read
  · cases read
termination_by 2 * cs.length + 1
decreasing_by
  all_goals
    subst_vars
    rw [List.length_cons]
    omega

end

theorem shaped_of_read {s : String} {value : Json} (ok : read s = .ok value) :
    value.Shaped depthLimit := by
  unfold read readWithin at ok
  split at ok
  · cases ok
  · rename_i part readPart
    split at ok
    · obtain rfl := Except.ok.inj ok
      exact shaped_of_readValue readPart
    · cases ok

theorem shaped_of_readBody {content : Bytes} {body : Json} (ok : readBody content = .ok body) :
    body.Shaped depthLimit := by
  unfold readBody at ok
  dsimp only at ok
  split at ok
  · exact shaped_of_read ok
  · cases ok

end Read

section Brackets

theorem readValue_list_of_error {room : Nat} {rest : List Char} {e : ReadError}
    (other : ∀ tail, skipSpace rest ≠ ']' :: tail)
    (failed : readItems room (skipSpace rest) = .error e) :
    readValue (room + 1) ('[' :: rest) = .error e := by
  rw [readValue, if_neg (Nat.succ_ne_zero room)]
  split
  · rename_i tail closes
    exact absurd closes (other tail)
  · rw [Nat.add_sub_cancel, failed]
    rfl

/-- More brackets than there is room for are too deep. -/
theorem readValue_brackets (room more : Nat) :
    readValue room (List.replicate (room + 1 + more) '[') = .error (.tooDeep .list) := by
  induction room with
  | zero => rw [Nat.zero_add, Nat.add_comm, List.replicate_succ, readValue, if_pos rfl]
  | succ room inductionHypothesis =>
    have outer : List.replicate (room + 1 + 1 + more) '[' =
        '[' :: List.replicate (room + 1 + more) '[' := by
      rw [Nat.add_right_comm, List.replicate_succ]
    have inner : List.replicate (room + 1 + more) '[' =
        '[' :: List.replicate (room + more) '[' := by
      rw [Nat.add_right_comm, List.replicate_succ]
    have start : skipSpace (List.replicate (room + 1 + more) '[') =
        List.replicate (room + 1 + more) '[' := by
      rw [inner]
      rfl
    rw [outer]
    apply readValue_list_of_error
    · intro tail closes
      rw [start, inner] at closes
      cases closes
    · rw [start, readItems, inductionHypothesis]

theorem read_of_readValue_error {cs : List Char} {e : ReadError} (start : skipSpace cs = cs)
    (failed : readValue depthLimit cs = .error e) : read (String.ofList cs) = .error e := by
  have whole : readValue depthLimit (skipSpace (String.ofList cs).toList) = .error e := by
    rw [String.toList_ofList, start]
    exact failed
  rw [read, readWithin, whole]

/-- The byte of an opening bracket. -/
def bracketByte : UInt8 := 0x5B

theorem pieces_brackets (n : Nat) :
    Text.pieces (List.replicate n bracketByte) = List.replicate n (.char '[') := by
  induction n with
  | zero => rw [List.replicate_zero, Text.pieces, List.replicate_zero]
  | succ n inductionHypothesis =>
    have head : Text.headChar? (bracketByte :: List.replicate n bracketByte) = some ('[', 1) := by
      have alone : (Bytes.text? [bracketByte]).map Text.chars = some ['['] := by decide +kernel
      rw [Text.headChar?, List.findSome?_cons, List.take_succ_cons, List.take_zero, alone]
    rw [List.replicate_succ, Text.pieces, head, List.replicate_succ]
    exact congrArg (.char '[' :: ·) inductionHypothesis

theorem passedCodes?_chars (cs : List Char) :
    Text.passedCodes? (cs.map .char) = some (cs.map .char) := by
  induction cs with
  | nil => rfl
  | cons c rest inductionHypothesis =>
    rw [List.map_cons, Text.passedCodes?, inductionHypothesis]
    rfl

/-- A content of brackets, of which there are four or more, is in UTF-8. -/
theorem readBody_eq_read_brackets (more : Nat) :
    readBody (List.replicate (4 + more) bracketByte) =
      read (String.ofList (List.replicate (4 + more) '[')) := by
  have spelling : Spelling.ofContent (List.replicate (4 + more) bracketByte) =
      (.utf8, List.replicate (4 + more) bracketByte) := by
    rw [Nat.add_comm]
    rfl
  have codes : Text.passedCodes? (Text.pieces (List.replicate (4 + more) bracketByte)) =
      some ((List.replicate (4 + more) '[').map .char) := by
    rw [pieces_brackets, ← passedCodes?_chars, List.map_replicate]
  have text : Text.ofCodes ((List.replicate (4 + more) '[').map .char) =
      String.ofList (List.replicate (4 + more) '[') := by
    apply Text.ofChars_of_low
    intro c bracket
    rw [List.eq_of_mem_replicate bracket]
    decide
  simp only [readBody, spelling, Spelling.codes?, codes, text]

theorem readBody_brackets {n : Nat} (deep : depthLimit < n) :
    readBody (List.replicate n bracketByte) = .error (.tooDeep .list) := by
  obtain ⟨more, rfl⟩ := Nat.exists_eq_add_of_lt deep
  have failed := readValue_brackets depthLimit more
  have four : depthLimit + more + 1 = 4 + (957 + more) := by
    simp only [depthLimit]
    omega
  have start : skipSpace (List.replicate (4 + (957 + more)) '[') =
      List.replicate (4 + (957 + more)) '[' := by
    rw [Nat.add_comm]
    rfl
  rw [Nat.add_right_comm, four] at failed
  rw [four, readBody_eq_read_brackets]
  exact read_of_readValue_error start failed

end Brackets

end Fitout.Json
