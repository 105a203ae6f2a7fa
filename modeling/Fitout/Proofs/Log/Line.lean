import Fitout.Log.Line
import Fitout.Proofs.Log.Plain

/-!
# What a line shows

A line that is an object shows what it has of itself and then the fields of the call, in the order
in which they are given. A field with the name of a member that is there already takes its place.
All values are in their plain form, so that the whole line is plain.
-/

namespace Fitout.Log

/-- The names of the members that a line has of itself, in their order. -/
def Context.ownNames (context : Context) : List String :=
  ["timestamp", "level", "logger", "message", "function", "line"]
    ++ (if context.request.getD "" = "" then [] else ["request_id"])
    ++ (if context.session.getD "" = "" then [] else ["session_id"])

theorem Context.nodup_ownNames (context : Context) : context.ownNames.Nodup := by
  unfold ownNames
  split <;> split <;> decide

namespace Call

variable {setup : Setup} {context : Context} {c : Call} {message : String}

def names (c : Call) : List String :=
  c.fields.map (·.1)

/-- A call that gives each name once, and none of the three that lines treat on their own. -/
structure IsOrdinary (c : Call) : Prop where
  once : c.names.Nodup
  noExtra : extraName ∉ c.names
  noException : exceptionName ∉ c.names
  noHidden : hiddenName ∉ c.names

/-- What it takes for a line with a message. -/
structure LeavesLine (setup : Setup) (message : String) (c : Call) : Prop where
  severe : setup.threshold ≤ c.level.severity
  formatted : Template.message? c.template c.values = some message
  allowed : ∀ name ∈ c.names, name ∉ partNames ∧ name ∉ reservedNames

/-- The members show a call: each field with its value, and all else that a line has of itself. -/
structure Shows (context : Context) (message : String) (members : List (String × Json))
    (c : Call) : Prop where
  distinct : (members.map (·.1)).Nodup
  names : members.map (·.1) = context.ownNames ++ c.names.filter (· ∉ context.ownNames)
  field : ∀ name value, (name, value) ∈ c.fields → (name, value.toJson) ∈ members
  own : ∀ member ∈ c.ownMembers context message, member.1 ∉ c.names → member ∈ members

section Write

theorem lookup_eq_none {name : String} (absent : name ∉ c.names) : c.fields.lookup name = none :=
  List.lookup_eq_none_iff.mpr fun _ held =>
    bne_iff_ne.mpr fun same => absent (same ▸ List.mem_map_of_mem held)

theorem find?_eq_none_iff {taken : List String} :
    (c.fields.find? fun (name, _) => taken.contains name) = none ↔
      ∀ name ∈ c.names, name ∉ taken := by
  simp [names]

theorem IsOrdinary.exception_eq (ordinary : c.IsOrdinary) : c.exception = .unasked := by
  rw [exception, lookup_eq_none ordinary.noException]
  rfl

theorem IsOrdinary.own_eq (ordinary : c.IsOrdinary) :
    (c.fields.filter fun (name, _) => name != extraName && name != exceptionName) = c.fields := by
  refine List.filter_eq_self.mpr fun (name, value) held => ?_
  have given : name ∈ c.names := List.mem_map_of_mem held
  have notExtra : name ≠ extraName := fun same => ordinary.noExtra (same ▸ given)
  have notException : name ≠ exceptionName := fun same => ordinary.noException (same ▸ given)
  simp [notExtra, notException]

theorem IsOrdinary.lineFields_eq_ok_iff (ordinary : c.IsOrdinary)
    {fields : List (String × Value)} : c.lineFields = .ok fields ↔
      c.fields = fields ∧ ∀ name ∈ c.names, name ∉ reservedNames := by
  have distinct : Json.distinctMembers c.fields = c.fields :=
    Json.distinctMembers_of_nodup ordinary.once
  have noExtra : extraFields ((c.fields.lookup extraName).getD .null) = .ok [] := by
    rw [lookup_eq_none ordinary.noExtra]
    rfl
  rw [lineFields, noExtra, ordinary.own_eq]
  dsimp only [bind, Except.bind]
  rw [List.nil_append, distinct]
  split
  · rename_i found
    constructor
    · intro ok
      cases ok
    · rintro ⟨_, allowed⟩
      rw [find?_eq_none_iff.mpr allowed] at found
      cases found
  · rename_i noReserved
    exact ⟨fun ok => ⟨Except.ok.inj ok, find?_eq_none_iff.mp noReserved⟩,
      fun ⟨same, _⟩ => congrArg Except.ok same⟩

theorem IsOrdinary.line?_eq (ordinary : c.IsOrdinary) (objects : setup.asObjects = true) :
    c.line? setup context c.fields = (Template.message? c.template c.values).map fun message =>
      .members (c.members context message c.fields none) := by
  rw [line?, ordinary.exception_eq, objects]
  cases Template.message? c.template c.values <;> rfl

theorem IsOrdinary.write_eq (ordinary : c.IsOrdinary) (objects : setup.asObjects = true)
    (leaves : c.LeavesLine setup message) : c.write setup context =
      .ok (some (.members (c.members context message c.fields none))) := by
  have noPart := find?_eq_none_iff.mpr fun name given => (leaves.allowed name given).1
  have accepted : c.lineFields = .ok c.fields :=
    ordinary.lineFields_eq_ok_iff.mpr ⟨rfl, fun name given => (leaves.allowed name given).2⟩
  rw [write, noPart]
  dsimp only
  rw [if_neg (Nat.not_lt.mpr leaves.severe), accepted]
  dsimp only [Except.map]
  rw [ordinary.line?_eq objects, leaves.formatted, Option.map_some]

/-- Each way to end without a line goes against one of the conditions. -/
theorem IsOrdinary.leavesLine_of_write (ordinary : c.IsOrdinary) {line : Line}
    (written : c.write setup context = .ok (some line)) :
    ∃ message, c.LeavesLine setup message := by
  unfold write at written
  split at written
  · cases written
  · rename_i noPart
    split at written
    · cases written
    · rename_i severe
      obtain ⟨fields, accepted, shown⟩ := of_map_eq_ok written
      obtain ⟨message, formatted, _⟩ := Option.bind_eq_some_iff.mp shown
      obtain ⟨_, allowed⟩ := ordinary.lineFields_eq_ok_iff.mp accepted
      exact ⟨message, Nat.not_lt.mp severe, formatted, fun name given =>
        ⟨find?_eq_none_iff.mp noPart name given, allowed name given⟩⟩

end Write

section Members

theorem names_boundMember (name : String) (id : Option String) :
    (boundMember name id).map (·.1) = if id.getD "" = "" then [] else [name] := by
  cases id with
  | none => rfl
  | some id =>
    simp only [boundMember, String.isEmpty_iff, Option.getD_some]
    split <;> rfl

theorem names_ownMembers (context : Context) (c : Call) (message : String) :
    (c.ownMembers context message).map (·.1) = context.ownNames := by
  rw [ownMembers, List.map_append, List.map_append, names_boundMember, names_boundMember]
  rfl

theorem isPlain_ofJson_of_mem_boundMember {name : String} {id : Option String}
    {member : String × Json} (held : member ∈ boundMember name id) :
    (Value.ofJson member.2).IsPlain := by
  unfold boundMember at held
  split at held
  · split at held
    · cases held
    · obtain rfl := List.mem_singleton.mp held
      exact .text _
  · cases held

theorem isPlain_ofJson_of_mem_ownMembers {member : String × Json}
    (held : member ∈ c.ownMembers context message) : (Value.ofJson member.2).IsPlain := by
  obtain held | session := List.mem_append.mp held
  · obtain fixed | request := List.mem_append.mp held
    · simp only [List.mem_cons, List.not_mem_nil, or_false] at fixed
      rcases fixed with rfl | rfl | rfl | rfl | rfl | rfl
      -- All but the number of the line are texts.
      iterate 5 exact .text _
      exact .number _
    · exact isPlain_ofJson_of_mem_boundMember request
  · exact isPlain_ofJson_of_mem_boundMember session

/-- The fields as a line shows them. -/
def shownFields (c : Call) : List (String × Json) :=
  c.fields.map fun field => (field.1, field.2.toJson)

theorem names_shownFields (c : Call) : c.shownFields.map (·.1) = c.names := by
  rw [shownFields, List.map_map]
  rfl

theorem IsOrdinary.members_eq (ordinary : c.IsOrdinary) :
    c.members context message c.fields none =
      Json.distinctMembers (c.ownMembers context message ++ c.shownFields) := by
  have unhidden : (c.fields.filter fun (name, _) => name != hiddenName) = c.fields :=
    List.filter_eq_self.mpr fun _ held =>
      bne_iff_ne.mpr fun same => ordinary.noHidden (same ▸ List.mem_map_of_mem held)
  rw [members, unhidden, Option.toList_none, List.map_nil, List.append_nil]
  rfl

theorem IsOrdinary.members_eq_setMembers (ordinary : c.IsOrdinary) :
    c.members context message c.fields none =
      Json.setMembers (c.ownMembers context message) c.shownFields := by
  have distinct : ((c.ownMembers context message).map (·.1)).Nodup :=
    names_ownMembers context c message ▸ context.nodup_ownNames
  rw [ordinary.members_eq, Json.distinctMembers_append, Json.distinctMembers_of_nodup distinct]

theorem IsOrdinary.nodup_shownFields (ordinary : c.IsOrdinary) :
    (c.shownFields.map (·.1)).Nodup :=
  names_shownFields c ▸ ordinary.once

theorem IsOrdinary.shows_members (ordinary : c.IsOrdinary) :
    c.Shows context message (c.members context message c.fields none) where
  distinct := Json.nodup_keys_distinctMembers
  names := by
    rw [ordinary.members_eq_setMembers, Json.keys_setMembers ordinary.nodup_shownFields,
      names_ownMembers, names_shownFields]
  field name value given := by
    rw [ordinary.members_eq_setMembers]
    exact Json.mem_setMembers ordinary.nodup_shownFields (List.mem_map_of_mem given)
  own member held notGiven := by
    rw [ordinary.members_eq_setMembers]
    exact Json.mem_setMembers_of_mem held (names_shownFields c ▸ notGiven)

theorem IsOrdinary.isPlain_members (ordinary : c.IsOrdinary) :
    (Value.ofJson (.object (c.members context message c.fields none))).IsPlain := by
  rw [ordinary.members_eq, Value.ofJson_object]
  constructor
  case distinct =>
    rw [List.map_map]
    exact Json.nodup_keys_distinctMembers
  case parts =>
    refine List.forall_mem_map.mpr fun member held => ?_
    obtain own | shown := List.mem_append.mp (Json.of_mem_distinctMembers held)
    · exact isPlain_ofJson_of_mem_ownMembers own
    · obtain ⟨field, _, rfl⟩ := List.mem_map.mp shown
      exact Value.plain_eq_ofJson field.2 ▸ Value.isPlain_plain field.2

end Members

/-- Just those ordinary calls leave a line that are severe enough, have a message and give no name
that is taken. The line shows its own members and the fields in one order, each name once and each
value in its plain form. That form is plain at every depth and its own plain form, so nothing in the
line needs a fallback when it is written. -/
theorem line_shows_every_field (objects : setup.asObjects = true) (ordinary : c.IsOrdinary) :
    ((∃ line, c.write setup context = .ok (some line)) ↔ ∃ message, c.LeavesLine setup message) ∧
    (∀ message, c.LeavesLine setup message → ∃ members,
      c.write setup context = .ok (some (.members members)) ∧
      c.Shows context message members ∧
      (Value.ofJson (.object members)).IsPlain ∧
      (Value.ofJson (.object members)).IsSelfContained ∧
      ∀ fallback keyText?, (Value.ofJson (.object members)).write? "" fallback keyText? =
        some (Json.object members).compact) ∧
    ∀ value : Value, Value.ofJson value.toJson = value.plain ∧ value.plain.IsPlain ∧
      value.plain.plain = value.plain ∧ value.plain.IsSelfContained := by
  refine ⟨⟨?_, ?_⟩, ?_, ?_⟩
  · rintro ⟨line, written⟩
    exact ordinary.leavesLine_of_write written
  · rintro ⟨message, leaves⟩
    exact ⟨_, ordinary.write_eq objects leaves⟩
  · intro message leaves
    have isPlain : (Value.ofJson (.object (c.members context message c.fields none))).IsPlain :=
      ordinary.isPlain_members
    exact ⟨_, ordinary.write_eq objects leaves, ordinary.shows_members, isPlain,
      isPlain.isSelfContained, fun fallback keyText? => Value.write?_ofJson fallback keyText? _⟩
  · intro value
    have isPlain := value.isPlain_plain
    exact ⟨value.plain_eq_ofJson.symm, isPlain, isPlain.plain_eq, isPlain.isSelfContained⟩

/-- The fields take the place of a bound identifier and of the number of the line; no session is
bound. Two keys of a mapping have the same text. -/
theorem request_of_field_stands_in_place :
    let setup : Setup := ⟨20, true⟩
    let context : Context := ⟨some "r1", some ""⟩
    let kinds : Value := .mapping [(.whole 1, .null), (.foreign "None", .set [.foreign "<box>"]),
      (.text "1", .tuple [.text "a", .mapping []])]
    let c : Call := ⟨.warning, ⟨"12:00", "presets", "apply", 7⟩, "Preset applied", [],
      [("kinds", kinds), ("request_id", .text "r2"), ("added", .bool true), ("line", .null)]⟩
    setup.asObjects = true ∧ c.IsOrdinary ∧ c.LeavesLine setup "Preset applied" ∧
    ∃ members, c.write setup context = .ok (some (.members members)) ∧
      members.map (·.1) = ["timestamp", "level", "logger", "message", "function", "line",
        "request_id", "kinds", "added"] ∧
      ("line", .null) ∈ members ∧ ("request_id", .text "r2") ∈ members ∧
      ("kinds", .object [("1", .list [.text "a", .object []]), ("None", .list [.text "<box>"])])
        ∈ members := by
  intro setup context kinds c
  have ordinary : c.IsOrdinary := ⟨by decide, by decide, by decide, by decide⟩
  have leaves : c.LeavesLine setup "Preset applied" := ⟨by decide, rfl, by decide⟩
  obtain ⟨_, shown, _⟩ := @line_shows_every_field setup context c rfl ordinary
  obtain ⟨members, written, shows, _⟩ := shown "Preset applied" leaves
  refine ⟨rfl, ordinary, leaves, members, written, ?_, ?_, ?_, ?_⟩
  · rw [shows.names]
    decide
  · exact shows.field "line" .null (by simp [c])
  · exact shows.field "request_id" (.text "r2") (by simp [c])
  · exact shows.field "kinds" kinds (by simp [c])

end Call

end Fitout.Log
