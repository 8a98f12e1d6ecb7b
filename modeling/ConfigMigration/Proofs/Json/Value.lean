import ConfigMigration.Proofs.Json.Member
import ConfigMigration.Proofs.Json.Term

/-!
# Reading back whole values

What is read from the text of a value is the value with its objects as dictionaries (`parse_render`).  The order in
which members are written is lost, and nothing else: under each name there is what was written there
(`member?_ordered`), and a value whose objects are dictionaries comes back as it is (`ordered_of_isOrdered`).
-/

namespace ConfigMigration.Json

mutual

/-- The value with the members of every object in the order of their names;
of two members under one name the later counts. -/
def ordered : Json → Json
  | null => null
  | bool b => bool b
  | number n => number n
  | string s => string s
  | array items => array (orderedItems items)
  | object members => object (Dictionary.ofList (orderedMembers members))
termination_by structural value => value

/-- The items, each with its members in order. -/
def orderedItems : List Json → List Json
  | [] => []
  | item :: items => item.ordered :: orderedItems items
termination_by structural items => items

/-- The members as they stand, each value with its members in order. -/
def orderedMembers : List (String × Json) → List (String × Json)
  | [] => []
  | (name, value) :: members => (name, value.ordered) :: orderedMembers members
termination_by structural members => members

end

/-- The values whose text can be read: arrays and objects lie at most so deep,
and every number is read as what it is. -/
inductive IsReadable : Nat → Json → Prop
  | null (depth : Nat) : IsReadable depth null
  | bool (depth : Nat) (b : Bool) : IsReadable depth (bool b)
  | number (depth : Nat) {n : Number} (h : n.numeral.toNumber? = some n) : IsReadable depth (number n)
  | string (depth : Nat) (s : String) : IsReadable depth (string s)
  | array {depth : Nat} {items : List Json} (h : ∀ item ∈ items, IsReadable depth item) :
    IsReadable (depth + 1) (array items)
  | object {depth : Nat} {members : List (String × Json)} (h : ∀ member ∈ members, IsReadable depth member.2) :
    IsReadable (depth + 1) (object members)

theorem orderedItems_eq_map (items : List Json) : orderedItems items = items.map ordered := by
  induction items with
  | nil => rfl
  | cons item items ih => rw [orderedItems, ih, List.map_cons]

/-! ### Members -/

theorem names_orderedMembers (members : List (String × Json)) :
    (orderedMembers members).map (·.1) = members.map (·.1) := by
  induction members with
  | nil => rfl
  | cons member members ih => rw [orderedMembers, List.map_cons, List.map_cons, ih]

theorem lookup_orderedMembers (name : String) (members : List (String × Json)) :
    (orderedMembers members).lookup name = (members.lookup name).map ordered := by
  induction members with
  | nil => rfl
  | cons member members ih =>
    obtain ⟨key, value⟩ := member
    rw [orderedMembers, List.lookup_cons, List.lookup_cons]
    cases name == key with
    | true => rfl
    | false => exact ih

/-- Whether no name comes twice in an object. -/
def HasDistinctNames : Json → Prop
  | object members => (members.map (·.1)).Nodup
  | null | bool _ | number _ | string _ | array _ => True

theorem hasDistinctNames_object {members : List (String × Json)} :
    (object members).HasDistinctNames ↔ (members.map (·.1)).Nodup :=
  Iff.rfl

/-- Where no name comes twice, the members are those that are written. -/
theorem member?_ordered {value : Json} (h : value.HasDistinctNames) (name : String) :
    value.ordered.member? name = (value.member? name).map ordered := by
  cases value with
  | object members =>
    have hnames : ((orderedMembers members).map (·.1)).Nodup := by
      rwa [names_orderedMembers, ← hasDistinctNames_object]
    rw [ordered, member?, Dictionary.lookup_ofList hnames, lookup_orderedMembers, member?]
  | _ => rfl

theorem items?_ordered (value : Json) : value.ordered.items? = value.items?.map (List.map ordered) := by
  cases value with
  | array items => exact congrArg some (orderedItems_eq_map items)
  | _ => rfl

/-- Two values that are read as the same show the same members. -/
theorem member?_eq_of_ordered {value other : Json} (hv : value.HasDistinctNames) (ho : other.HasDistinctNames)
    (h : value.ordered = other.ordered) (name : String) :
    (value.member? name).map ordered = (other.member? name).map ordered := by
  rw [← member?_ordered hv, h, member?_ordered ho]

theorem itemsAt_ordered {value : Json} (h : value.HasDistinctNames) (name : String) :
    value.ordered.itemsAt name = (value.itemsAt name).map ordered := by
  rw [itemsAt, member?_ordered h, itemsAt]
  cases value.member? name with
  | none => rfl
  | some field =>
    rw [Option.map_some, Option.bind_some, Option.bind_some, items?_ordered]
    cases field.items? <;> rfl

/-- Two values that are read as the same show the same items. -/
theorem itemsAt_eq_of_ordered {value other : Json} (hv : value.HasDistinctNames) (ho : other.HasDistinctNames)
    (h : value.ordered = other.ordered) (name : String) :
    (value.itemsAt name).map ordered = (other.itemsAt name).map ordered := by
  rw [← itemsAt_ordered hv, h, itemsAt_ordered ho]

/-- What is told by each of the items is told by all of them. -/
theorem map_eq_of_map_ordered {α β : Type} {write : α → Json} {f : α → β}
    (hwrite : ∀ a b, (write a).ordered = (write b).ordered → f a = f b) {l m : List α}
    (h : (l.map write).map ordered = (m.map write).map ordered) : l.map f = m.map f := by
  induction l generalizing m with
  | nil =>
    cases m with
    | nil => rfl
    | cons b m => cases h
  | cons a l ih =>
    cases m with
    | nil => cases h
    | cons b m =>
      simp only [List.map_cons, List.cons.injEq] at h ⊢
      exact ⟨hwrite a b h.1, ih h.2⟩

theorem eq_of_map_ordered {α : Type} {write : α → Json}
    (hwrite : ∀ a b, (write a).ordered = (write b).ordered → a = b) {l m : List α}
    (h : (l.map write).map ordered = (m.map write).map ordered) : l = m := by
  rw [List.map_map, List.map_map] at h
  exact (List.map_inj_right hwrite).mp h

mutual

/-- Dictionaries stay as they are. -/
theorem ordered_of_isOrdered : ∀ {value : Json}, value.isOrdered = true → value.ordered = value
  | .null, _ | .bool _, _ | .number _, _ | .string _, _ => rfl
  | .array items, h => by
    rw [isOrdered] at h
    rw [ordered, orderedItems_of_areOrdered h]
  | .object members, h => by
    rw [isOrdered, Bool.and_eq_true, decide_eq_true_eq] at h
    rw [ordered, orderedMembers_of_areOrdered h.2, Dictionary.ofList_of_ordered h.1]

private theorem orderedItems_of_areOrdered :
    ∀ {items : List Json}, areOrdered items = true → orderedItems items = items
  | [], _ => rfl
  | item :: items, h => by
    rw [areOrdered, Bool.and_eq_true] at h
    rw [orderedItems, ordered_of_isOrdered h.1, orderedItems_of_areOrdered h.2]

private theorem orderedMembers_of_areOrdered :
    ∀ {members : List (String × Json)}, membersAreOrdered members = true → orderedMembers members = members
  | [], _ => rfl
  | (name, value) :: members, h => by
    rw [membersAreOrdered, Bool.and_eq_true] at h
    rw [orderedMembers, ordered_of_isOrdered h.1, orderedMembers_of_areOrdered h.2]

end

/-! ### Reading -/

private theorem values_itemTerms {depth : Nat} {items : List Json}
    (h : ∀ item ∈ items, Decoder.value depth item.toTerm = .ok item.ordered) :
    Decoder.values depth (itemTerms items) = .ok (orderedItems items) := by
  induction items with
  | nil => rfl
  | cons item items ih =>
    rw [List.forall_mem_cons] at h
    rw [itemTerms, Decoder.values, h.1, ih h.2]
    rfl

private theorem entries_memberTerms {depth : Nat} {members : List (String × Json)}
    (h : ∀ member ∈ members, Decoder.value depth member.2.toTerm = .ok member.2.ordered) :
    Decoder.entries depth (memberTerms members) = .ok (orderedMembers members) := by
  induction members with
  | nil => rfl
  | cons member members ih =>
    rw [List.forall_mem_cons] at h
    rw [memberTerms, Decoder.entries, h.1, ih h.2]
    rfl

theorem value_toTerm {depth : Nat} {value : Json} (h : IsReadable depth value) :
    Decoder.value depth value.toTerm = .ok value.ordered := by
  induction h with
  | null depth => rfl
  | bool depth b => rfl
  | number depth hn =>
    rw [toTerm, Decoder.value, hn]
    rfl
  | string depth s => rfl
  | array _ ih =>
    rw [toTerm, Decoder.value, values_itemTerms ih]
    rfl
  | object _ ih =>
    rw [toTerm, Decoder.value, entries_memberTerms ih]
    rfl

/-- The text of a value is read as the value with its objects as dictionaries. -/
theorem parse_render {value : Json} (h : IsReadable maxDepth value) : parse value.render = .ok value.ordered := by
  rw [parse, Decoder.decode_render, value_toTerm h]

end ConfigMigration.Json
