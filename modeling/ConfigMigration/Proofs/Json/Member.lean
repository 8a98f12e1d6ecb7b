import ConfigMigration.Json.Basic

/-!
# Members of values

What the members of an object show: texts, numbers of 64 bits, and the items of lists.  A member that is missing, or
of another kind, shows nothing.  `setMember` changes one member of an object, and its laws say that it changes what
that member shows and nothing else.
-/

namespace ConfigMigration.Json

/-- Whether a value is an object. -/
def isObject : Json → Bool
  | object _ => true
  | _ => false

/-- Whether a value is an object or a list. -/
def isComposite : Json → Bool
  | object _ | array _ => true
  | _ => false

theorem isComposite_of_isObject {value : Json} (h : value.isObject = true) : value.isComposite = true := by
  cases value <;> first | rfl | cases h

theorem scalarText?_of_isComposite {value : Json} (h : value.isComposite = true) : value.scalarText? = none := by
  cases value <;> first | rfl | cases h

mutual

/-- Whether every object in a value is a dictionary: its members stand in the order of their names. -/
def isOrdered : Json → Bool
  | array items => areOrdered items
  | object members => decide (Dictionary.Ordered members) && membersAreOrdered members
  | null | bool _ | number _ | string _ => true
termination_by structural value => value

/-- Whether every object in a list of values is a dictionary. -/
def areOrdered : List Json → Bool
  | [] => true
  | item :: items => item.isOrdered && areOrdered items
termination_by structural items => items

/-- Whether every object in the values of members is a dictionary. -/
def membersAreOrdered : List (String × Json) → Bool
  | [] => true
  | (_, value) :: members => value.isOrdered && membersAreOrdered members
termination_by structural members => members

end

/-- Whether a value is an object whose members are a dictionary. -/
def IsDictionary (value : Json) : Prop :=
  ∃ members, value = object members ∧ Dictionary.Ordered members

/-- The text that a value is. -/
def text? : Json → Option String
  | string s => some s
  | _ => none

/-- The natural number of 64 bits that a value is. -/
def uint64? : Json → Option UInt64
  | number (.integer n) => if 0 ≤ n ∧ n < UInt64.size then some n.toNat.toUInt64 else none
  | _ => none

/-- The text under a name. -/
def textAt? (value : Json) (name : String) : Option String := (value.member? name).bind text?

/-- The natural number of 64 bits under a name. -/
def uint64At? (value : Json) (name : String) : Option UInt64 := (value.member? name).bind uint64?

/-- The items of the list under a name. -/
def itemsAt (value : Json) (name : String) : List Json := ((value.member? name).bind items?).getD []

/-- Whether a member, if there is one, is null or a text. -/
def IsTextAt (value : Json) (name : String) : Prop :=
  ∀ field, value.member? name = some field → field = null ∨ field.text?.isSome

/-- Whether a member, if there is one, is null or a natural number of 64 bits. -/
def IsUInt64At (value : Json) (name : String) : Prop :=
  ∀ field, value.member? name = some field → field = null ∨ field.uint64?.isSome

/-- Whether a member, if there is one, is a list. -/
def IsListAt (value : Json) (name : String) : Prop :=
  ∀ field, value.member? name = some field → ∃ items, field = array items

instance (value : Json) : Decidable value.IsDictionary :=
  match value with
  | object members =>
    decidable_of_iff (Dictionary.Ordered members) ⟨fun h => ⟨members, rfl, h⟩, fun ⟨_, h, ho⟩ => object.inj h ▸ ho⟩
  | null | bool _ | number _ | string _ | array _ => isFalse fun ⟨_, h, _⟩ => nomatch h

/-- Whether a value is null. -/
def isNull : Json → Bool
  | null => true
  | _ => false

theorem isNull_iff {value : Json} : value.isNull = true ↔ value = null := by
  cases value <;> simp [isNull]

instance (value : Json) (name : String) : Decidable (value.IsTextAt name) :=
  decidable_of_iff ((value.member? name).all fun field => field.isNull || field.text?.isSome) <| by
    simp [IsTextAt, Option.all_eq_true, isNull_iff]

instance (value : Json) (name : String) : Decidable (value.IsUInt64At name) :=
  decidable_of_iff ((value.member? name).all fun field => field.isNull || field.uint64?.isSome) <| by
    simp [IsUInt64At, Option.all_eq_true, isNull_iff]

theorem isSome_items?_iff {value : Json} : value.items?.isSome = true ↔ ∃ items, value = array items := by
  cases value <;> simp [items?]

instance (value : Json) (name : String) : Decidable (value.IsListAt name) :=
  decidable_of_iff ((value.member? name).all fun field => field.items?.isSome) <| by
    simp only [IsListAt, Option.all_eq_true, isSome_items?_iff]

/-- The object with another value under a name; any other value stays as it is. -/
def setMember (value : Json) (name : String) (field : Json) : Json :=
  match value with
  | object members => object (Dictionary.insert name field members)
  | value => value

/-! ### Order -/

theorem areOrdered_iff {items : List Json} : areOrdered items = true ↔ ∀ item ∈ items, item.isOrdered = true := by
  induction items with
  | nil => simp [areOrdered]
  | cons item items ih => simp [areOrdered, ih]

theorem membersAreOrdered_iff {members : List (String × Json)} :
    membersAreOrdered members = true ↔ ∀ member ∈ members, member.2.isOrdered = true := by
  induction members with
  | nil => simp [membersAreOrdered]
  | cons member members ih => simp [membersAreOrdered, ih]

/-- The members of a dictionary have different names. -/
theorem nodup_names_of_ordered {members : List (String × Json)} (h : Dictionary.Ordered members) :
    (members.map (·.1)).Nodup := by
  unfold Dictionary.Ordered at h
  rw [List.Nodup, List.pairwise_map]
  refine h.imp fun hlt heq => ?_
  rw [heq] at hlt
  exact String.lt_irrefl _ hlt

theorem IsDictionary.isObject {value : Json} (h : value.IsDictionary) : value.isObject = true := by
  obtain ⟨members, rfl, -⟩ := h
  rfl

theorem isDictionary_of_isOrdered {value : Json} (h : value.isOrdered = true) (ho : value.isObject = true) :
    value.IsDictionary := by
  cases value with
  | object members =>
    rw [isOrdered, Bool.and_eq_true, decide_eq_true_eq] at h
    exact ⟨members, rfl, h.1⟩
  | _ => cases ho

theorem isOrdered_of_member? {value field : Json} {name : String} (h : value.isOrdered = true)
    (hf : value.member? name = some field) : field.isOrdered = true := by
  cases value with
  | object members =>
    rw [isOrdered, Bool.and_eq_true, membersAreOrdered_iff] at h
    exact h.2 (name, field) (Dictionary.mem_of_lookup hf)
  | _ => cases hf

theorem isOrdered_of_mem_itemsAt {value item : Json} {name : String} (h : value.isOrdered = true)
    (hi : item ∈ value.itemsAt name) : item.isOrdered = true := by
  unfold itemsAt at hi
  cases hf : value.member? name with
  | none => simp [hf] at hi
  | some field =>
    have hfield := isOrdered_of_member? h hf
    cases field with
    | array items =>
      rw [isOrdered, areOrdered_iff] at hfield
      simp only [hf, Option.bind_some, items?, Option.getD_some] at hi
      exact hfield item hi
    | _ => simp [hf, items?] at hi

/-! ### Changing a member -/

@[simp] theorem isObject_setMember (name : String) (field value : Json) :
    (value.setMember name field).isObject = value.isObject := by
  cases value <;> rfl

theorem IsDictionary.setMember {value : Json} (h : value.IsDictionary) (name : String) (field : Json) :
    (value.setMember name field).IsDictionary := by
  obtain ⟨members, rfl, ho⟩ := h
  exact ⟨_, rfl, ho.insert name field⟩

theorem member?_setMember_self {value : Json} (h : value.isObject = true) (name : String) (field : Json) :
    (value.setMember name field).member? name = some field := by
  cases value with
  | object members => exact Dictionary.lookup_insert_self name field members
  | _ => cases h

theorem member?_setMember_of_ne {name other : String} (h : other ≠ name) (field value : Json) :
    (value.setMember name field).member? other = value.member? other := by
  cases value with
  | object members => exact Dictionary.lookup_insert_of_ne h field members
  | _ => rfl

@[simp] theorem setMember_setMember (name : String) (field field' value : Json) :
    (value.setMember name field).setMember name field' = value.setMember name field' := by
  cases value with
  | object members => exact congrArg object (Dictionary.insert_insert name field field' members)
  | _ => rfl

/-- Putting back what is found changes nothing. -/
theorem setMember_of_member?_eq_some {value field : Json} {name : String} (hd : value.IsDictionary)
    (h : value.member? name = some field) : value.setMember name field = value := by
  obtain ⟨members, rfl, ho⟩ := hd
  exact congrArg object (Dictionary.insert_of_lookup_eq_some ho h)

/-! ### What the members show -/

theorem text?_eq_some_iff {value : Json} {s : String} : value.text? = some s ↔ value = string s := by
  cases value <;> simp [text?]

theorem uint64?_ofInt (n : UInt64) : (ofInt n.toNat).uint64? = some n := by
  have hlt := n.toNat_lt
  have hr : (0 : Int) ≤ n.toNat ∧ (n.toNat : Int) < UInt64.size := by
    simp only [UInt64.size]
    omega
  rw [ofInt, uint64?, if_pos hr, Int.toNat_natCast, Nat.toUInt64, UInt64.ofNat_toNat]

theorem uint64?_eq_some_iff {value : Json} {n : UInt64} : value.uint64? = some n ↔ value = ofInt n.toNat := by
  refine ⟨fun h => ?_, fun h => h ▸ uint64?_ofInt n⟩
  unfold uint64? at h
  split at h
  · rename_i k
    split at h
    · rename_i hr
      have hk : k.toNat.toUInt64.toNat = k.toNat := by
        rw [Nat.toUInt64, UInt64.toNat_ofNat']
        exact Nat.mod_eq_of_lt (by simp only [UInt64.size] at hr; omega)
      rw [← Option.some.inj h, ofInt, hk, Int.toNat_of_nonneg hr.1]
    · cases h
  · cases h

theorem textAt?_eq_some_iff {value : Json} {name s : String} :
    value.textAt? name = some s ↔ value.member? name = some (string s) := by
  simp [textAt?, Option.bind_eq_some_iff, text?_eq_some_iff]

theorem uint64At?_eq_some_iff {value : Json} {name : String} {n : UInt64} :
    value.uint64At? name = some n ↔ value.member? name = some (ofInt n.toNat) := by
  simp [uint64At?, Option.bind_eq_some_iff, uint64?_eq_some_iff]

theorem itemsAt_of_member? {value : Json} {name : String} {items : List Json}
    (h : value.member? name = some (array items)) : value.itemsAt name = items := by
  simp [itemsAt, h, items?]

theorem itemsAt_setMember {value : Json} (h : value.isObject = true) (name : String) (items : List Json) :
    (value.setMember name (array items)).itemsAt name = items :=
  itemsAt_of_member? (member?_setMember_self h name (array items))

theorem textAt?_setMember_of_ne {name other : String} (h : other ≠ name) (field value : Json) :
    (value.setMember name field).textAt? other = value.textAt? other := by
  rw [textAt?, textAt?, member?_setMember_of_ne h]

theorem uint64At?_setMember_of_ne {name other : String} (h : other ≠ name) (field value : Json) :
    (value.setMember name field).uint64At? other = value.uint64At? other := by
  rw [uint64At?, uint64At?, member?_setMember_of_ne h]

theorem itemsAt_setMember_of_ne {name other : String} (h : other ≠ name) (field value : Json) :
    (value.setMember name field).itemsAt other = value.itemsAt other := by
  rw [itemsAt, itemsAt, member?_setMember_of_ne h]

/-! ### Kinds of members -/

theorem IsTextAt.setMember_of_ne {value : Json} {name other : String} (h : value.IsTextAt other) (hne : other ≠ name)
    (field : Json) : (value.setMember name field).IsTextAt other := by
  unfold IsTextAt
  rw [member?_setMember_of_ne hne]
  exact h

theorem IsTextAt.setMember {value : Json} {name : String} (h : value.IsTextAt name) (other s : String) :
    (value.setMember other (string s)).IsTextAt name := by
  by_cases hne : name = other
  · subst hne
    cases value with
    | object members =>
      intro field hfield
      rw [member?_setMember_self rfl] at hfield
      rw [← Option.some.inj hfield]
      exact .inr rfl
    | _ => exact h
  · exact h.setMember_of_ne hne _

theorem IsUInt64At.setMember_of_ne {value : Json} {name other : String} (h : value.IsUInt64At other)
    (hne : other ≠ name) (field : Json) : (value.setMember name field).IsUInt64At other := by
  unfold IsUInt64At
  rw [member?_setMember_of_ne hne]
  exact h

theorem IsUInt64At.setMember {value : Json} {name : String} (h : value.IsUInt64At name) (other : String)
    (n : UInt64) : (value.setMember other (ofInt n.toNat)).IsUInt64At name := by
  by_cases hne : name = other
  · subst hne
    cases value with
    | object members =>
      intro field hfield
      rw [member?_setMember_self rfl] at hfield
      rw [← Option.some.inj hfield, uint64?_ofInt]
      exact .inr rfl
    | _ => exact h
  · exact h.setMember_of_ne hne _

theorem IsListAt.setMember_of_ne {value : Json} {name other : String} (h : value.IsListAt other) (hne : other ≠ name)
    (field : Json) : (value.setMember name field).IsListAt other := by
  unfold IsListAt
  rw [member?_setMember_of_ne hne]
  exact h

theorem isListAt_setMember_self {value : Json} (h : value.isObject = true) (name : String) (items : List Json) :
    (value.setMember name (array items)).IsListAt name := by
  intro field hfield
  rw [member?_setMember_self h] at hfield
  exact ⟨items, (Option.some.inj hfield).symm⟩

theorem IsListAt.member?_of_itemsAt {value : Json} {name : String} (h : value.IsListAt name)
    (hne : value.itemsAt name ≠ []) : value.member? name = some (array (value.itemsAt name)) := by
  cases hm : value.member? name with
  | none =>
    rw [itemsAt, hm] at hne
    exact absurd rfl hne
  | some field =>
    obtain ⟨items, rfl⟩ := h field hm
    rw [itemsAt_of_member? hm]

end ConfigMigration.Json
