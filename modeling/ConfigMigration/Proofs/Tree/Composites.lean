import ConfigMigration.Proofs.Tree.Child

/-!
# Composite values behind a write

A write goes along objects and lists and replaces none of them, but whatever stands at the place of its leaf gives
way.  So elements that led to an object or a list lead to one afterwards, unless the leaf took a place on their way
(`Replaces`).  In this case a scalar bars the way (`leadsToComposite_or_isBarred`), and the way stays barred, since no
later write gets past the scalar (`IsBarred.of_writeAt`).

All of this is about elements whose keys are not named like the leaf, so that they go on finding the entries that they
found.  An entry may change below them, or the list may become longer.
-/

namespace ConfigMigration.Tree

variable {a e : PathElem} {parents elems : List PathElem} {node node' child value : Json} {leaf : String}

/-- Whether elements lead to an object or a list. -/
def LeadsToComposite (elems : List PathElem) (node : Json) : Prop :=
  ∃ found, find? elems node = some found ∧ found.isComposite = true

/-- Whether two elements lead to one child of a node.  Equal entries of a list are found alike, so the first of them
is the one that both elements find. -/
structure Share (a e : PathElem) (node child : Json) : Prop where
  name : a.name = e.name
  keyed : a.keys.isEmpty = e.keys.isEmpty
  left : child? a node = some child
  right : child? e node = some child

/-- Whether a leaf that is written into what `parents` lead to takes a place on the way of other elements. -/
def Replaces (leaf : String) : List PathElem → List PathElem → Json → Prop
  | _, [], _ => False
  | [], e :: _, _ => leaf = e.name
  | a :: parents, e :: elems, node => ∃ child, Share a e node child ∧ Replaces leaf parents elems child

/-- Whether a scalar stands on the way of elements, under the name of one of them. -/
def IsBarred : List PathElem → Json → Prop
  | [], _ => False
  | e :: elems, node =>
    (∃ field, node.member? e.name = some field ∧ field.isComposite = false) ∨
      ∃ child, child? e node = some child ∧ IsBarred elems child

/-! ### One element -/

theorem child?_eq_none (h : node.isObject = false) (e : PathElem) : child? e node = none := by
  rw [child?, member?_eq_none h]
  rfl

theorem find?_eq_none (h : node.isObject = false) (e : PathElem) (elems : List PathElem) :
    find? (e :: elems) node = none := by
  rw [find?, child?_eq_none h]
  rfl

theorem not_isBarred (h : node.isObject = false) (elems : List PathElem) : ¬IsBarred elems node := by
  cases elems with
  | nil => exact id
  | cons e elems =>
    rintro (⟨field, hfield, -⟩ | ⟨child, hchild, -⟩)
    · rw [member?_eq_none h] at hfield
      cases hfield
    · rw [child?_eq_none h] at hchild
      cases hchild

theorem member?_of_child?_of_keyed (hkeyed : e.keys.isEmpty = false) (h : child? e node = some child) :
    ∃ items, node.member? e.name = some (.array items) ∧ items.find? (matchesKeys e.keys) = some child := by
  obtain ⟨field, hfield, hchild⟩ := Option.bind_eq_some_iff.mp h
  rw [if_neg (by simp [hkeyed])] at hchild
  obtain ⟨items, hitems, hchild⟩ := Option.bind_eq_some_iff.mp hchild
  cases field with
  | array items => exact ⟨items, hfield, by rwa [Option.some.inj hitems]⟩
  | _ => cases hitems

/-- A write decides about no key that is not named like its leaf. -/
theorem matchesKeys_writeAt {keys : Keys} (hleaf : leaf ∉ keys.names)
    (h : writeAt leaf value elems node = .ok node') : matchesKeys keys node' = matchesKeys keys node := by
  have hname : ∀ key ∈ keys.entries, node'.keyText? key.1 = node.keyText? key.1 := by
    intro key hkey
    refine keyText?_writeAt h fun _ heq => hleaf ?_
    rw [← heq]
    exact List.mem_map_of_mem hkey
  rw [Bool.eq_iff_iff, matchesKeys_iff, matchesKeys_iff]
  exact forall₂_congr fun key hkey => by rw [hname key hkey]

/-- What an element without keys finds behind a write along an element of its name.  With keys, that one leads on to
an entry of the list that is found here. -/
theorem child?_of_writeAt_of_isEmpty (hname : a.name = e.name) (hkeys : e.keys.isEmpty = true)
    (h : writeAt leaf value (a :: parents) node = .ok node') (he : child? e node = some child) :
    (Share a e node child ∧ ∃ child', writeAt leaf value parents child = .ok child' ∧ child? e node' = some child') ∨
    (¬Share a e node child ∧ ∃ items items', child = .array items ∧ child? e node' = some (.array items')) := by
  have hopen : IsOpen a node := isOpen_of_changeChild h
  obtain ⟨new, hnew, rfl⟩ := exists_child_of_changeChild h
  rw [child?_of_isEmpty hkeys]
  cases ha : a.keys.isEmpty with
  | true =>
    have hchild : child? a node = some child := by
      rw [child?_of_isEmpty ha, hname, ← child?_of_isEmpty hkeys, he]
    rw [hchild, Option.getD_some] at hnew
    refine .inl ⟨⟨hname, ha.trans hkeys.symm, hchild, he⟩, new, hnew, ?_⟩
    rw [setChild_of_isEmpty ha, hname, Json.member?_setMember_self hopen.object]
  | false =>
    have hmember : node.member? a.name = some child := by rw [hname, ← child?_of_isEmpty hkeys, he]
    obtain ⟨items, rfl⟩ := hopen.list ha child hmember
    refine .inr ⟨fun hshare => ?_, ?_⟩
    · rw [hshare.keyed, hkeys] at ha
      cases ha
    · rw [setChild_of_keyed ha, hname, Json.member?_setMember_self hopen.object]
      exact ⟨items, _, rfl, rfl⟩

/-- What an element with keys finds behind a write along an element of its name: the entry that both find is changed,
and any other stays the first one with the keys. -/
theorem child?_of_writeAt_of_keyed (hname : a.name = e.name) (hkeyed : e.keys.isEmpty = false)
    (hleaf : leaf ∉ e.keys.names) (h : writeAt leaf value (a :: parents) node = .ok node')
    (he : child? e node = some child) :
    (Share a e node child ∧ ∃ child', writeAt leaf value parents child = .ok child' ∧ child? e node' = some child') ∨
    (¬Share a e node child ∧ child? e node' = some child) := by
  have hopen : IsOpen a node := isOpen_of_changeChild h
  obtain ⟨new, hnew, rfl⟩ := exists_child_of_changeChild h
  cases ha : a.keys.isEmpty with
  | true =>
    -- the write would go on in the list, which is no object
    obtain ⟨items, hitems, -⟩ := member?_of_child?_of_keyed hkeyed he
    rw [child?_of_isEmpty ha, hname, hitems, Option.getD_some] at hnew
    exact absurd (isObject_of_writeAt hnew).1 (by simp [Json.isObject])
  | false =>
    have hnode' : child? e (setChild a new node) =
        (upsert (matchesKeys a.keys) (fun _ => new) (entryOfKeys a.keys) (node.itemsAt e.name)).find?
          (matchesKeys e.keys) := by
      rw [child?_of_keyed hkeyed, setChild_of_keyed ha, hname, Json.itemsAt_setMember hopen.object]
    have hentry := he
    rw [child?_of_keyed hkeyed] at hentry
    rw [hnode']
    by_cases hchild : child? a node = some child
    · rw [hchild, Option.getD_some] at hnew
      refine .inl ⟨⟨hname, ha.trans hkeyed.symm, hchild, he⟩, new, hnew, ?_⟩
      have hshown : matchesKeys e.keys new = true := by rw [matchesKeys_writeAt hleaf hnew, matchesKeys_of_child? he]
      rw [child?_of_keyed ha, hname] at hchild
      exact find?_upsert_of_find?_eq hchild hentry hshown
    · refine .inr ⟨fun hshare => hchild hshare.left, ?_⟩
      have hshown : ∀ other, child? a node = some other → matchesKeys e.keys new = matchesKeys e.keys other := by
        intro other hother
        rw [hother, Option.getD_some] at hnew
        exact matchesKeys_writeAt hleaf hnew
      rw [child?_of_keyed ha, hname] at hchild hshown
      exact find?_upsert_of_find?_ne hentry hchild hshown

/-- What an element finds behind a write along another one.  If both find one child, the write goes on in it; if not,
the child stays as it is, or is a list of which the write has changed an entry. -/
theorem child?_of_writeAt (hleaf : leaf ∉ e.keys.names) (h : writeAt leaf value (a :: parents) node = .ok node')
    (he : child? e node = some child) :
    (Share a e node child ∧ ∃ child', writeAt leaf value parents child = .ok child' ∧ child? e node' = some child') ∨
    (¬Share a e node child ∧ (child? e node' = some child ∨
      ∃ items items', child = .array items ∧ child? e node' = some (.array items'))) := by
  by_cases hname : a.name = e.name
  · cases hkeys : e.keys.isEmpty with
    | true => exact (child?_of_writeAt_of_isEmpty hname hkeys h he).imp_right (And.imp_right .inr)
    | false => exact (child?_of_writeAt_of_keyed hname hkeys hleaf h he).imp_right (And.imp_right .inl)
  · obtain ⟨new, -, rfl⟩ := exists_child_of_changeChild h
    exact .inr ⟨fun hshare => hname hshare.name, .inl ((child?_setChild_of_name_ne hname new node).trans he)⟩

theorem member?_of_writeMember (h : writeAt leaf value [] node = .ok node') : node'.member? leaf = some value := by
  rw [eq_setMember_of_writeMember h, Json.member?_setMember_self (isObject_of_writeAt h).1]

theorem member?_of_writeMember_of_ne (hname : leaf ≠ e.name) (h : writeAt leaf value [] node = .ok node') :
    node'.member? e.name = node.member? e.name := by
  rw [eq_setMember_of_writeMember h, Json.member?_setMember_of_ne hname.symm]

/-- What an element finds behind the write of a leaf of another name. -/
theorem child?_of_writeMember (hname : leaf ≠ e.name) (h : writeAt leaf value [] node = .ok node') :
    child? e node' = child? e node := by
  unfold child?
  rw [member?_of_writeMember_of_ne hname h]

/-! ### Whole ways -/

theorem leadsToComposite_cons_iff :
    LeadsToComposite (e :: elems) node ↔ ∃ child, child? e node = some child ∧ LeadsToComposite elems child := by
  simp only [LeadsToComposite, find?, Option.bind_eq_some_iff]
  constructor
  · rintro ⟨found, ⟨child, hchild, hfound⟩, hcomposite⟩
    exact ⟨child, hchild, found, hfound, hcomposite⟩
  · rintro ⟨child, hchild, found, hfound, hcomposite⟩
    exact ⟨found, ⟨child, hchild, hfound⟩, hcomposite⟩

theorem leadsToComposite_nil_iff : LeadsToComposite [] node ↔ node.isComposite = true := by
  simp [LeadsToComposite, find?]

/-- The node that a write starts from stays an object. -/
theorem leadsToComposite_nil_of_writeAt (h : writeAt leaf value parents node = .ok node') :
    LeadsToComposite [] node' :=
  leadsToComposite_nil_iff.mpr (Json.isComposite_of_isObject (isObject_of_writeAt h).2)

theorem LeadsToComposite.isComposite (h : LeadsToComposite elems node) : node.isComposite = true := by
  cases elems with
  | nil => exact leadsToComposite_nil_iff.mp h
  | cons e elems =>
    obtain ⟨found, hfound, -⟩ := h
    cases hobject : node.isObject with
    | true => exact Json.isComposite_of_isObject hobject
    | false =>
      rw [find?_eq_none hobject] at hfound
      cases hfound

/-- A list has no members, so a way that leads through it ends in it. -/
theorem LeadsToComposite.of_array {items : List Json} (h : LeadsToComposite elems (.array items))
    (items' : List Json) : LeadsToComposite elems (.array items') := by
  cases elems with
  | nil => exact ⟨.array items', rfl, rfl⟩
  | cons e elems =>
    obtain ⟨found, hfound, -⟩ := h
    rw [find?_eq_none rfl] at hfound
    cases hfound

theorem eq_of_child?_of_scalar {field : Json} (hfield : node.member? e.name = some field)
    (hscalar : field.isComposite = false) (h : child? e node = some child) : child = field := by
  cases hkeys : e.keys.isEmpty with
  | true =>
    rw [child?_of_isEmpty hkeys, hfield] at h
    exact (Option.some.inj h).symm
  | false =>
    obtain ⟨items, hitems, -⟩ := member?_of_child?_of_keyed hkeys h
    rw [hfield] at hitems
    rw [Option.some.inj hitems] at hscalar
    cases hscalar

/-- No object or list is found where the way is barred. -/
theorem IsBarred.not_leadsToComposite (h : IsBarred elems node) : ¬LeadsToComposite elems node := by
  induction elems generalizing node with
  | nil => exact absurd h id
  | cons e elems ih =>
    rw [leadsToComposite_cons_iff]
    rintro ⟨child, hchild, hleads⟩
    rcases h with ⟨field, hfield, hscalar⟩ | ⟨child', hchild', hbarred⟩
    · rw [← eq_of_child?_of_scalar hfield hscalar hchild, hleads.isComposite] at hscalar
      cases hscalar
    · rw [hchild] at hchild'
      rw [← Option.some.inj hchild'] at hbarred
      exact ih hbarred hleads

theorem replaces_cons_iff (he : child? e node = some child) :
    Replaces leaf (a :: parents) (e :: elems) node ↔ Share a e node child ∧ Replaces leaf parents elems child := by
  constructor
  · rintro ⟨other, hshare, hreplaces⟩
    obtain rfl : other = child := Option.some.inj (hshare.right.symm.trans he)
    exact ⟨hshare, hreplaces⟩
  · rintro ⟨hshare, hreplaces⟩
    exact ⟨child, hshare, hreplaces⟩

theorem not_replaces_nil (leaf : String) (parents : List PathElem) (node : Json) :
    ¬Replaces leaf parents [] node := by
  cases parents with
  | nil => exact id
  | cons a parents => exact id

/-- Behind a write, elements that led to an object or a list lead to one, unless the leaf took a place on their way;
then a scalar bars it. -/
theorem leadsToComposite_or_isBarred (hvalue : value.isComposite = false)
    (hkeys : ∀ e ∈ elems, leaf ∉ e.keys.names) (h : writeAt leaf value parents node = .ok node')
    (hleads : LeadsToComposite elems node) :
    (¬Replaces leaf parents elems node ∧ LeadsToComposite elems node') ∨
      (Replaces leaf parents elems node ∧ IsBarred elems node') := by
  induction parents generalizing elems node node' with
  | nil =>
    cases elems with
    | nil => exact .inl ⟨id, leadsToComposite_nil_of_writeAt h⟩
    | cons e elems =>
      by_cases hname : leaf = e.name
      · exact .inr ⟨hname, .inl ⟨value, hname ▸ member?_of_writeMember h, hvalue⟩⟩
      · rw [leadsToComposite_cons_iff, ← child?_of_writeMember hname h, ← leadsToComposite_cons_iff] at hleads
        exact .inl ⟨hname, hleads⟩
  | cons a parents ih =>
    cases elems with
    | nil => exact .inl ⟨not_replaces_nil _ _ _, leadsToComposite_nil_of_writeAt h⟩
    | cons e elems =>
      rw [List.forall_mem_cons] at hkeys
      obtain ⟨child, hchild, hleads⟩ := leadsToComposite_cons_iff.mp hleads
      rw [replaces_cons_iff hchild]
      rcases child?_of_writeAt hkeys.1 h hchild with ⟨hshare, child', hwrite, hchild'⟩ | ⟨hshare, hkept⟩
      · rcases ih hkeys.2 hwrite hleads with ⟨hnot, hleads'⟩ | ⟨hreplaces, hbarred⟩
        · exact .inl ⟨fun hreplaces => hnot hreplaces.2, leadsToComposite_cons_iff.mpr ⟨child', hchild', hleads'⟩⟩
        · exact .inr ⟨⟨hshare, hreplaces⟩, .inr ⟨child', hchild', hbarred⟩⟩
      · refine .inl ⟨fun hreplaces => hshare hreplaces.1, leadsToComposite_cons_iff.mpr ?_⟩
        rcases hkept with hchild' | ⟨items, items', rfl, hchild'⟩
        · exact ⟨child, hchild', hleads⟩
        · exact ⟨.array items', hchild', hleads.of_array items'⟩

/-- A write does not get past the scalar that bars a way, and may put another scalar there. -/
theorem IsBarred.of_writeAt (hvalue : value.isComposite = false) (hkeys : ∀ e ∈ elems, leaf ∉ e.keys.names)
    (h : writeAt leaf value parents node = .ok node') (hbarred : IsBarred elems node) : IsBarred elems node' := by
  induction parents generalizing elems node node' with
  | nil =>
    cases elems with
    | nil => exact hbarred
    | cons e elems =>
      by_cases hname : leaf = e.name
      · exact .inl ⟨value, hname ▸ member?_of_writeMember h, hvalue⟩
      · rwa [IsBarred, child?_of_writeMember hname h, member?_of_writeMember_of_ne hname h]
  | cons a parents ih =>
    cases elems with
    | nil => exact hbarred
    | cons e elems =>
      rw [List.forall_mem_cons] at hkeys
      rcases hbarred with ⟨field, hfield, hscalar⟩ | ⟨child, hchild, hbarred⟩
      · obtain ⟨hpassed, new, -, rfl⟩ := isComposite_of_writeAt h
        have hname : e.name ≠ a.name := by
          intro heq
          rw [hpassed field (heq ▸ hfield)] at hscalar
          cases hscalar
        rw [← Json.member?_setMember_of_ne hname new] at hfield
        exact .inl ⟨field, hfield, hscalar⟩
      · rcases child?_of_writeAt hkeys.1 h hchild with
          ⟨-, child', hwrite, hchild'⟩ | ⟨-, hchild' | ⟨items, -, rfl, -⟩⟩
        · exact .inr ⟨child', hchild', ih hkeys.2 hwrite hbarred⟩
        · exact .inr ⟨child, hchild', hbarred⟩
        · exact absurd hbarred (not_isBarred rfl elems)

end ConfigMigration.Tree
