import ConfigMigration.Gateway.Message
import ConfigMigration.Proofs.Except

/-!
# Around one part of an answer

The readers of answers go through records with one member of interest and through lists.  A frame is what stands
around such a member or item.  In a frame that can be read, a record is read as the member is (`member_fill`) and a
list with the item between the others (`list_fill`).  Whether a frame can be read or not, two terms that are read
alike are read alike in it (`member_fill_congr`, `list_fill_congr`).
-/

namespace ConfigMigration.Message

open Json (Decoder Fault Spelling Term)

/-- What stands around the member of interest of a record, which is written as an object or as an array. -/
inductive RecordFrame where
  /-- The members in front of the member and behind it, and the fault if the object is not closed. -/
  | object (before after : List (Spelling × Term)) (ending : Option Fault)
  /-- The items behind the member, and the fault if the array is not closed. -/
  | array (after : List Term) (ending : Option Fault)

/-- What stands around an item of a list. -/
structure ListFrame where
  /-- The items in front of the item. -/
  before : List Term
  /-- The items behind it. -/
  after : List Term
  /-- The fault if the list is not closed. -/
  ending : Option Fault

/-- The record with a term as the member `name`. -/
def RecordFrame.fill (name : String) (t : Term) : RecordFrame → Term
  | object before after ending => .object (before ++ (.text name, t) :: after) ending
  | array after ending => .array (t :: after) ending

/-- The list with a term as the item. -/
def ListFrame.fill (frame : ListFrame) (t : Term) : Term :=
  .array (frame.before ++ t :: frame.after) frame.ending

/-- Whether a member is passed over where `name` is looked for. -/
def IsPassedOver (name : String) (member : Spelling × Term) : Prop :=
  ∃ other, member.1 = .text other ∧ other ≠ name ∧ member.2.fault? = none

/-- The frames that can be read: the record is closed, and the other members are passed over. -/
inductive RecordFrame.IsReadable (name : String) : RecordFrame → Prop
  | object {before after : List (Spelling × Term)} (hbefore : ∀ member ∈ before, IsPassedOver name member)
    (hafter : ∀ member ∈ after, IsPassedOver name member) : IsReadable name (object before after none)
  | array : IsReadable name (array [] none)

/-- The lists that can be read around an item: those in front of it are of a kind, those behind it can be read, and
the list is closed. -/
structure ListFrame.IsReadable {α : Type} (kind : Term → Prop) (read : Term → Except Fault α) (frame : ListFrame) :
    Prop where
  /-- The items in front are of the kind. -/
  before : ∀ t ∈ frame.before, kind t
  /-- The items behind can be read. -/
  after : ∀ t ∈ frame.after, ∃ a, read t = .ok a
  /-- The list is closed. -/
  ending : frame.ending = none

/-- The records without a member `name`. -/
inductive Lacks (name : String) : Term → Prop
  | object {members : List (Spelling × Term)} (h : ∀ member ∈ members, IsPassedOver name member) :
    Lacks name (.object members none)
  | array : Lacks name (.array [] none)

variable {α γ : Type}

/-! ### Records -/

private theorem readMembers_append (fields : List (Decoder.Field γ)) (depth : Nat) (record : γ)
    (members others : List (Spelling × Term)) :
    Decoder.readMembers fields depth record (members ++ others) =
      Decoder.readMembers fields depth record members >>= fun r => Decoder.readMembers fields depth r others := by
  induction members generalizing record with
  | nil => rfl
  | cons member members ih =>
    obtain ⟨key, t⟩ := member
    rw [List.cons_append, Decoder.readMembers, Decoder.readMembers]
    cases key.content with
    | error e => rfl
    | ok key =>
      simp only [bind, Except.bind]
      cases fields.find? fun field => field.name = key with
      | some field =>
        dsimp only
        split
        · rfl
        · cases field.read record depth t with
          | error e => rfl
          | ok r => exact ih r
      | none =>
        cases Decoder.check t.fault? with
        | error e => rfl
        | ok _ => exact ih record

section Records

variable {name : String} {d : Decoder α} {standard : Option α} {mayEnd : Bool} {depth : Nat}

/-- The member of interest, in the record that keeps it. -/
private abbrev field (name : String) (d : Decoder α) (mayEnd : Bool) : Decoder.Field (Option α) :=
  .of name id (fun _ a => some a) d mayEnd

private theorem readMembers_self (t : Term) (members : List (Spelling × Term)) :
    Decoder.readMembers [field name d mayEnd] depth none ((.text name, t) :: members) =
      d depth t >>= fun a => Decoder.readMembers [field name d mayEnd] depth (some a) members := by
  rw [Decoder.readMembers]
  simp only [Spelling.content, bind, Except.bind, Decoder.Field.of, List.find?_cons, decide_true]
  cases d depth t <;> rfl

private theorem readMembers_again (a : α) (t : Term) (members : List (Spelling × Term)) :
    Decoder.readMembers [field name d mayEnd] depth (some a) ((.text name, t) :: members) = .error .mismatched := by
  rw [Decoder.readMembers]
  simp only [Spelling.content, bind, Except.bind, Decoder.Field.of, List.find?_cons, decide_true]
  rfl

private theorem readMembers_of_isPassedOver {record : Option α} {members : List (Spelling × Term)}
    (h : ∀ member ∈ members, IsPassedOver name member) :
    Decoder.readMembers [field name d mayEnd] depth record members = .ok record := by
  induction members with
  | nil => rfl
  | cons member members ih =>
    rw [List.forall_mem_cons] at h
    obtain ⟨⟨other, hkey, hne, hfault⟩, hrest⟩ := h
    obtain ⟨key, t⟩ := member
    cases hkey
    rw [Decoder.readMembers]
    simp only [Spelling.content, bind, Except.bind, Decoder.Field.of, List.find?_cons, List.find?_nil, hfault,
      Decoder.check, decide_eq_false (Ne.symm hne)]
    exact ih hrest

/-- Once the member is known, its value does not matter for what is read behind it. -/
private theorem readMembers_some_congr {f : α → γ} {a b : α} (h : f a = f b) (members : List (Spelling × Term)) :
    Option.map f <$> Decoder.readMembers [field name d mayEnd] depth (some a) members =
      Option.map f <$> Decoder.readMembers [field name d mayEnd] depth (some b) members := by
  induction members with
  | nil => exact congrArg (fun c => Except.ok (some c)) h
  | cons member members ih =>
    obtain ⟨key, t⟩ := member
    rw [Decoder.readMembers, Decoder.readMembers]
    cases key.content with
    | error e => rfl
    | ok key =>
      simp only [bind, Except.bind, Decoder.Field.of, List.find?_cons, List.find?_nil]
      cases decide (name = key) with
      | true => rfl
      | false =>
        dsimp only
        cases Decoder.check t.fault? with
        | error e => rfl
        | ok _ => exact ih

/-- What closes a record that has been read. -/
private def close (ending : Option Fault) (standard : Option α) (record : Option α) : Except Fault α := do
  Decoder.check ending
  (record.or standard).elim (.error .mismatched) .ok

private theorem close_congr {f : α → γ} {record other : Option α} (h : record.map f = other.map f)
    (ending : Option Fault) (standard : Option α) :
    f <$> close ending standard record = f <$> close ending standard other := by
  unfold close
  cases Decoder.check ending with
  | error e => rfl
  | ok _ =>
    cases record with
    | none =>
      cases other with
      | none => rfl
      | some b => cases h
    | some a =>
      cases other with
      | none => cases h
      | some b => exact congrArg Except.ok (Option.some.inj h)

private theorem member_object (members : List (Spelling × Term)) (ending : Option Fault) :
    member name standard d (depth + 1) (.object members ending) =
      Decoder.readMembers [field name d standard.isSome] depth none members >>= close ending standard := rfl

private theorem member_array (t : Term) (after : List Term) (ending : Option Fault) :
    member name standard d (depth + 1) (.array (t :: after) ending) =
      d depth t >>= fun a => match after with
        | [] => close ending standard (some a)
        | _ :: _ => .error .malformed := by
  change (Decoder.readItems depth ending [field name d standard.isSome] none (t :: after) >>= _) = _
  rw [Decoder.readItems]
  change ((some <$> d depth t) >>= _) >>= _ = _
  cases d depth t with
  | error e => rfl
  | ok a =>
    cases after with
    | nil =>
      unfold close
      cases ending <;> rfl
    | cons other after => rfl

/-- In a frame that can be read, the record is read as the member is. -/
theorem member_fill {frame : RecordFrame} (h : frame.IsReadable name) (t : Term) :
    member name standard d (depth + 1) (frame.fill name t) = d depth t := by
  cases h with
  | @object before after hbefore hafter =>
    rw [RecordFrame.fill, member_object, readMembers_append, readMembers_of_isPassedOver hbefore]
    change Decoder.readMembers _ depth none ((.text name, t) :: after) >>= _ = _
    rw [readMembers_self]
    cases d depth t with
    | error e => rfl
    | ok a =>
      change Decoder.readMembers _ depth (some a) after >>= _ = _
      rw [readMembers_of_isPassedOver hafter]
      rfl
  | array =>
    rw [RecordFrame.fill, member_array]
    cases d depth t <;> rfl

/-- A record without the member is read as the standard value. -/
theorem member_of_lacks {t : Term} (h : Lacks name t) (a : α) : member name (some a) d (depth + 1) t = .ok a := by
  cases h with
  | object h =>
    rw [member_object, readMembers_of_isPassedOver h]
    rfl
  | array => rfl

/-- Two terms that are read alike as the member are read alike in every frame. -/
theorem member_fill_congr {f : α → γ} {t u : Term} (h : f <$> d depth t = f <$> d depth u) (frame : RecordFrame) :
    f <$> member name standard d (depth + 1) (frame.fill name t) =
      f <$> member name standard d (depth + 1) (frame.fill name u) := by
  cases frame with
  | object before after ending =>
    rw [RecordFrame.fill, RecordFrame.fill, member_object, member_object, readMembers_append, readMembers_append]
    cases Decoder.readMembers [field name d standard.isSome] depth none before with
    | error e => rfl
    | ok record =>
      change f <$> (Decoder.readMembers _ depth record ((.text name, t) :: after) >>= _) =
        f <$> (Decoder.readMembers _ depth record ((.text name, u) :: after) >>= _)
      -- where the member has come before, it is a fault here whatever it holds
      cases record with
      | none =>
        rw [readMembers_self, readMembers_self, bind_assoc, bind_assoc, map_bind, map_bind]
        refine bind_eq_bind_of_map_eq h fun a b hab => ?_
        rw [map_bind, map_bind]
        exact bind_eq_bind_of_map_eq (readMembers_some_congr hab after) fun r r' hr => close_congr hr ending standard
      | some a => rw [readMembers_again, readMembers_again]
  | array after ending =>
    rw [RecordFrame.fill, RecordFrame.fill, member_array, member_array, map_bind, map_bind]
    refine bind_eq_bind_of_map_eq h fun a b hab => ?_
    cases after with
    | nil =>
      have hread : (some a).map f = (some b).map f := congrArg some hab
      exact close_congr hread ending standard
    | cons other after => rfl

end Records

/-! ### Lists -/

section Lists

variable {d : Decoder α} {depth : Nat}

private theorem list_array (items : List Term) (ending : Option Fault) :
    Decoder.list d (depth + 1) (.array items ending) = do
      let values ← items.mapM (d depth)
      Decoder.check ending
      return values := rfl

private theorem exists_mapM_eq_ok {read : Term → Except Fault α} {P : α → Prop} {ts : List Term}
    (h : ∀ t ∈ ts, ∃ a, read t = .ok a ∧ P a) : ∃ as, ts.mapM read = .ok as ∧ ∀ a ∈ as, P a := by
  induction ts with
  | nil => exact ⟨[], rfl, List.forall_mem_nil _⟩
  | cons t ts ih =>
    rw [List.forall_mem_cons] at h
    obtain ⟨⟨a, ha, hP⟩, hrest⟩ := h
    obtain ⟨as, has, hPs⟩ := ih hrest
    refine ⟨a :: as, ?_, List.forall_mem_cons.mpr ⟨hP, hPs⟩⟩
    rw [List.mapM_cons, ha, has]
    rfl

/-- In a list that can be read, what is read of the item stands between what is read of the others. -/
theorem list_fill {kind : Term → Prop} {P : α → Prop} (hkind : ∀ t, kind t → ∃ a, d depth t = .ok a ∧ P a)
    {frame : ListFrame} (h : frame.IsReadable kind (d depth)) :
    ∃ front back : List α, (∀ a ∈ front, P a) ∧
      ∀ t, Decoder.list d (depth + 1) (frame.fill t) = (fun a => front ++ a :: back) <$> d depth t := by
  obtain ⟨front, hfront, hP⟩ := exists_mapM_eq_ok fun t ht => hkind t (h.before t ht)
  obtain ⟨back, hback, -⟩ := exists_mapM_eq_ok fun t ht => (h.after t ht).imp fun a ha => ⟨ha, trivial⟩
  refine ⟨front, back, hP, fun t => ?_⟩
  rw [ListFrame.fill, list_array, h.ending, List.mapM_append, hfront, List.mapM_cons, hback]
  cases d depth t <;> rfl

/-- A closed list is read if its items are. -/
theorem list_of_forall {P : α → Prop} {items : List Term} (h : ∀ t ∈ items, ∃ a, d depth t = .ok a ∧ P a) :
    ∃ values, Decoder.list d (depth + 1) (.array items none) = .ok values ∧ ∀ a ∈ values, P a := by
  obtain ⟨values, hvalues, hP⟩ := exists_mapM_eq_ok h
  refine ⟨values, ?_, hP⟩
  rw [list_array, hvalues]
  rfl

/-- Two terms that are read alike as the item are read alike in every list. -/
theorem list_fill_congr {f : α → γ} {t u : Term} (h : f <$> d depth t = f <$> d depth u) (frame : ListFrame) :
    List.map f <$> Decoder.list d (depth + 1) (frame.fill t) =
      List.map f <$> Decoder.list d (depth + 1) (frame.fill u) := by
  rw [ListFrame.fill, ListFrame.fill, list_array, list_array, List.mapM_append, List.mapM_append, List.mapM_cons,
    List.mapM_cons]
  cases frame.before.mapM (d depth) with
  | error e => rfl
  | ok front =>
    simp only [bind_assoc, pure_bind, map_bind]
    refine bind_eq_bind_of_map_eq h fun a b hab => ?_
    cases frame.after.mapM (d depth) with
    | error e => rfl
    | ok back =>
      cases frame.ending with
      | some fault => rfl
      | none => simp [hab, pure, Except.pure, Functor.map, Except.map, Decoder.check, bind, Except.bind]

end Lists

end ConfigMigration.Message
