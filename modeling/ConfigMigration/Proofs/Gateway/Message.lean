import ConfigMigration.Gateway.Message
import ConfigMigration.Proofs.Json.Numeral
import ConfigMigration.Proofs.Json.Value
import ConfigMigration.Proofs.WireForm

/-!
# What a Set message tells

Two requests are sent as the same message only if they ask for the same: the widths of unsigned integers are all that
is lost (`ofSet_reads_same_iff`).  The order in which members are written does not count, since what is read from a
message does not depend on it.  Elements, paths, updates and requests are told by their members, one level after the
other; what is absent or empty is told by the absence of its member.
-/

namespace ConfigMigration

open Json (IsReadable)

/-! ### Elements and paths -/

namespace Keys

/-- The keys as they are written. -/
private def toJson (keys : Keys) : Json := .object (keys.entries.map fun key => (key.1, .string key.2))

private theorem toJson_inj {keys others : Keys} (h : keys.toJson = others.toJson) : keys = others := by
  have hentries : keys.entries = others.entries := by
    refine (List.map_inj_right ?_).mp (Json.object.inj h)
    rintro ⟨name, value⟩ ⟨other, value'⟩ hkey
    simpa using hkey
  rw [← keys.ofList_entries, hentries, others.ofList_entries]

private theorem ordered_toJson (keys : Keys) : keys.toJson.ordered = keys.toJson := by
  have hentries : Dictionary.Ordered (keys.entries.map fun key => (key.1, Json.string key.2)) :=
    List.pairwise_map.mpr keys.ordered
  refine Json.ordered_of_isOrdered ?_
  rw [toJson, Json.isOrdered, Bool.and_eq_true, decide_eq_true_eq, Json.membersAreOrdered_iff]
  exact ⟨hentries, List.forall_mem_map.mpr fun key _ => rfl⟩

private theorem isReadable_toJson (keys : Keys) (depth : Nat) : IsReadable (depth + 1) keys.toJson :=
  .object (List.forall_mem_map.mpr fun key _ => .string depth key.2)

end Keys

namespace PathElem

theorem hasDistinctNames_toJson (e : PathElem) : e.toJson.HasDistinctNames := by
  refine Json.hasDistinctNames_object.mpr ?_
  split <;> simp

/-- The keys that an element shows; empty keys show nothing. -/
private theorem map_ordered_member?_key (e : PathElem) :
    (e.toJson.member? "key").map Json.ordered = if e.keys.isEmpty then none else some e.keys.toJson := by
  rw [member?_key_toJson]
  split
  · rfl
  · exact congrArg some e.keys.ordered_toJson

private theorem keys_eq_of_shown {keys others : Keys}
    (h : (if keys.isEmpty then none else some keys.toJson) = if others.isEmpty then none else some others.toJson) :
    keys = others := by
  refine Keys.toJson_inj ?_
  split at h
  · rename_i hkeys
    split at h
    · rename_i hothers
      rw [Keys.toJson, Keys.toJson, List.isEmpty_iff.mp hkeys, List.isEmpty_iff.mp hothers]
    · cases h
  · split at h
    · cases h
    · exact Option.some.inj h

/-- An element is told by its name and its keys. -/
theorem ordered_toJson_inj {e f : PathElem} (h : e.toJson.ordered = f.toJson.ordered) : e = f := by
  have hmembers := Json.member?_eq_of_ordered e.hasDistinctNames_toJson f.hasDistinctNames_toJson h
  have hname : some (Json.string e.name) = some (Json.string f.name) := hmembers "name"
  have hkeys := hmembers "key"
  rw [map_ordered_member?_key, map_ordered_member?_key] at hkeys
  obtain ⟨name, keys⟩ := e
  obtain ⟨other, others⟩ := f
  rw [mk.injEq]
  exact ⟨Json.string.inj (Option.some.inj hname), keys_eq_of_shown hkeys⟩

theorem isReadable_toJson (e : PathElem) (depth : Nat) : IsReadable (depth + 2) e.toJson := by
  refine .object (List.forall_mem_cons.mpr ⟨.string (depth + 1) e.name, ?_⟩)
  split
  · exact List.forall_mem_nil _
  · exact List.forall_mem_singleton.mpr (e.keys.isReadable_toJson depth)

end PathElem

namespace Path

theorem hasDistinctNames_toJson (p : Path) : p.toJson.HasDistinctNames := by
  obtain ⟨target, elems⟩ := p
  refine Json.hasDistinctNames_object.mpr ?_
  cases target <;> simp

/-- A path is told by its target, or the absence of one, and its elements. -/
theorem ordered_toJson_inj {p q : Path} (h : p.toJson.ordered = q.toJson.ordered) : p = q := by
  have htarget := Json.member?_eq_of_ordered p.hasDistinctNames_toJson q.hasDistinctNames_toJson h "target"
  have helems := Json.itemsAt_eq_of_ordered p.hasDistinctNames_toJson q.hasDistinctNames_toJson h "elem"
  rw [member?_target_toJson, member?_target_toJson, Option.map_map, Option.map_map] at htarget
  rw [Json.itemsAt_of_member? p.member?_elem_toJson, Json.itemsAt_of_member? q.member?_elem_toJson] at helems
  obtain ⟨target, elems⟩ := p
  obtain ⟨target', elems'⟩ := q
  rw [mk.injEq]
  constructor
  · exact (Option.map_inj_right fun s t hst => Json.string.inj hst).mp htarget
  · exact Json.eq_of_map_ordered (fun e f => PathElem.ordered_toJson_inj) helems

theorem isReadable_toJson (p : Path) (depth : Nat) : IsReadable (depth + 4) p.toJson := by
  obtain ⟨target, elems⟩ := p
  have helems : IsReadable (depth + 3) (.array (elems.map PathElem.toJson)) :=
    .array (List.forall_mem_map.mpr fun e _ => e.isReadable_toJson depth)
  refine .object ?_
  cases target with
  | none => exact List.forall_mem_singleton.mpr helems
  | some target =>
    exact List.forall_mem_cons.mpr ⟨.string (depth + 3) target, List.forall_mem_singleton.mpr helems⟩

end Path

/-! ### What does not count -/

/-- The value with unsigned integers in 64 bits. -/
def Scalar.widen (v : Scalar) : Scalar := (v.toUInt64?.map .uint64).getD v

/-- The update with unsigned integers in 64 bits. -/
def Update.widen (u : Update) : Update := { u with value := u.value.widen }

/-- Whether two requests ask for the same up to the widths of unsigned integers.  A base that is absent is the root,
and the target of a base does not count. -/
structure SetRequest.SameUpToWidths (r s : SetRequest) : Prop where
  /-- The targets are the same. -/
  target : r.target = s.target
  /-- The bases lead the same way. -/
  base : r.basePath.elems = s.basePath.elems
  /-- The same leaves are written, in the same order. -/
  updates : r.updates.map Update.widen = s.updates.map Update.widen
  /-- The same nodes are removed, in the same order. -/
  deletes : r.deletes = s.deletes

namespace Message

/-! ### Values and updates -/

theorem ofScalar_widen (v : Scalar) : ofScalar v.widen = ofScalar v := by
  cases v <;> rfl

/-- The unsigned integer that a value is, if it is one, whatever its width. -/
theorem uint64At?_ofScalar (v : Scalar) : (ofScalar v).uint64At? "uintVal" = v.toUInt64? := by
  rw [← ofScalar_widen]
  cases v with
  | uint8 _ | uint16 _ | uint32 _ | uint64 _ => exact Json.uint64At?_eq_some_iff.mpr rfl
  | string _ | int64 _ | bool _ => rfl

/-- A value is told up to its width. -/
theorem ofScalar_eq_iff {v w : Scalar} : ofScalar v = ofScalar w ↔ v.widen = w.widen := by
  refine ⟨fun h => ?_, fun h => by rw [← ofScalar_widen v, h, ofScalar_widen]⟩
  have hnumber : v.toUInt64? = w.toUInt64? := by rw [← uint64At?_ofScalar, h, uint64At?_ofScalar]
  cases hw : w.toUInt64? with
  | some n => rw [Scalar.widen, Scalar.widen, hnumber, hw, Option.map_some, Option.getD_some, Option.getD_some]
  | none =>
    -- what is no unsigned integer is a text, a signed integer or a truth value, each under a name of its own
    rw [hw] at hnumber
    cases v with
    | uint8 _ | uint16 _ | uint32 _ | uint64 _ => cases hnumber
    | string _ | int64 _ | bool _ =>
      cases w with
      | uint8 _ | uint16 _ | uint32 _ | uint64 _ => cases hw
      | string _ | int64 _ | bool _ => simp_all [ofScalar, Json.ofInt, Int64.toInt_inj]

theorem ordered_ofScalar (v : Scalar) : (ofScalar v).ordered = ofScalar v := by
  cases v <;> rfl

private theorem isReadable_ofInt {n : Int} (hlow : -0x8000000000000000 ≤ n) (hhigh : n < UInt64.size) (depth : Nat) :
    IsReadable depth (.ofInt n) := by
  refine .number depth (Number.toNumber?_integer hlow ?_)
  simp only [Json.Numeral.maxSignificand, UInt64.size] at hhigh ⊢
  omega

theorem isReadable_ofScalar (v : Scalar) (depth : Nat) : IsReadable (depth + 1) (ofScalar v) := by
  have huint (n : UInt64) : IsReadable depth (.ofInt n.toNat) :=
    isReadable_ofInt (by omega) (Int.ofNat_lt.mpr n.toNat_lt) depth
  rw [← ofScalar_widen]
  cases v with
  | uint8 _ | uint16 _ | uint32 _ | uint64 _ => exact .object (List.forall_mem_singleton.mpr (huint _))
  | int64 n =>
    have hlt : n.toInt < UInt64.size := Int.lt_trans n.toInt_lt (by decide)
    exact .object (List.forall_mem_singleton.mpr (isReadable_ofInt n.le_toInt hlt depth))
  | string s => exact .object (List.forall_mem_singleton.mpr (.string depth s))
  | bool b => exact .object (List.forall_mem_singleton.mpr (.bool depth b))

theorem ofUpdate_widen (u : Update) : ofUpdate u.widen = ofUpdate u := by
  rw [ofUpdate, Update.widen, ofScalar_widen, ofUpdate]

/-- An update is told by its path and its value. -/
theorem widen_eq_of_ordered_ofUpdate {u v : Update} (h : (ofUpdate u).ordered = (ofUpdate v).ordered) :
    u.widen = v.widen := by
  have hdistinct (u : Update) : (ofUpdate u).HasDistinctNames := Json.hasDistinctNames_object.mpr (by simp)
  have hmembers := Json.member?_eq_of_ordered (hdistinct u) (hdistinct v) h
  have hpath : some u.path.toJson.ordered = some v.path.toJson.ordered := hmembers "path"
  have hvalue : some (ofScalar u.value).ordered = some (ofScalar v.value).ordered := hmembers "val"
  rw [ordered_ofScalar, ordered_ofScalar, Option.some.injEq, ofScalar_eq_iff] at hvalue
  rw [Update.widen, Update.widen, Path.ordered_toJson_inj (Option.some.inj hpath), hvalue]

theorem isReadable_ofUpdate (u : Update) (depth : Nat) : IsReadable (depth + 5) (ofUpdate u) :=
  .object (List.forall_mem_cons.mpr
    ⟨u.path.isReadable_toJson depth, List.forall_mem_singleton.mpr (isReadable_ofScalar u.value (depth + 3))⟩)

/-! ### Requests -/

theorem hasDistinctNames_ofSet (r : SetRequest) : (ofSet r).HasDistinctNames := by
  obtain ⟨target, base, updates, deletes⟩ := r
  refine Json.hasDistinctNames_object.mpr ?_
  cases updates <;> cases deletes <;> simp [listMember]

theorem itemsAt_update_ofSet (r : SetRequest) : (ofSet r).itemsAt "update" = r.updates.map ofUpdate := by
  obtain ⟨target, base, updates, deletes⟩ := r
  cases updates <;> cases deletes <;> rfl

theorem itemsAt_delete_ofSet (r : SetRequest) : (ofSet r).itemsAt "delete" = r.deletes.map Path.toJson := by
  obtain ⟨target, base, updates, deletes⟩ := r
  cases updates <;> cases deletes <;> rfl

private theorem isReadable_listMember {depth : Nat} {items : List Json} (h : ∀ item ∈ items, IsReadable depth item)
    (name : String) : ∀ member ∈ listMember name items, IsReadable (depth + 1) member.2 := by
  cases items with
  | nil => exact List.forall_mem_nil _
  | cons item items => exact List.forall_mem_singleton.mpr (.array h)

theorem isReadable_ofSet (r : SetRequest) (depth : Nat) : IsReadable (depth + 7) (ofSet r) := by
  have hupdates := List.forall_mem_map.mpr fun u (_ : u ∈ r.updates) => isReadable_ofUpdate u depth
  have hdeletes := List.forall_mem_map.mpr fun p (_ : p ∈ r.deletes) => p.isReadable_toJson (depth + 1)
  refine .object (List.forall_mem_cons.mpr ⟨r.scopedBase.isReadable_toJson (depth + 2), ?_⟩)
  exact List.forall_mem_append.mpr
    ⟨isReadable_listMember hupdates "update", isReadable_listMember hdeletes "delete"⟩

theorem ofSet_eq_of_sameUpToWidths {r s : SetRequest} (h : r.SameUpToWidths s) : ofSet r = ofSet s := by
  have hbase : r.scopedBase = s.scopedBase := by
    rw [SetRequest.scopedBase, SetRequest.scopedBase, Path.withTarget, Path.withTarget, h.target, h.base]
  have hwiden (r : SetRequest) : r.updates.map ofUpdate = (r.updates.map Update.widen).map ofUpdate := by
    rw [List.map_map]
    exact List.map_congr_left fun u _ => (ofUpdate_widen u).symm
  rw [ofSet, ofSet, hbase, hwiden, hwiden, h.updates, h.deletes]

theorem sameUpToWidths_of_ordered {r s : SetRequest} (h : (ofSet r).ordered = (ofSet s).ordered) :
    r.SameUpToWidths s := by
  have hbase : some r.scopedBase.toJson.ordered = some s.scopedBase.toJson.ordered :=
    Json.member?_eq_of_ordered (hasDistinctNames_ofSet r) (hasDistinctNames_ofSet s) h "prefix"
  have hitems := Json.itemsAt_eq_of_ordered (hasDistinctNames_ofSet r) (hasDistinctNames_ofSet s) h
  have hupdates := hitems "update"
  have hdeletes := hitems "delete"
  rw [itemsAt_update_ofSet, itemsAt_update_ofSet] at hupdates
  rw [itemsAt_delete_ofSet, itemsAt_delete_ofSet] at hdeletes
  have hscoped : r.scopedBase = s.scopedBase := Path.ordered_toJson_inj (Option.some.inj hbase)
  refine ⟨?_, ?_, ?_, ?_⟩
  · exact Option.some.inj (congrArg Path.target hscoped)
  · have helems : r.scopedBase.elems = s.scopedBase.elems := congrArg Path.elems hscoped
    exact helems
  · exact Json.map_eq_of_map_ordered (fun u v => widen_eq_of_ordered_ofUpdate) hupdates
  · exact Json.eq_of_map_ordered (fun p q => Path.ordered_toJson_inj) hdeletes

/-- Two requests are sent as the same message, and read as the same value, if and only if they ask for the same up to
the widths of unsigned integers.  What is sent can always be read. -/
theorem ofSet_reads_same_iff (r s : SetRequest) :
    (ofSet r = ofSet s ↔ r.SameUpToWidths s) ∧
      ((∃ value, Json.parse (ofSet r).render = .ok value ∧ Json.parse (ofSet s).render = .ok value) ↔
        r.SameUpToWidths s) := by
  have hread (r : SetRequest) : Json.parse (ofSet r).render = .ok (ofSet r).ordered :=
    Json.parse_render (isReadable_ofSet r 120)
  refine ⟨⟨fun h => ?_, ofSet_eq_of_sameUpToWidths⟩, ⟨fun ⟨value, hr, hs⟩ => ?_, fun h => ?_⟩⟩
  · exact sameUpToWidths_of_ordered (congrArg Json.ordered h)
  · rw [hread, Except.ok.injEq] at hr hs
    exact sameUpToWidths_of_ordered (hr.trans hs.symm)
  · exact ⟨(ofSet r).ordered, hread r, by rw [hread, ofSet_eq_of_sameUpToWidths h]⟩

end Message

end ConfigMigration
