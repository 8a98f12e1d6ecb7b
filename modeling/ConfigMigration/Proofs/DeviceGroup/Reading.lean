import ConfigMigration.DeviceGroup.Basic
import ConfigMigration.Proofs.Json.Record

/-!
# Trees of device groups

Which trees hold device groups, and which groups they hold.  A tree whose objects are dictionaries, with the tree,
its groups and their blocks written as objects, is read if and only if its members are of the right kinds
(`decode_render_eq_ok_iff`), and then each group shows the members of its entry.
-/

namespace ConfigMigration

open Json (Decoder)
open Json.Decoder

/-! ### Blocks -/

namespace ImsiBlock

/-- The block that an object shows. -/
def ofJson (value : Json) : ImsiBlock where
  id := value.textAt? "imsi-id"
  first := value.uint64At? "imsi-range-from"
  last := value.uint64At? "imsi-range-to"

/-- An object that is read as a block. -/
structure IsBlock (value : Json) : Prop where
  dictionary : value.IsDictionary
  label : value.IsTextAt "imsi-id"
  first : value.IsUInt64At "imsi-range-from"
  last : value.IsUInt64At "imsi-range-to"

instance (value : Json) : Decidable (IsBlock value) :=
  decidable_of_iff (value.IsDictionary ∧ value.IsTextAt "imsi-id" ∧ value.IsUInt64At "imsi-range-from" ∧
      value.IsUInt64At "imsi-range-to")
    ⟨fun ⟨h₁, h₂, h₃, h₄⟩ => ⟨h₁, h₂, h₃, h₄⟩, fun ⟨h₁, h₂, h₃, h₄⟩ => ⟨h₁, h₂, h₃, h₄⟩⟩

private def blockFields : List (Decoder.Field Draft) :=
  [.of "imsi-id" Draft.id (fun d v => { d with id := some v }) (.optional .string) false,
   .of "imsi-range-from" Draft.first (fun d v => { d with first := some v }) (.optional .uint64) false,
   .of "imsi-range-to" Draft.last (fun d v => { d with last := some v }) (.optional .uint64) false]

private theorem ofJson_of_readMembers {depth : Nat} {members : List (String × Json)}
    (ho : Dictionary.Ordered members) {r : Draft}
    (h : readMembers blockFields depth {} (Json.memberTerms members) = .ok r) :
    IsBlock (.object members) ∧ ⟨r.id.join, r.first.join, r.last.join⟩ = ofJson (.object members) := by
  have hn := Json.nodup_names_of_ordered ho
  have hid := join_get?_of_readMembers "imsi-id" Draft.id (d := .string) (f := Json.text?)
    ⟨by simp [blockFields], by simp [blockFields], by simp [blockFields]⟩ rfl
    (fun _ _ _ => string_toTerm_eq_ok) hn rfl h
  have hfirst := join_get?_of_readMembers "imsi-range-from" Draft.first (d := .uint64)
    (f := Json.uint64?) ⟨by simp [blockFields], by simp [blockFields], by simp [blockFields]⟩ rfl
    (fun _ _ _ => uint64_toTerm_eq_ok) hn rfl h
  have hlast := join_get?_of_readMembers "imsi-range-to" Draft.last (d := .uint64)
    (f := Json.uint64?) ⟨by simp [blockFields], by simp [blockFields], by simp [blockFields]⟩ rfl
    (fun _ _ _ => uint64_toTerm_eq_ok) hn rfl h
  refine ⟨⟨⟨members, rfl, ho⟩, hid.1, hfirst.1, hlast.1⟩, ?_⟩
  rw [hid.2, hfirst.2, hlast.2]
  rfl

private theorem exists_readMembers {depth : Nat} {members : List (String × Json)} (h : IsBlock (.object members)) :
    ∃ r, readMembers blockFields depth {} (Json.memberTerms members) = .ok r := by
  obtain ⟨⟨_, heq, ho⟩, hid, hfirst, hlast⟩ := h
  cases heq
  refine readMembers_isOk (Json.nodup_names_of_ordered ho) ?_ (by simp [blockFields])
  have htext : ∀ v : Json, v = .null ∨ v.text?.isSome → Decoder.optional .string depth v.toTerm = .ok v.text? :=
    fun v hv => (optional_toTerm_eq_ok rfl fun _ => string_toTerm_eq_ok).mpr ⟨hv, rfl⟩
  have hnumber : ∀ v : Json, v = .null ∨ v.uint64?.isSome → Decoder.optional .uint64 depth v.toTerm = .ok v.uint64? :=
    fun v hv => (optional_toTerm_eq_ok rfl fun _ => uint64_toTerm_eq_ok).mpr ⟨hv, rfl⟩
  simp only [blockFields, List.forall_mem_cons, Field.name_of, Field.read_of_eq_ok, Field.isSet_of]
  refine ⟨fun v hv record => ?_, fun v hv record => ?_, fun v hv record => ?_, by simp⟩
  · exact ⟨_, ⟨_, htext v (hid v hv), rfl⟩, by simp⟩
  · exact ⟨_, ⟨_, hnumber v (hfirst v hv), rfl⟩, by simp⟩
  · exact ⟨_, ⟨_, hnumber v (hlast v hv), rfl⟩, by simp⟩

theorem decoder_toTerm_eq_ok {depth : Nat} {value : Json} (hd : value.IsDictionary) {b : ImsiBlock} :
    decoder (depth + 1) value.toTerm = .ok b ↔ IsBlock value ∧ b = ofJson value := by
  obtain ⟨members, rfl, ho⟩ := hd
  refine record_toTerm_eq_ok.trans ⟨?_, ?_⟩
  · rintro ⟨r, hr, hb⟩
    obtain ⟨hblock, heq⟩ := ofJson_of_readMembers ho hr
    exact ⟨hblock, (Option.some.inj hb).symm.trans heq⟩
  · rintro ⟨hblock, rfl⟩
    obtain ⟨r, hr⟩ := exists_readMembers hblock
    exact ⟨r, hr, congrArg some (ofJson_of_readMembers ho hr).2⟩

end ImsiBlock

/-! ### Groups -/

namespace DeviceGroup

/-- The group that an object shows. -/
def ofJson (value : Json) : DeviceGroup where
  id := value.textAt? "id"
  displayName := value.textAt? "display-name"
  description := value.textAt? "description"
  site := value.textAt? "site"
  imsis := (value.itemsAt "imsis").map ImsiBlock.ofJson

/-- An object that is read as a group. -/
structure IsGroup (value : Json) : Prop where
  dictionary : value.IsDictionary
  id : value.IsTextAt "id"
  displayName : value.IsTextAt "display-name"
  description : value.IsTextAt "description"
  site : value.IsTextAt "site"
  imsis : value.IsListAt "imsis"
  isBlock : ∀ block ∈ value.itemsAt "imsis", ImsiBlock.IsBlock block

instance (value : Json) : Decidable (IsGroup value) :=
  decidable_of_iff (value.IsDictionary ∧ value.IsTextAt "id" ∧ value.IsTextAt "display-name" ∧
      value.IsTextAt "description" ∧ value.IsTextAt "site" ∧ value.IsListAt "imsis" ∧
      ∀ block ∈ value.itemsAt "imsis", ImsiBlock.IsBlock block)
    ⟨fun ⟨h₁, h₂, h₃, h₄, h₅, h₆, h₇⟩ => ⟨h₁, h₂, h₃, h₄, h₅, h₆, h₇⟩,
      fun ⟨h₁, h₂, h₃, h₄, h₅, h₆, h₇⟩ => ⟨h₁, h₂, h₃, h₄, h₅, h₆, h₇⟩⟩

private def groupFields : List (Decoder.Field Draft) :=
  [.of "id" Draft.id (fun d v => { d with id := some v }) (.optional .string) false,
   .of "display-name" Draft.displayName (fun d v => { d with displayName := some v }) (.optional .string) false,
   .of "description" Draft.description (fun d v => { d with description := some v }) (.optional .string) false,
   .of "site" Draft.site (fun d v => { d with site := some v }) (.optional .string) false,
   .of "imsis" Draft.imsis (fun d v => { d with imsis := some v }) (.list ImsiBlock.decoder) true]

private theorem id_of_readMembers {depth : Nat} {members : List (String × Json)} (ho : Dictionary.Ordered members)
    {r : Draft} (h : readMembers groupFields depth {} (Json.memberTerms members) = .ok r) :
    (Json.object members).IsTextAt "id" ∧ r.id.join = (Json.object members).textAt? "id" :=
  join_get?_of_readMembers "id" Draft.id (d := .string) (f := Json.text?)
    ⟨by simp [groupFields], by simp [groupFields], by simp [groupFields]⟩ rfl
    (fun _ _ _ => string_toTerm_eq_ok) (Json.nodup_names_of_ordered ho) rfl h

private theorem ofJson_of_readMembers {depth : Nat} {members : List (String × Json)}
    (ho : Dictionary.Ordered members)
    (hd : ∀ block ∈ (Json.object members).itemsAt "imsis", block.IsDictionary) {r : Draft}
    (h : readMembers groupFields (depth + 2) {} (Json.memberTerms members) = .ok r) :
    IsGroup (.object members) ∧
      ⟨r.id.join, r.displayName.join, r.description.join, r.site.join, r.imsis.getD []⟩ =
        ofJson (.object members) := by
  have hn := Json.nodup_names_of_ordered ho
  have hid := id_of_readMembers ho h
  have hname := join_get?_of_readMembers "display-name" Draft.displayName (d := .string)
    (f := Json.text?) ⟨by simp [groupFields], by simp [groupFields], by simp [groupFields]⟩ rfl
    (fun _ _ _ => string_toTerm_eq_ok) hn rfl h
  have hdescription := join_get?_of_readMembers "description" Draft.description (d := .string)
    (f := Json.text?) ⟨by simp [groupFields], by simp [groupFields], by simp [groupFields]⟩ rfl
    (fun _ _ _ => string_toTerm_eq_ok) hn rfl h
  have hsite := join_get?_of_readMembers "site" Draft.site (d := .string) (f := Json.text?)
    ⟨by simp [groupFields], by simp [groupFields], by simp [groupFields]⟩ rfl
    (fun _ _ _ => string_toTerm_eq_ok) hn rfl h
  have hkeeps : Keeps groupFields "imsis" Draft.imsis (.list ImsiBlock.decoder) :=
    ⟨by simp [groupFields], by simp [groupFields], by simp [groupFields]⟩
  have hlist := getD_get?_of_readMembers "imsis" Draft.imsis hkeeps
    (fun block hb _ => ImsiBlock.decoder_toTerm_eq_ok (hd block hb)) hn rfl h
  refine ⟨⟨⟨members, rfl, ho⟩, hid.1, hname.1, hdescription.1, hsite.1, hlist.1, hlist.2.1⟩, ?_⟩
  rw [hid.2, hname.2, hdescription.2, hsite.2, hlist.2.2]
  rfl

private theorem exists_readMembers {depth : Nat} {members : List (String × Json)} (h : IsGroup (.object members)) :
    ∃ r, readMembers groupFields (depth + 2) {} (Json.memberTerms members) = .ok r := by
  obtain ⟨⟨_, heq, ho⟩, hid, hname, hdescription, hsite, hlist, hblocks⟩ := h
  cases heq
  refine readMembers_isOk (Json.nodup_names_of_ordered ho) ?_ (by simp [groupFields])
  have htext : ∀ v : Json, v = .null ∨ v.text?.isSome →
      Decoder.optional .string (depth + 2) v.toTerm = .ok v.text? :=
    fun v hv => (optional_toTerm_eq_ok rfl fun _ => string_toTerm_eq_ok).mpr ⟨hv, rfl⟩
  simp only [groupFields, List.forall_mem_cons, Field.name_of, Field.read_of_eq_ok, Field.isSet_of]
  refine ⟨fun v hv record => ?_, fun v hv record => ?_, fun v hv record => ?_, fun v hv record => ?_,
    fun v hv record => ?_, by simp⟩
  · exact ⟨_, ⟨_, htext v (hid v hv), rfl⟩, by simp⟩
  · exact ⟨_, ⟨_, htext v (hname v hv), rfl⟩, by simp⟩
  · exact ⟨_, ⟨_, htext v (hdescription v hv), rfl⟩, by simp⟩
  · exact ⟨_, ⟨_, htext v (hsite v hv), rfl⟩, by simp⟩
  · obtain ⟨items, rfl⟩ := hlist v hv
    have hm : (Json.object members).member? "imsis" = some (.array items) := hv
    rw [Json.itemsAt_of_member? hm] at hblocks
    have hread : Decoder.list ImsiBlock.decoder (depth + 2) (Json.array items).toTerm =
        .ok (items.map ImsiBlock.ofJson) :=
      (list_toTerm_eq_ok fun item hi _ => ImsiBlock.decoder_toTerm_eq_ok (hblocks item hi).dictionary).mpr
        ⟨hblocks, rfl⟩
    exact ⟨_, ⟨_, hread, rfl⟩, by simp⟩

theorem decoder_toTerm_eq_ok {depth : Nat} {value : Json} (hd : value.IsDictionary)
    (hblocks : ∀ block ∈ value.itemsAt "imsis", block.IsDictionary) {g : DeviceGroup} :
    decoder (depth + 3) value.toTerm = .ok g ↔ IsGroup value ∧ g = ofJson value := by
  obtain ⟨members, rfl, ho⟩ := hd
  refine record_toTerm_eq_ok.trans ⟨?_, ?_⟩
  · rintro ⟨r, hr, hg⟩
    obtain ⟨hgroup, heq⟩ := ofJson_of_readMembers ho hblocks hr
    exact ⟨hgroup, (Option.some.inj hg).symm.trans heq⟩
  · rintro ⟨hgroup, rfl⟩
    obtain ⟨r, hr⟩ := exists_readMembers hgroup
    exact ⟨r, hr, congrArg some (ofJson_of_readMembers ho hblocks hr).2⟩

/-- The identifier of a group is read whatever its blocks are written as. -/
theorem id_of_decoder_toTerm {depth : Nat} {value : Json} (hd : value.IsDictionary) {g : DeviceGroup}
    (h : decoder depth value.toTerm = .ok g) : value.IsTextAt "id" ∧ g.id = value.textAt? "id" := by
  obtain ⟨members, rfl, ho⟩ := hd
  cases depth with
  | zero => cases h
  | succ depth =>
    obtain ⟨r, hr, hg⟩ := record_toTerm_eq_ok.mp h
    obtain ⟨htext, hid⟩ := id_of_readMembers ho hr
    exact ⟨htext, by rw [← Option.some.inj hg, ← hid]⟩

/-! ### Trees -/

/-- The entries of the list of groups in a tree. -/
def entries (tree : Json) : List Json := tree.itemsAt entity

/-- The groups in a tree. -/
def groups (tree : Json) : List DeviceGroup := (entries tree).map ofJson

/-- Whether a tree, its groups and their blocks are written as objects. -/
def isPlain (tree : Json) : Bool :=
  tree.isObject && (entries tree).all fun group => group.isObject && (group.itemsAt "imsis").all (·.isObject)

/-- An object that is read as a tree of groups. -/
structure IsTree (tree : Json) : Prop where
  dictionary : tree.IsDictionary
  list : tree.IsListAt entity
  isGroup : ∀ group ∈ entries tree, IsGroup group

instance (tree : Json) : Decidable (IsTree tree) :=
  decidable_of_iff (tree.IsDictionary ∧ tree.IsListAt entity ∧ ∀ group ∈ entries tree, IsGroup group)
    ⟨fun ⟨h₁, h₂, h₃⟩ => ⟨h₁, h₂, h₃⟩, fun ⟨h₁, h₂, h₃⟩ => ⟨h₁, h₂, h₃⟩⟩

private def treeFields : List (Decoder.Field TreeDraft) :=
  [.of entity TreeDraft.groups (fun d v => { d with groups := some v }) (.list decoder) true]

private theorem treeDecoder_toTerm_eq_ok {depth : Nat} {tree : Json} (hd : tree.IsDictionary)
    (hgroups : ∀ group ∈ entries tree, group.IsDictionary ∧ ∀ block ∈ group.itemsAt "imsis", block.IsDictionary)
    {gs : List DeviceGroup} :
    treeDecoder (depth + 5) tree.toTerm = .ok gs ↔ IsTree tree ∧ gs = groups tree := by
  obtain ⟨members, rfl, ho⟩ := hd
  have hn := Json.nodup_names_of_ordered ho
  have hkeeps : Keeps treeFields entity TreeDraft.groups (.list decoder) :=
    ⟨by simp [treeFields], by simp [treeFields], by simp [treeFields]⟩
  have hread : ∀ group ∈ (Json.object members).itemsAt entity, ∀ g,
      decoder (depth + 3) group.toTerm = .ok g ↔ IsGroup group ∧ g = ofJson group :=
    fun group hg _ => decoder_toTerm_eq_ok (hgroups group hg).1 (hgroups group hg).2
  refine record_toTerm_eq_ok.trans ⟨?_, ?_⟩
  · rintro ⟨r, hr, hgs⟩
    obtain ⟨hlist, hall, hget⟩ := getD_get?_of_readMembers entity TreeDraft.groups hkeeps hread hn rfl hr
    rw [← Option.some.inj hgs]
    exact ⟨⟨⟨members, rfl, ho⟩, hlist, hall⟩, hget⟩
  · rintro ⟨⟨-, hlist, hall⟩, rfl⟩
    have hok : ∃ r, readMembers treeFields (depth + 4) {} (Json.memberTerms members) = .ok r := by
      refine readMembers_isOk hn ?_ (by simp [treeFields])
      simp only [treeFields, List.forall_mem_cons, Field.name_of, Field.read_of_eq_ok, Field.isSet_of]
      refine ⟨fun v hv record => ?_, by simp⟩
      obtain ⟨items, rfl⟩ := hlist v hv
      have hentries : (Json.object members).itemsAt entity = items := Json.itemsAt_of_member? hv
      rw [hentries] at hread
      rw [entries, hentries] at hall
      exact ⟨_, ⟨_, (list_toTerm_eq_ok hread).mpr ⟨hall, rfl⟩, rfl⟩, by simp⟩
    obtain ⟨r, hr⟩ := hok
    have hget := getD_get?_of_readMembers entity TreeDraft.groups hkeeps hread hn rfl hr
    exact ⟨r, hr, congrArg some hget.2.2⟩

/-- A tree whose groups are listed as objects by their identifiers. -/
structure IsKeyed (tree : Json) : Prop where
  dictionary : tree.IsDictionary
  list : tree.IsListAt entity
  key : ∀ group ∈ entries tree, group.IsTextAt "id"

private theorem isKeyed_of_treeDecoder_toTerm {depth : Nat} {tree : Json} (hd : tree.IsDictionary)
    (hgroups : ∀ group ∈ entries tree, group.IsDictionary) {gs : List DeviceGroup}
    (h : treeDecoder (depth + 2) tree.toTerm = .ok gs) :
    IsKeyed tree ∧ gs.map DeviceGroup.id = (entries tree).map (·.textAt? "id") := by
  obtain ⟨members, rfl, ho⟩ := hd
  obtain ⟨r, hr, hgs⟩ := record_toTerm_eq_ok.mp h
  have hkeeps : Keeps treeFields entity TreeDraft.groups (.list decoder) :=
    ⟨by simp [treeFields], by simp [treeFields], by simp [treeFields]⟩
  -- nothing is known of the blocks, so an item is read as whatever the decoder makes of it
  have hread : ∀ group ∈ (Json.object members).itemsAt entity, ∀ g, decoder depth group.toTerm = .ok g ↔
      (∃ g, decoder depth group.toTerm = .ok g) ∧ g = (decoder depth group.toTerm).toOption.getD {} := by
    intro group _ g
    cases decoder depth group.toTerm <;> simp [Except.toOption, eq_comm]
  obtain ⟨hlist, hall, hget⟩ := getD_get?_of_readMembers entity TreeDraft.groups hkeeps hread
    (Json.nodup_names_of_ordered ho) rfl hr
  refine ⟨⟨⟨members, rfl, ho⟩, hlist, fun group hg => ?_⟩, ?_⟩
  · obtain ⟨g, hg'⟩ := hall group hg
    exact (id_of_decoder_toTerm (hgroups group hg) hg').1
  · rw [← Option.some.inj hgs, hget, List.map_map]
    refine List.map_congr_left fun group hg => ?_
    obtain ⟨g, hg'⟩ := hall group hg
    rw [Function.comp_apply, hg']
    exact (id_of_decoder_toTerm (hgroups group hg) hg').2

/-- Where a tree is read, with the tree and its groups written as objects,
the groups have the identifiers of their entries. -/
theorem isKeyed_of_decode_render {tree : Json} (ho : tree.isOrdered = true) (hobject : tree.isObject = true)
    (hgroups : ∀ group ∈ entries tree, group.isObject = true) {gs : List DeviceGroup}
    (h : treeDecoder.decode tree.render = .ok gs) :
    IsKeyed tree ∧ gs.map DeviceGroup.id = (entries tree).map (·.textAt? "id") := by
  rw [decode_render] at h
  exact isKeyed_of_treeDecoder_toTerm (Json.isDictionary_of_isOrdered ho hobject)
    (fun group hg => Json.isDictionary_of_isOrdered (Json.isOrdered_of_mem_itemsAt ho hg) (hgroups group hg)) h

/-- A tree of groups is read from its text as the groups that its entries show. -/
theorem decode_render_of_isTree {tree : Json} (h : IsTree tree) :
    treeDecoder.decode tree.render = .ok (groups tree) := by
  rw [decode_render]
  exact (treeDecoder_toTerm_eq_ok h.dictionary fun group hg =>
    ⟨(h.isGroup group hg).dictionary, fun block hb =>
      ((h.isGroup group hg).isBlock block hb).dictionary⟩).mpr ⟨h, rfl⟩

/-- Which trees are read from their texts, and as which groups, if everything is written as objects. -/
theorem decode_render_eq_ok_iff {tree : Json} (ho : tree.isOrdered = true) (hp : isPlain tree = true)
    {gs : List DeviceGroup} : treeDecoder.decode tree.render = .ok gs ↔ IsTree tree ∧ gs = groups tree := by
  rw [isPlain, Bool.and_eq_true, List.all_eq_true] at hp
  rw [decode_render]
  refine treeDecoder_toTerm_eq_ok (Json.isDictionary_of_isOrdered ho hp.1) fun group hg => ?_
  have hplain := hp.2 group hg
  have hordered := Json.isOrdered_of_mem_itemsAt ho hg
  rw [Bool.and_eq_true, List.all_eq_true] at hplain
  refine ⟨Json.isDictionary_of_isOrdered hordered hplain.1, fun block hb => ?_⟩
  exact Json.isDictionary_of_isOrdered (Json.isOrdered_of_mem_itemsAt hordered hb) (hplain.2 block hb)

end DeviceGroup

end ConfigMigration
