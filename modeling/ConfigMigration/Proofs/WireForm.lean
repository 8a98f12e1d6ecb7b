import ConfigMigration.Path.Codec
import ConfigMigration.Proofs.Json.Record
import ConfigMigration.Schema

/-!
# Paths and schemas on the wire

The JSON text of a path or a schema is read back as the path or the schema (`decode_render_wireForm`).  Whatever is
absent or empty is left out when it is written: the target of a path, the keys of an element, the modules of a schema.
The names, keys and values are arbitrary texts; how a text is escaped and read is settled in `Proofs.Json.Term`.
-/

namespace ConfigMigration

open Json.Decoder

namespace PathElem

theorem member?_key_toJson (e : PathElem) :
    e.toJson.member? "key" =
      if e.keys.isEmpty then none else some (.object (e.keys.entries.map fun key => (key.1, .string key.2))) := by
  unfold toJson
  split <;> rfl

theorem decoder_toJson (e : PathElem) (depth : Nat) : decoder (depth + 2) e.toJson.toTerm = .ok e := by
  obtain ⟨name, keys⟩ := e
  rw [toJson]
  cases hkeys : keys.isEmpty with
  | true =>
    have hentries : keys.entries = [] := List.isEmpty_iff.mp hkeys
    refine record_toTerm_eq_ok.mpr ⟨{ name := some name }, ?_, ?_⟩
    · rw [if_pos rfl, readMembers_member rfl rfl rfl]
      rfl
    · have hempty : Keys.ofList [] = keys := by rw [← hentries, Keys.ofList_entries]
      simp [hempty]
  | false =>
    have hread :
        dictionary .string (depth + 1) (Json.object (keys.entries.map fun key => (key.1, .string key.2))).toTerm =
          .ok keys.entries := dictionary_write keys.ordered fun _ _ => rfl
    refine record_toTerm_eq_ok.mpr ⟨{ name := some name, keys := some keys.entries }, ?_, ?_⟩
    · rw [if_neg (by simp), readMembers_member rfl rfl rfl,
        readMembers_member rfl rfl (Field.read_of_eq_ok.mpr ⟨keys.entries, hread, rfl⟩)]
      rfl
    · simp [Keys.ofList_entries]

end PathElem

namespace Path

theorem member?_target_toJson (p : Path) : p.toJson.member? "target" = p.target.map .string := by
  obtain ⟨target, elems⟩ := p
  cases target <;> rfl

theorem member?_elem_toJson (p : Path) : p.toJson.member? "elem" = some (.array (p.elems.map PathElem.toJson)) := by
  obtain ⟨target, elems⟩ := p
  cases target <;> rfl

theorem decoder_toJson (p : Path) (depth : Nat) : decoder (depth + 4) p.toJson.toTerm = .ok p := by
  obtain ⟨target, elems⟩ := p
  have hread : list PathElem.decoder (depth + 3) (Json.array (elems.map PathElem.toJson)).toTerm = .ok elems :=
    list_write fun e _ => e.decoder_toJson depth
  cases target with
  | none =>
    refine record_toTerm_eq_ok.mpr ⟨{ elems := some elems }, ?_, rfl⟩
    exact readMembers_member rfl rfl (Field.read_of_eq_ok.mpr ⟨elems, hread, rfl⟩)
  | some target =>
    refine record_toTerm_eq_ok.mpr ⟨{ target := some (some target), elems := some elems }, ?_, rfl⟩
    refine (readMembers_member rfl rfl rfl).trans ?_
    exact readMembers_member rfl rfl (Field.read_of_eq_ok.mpr ⟨elems, hread, rfl⟩)

end Path

namespace Schema

theorem member?_modules_toJson (s : Schema) :
    s.toJson.member? "modules" = if s.modules.isEmpty then none else some (.array (s.modules.map .string)) := by
  unfold toJson
  split <;> rfl

theorem decoder_toJson (s : Schema) (depth : Nat) : decoder (depth + 2) s.toJson.toTerm = .ok s := by
  obtain ⟨model, version, modules⟩ := s
  cases modules with
  | nil =>
    refine record_toTerm_eq_ok.mpr ⟨{ model := some model, version := some version.label }, ?_, rfl⟩
    exact (readMembers_member rfl rfl rfl).trans (readMembers_member rfl rfl rfl)
  | cons module modules =>
    have hread : list .string (depth + 1) (Json.array ((module :: modules).map .string)).toTerm =
        .ok (module :: modules) := list_write fun _ _ => rfl
    refine record_toTerm_eq_ok.mpr
      ⟨{ model := some model, version := some version.label, modules := some (module :: modules) }, ?_, rfl⟩
    refine (readMembers_member rfl rfl rfl).trans ((readMembers_member rfl rfl rfl).trans ?_)
    exact readMembers_member rfl rfl (Field.read_of_eq_ok.mpr ⟨module :: modules, hread, rfl⟩)

end Schema

/-- A path and a schema are read back from their JSON texts.  These leave out an absent target, empty keys and an
empty list of modules; all else is written as it is, an empty target too. -/
theorem decode_render_wireForm (p : Path) (s : Schema) :
    Path.decoder.decode p.toJson.render = .ok p ∧ Schema.decoder.decode s.toJson.render = .ok s ∧
      (p.toJson.member? "target" = p.target.map .string ∧
        p.toJson.member? "elem" = some (.array (p.elems.map PathElem.toJson)) ∧
        ∀ e ∈ p.elems, e.toJson.member? "name" = some (.string e.name) ∧ e.toJson.member? "key" =
          if e.keys.isEmpty then none else some (.object (e.keys.entries.map fun key => (key.1, .string key.2)))) ∧
      (s.toJson.member? "model" = some (.string s.model) ∧
        s.toJson.member? "version" = some (.string s.version.label) ∧
        s.toJson.member? "modules" = if s.modules.isEmpty then none else some (.array (s.modules.map .string))) := by
  -- a path is four levels deep, and a schema two
  have hpath : Path.decoder.decode p.toJson.render = .ok p := by
    rw [decode_render]
    exact p.decoder_toJson 123
  have hschema : Schema.decoder.decode s.toJson.render = .ok s := by
    rw [decode_render]
    exact s.decoder_toJson 125
  refine ⟨hpath, hschema, ⟨p.member?_target_toJson, p.member?_elem_toJson, fun e _ => ?_⟩, rfl, rfl, ?_⟩
  · exact ⟨rfl, e.member?_key_toJson⟩
  · exact s.member?_modules_toJson

end ConfigMigration
