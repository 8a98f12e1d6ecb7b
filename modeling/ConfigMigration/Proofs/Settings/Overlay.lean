import ConfigMigration.CommandLine.Invocation
import ConfigMigration.Proofs.Except

/-!
# Flags over settings

What the flags of an accepted command line change in the settings under them, told by what is read in the end
(`flags_take_effect`).  The authorities and the identity of the client come from the files that the flags name, and
otherwise from those of the settings; a certificate is never paired with the key of the other side.  Settings that
switch credentials off stay switched off, whatever files the flags name (`disabled_settings_ignore_flags`).
-/

namespace ConfigMigration

namespace TlsSettings

/-- The certificate in one file and behind it the key in another one. -/
def readPair (files : Files) (cert key : String) : Except SettingsError ByteArray := do
  let cert ← readFile files cert
  let key ← readFile files key
  return joinLines cert key

variable {files : Files} {t : TlsSettings}

theorem readCa_of_disabled (h : t.disabled = true) : t.readCa files = .ok none := by
  rw [readCa, h]

theorem readIdentity_of_disabled (h : t.disabled = true) : t.readIdentity files = .ok none := by
  rw [readIdentity, h]

theorem readCa_of_enabled (h : t.disabled = false) {path : String} (hpath : t.caCert = some path) :
    t.readCa files = some <$> readFile files path := by
  rw [readCa, h, hpath]

theorem readIdentity_of_enabled (h : t.disabled = false) {cert key : String} (hcert : t.clientCert = some cert)
    (hkey : t.clientKey = some key) : t.readIdentity files = some <$> readPair files cert key := by
  rw [readIdentity, h, hcert, hkey, readPair]
  dsimp only
  cases readFile files cert with
  | error e => rfl
  | ok cert => cases readFile files key <;> rfl

/-- Only the switch and the file of the authorities matter for them. -/
theorem readCa_congr {u : TlsSettings} (hdisabled : t.disabled = u.disabled) (hca : t.caCert = u.caCert) :
    t.readCa files = u.readCa files := by
  rw [readCa, readCa, hdisabled, hca]

/-- Only the switch and the two files of the client matter for its identity. -/
theorem readIdentity_congr {u : TlsSettings} (hdisabled : t.disabled = u.disabled)
    (hcert : t.clientCert = u.clientCert) (hkey : t.clientKey = u.clientKey) :
    t.readIdentity files = u.readIdentity files := by
  rw [readIdentity, readIdentity, hdisabled, hcert, hkey]

end TlsSettings

/-! ### Accepted flags -/

/-- Flags that a command line may combine: the certificate of the client with its key, and none of the files with the
switch against credentials. -/
structure StoreFlags.IsAccepted (f : StoreFlags) : Prop where
  /-- The certificate of the client comes with its key, and the key with the certificate. -/
  paired : f.clientCert.isSome = f.clientKey.isSome
  /-- The switch against credentials comes without files. -/
  apart : f.noTls = true → f.caCert = none ∧ f.clientCert = none ∧ f.clientKey = none

namespace CommandLine.Invocation

/-- The options about credentials go together if and only if their flags may be combined. -/
theorem checkCredentials_eq_ok_iff (given : Given) :
    checkCredentials given = .ok () ↔ (storeFlags given).IsAccepted := by
  have hapart : (has given "no-tls" && ["ca-cert", "client-cert", "client-key"].any (has given)) = false ↔
      ((storeFlags given).noTls = true → (storeFlags given).caCert = none ∧
        (storeFlags given).clientCert = none ∧ (storeFlags given).clientKey = none) := by
    simp [has, storeFlags]
  have hpaired : (has given "client-cert" != has given "client-key") = false ↔
      (storeFlags given).clientCert.isSome = (storeFlags given).clientKey.isSome := by
    simp [has, storeFlags]
  constructor
  · intro h
    unfold checkCredentials at h
    split at h
    · cases h
    · rename_i hswitch
      split at h
      · cases h
      · rename_i hpair
        exact ⟨hpaired.mp (Bool.not_eq_true _ ▸ hpair), hapart.mp (Bool.not_eq_true _ ▸ hswitch)⟩
  · intro h
    rw [checkCredentials, hapart.mpr h.apart, hpaired.mpr h.paired]
    rfl

/-- The flags of a migration that a command line asks for may be combined. -/
theorem isAccepted_of_commandOf {name : String} {given : Given} {r : MigrateRequest} {f : StoreFlags}
    (h : commandOf name given = .ok (.migrate r f)) : f.IsAccepted := by
  unfold commandOf at h
  split at h
  · obtain ⟨_, hcheck, h⟩ := exists_of_bind_eq_ok h
    obtain ⟨_, -, h⟩ := exists_of_bind_eq_ok h
    obtain ⟨_, -, h⟩ := exists_of_bind_eq_ok h
    obtain ⟨_, -, h⟩ := exists_of_bind_eq_ok h
    cases h
    exact (checkCredentials_eq_ok_iff given).mp hcheck
  · split at h
    · obtain ⟨_, -, h⟩ := exists_of_bind_eq_ok h
      cases h
    · cases h

theorem isAccepted_of_parse {words : List String} {i : Invocation} {r : MigrateRequest} {f : StoreFlags}
    (h : parse words = .ok i) (hcommand : i.command = .migrate r f) : f.IsAccepted := by
  obtain ⟨⟨front, found⟩, -, h⟩ := exists_of_bind_eq_ok h
  dsimp only at h
  split at h
  · obtain ⟨_, -, h⟩ := exists_of_bind_eq_ok h
    cases h
  · cases h
  · obtain ⟨_, -, h⟩ := exists_of_bind_eq_ok h
    obtain ⟨back, -, h⟩ := exists_of_bind_eq_ok h
    obtain ⟨chosen, hchosen, h⟩ := exists_of_bind_eq_ok h
    obtain ⟨_, -, h⟩ := exists_of_bind_eq_ok h
    cases h
    exact isAccepted_of_commandOf (hchosen.trans (congrArg _ hcommand))

end CommandLine.Invocation

/-! ### The settings in the end -/

namespace StoreFlags

variable (f : StoreFlags) (s : StoreSettings)

theorem overlay_caCert : (f.overlay s).tls.caCert = f.caCert.or s.tls.caCert := by
  unfold overlay overlayTls
  dsimp only
  split <;> rfl

theorem overlay_disabled : (f.overlay s).tls.disabled = (f.noTls || s.tls.disabled) := by
  unfold overlay overlayTls
  dsimp only
  split <;> rfl

theorem overlay_of_pair {cert key : String} (hcert : f.clientCert = some cert) (hkey : f.clientKey = some key) :
    (f.overlay s).tls.clientCert = some cert ∧ (f.overlay s).tls.clientKey = some key := by
  unfold overlay overlayTls
  rw [hcert, hkey]
  exact ⟨rfl, rfl⟩

/-- A certificate or a key alone changes neither of them. -/
theorem overlay_of_no_pair (h : f.clientCert = none ∨ f.clientKey = none) :
    (f.overlay s).tls.clientCert = s.tls.clientCert ∧ (f.overlay s).tls.clientKey = s.tls.clientKey := by
  unfold overlay overlayTls
  dsimp only
  split
  · rename_i cert key hcert hkey
    rcases h with h | h
    · cases h.symm.trans hcert
    · cases h.symm.trans hkey
  · exact ⟨rfl, rfl⟩

/-- Files are named without the switch against credentials. -/
theorem IsAccepted.noTls_eq_false {f : StoreFlags} (h : f.IsAccepted)
    (hfile : f.caCert.isSome ∨ f.clientCert.isSome ∨ f.clientKey.isSome) : f.noTls = false := by
  cases hswitch : f.noTls with
  | false => rfl
  | true =>
    obtain ⟨hca, hcert, hkey⟩ := h.apart hswitch
    rw [hca, hcert, hkey] at hfile
    rcases hfile with hfile | hfile | hfile <;> cases hfile

section Reading

variable {f s} {files : Files}

theorem read_overlay_of_disabled (h : f.noTls = true ∨ s.tls.disabled = true) :
    (f.overlay s).tls.readCa files = .ok none ∧ (f.overlay s).tls.readIdentity files = .ok none := by
  have hoff : (f.overlay s).tls.disabled = true := by rwa [overlay_disabled, Bool.or_eq_true]
  exact ⟨TlsSettings.readCa_of_disabled hoff, TlsSettings.readIdentity_of_disabled hoff⟩

theorem readCa_overlay (h : f.IsAccepted) {path : String} (hpath : f.caCert = some path)
    (hon : s.tls.disabled = false) :
    (f.overlay s).tls.readCa files = some <$> TlsSettings.readFile files path := by
  have hswitch : f.noTls = false := h.noTls_eq_false (.inl (Option.isSome_of_eq_some hpath))
  have henabled : (f.overlay s).tls.disabled = false := by rw [overlay_disabled, hswitch, hon]; rfl
  exact TlsSettings.readCa_of_enabled henabled (by rw [overlay_caCert, hpath, Option.some_or])

theorem readCa_overlay_of_none (hpath : f.caCert = none) (hswitch : f.noTls = false) :
    (f.overlay s).tls.readCa files = s.tls.readCa files :=
  TlsSettings.readCa_congr (by rw [overlay_disabled, hswitch, Bool.false_or])
    (by rw [overlay_caCert, hpath, Option.none_or])

/-- Of the certificate and the key of the client, one comes with the other. -/
theorem readIdentity_overlay (h : f.IsAccepted) (hfile : f.clientCert.isSome ∨ f.clientKey.isSome)
    (hon : s.tls.disabled = false) :
    ∃ cert key, f.clientCert = some cert ∧ f.clientKey = some key ∧
      (f.overlay s).tls.readIdentity files = some <$> TlsSettings.readPair files cert key := by
  obtain ⟨cert, hcert⟩ := Option.isSome_iff_exists.mp (hfile.elim id h.paired.trans)
  obtain ⟨key, hkey⟩ := Option.isSome_iff_exists.mp (h.paired.symm.trans (Option.isSome_of_eq_some hcert))
  obtain ⟨hcert', hkey'⟩ := overlay_of_pair f s hcert hkey
  have hswitch : f.noTls = false := h.noTls_eq_false (.inr hfile)
  have henabled : (f.overlay s).tls.disabled = false := by rw [overlay_disabled, hswitch, hon]; rfl
  exact ⟨cert, key, hcert, hkey, TlsSettings.readIdentity_of_enabled henabled hcert' hkey'⟩

theorem readIdentity_overlay_of_none (hcert : f.clientCert = none) (hswitch : f.noTls = false) :
    (f.overlay s).tls.readIdentity files = s.tls.readIdentity files := by
  obtain ⟨hcert, hkey⟩ := overlay_of_no_pair f s (.inl hcert)
  exact TlsSettings.readIdentity_congr (by rw [overlay_disabled, hswitch, Bool.false_or]) hcert hkey

end Reading

/-- How settings follow from flags and from the settings under them, told by what is read in the end. -/
structure TakesEffect (files : Files) (f : StoreFlags) (s t : StoreSettings) : Prop where
  /-- The address is that of the flag. -/
  address : ∀ address, f.address = some address → t.address = address
  /-- Without the flag it is that of the settings under it. -/
  address_none : f.address = none → t.address = s.address
  /-- The time to wait is that of the flag. -/
  timeout : ∀ secs, f.timeoutSecs = some secs → t.timeoutSecs = some secs
  /-- Without the flag it is that of the settings under it. -/
  timeout_none : f.timeoutSecs = none → t.timeoutSecs = s.timeoutSecs
  /-- Where credentials are switched off on either side, none are read. -/
  disabled : f.noTls = true ∨ s.tls.disabled = true →
    t.tls.readCa files = .ok none ∧ t.tls.readIdentity files = .ok none
  /-- The authorities are those in the file of the flag. -/
  ca : ∀ path, f.caCert = some path → s.tls.disabled = false →
    t.tls.readCa files = some <$> TlsSettings.readFile files path
  /-- Without the flag they are those of the settings under it. -/
  ca_none : f.caCert = none → f.noTls = false → t.tls.readCa files = s.tls.readCa files
  /-- The identity of the client is in the files of the flags, which name a certificate and its key. -/
  identity : f.clientCert.isSome ∨ f.clientKey.isSome → s.tls.disabled = false →
    ∃ cert key, f.clientCert = some cert ∧ f.clientKey = some key ∧
      t.tls.readIdentity files = some <$> TlsSettings.readPair files cert key
  /-- Without the flags it is that of the settings under them. -/
  identity_none : f.clientCert = none → f.clientKey = none → f.noTls = false →
    t.tls.readIdentity files = s.tls.readIdentity files

/-- Flags that a command line may combine take effect over any settings: what they name is used, and what they leave
open is as under them, where credentials that the settings switch off stay switched off. -/
theorem flags_take_effect (files : Files) (f : StoreFlags) (s : StoreSettings) (h : f.IsAccepted) :
    TakesEffect files f s (f.overlay s) where
  address address haddress := by rw [overlay, haddress, Option.getD_some]
  address_none haddress := by rw [overlay, haddress, Option.getD_none]
  timeout secs hsecs := by rw [overlay, hsecs, Option.some_or]
  timeout_none hsecs := by rw [overlay, hsecs, Option.none_or]
  disabled := read_overlay_of_disabled
  ca _ hpath hon := readCa_overlay h hpath hon
  ca_none := readCa_overlay_of_none
  identity := readIdentity_overlay h
  identity_none hcert _ hswitch := readIdentity_overlay_of_none hcert hswitch

/-- The pair of the flags takes the place of the pair in the settings. -/
theorem pair_of_flags_takes_effect :
    IsAccepted { clientCert := some "a.crt", clientKey := some "a.key" } ∧
      (overlay { clientCert := some "a.crt", clientKey := some "a.key" }
        { tls := { clientCert := some "b.crt", clientKey := some "b.key" } }).tls.readIdentity
          (fun path => .ok path.toUTF8) =
        some <$> TlsSettings.readPair (fun path => .ok path.toUTF8) "a.crt" "a.key" := by
  have haccepted : IsAccepted { clientCert := some "a.crt", clientKey := some "a.key" } := ⟨rfl, nofun⟩
  have heffect := flags_take_effect (fun path => .ok path.toUTF8)
    { clientCert := some "a.crt", clientKey := some "a.key" }
    { tls := { clientCert := some "b.crt", clientKey := some "b.key" } } haccepted
  obtain ⟨cert, key, hcert, hkey, hread⟩ := heffect.identity (.inl rfl) rfl
  cases hcert
  cases hkey
  exact ⟨haccepted, hread⟩

/-- Settings that switch credentials off keep the authorities of a flag from being read. -/
theorem disabled_settings_ignore_flags :
    ¬ ∀ (files : Files) (f : StoreFlags) (s : StoreSettings) (path : String), f.IsAccepted → f.caCert = some path →
      (f.overlay s).tls.readCa files = some <$> TlsSettings.readFile files path := by
  intro h
  have hread := h (fun _ => .ok ByteArray.empty) { caCert := some "ca.crt" } { tls := { disabled := true } } "ca.crt"
    ⟨rfl, nofun⟩ rfl
  cases hread

end StoreFlags

end ConfigMigration
