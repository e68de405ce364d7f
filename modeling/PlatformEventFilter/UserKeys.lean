/-
# `UserKeys` — from a password to the keys of a session

A user of SNMPv3 is stored with the text that `encryptString` made of the password.
The notification decrypts the text, with what is in the key files by then, and has the
two keys of the session generated from what comes out.  Nothing comes out of a text
that is not kept (`OpenSsl.KeepsText`).

    keys_of_live_user       the keys of a session are those of the password
    live_user_notified_iff  which passwords a trap can be sent with

The key files are used by all the calls of a run, for any number of users.
-/
import PlatformEventFilter.Delivery
import PlatformEventFilter.Encryption

namespace Pef

/-! ## Users -/

/-- The `std::string` of these bytes. -/
def stringOfBytes (bytes : List U8) : String :=
  String.ofList (bytes.map fun x => Char.ofNat x.toNat)

/-- A user of SNMPv3, with the password that was set. -/
structure SnmpUser where
  algorithm : String
  encryption : String
  password : List U8

/-- A call of the run has returned the text for the password. -/
def ReturnedFor (O : OpenSsl) (files : KeyFiles) (calls : List CryptCall)
    (password text : List U8) : Prop :=
  ∃ e s s', Occurs (cryptStep O) files calls s (.encrypt password e) s' ∧
    (encryptString O e s password).2 = text ∧ text ≠ []

/-- What is stored of a user, with a text for the password, which is one that an `int`
can measure. -/
structure StoredAs (O : OpenSsl) (files : KeyFiles) (calls : List CryptCall) (u : SnmpUser)
    (userProps : PropertyMap) : Prop where
  algorithm : userProps.at "Algorithm" = .ok (.str u.algorithm)
  encryption : userProps.at "Encryption" = .ok (.str u.encryption)
  password : ∃ text, ReturnedFor O files calls u.password text ∧
    userProps.at "Password" = .ok (.str (stringOfBytes text))
  measured : u.password.length < 2 ^ 31

/-- The users are given as they are stored, and texts are decrypted with the key files
as the run has left them.  The set-up of a decryption may fail. -/
structure ServesUsers (O : OpenSsl) (files : KeyFiles) (calls : List CryptCall)
    (users : String → Option SnmpUser) (evp : List U8 → Bool) (snmp : SnmpEnv) : Prop where
  stored : ∀ name userProps, snmp (.snmpUser name) = some userProps →
    ∃ u, users name = some u ∧ StoredAs O files calls u userProps
  decrypted : ∃ now, runFrom (cryptStep O) files calls = some now ∧
    ∀ text, snmp (.decryptString (stringOfBytes text)) =
      stringOfBytes (decryptString O (evp text) now text).1

/-- The session is secured as the user asks, with keys made from the password. -/
structure KeysOf (snmp : SnmpEnv) (manager : Nat) (u : SnmpUser) (session : Session) : Prop where
  authProto : session.securityAuthProto = authProtoOf u.algorithm
  privProto : session.securityPrivProto = privProtoOf u.encryption
  authKey : snmp (.generateKu manager .auth session.securityAuthProto (stringOfBytes u.password)) =
    some session.securityAuthKey
  privKey : snmp (.generateKu manager .priv session.securityAuthProto (stringOfBytes u.password)) =
    some session.securityPrivKey

theorem stringOfBytes_eq_empty_iff (bytes : List U8) : stringOfBytes bytes = "" ↔ bytes = [] := by
  rw [stringOfBytes, ← String.toList_eq_nil_iff, String.toList_ofList, List.map_eq_nil_iff]

/-! ## Decrypting a stored password -/

section Stored

variable {O : OpenSsl} {files now : KeyFiles} {calls : List CryptCall}

theorem decryptString_no_evp (text : List U8) : decryptString O false now text = ([], 0) := by
  unfold decryptString
  split
  · rfl
  split
  · rfl
  split
  · rfl
  split
  · rfl
  · rfl

/-- At the end of the run a text that was returned for a password gives the password, as
long as the text is whole and shorter than 2^31, and nothing otherwise. -/
theorem decrypted_of_run (hO : O.Lawful) (hgroups : O.DecodesGroups) (hcuts : O.CutsBlocks)
    (hrun : runFrom (cryptStep O) files calls = some now) {password text : List U8}
    (h : ReturnedFor O files calls password text) (hlen : password.length < 2 ^ 31) (evp : Bool) :
    (decryptString O evp now text).1 =
      if evp = true ∧ O.KeepsText password.length then password else [] := by
  obtain ⟨e, s, s', hoccurs, rfl, hne⟩ := h
  obtain ⟨k, hread, hexist, htext⟩ := encryptString_text hne
  have hfiles : (encryptString O e s password).1 = s' := Option.some.inj hoccurs.taken
  rw [hfiles] at hread hexist
  -- the call has left key files that exist, and these are never written again
  have hnow : now = s' := by
    refine hoccurs.since (P := fun t => t = s') rfl (fun t c t' hc ht => ?_) hrun
    exact cryptStep_exist hexist (ht ▸ hc.taken)
  subst hnow
  rw [htext] at hne ⊢
  cases evp with
  | false => rw [decryptString_no_evp, if_neg fun h => Bool.false_ne_true h.1]
  | true =>
      by_cases hkept : O.KeepsText password.length
      · rw [decryptString_kept hO hexist hread hkept, if_pos ⟨rfl, hkept⟩]
      · rw [if_neg fun h => hkept h.2]
        rcases Nat.lt_or_ge password.length (2 ^ 31 - 16) with hfits | hoverflow
        · rw [decryptString_cut hO hgroups hcuts hexist hread hkept hfits]
        · exact absurd (encryptUnder_overflow hO k hoverflow hlen) hne

theorem outcome_loadSnmpV3UserFromDBus {snmp : SnmpEnv} {name : String} {userProps : PropertyMap}
    (hprops : snmp (.snmpUser name) = some userProps) {algorithm encryption text : String}
    (halgorithm : userProps.at "Algorithm" = .ok (.str algorithm))
    (hencryption : userProps.at "Encryption" = .ok (.str encryption))
    (htext : userProps.at "Password" = .ok (.str text)) :
    (loadSnmpV3UserFromDBus name).outcome snmp =
      .ok (if snmp (.decryptString text) = "" then none
        else some (algorithm, encryption, snmp (.decryptString text))) := by
  unfold loadSnmpV3UserFromDBus
  rw [Ask.outcome_ask_bind, hprops]
  dsimp only
  rw [halgorithm, hencryption, htext]
  rfl

/-- A stored user is loaded when the set-up of the decryption succeeds and the password
is not empty and its text was kept, with the password that was set. -/
theorem outcome_load_stored (hO : O.Lawful) (hgroups : O.DecodesGroups) (hcuts : O.CutsBlocks)
    {users : String → Option SnmpUser}
    {evp : List U8 → Bool} {snmp : SnmpEnv} (husers : ServesUsers O files calls users evp snmp)
    {name : String} {userProps : PropertyMap} (hprops : snmp (.snmpUser name) = some userProps) :
    ∃ u text, users name = some u ∧ (loadSnmpV3UserFromDBus name).outcome snmp =
      .ok (if evp text = true ∧ O.KeepsText u.password.length ∧ u.password ≠ [] then
        some (u.algorithm, u.encryption, stringOfBytes u.password) else none) := by
  obtain ⟨u, hu, hstored⟩ := husers.stored name userProps hprops
  obtain ⟨text, hreturned, hpassword⟩ := hstored.password
  obtain ⟨now, hrun, hdecrypted⟩ := husers.decrypted
  refine ⟨u, text, hu, ?_⟩
  rw [outcome_loadSnmpV3UserFromDBus hprops hstored.algorithm hstored.encryption hpassword,
    hdecrypted, decrypted_of_run hO hgroups hcuts hrun hreturned hstored.measured]
  by_cases hread : evp text = true ∧ O.KeepsText u.password.length
  · simp only [hread, and_self, if_true, true_and, stringOfBytes_eq_empty_iff, ne_eq, ite_not]
  · have hempty := (stringOfBytes_eq_empty_iff []).mpr rfl
    rw [if_neg hread, if_pos hempty, if_neg fun h => hread ⟨h.1, h.2.1⟩]

end Stored

/-! ## The keys of a session -/

section Keys

variable {snmp : SnmpEnv}

theorem loaded_of_manager {cfg : TrapConfig} {destinationSel : U8} {managers : List ManagerProperty}
    {m : ManagerProperty} (h : (managersOf cfg destinationSel).outcome snmp = .ok managers)
    (hm : m ∈ managers) (hversion : m.version = "v3") :
    (loadSnmpV3UserFromDBus m.userName).outcome snmp =
      .ok (some (m.algorithm, m.encryption, m.password)) := by
  rcases managersOfPeer_cases h with rfl | ⟨_, t, _, -, ⟨-, -, rfl⟩ | ⟨-, _, _, _, _, -, hv3, rfl⟩⟩
  · exact absurd hm List.not_mem_nil
  · cases List.mem_singleton.mp hm
    dsimp only at hversion
    split at hversion <;> exact absurd hversion (by decide)
  · cases List.mem_singleton.mp hm
    exact hv3

theorem sessionFor_keys {manager : Nat} {m : ManagerProperty} {bmcIPAddress : String}
    {session : Session} (h : (sessionFor manager m bmcIPAddress).outcome snmp = .ok (some session))
    (hversion : m.version = "v3") :
    session.securityAuthProto = authProtoOf m.algorithm ∧
      session.securityPrivProto = privProtoOf m.encryption ∧
      snmp (.generateKu manager .auth session.securityAuthProto m.password) =
        some session.securityAuthKey ∧
      snmp (.generateKu manager .priv session.securityAuthProto m.password) =
        some session.securityPrivKey := by
  have h1 : ¬m.version = "v1" := by
    rw [hversion]
    decide
  have h2 : ¬m.version = "v2c" := by
    rw [hversion]
    decide
  unfold sessionFor at h
  rw [if_neg h1, if_neg h2, if_pos hversion] at h
  obtain ⟨members, -, h⟩ := Ask.outcome_bind_eq_ok snmp h
  split at h
  · cases h
  obtain ⟨engineID, -, h⟩ := Ask.outcome_bind_eq_ok snmp h
  obtain ⟨authKey, hauth, h⟩ := Ask.outcome_bind_eq_ok snmp h
  cases authKey with
  | none => cases h
  | some authKey =>
      obtain ⟨privKey, hpriv, h⟩ := Ask.outcome_bind_eq_ok snmp h
      cases privKey with
      | none => cases h
      | some privKey =>
          cases h
          exact ⟨rfl, rfl, Except.ok.inj hauth, Except.ok.inj hpriv⟩

end Keys

/-! ## Live users -/

section LiveUsers

variable {O : OpenSsl} {keyFiles : KeyFiles} {calls : List CryptCall}
  {users : String → Option SnmpUser} {evp : List U8 → Bool} {f : LanFiles}
  {objects : List (String × Option LanParam)} {snmp : SnmpEnv} {es : List LanLifeEvent}
  {lan : LanSystem}

theorem user_of_manager (hO : O.Lawful) (hgroups : O.DecodesGroups) (hcuts : O.CutsBlocks)
    (husers : ServesUsers O keyFiles calls users evp snmp)
    {channelNo destinationSel : U8} {managers : List ManagerProperty} {m : ManagerProperty}
    (h : (getManagers (some channelNo) (some destinationSel)).outcome snmp = .ok managers)
    (hm : m ∈ managers) (hversion : m.version = "v3") :
    ∃ u, users m.userName = some u ∧ u.password ≠ [] ∧ O.KeepsText u.password.length ∧
      m.algorithm = u.algorithm ∧ m.encryption = u.encryption ∧
      m.password = stringOfBytes u.password := by
  obtain ⟨iface, cfg, -, -, h⟩ := managersOf_of_getManagers h hm
  have hload := loaded_of_manager h hm hversion
  cases hprops : snmp (.snmpUser m.userName) with
  | none =>
      unfold loadSnmpV3UserFromDBus at hload
      rw [Ask.outcome_ask_bind, hprops] at hload
      cases hload
  | some userProps =>
      obtain ⟨u, text, hu, hloaded⟩ := outcome_load_stored hO hgroups hcuts husers hprops
      rw [hloaded] at hload
      split at hload
      · next hread =>
          obtain ⟨halgorithm, hencryption, hpassword⟩ : u.algorithm = m.algorithm ∧
              u.encryption = m.encryption ∧ stringOfBytes u.password = m.password := by
            simpa only [Except.ok.injEq, Option.some.injEq, Prod.mk.injEq] using hload
          exact ⟨u, hu, hread.2.2, hread.2.1, halgorithm.symm, hencryption.symm, hpassword.symm⟩
      · cases hload

/-- With any run of calls over the key files, users whose passwords were encrypted in it,
and LAN sections that were complete, after any Sets of whole arrays and any restarts: a
session for v3 is one to the live destination of the notification, and its keys are made
of the password of the user there. -/
theorem keys_of_live_user (hO : O.Lawful) (hgroups : O.DecodesGroups) (hcuts : O.CutsBlocks)
    (husers : ServesUsers O keyFiles calls users evp snmp)
    (hparse : parseLanConf f = .ok objects)
    (hcomplete : ∀ p ∈ ethChannels (snmp .channelInterfaceMap), LanComplete f p.2)
    (hwhole : ∀ e, .set e ∈ es → ∀ i, e.req.Reaches (destCountOf (lanConfig f e.ifaceName)) i)
    (hreached : Reached lanLifeStep (.start f objects) es lan) (hsize : Addressable lan)
    (hfile : snmp .lanParamConfFile = lan.files.shared) {a : SnmpAlert} {q : SnmpCall}
    {session : Session} (hq : q ∈ (sendOBMCErrorNotification a).asked snmp)
    (hsession : q.session? = some session) (hversion : session.version = .SNMP_VERSION_3) :
    LiveTarget lan (ethChannels (snmp .channelInterfaceMap)) a.channelNo a.destinationSel session ∧
      ∃ u, users session.securityName = some u ∧ u.password ≠ [] ∧
        O.KeepsText u.password.length ∧ ∃ manager, KeysOf snmp manager u session := by
  refine ⟨liveTarget_of_notification hsize hfile
    (showsLive_reached hparse hcomplete hwhole hreached) hq hsession, ?_⟩
  obtain ⟨managers, k, m, hm, hmanagers, hopened⟩ := sessions_of_notification a q hq session hsession
  have hv3 : m.version = "v3" := by
    rw [← (sessionFor_some hopened).2, hversion]
    rfl
  obtain ⟨-, -, hname⟩ := sessionFor_fields hopened
  obtain ⟨u, hu, hne, hshort, halgorithm, hencryption, hpassword⟩ :=
    user_of_manager hO hgroups hcuts husers hmanagers hm hv3
  obtain ⟨hauthProto, hprivProto, hauthKey, hprivKey⟩ := sessionFor_keys hopened hv3
  rw [hpassword] at hauthKey hprivKey
  rw [hname hv3]
  exact ⟨u, hu, hne, hshort, k, halgorithm ▸ hauthProto, hencryption ▸ hprivProto, hauthKey,
    hprivKey⟩

end LiveUsers

/-! ## A sample -/

/-- The bytes of a `std::string`. -/
def bytesOfString (s : String) : List U8 := s.toList.map fun c => BitVec.ofNat 8 c.toNat

theorem bytesOfString_stringOfBytes (bytes : List U8) :
    bytesOfString (stringOfBytes bytes) = bytes := by
  rw [bytesOfString, stringOfBytes, String.toList_ofList, List.map_map]
  refine List.map_id'' (fun x => ?_) bytes
  have hvalid : x.toNat.isValidChar := .inl (Nat.lt_trans x.isLt (by decide))
  have hchar : (Char.ofNat x.toNat).toNat = x.toNat := by
    rw [Char.ofNat, dif_pos hvalid]
    rfl
  rw [Function.comp_apply, hchar, BitVec.ofNat_toNat, BitVec.setWidth_eq]

/-- The two destinations of `twoTraps` for v3, with a user each. -/
def userTraps (users : List String) : Json :=
  .obj [("Config", .obj [("CommunityString", .str "public"), ("NumberofDestinations", .num 2),
    ("IPv4", jsonOfStrings ["10.0.0.2", "10.0.0.3"]), ("IPv6", jsonOfStrings ["", ""]),
    ("UserName", jsonOfStrings users), ("Type", jsonOfBytes [2, 2]),
    ("Timeout", jsonOfBytes [0, 0]), ("Retries", jsonOfBytes [0, 0]),
    ("AddressType", jsonOfBytes [1, 1])])]

def userTrapsParam (users : List String) : LanParam :=
  ⟨"public", 2, some ⟨["10.0.0.2", "10.0.0.3"], ["", ""], users, [2, 2], [0, 0], [0, 0], [1, 1]⟩⟩

/-- Type and users of the destinations are set, and the manager is restarted. -/
def usersSet : List LanLifeEvent :=
  [.set ⟨"eth0", adminOnly.replies, .type [2, 2]⟩,
    .set ⟨"eth0", adminOnly.replies, .userName ["admin", "admin"]⟩, .restart]

def userTrapsSystem : LanSystem :=
  .start (sampleFiles (some (.obj [("eth0", userTraps ["admin", "admin"])])))
    [("eth0", some (userTrapsParam ["admin", "admin"]))]

/-- `pef` is encrypted as the password of the user, before another string. -/
def keyCalls : List CryptCall :=
  [.encrypt samplePlaintext ⟨some zeroKeys, .allOk, true⟩, .encrypt [] ⟨none, .allOk, true⟩]

def adminUser : SnmpUser := ⟨"SHA-512", "AES", samplePlaintext⟩

def userSnmp : SnmpEnv
  | .lanParamConfFile => userTrapsSystem.files.shared
  | .snmpUser name =>
      if name = "admin" then some [("Algorithm", .str "SHA-512"), ("Encryption", .str "AES"),
        ("Password", .str (stringOfBytes sampleText))]
      else none
  | .decryptString text => stringOfBytes
      (decryptString sampleSsl true (zeroKeys.files sampleSsl) (bytesOfString text)).1
  | .snmpGroup _ => ["admin"]
  | .generateKu _ _ _ password => some (bytesOfString password)
  | q => publicSnmp q

def adminSession : Session where
  peername := "10.0.0.2:162"
  localname := ""
  version := .SNMP_VERSION_3
  community := ""
  securityName := "admin"
  securityEngineID := []
  securityAuthProto := .usmHMAC384SHA512AuthProtocol
  securityAuthKey := samplePlaintext
  securityPrivProto := .usmAES256PrivProtocol
  securityPrivKey := samplePlaintext

theorem users_run : runFrom lanLifeStep
    (.start (twoTrapsFiles [0, 0]) [("eth0", some (twoTrapsParam [0, 0]))]) usersSet =
      some userTrapsSystem := rfl

theorem usersSet_whole : ∀ e, .set e ∈ usersSet → ∀ i,
    e.req.Reaches (destCountOf (lanConfig (twoTrapsFiles [0, 0]) e.ifaceName)) i := by
  intro e he i size hsize
  have hcount : destCountOf (lanConfig (twoTrapsFiles [0, 0]) "eth0") = 2 := by decide
  simp only [usersSet, List.mem_cons, LanLifeEvent.set.injEq, reduceCtorEq, List.not_mem_nil,
    or_false] at he
  rcases he with rfl | rfl <;> cases hsize <;> rw [hcount] <;> exact Nat.lt_or_ge i 2

theorem twoTraps_parsed : parseLanConf (twoTrapsFiles [0, 0]) =
    .ok [("eth0", some (twoTrapsParam [0, 0]))] := rfl

theorem userTraps_addressable : Addressable userTrapsSystem := by
  intro iface p a hp ha
  rw [userTrapsSystem, param_start_one] at hp
  split at hp
  · cases hp
    cases ha
    decide
  · cases hp

theorem userSnmp_serves : ServesUsers sampleSsl ⟨none, none⟩ keyCalls
    (fun name => if name = "admin" then some adminUser else none) (fun _ => true) userSnmp where
  stored name userProps h := by
    have h : (if name = "admin" then some [("Algorithm", .str "SHA-512"),
      ("Encryption", .str "AES"), ("Password", .str (stringOfBytes sampleText))] else none) =
        some userProps := h
    split at h
    · next hname =>
        cases h
        have hfirst : Occurs (cryptStep sampleSsl) ⟨none, none⟩ keyCalls ⟨none, none⟩
            (.encrypt samplePlaintext ⟨some zeroKeys, .allOk, true⟩) (zeroKeys.files sampleSsl) :=
          ⟨[], _, rfl, rfl, by decide +kernel⟩
        refine ⟨adminUser, if_pos hname, rfl, rfl, ⟨sampleText, ⟨_, _, _, hfirst, ?_, ?_⟩, rfl⟩, ?_⟩
        · decide +kernel
        · decide
        · decide
    · cases h
  decrypted := by
    refine ⟨zeroKeys.files sampleSsl, by decide +kernel, fun text => ?_⟩
    show stringOfBytes (decryptString _ _ _ (bytesOfString (stringOfBytes text))).1 = _
    rw [bytesOfString_stringOfBytes]

theorem userSnmp_complete : ∀ p ∈ ethChannels (userSnmp .channelInterfaceMap),
    LanComplete (twoTrapsFiles [0, 0]) p.2 := by
  intro p hp
  cases List.mem_singleton.mp hp
  exact twoTraps_complete

/-- The password of the user was encrypted, and the keys of the session are made of it. -/
theorem admin_session_keyed :
    .snmpAdd 0 adminSession ∈ (sendOBMCErrorNotification twoTrapsAlert).asked userSnmp ∧
      LiveTarget userTrapsSystem [(1, "eth0")] 1 1 adminSession ∧
      ∃ manager, KeysOf userSnmp manager adminUser adminSession := by
  have hopened : .snmpAdd 0 adminSession ∈
      (sendOBMCErrorNotification twoTrapsAlert).asked userSnmp := by
    decide +kernel
  obtain ⟨htarget, u, hu, -, -, hkeys⟩ :=
    keys_of_live_user sampleSsl_lawful sampleSsl_decodesGroups sampleSsl_cutsBlocks
      userSnmp_serves twoTraps_parsed userSnmp_complete usersSet_whole (.last users_run)
      userTraps_addressable rfl hopened rfl rfl
  cases Option.some.inj hu
  exact ⟨hopened, htarget, hkeys⟩

end Pef
