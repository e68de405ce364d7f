/-
# `LanTable` — the table of destinations, read in two ways

The destinations of an interface are arrays of the same length, one row each.
`performPefAction` takes them from the object that `parsePefConfToDbus` has made,
`getManagers` and `dispatchTestDestination` from the shared file.

    managerRow   what `getManagers` reads of a destination
    testRow      what `dispatchTestDestination` reads of it
    OneTable     both find in the file the row of the object
    Covered      the file has all that is loaded of the destination

`oneTable_iff_covered` says that these two are the same.
-/
import PlatformEventFilter.LanPersist
import PlatformEventFilter.Trap

namespace Pef

/-! ## Rows -/

/-- What `getManagers` reads of a destination, `none` for what is not there. -/
structure ManagerRow where
  type : U8
  addressType : Option U8
  address : Option String
  userName : Option String
  deriving DecidableEq, Repr

/-- The address of the kind that the address type says. -/
def addressAt (addressType : Option U8) (ipv4 ipv6 : List String) (i : Nat) : Option String :=
  match addressType with
  | some a => if a = 1 then ipv4[i]? else if a = 2 then ipv6[i]? else none
  | none => none

/-- A mail destination has no address, and only SNMPv3 has a user. -/
def managerRow (type addressType : List U8) (ipv4 ipv6 userName : List String) (i : Nat) :
    Option ManagerRow :=
  type[i]?.map fun t =>
    { type := t
      addressType := addressType[i]?
      address := if t = 3 then none else addressAt addressType[i]? ipv4 ipv6 i
      userName := if t = 2 then userName[i]? else none }

/-- What `dispatchTestDestination` reads of a destination. -/
structure TestRow where
  type : U8
  userName : Option String
  deriving DecidableEq, Repr

/-- Only a mail destination has a user. -/
def testRow (type : List U8) (userName : List String) (i : Nat) : Option TestRow :=
  type[i]?.map fun t => ⟨t, if t = 3 then userName[i]? else none⟩

def LanArrays.managerRow (a : LanArrays) (i : Nat) : Option ManagerRow :=
  Pef.managerRow a.typeArr a.addressTypeArr a.ipv4Arr a.ipv6Arr a.userArr i

def LanArrays.testRow (a : LanArrays) (i : Nat) : Option TestRow :=
  Pef.testRow a.typeArr a.userArr i

def TrapConfig.managerRow (cfg : TrapConfig) (i : Nat) : Option ManagerRow :=
  Pef.managerRow cfg.type cfg.addressType cfg.ipv4 cfg.ipv6 cfg.userName i

/-! ## What the file says -/

/-- The "Config" section of an interface as the two functions find it. -/
def fileConfig (shared : Option Json) (iface : String) : Option Json :=
  (lanDataOfFile shared iface).find? "Config"

/-- The byte at a position of an array of the section. -/
def byteAt (cfg : Json) (key : String) (i : Nat) : Option U8 :=
  ((arrayAt cfg key).bind (·[i]?)).bind fun v => (getByte v).toOption

/-- The string at a position of an array of the section. -/
def stringAt (cfg : Json) (key : String) (i : Nat) : Option String :=
  ((arrayAt cfg key).bind (·[i]?)).bind fun v => v.getString.toOption

def testRowOf (cfg : Json) (i : Nat) : Option TestRow :=
  (byteAt cfg "Type" i).map fun t => ⟨t, if t = 3 then stringAt cfg "UserName" i else none⟩

def fileTestRow (shared : Option Json) (iface : String) (i : Nat) : Option TestRow :=
  (fileConfig shared iface).bind fun cfg => testRowOf cfg i

/-- The section as `getManagers` reads it, if it can be read. -/
def fileTrapConfig (shared : Option Json) (iface : String) : Option TrapConfig :=
  (fileConfig shared iface).bind fun cfg => (readTrapConfig cfg).toOption

def fileManagerRow (shared : Option Json) (iface : String) (i : Nat) : Option ManagerRow :=
  (fileTrapConfig shared iface).bind fun cfg => cfg.managerRow i

/-- `dispatchTestDestination` behind its reading of the row. -/
def dispatchRow (channelNo destinationSel : U8) : Option TestRow → SnmpProg Bool
  | none => pure false
  | some row =>
      if row.type ≤ 2 then do
        let timestamp ← snmpCall .testTimestamp
        sendOBMCErrorNotification (testAlert timestamp channelNo destinationSel)
      else if row.type = 3 then
        match row.userName with
        | none => pure false
        | some selectedUser => do
            let smtpMailId ← getSmtpMailIDForTest selectedUser
            sendTestMailForDestination (smtpMailId.getD "") channelNo destinationSel
      else pure false

theorem dispatchTestMail_eq (cfg : Json) (i : Nat) (channelNo destinationSel : U8) :
    dispatchTestMail cfg i channelNo destinationSel =
      (match stringAt cfg "UserName" i with
      | none => pure false
      | some selectedUser => do
          let smtpMailId ← getSmtpMailIDForTest selectedUser
          sendTestMailForDestination (smtpMailId.getD "") channelNo destinationSel) := by
  unfold dispatchTestMail stringAt
  cases (arrayAt cfg "UserName").bind (·[i]?) with
  | none => rfl
  | some user => cases huser : user.getString <;> simp only [Option.bind_some, huser] <;> rfl

/-- A test depends on the row of the destination in the file, and on nothing else
of the file. -/
theorem dispatchTestDestination_eq (channelNo : U8) {destinationSel : U8}
    (hsel : destinationSel ≠ 0) :
    dispatchTestDestination channelNo destinationSel = (do
      let ifaceName ← getInterfaceNameForChannelForTest channelNo
      match ifaceName with
      | none => pure false
      | some ifaceName => do
          let mergedData ← snmpCall .testLanParamConfFile
          dispatchRow channelNo destinationSel
            (fileTestRow mergedData ifaceName (destinationSel.toNat - 1))) := by
  unfold dispatchTestDestination
  rw [if_neg hsel]
  refine congrArg (getInterfaceNameForChannelForTest channelNo >>= ·) (funext fun ifaceName => ?_)
  cases ifaceName with
  | none => rfl
  | some ifaceName =>
      refine congrArg (snmpCall .testLanParamConfFile >>= ·) (funext fun mergedData => ?_)
      unfold fileTestRow fileConfig
      cases hcfg : (lanDataOfFile mergedData ifaceName).find? "Config" with
      | none => rfl
      | some cfg =>
          unfold testRowOf byteAt
          simp only [Option.bind_some]
          cases hv : (arrayAt cfg "Type").bind (·[destinationSel.toNat - 1]?) with
          | none => rfl
          | some v =>
              simp only [Option.bind_some]
              cases htype : getByte v with
              | error e => rfl
              | ok t =>
                  show _ = dispatchRow channelNo destinationSel (some ⟨t, _⟩)
                  simp only [dispatchRow]
                  split
                  · rfl
                  · split
                    · rw [dispatchTestMail_eq]
                    · rfl

/-- The managers are made of the section in the file. -/
theorem getManagers_eq (channelNo destinationSel : U8) :
    getManagers (some channelNo) (some destinationSel) = (do
      let bus ← snmpCall .newDefaultBus
      match bus with
      | none => Ask.raise .sdbusplus
      | some () => do
          let ethMap ← snmpEthChannelInterfaceMap
          match ethMap.lookup channelNo with
          | none => pure []
          | some iface => do
              let mergedData ← snmpCall .lanParamConfFile
              match fileTrapConfig mergedData iface with
              | none => pure []
              | some cfg => managersOf cfg destinationSel) := by
  unfold getManagers
  refine congrArg (snmpCall .newDefaultBus >>= ·) (funext fun bus => ?_)
  cases bus with
  | none => rfl
  | some _ =>
      refine congrArg (snmpEthChannelInterfaceMap >>= ·) (funext fun ethMap => ?_)
      rw [Option.bind_some]
      cases ethMap.lookup channelNo with
      | none => rfl
      | some iface =>
          refine congrArg (snmpCall .lanParamConfFile >>= ·) (funext fun mergedData => ?_)
          unfold fileTrapConfig fileConfig
          cases hcfg : (lanDataOfFile mergedData iface).find? "Config" with
          | none => rfl
          | some cfg =>
              simp only [Option.bind_some]
              cases readTrapConfig cfg <;> rfl

theorem outcome_snmpEthChannelInterfaceMap (env : SnmpEnv) :
    snmpEthChannelInterfaceMap.outcome env = .ok (ethChannels (env .channelInterfaceMap)) := by
  rw [snmpEthChannelInterfaceMap, Ask.outcome_ask_bind]
  cases env .channelInterfaceMap <;> rfl

theorem outcome_getManagers {env : SnmpEnv} (hbus : env .newDefaultBus = some ())
    {channelNo destinationSel : U8} {iface : String} {cfg : TrapConfig}
    (hiface : (ethChannels (env .channelInterfaceMap)).lookup channelNo = some iface)
    (hcfg : fileTrapConfig (env .lanParamConfFile) iface = some cfg) :
    (getManagers (some channelNo) (some destinationSel)).outcome env =
      (managersOf cfg destinationSel).outcome env := by
  rw [getManagers_eq, Ask.outcome_ask_bind, hbus]
  dsimp only
  rw [Ask.outcome_bind_ok env (outcome_snmpEthChannelInterfaceMap env), hiface]
  dsimp only
  rw [Ask.outcome_ask_bind, hcfg]

theorem asked_getManagers {env : SnmpEnv} (hbus : env .newDefaultBus = some ())
    {channelNo destinationSel : U8} {iface : String} {cfg : TrapConfig}
    (hiface : (ethChannels (env .channelInterfaceMap)).lookup channelNo = some iface)
    (hcfg : fileTrapConfig (env .lanParamConfFile) iface = some cfg) :
    (getManagers (some channelNo) (some destinationSel)).asked env =
      [.newDefaultBus, .channelInterfaceMap, .lanParamConfFile] ++
        (managersOf cfg destinationSel).asked env := by
  have hasked : snmpEthChannelInterfaceMap.asked env = [.channelInterfaceMap] := by
    rw [snmpEthChannelInterfaceMap, Ask.asked_ask_bind]
    cases env .channelInterfaceMap <;> rfl
  rw [getManagers_eq, Ask.asked_ask_bind, hbus]
  dsimp only
  rw [Ask.asked_bind_ok env (outcome_snmpEthChannelInterfaceMap env), hasked, hiface]
  dsimp only
  rw [Ask.asked_ask_bind, hcfg]
  rfl

/-- Index, type and peer of a row that has an address. -/
def ManagerRow.peer (row : ManagerRow) (i : Nat) : Option (Nat × U8 × String) := do
  let addressType ← row.addressType
  let rawAddress ← row.address
  let peer := formatPeerAddress rawAddress addressType
  if peer = "" then none else some (i, row.type, peer)

/-- What a manager is made of, of the destination at an index. -/
def TrapConfig.peerAt (cfg : TrapConfig) (i : Nat) : Option (Nat × U8 × String) :=
  (cfg.managerRow i).bind (ManagerRow.peer · i)

theorem selectedPeer_eq (cfg : TrapConfig) {destinationSel : U8} (hsel : destinationSel ≠ 0) :
    selectedPeer cfg destinationSel = cfg.peerAt (destinationSel.toNat - 1) := by
  unfold selectedPeer TrapConfig.peerAt TrapConfig.managerRow managerRow
  rw [if_neg hsel]
  generalize destinationSel.toNat - 1 = i
  simp only [Option.bind_eq_bind]
  cases htype : cfg.type[i]? with
  | none => rfl
  | some t =>
      cases haddressType : cfg.addressType[i]? with
      | none => rfl
      | some a =>
          simp only [Option.bind_some, Option.map_some, ManagerRow.peer, addressAt,
            Option.bind_eq_bind]
          by_cases h3 : t = 3
          · simp only [if_pos h3]
          · simp only [if_neg h3]
            by_cases h1 : a = 1
            · simp only [if_pos h1]
            · simp only [if_neg h1]
              by_cases h2 : a = 2
              · simp only [if_pos h2]
              · simp only [if_neg h2]

theorem ManagerRow.peer_eq_some {row : ManagerRow} {i : Nat} {selected : Nat × U8 × String}
    (h : row.peer i = some selected) :
    ∃ addressType address, row.addressType = some addressType ∧ row.address = some address ∧
      formatPeerAddress address addressType ≠ "" ∧
      selected = (i, row.type, formatPeerAddress address addressType) := by
  obtain ⟨addressType, haddressType, h⟩ := Option.bind_eq_some_iff.mp h
  obtain ⟨address, haddress, h⟩ := Option.bind_eq_some_iff.mp h
  dsimp only at h
  split at h
  · cases h
  · next hpeer =>
      exact ⟨addressType, address, haddressType, haddress, hpeer, (Option.some.inj h).symm⟩

theorem userName_of_managerRow {cfg : TrapConfig} {i : Nat} {row : ManagerRow}
    (h : cfg.managerRow i = some row) (htype : row.type = 2) :
    row.userName = cfg.userName[i]? := by
  obtain ⟨t, -, rfl⟩ := Option.map_eq_some_iff.mp h
  have ht : t = 2 := htype
  exact if_pos ht

theorem managersOf_congr {cfg cfg' : TrapConfig} {destinationSel : U8} (hsel : destinationSel ≠ 0)
    (hrow : cfg.managerRow (destinationSel.toNat - 1) = cfg'.managerRow (destinationSel.toNat - 1))
    (hcommunity : cfg.community = cfg'.community) :
    managersOf cfg destinationSel = managersOf cfg' destinationSel := by
  have hpeer : selectedPeer cfg destinationSel = selectedPeer cfg' destinationSel := by
    rw [selectedPeer_eq cfg hsel, selectedPeer_eq cfg' hsel, TrapConfig.peerAt, TrapConfig.peerAt,
      hrow]
  unfold managersOf managersOfPeer
  rw [hpeer, hcommunity]
  cases hselected : selectedPeer cfg' destinationSel with
  | none => rfl
  | some selected =>
      rw [selectedPeer_eq cfg' hsel] at hselected
      obtain ⟨row, hrow', hselected⟩ := Option.bind_eq_some_iff.mp hselected
      obtain ⟨addressType, address, -, -, -, rfl⟩ := row.peer_eq_some hselected
      -- the user is compared where it is read
      by_cases h2 : row.type = 2
      · simp only [← userName_of_managerRow (hrow.trans hrow') h2, userName_of_managerRow hrow' h2]
      · simp only [if_neg h2]

/-! ## One table -/

/-- The arrays of the object of an interface, if it has them. -/
def exposedArrays (objects : List (String × Option LanParam)) (iface : String) :
    Option LanArrays :=
  (objects.lookup iface).join.bind LanParam.arrays

/-- At this index both functions find in the file what the object exposes. -/
def OneTable (f : LanFiles) (objects : List (String × Option LanParam)) (iface : String)
    (i : Nat) : Prop :=
  fileManagerRow f.shared iface i =
      (exposedArrays objects iface).bind (fun a => a.managerRow i) ∧
    fileTestRow f.shared iface i = (exposedArrays objects iface).bind (fun a => a.testRow i)

/-- `NumberofDestinations` of a section, as a byte. -/
def destCountOf (cfg : Json) : Nat :=
  match cfg.value "NumberofDestinations" (Json.getUnsigned 8) 0 with
  | .ok n => n.toNat
  | .error _ => 0

/-- The array is not filled up at this index. -/
def Unpadded (cfg : Json) (key : String) (i : Nat) : Prop :=
  i < ((arrayAt cfg key).getD []).length ∨ destCountOf cfg ≤ i

/-- The address types are an array, or at least none of them is at this index. -/
def AddressTypePlain (cfg : Json) (i : Nat) : Prop :=
  (arrayAt cfg "AddressType").isSome = true ∨
    ((cfg.find? "AddressType").getD .null).items.length ≤ i

/-- Nothing that is read of the destination has been filled up. -/
def RowComplete (cfg : Json) (i : Nat) : Prop :=
  Unpadded cfg "Type" i ∧ ∀ t, byteAt cfg "Type" i = some t →
    (AddressTypePlain cfg i ∧ Unpadded cfg "AddressType" i) ∧
    (t ≠ 3 → (byteAt cfg "AddressType" i = some 1 → Unpadded cfg "IPv4" i) ∧
      (byteAt cfg "AddressType" i = some 2 → Unpadded cfg "IPv6" i)) ∧
    (t = 2 ∨ t = 3 → Unpadded cfg "UserName" i)

/-- The section has the arrays, and all that is loaded of it can be read. -/
structure ArraysReadable (cfg : Json) : Prop where
  flat : hasFlatArrays cfg = true
  community : ∃ community, cfg.value "CommunityString" Json.getString "" = .ok community
  arrays : ∃ n raw, ArraysRead cfg n raw

/-- The interface is one of the channel configuration, with a section that has arrays. -/
def Loadable (f : LanFiles) (iface : String) : Prop :=
  (∃ ifaces, lanInterfaces f = .ok ifaces ∧ iface ∈ ifaces) ∧ ArraysReadable (lanConfig f iface)

/-- The byte at a position of a member, or what it is filled up with there. -/
def filledByteAt (cfg : Json) (key : String) (x : U8) (i : Nat) : Option U8 :=
  (((cfg.find? key).getD .null).items[i]?.bind fun v => (getByte v).toOption).or
    (if i < destCountOf cfg then some x else none)

/-- The string at a position of an array, or what it is filled up with there. -/
def filledStringAt (cfg : Json) (key x : String) (i : Nat) : Option String :=
  (stringAt cfg key i).or (if i < destCountOf cfg then some x else none)

/-- A section says of the destination what another one says that has been filled up. -/
def SaysFilled (stray cfg : Json) (i : Nat) : Prop :=
  byteAt stray "Type" i = filledByteAt cfg "Type" 0 i ∧ ∀ t, byteAt stray "Type" i = some t →
    (∃ trap, readTrapConfig stray = .ok trap) ∧
    byteAt stray "AddressType" i = filledByteAt cfg "AddressType" 1 i ∧
    (t ≠ 3 →
      (byteAt stray "AddressType" i = some 1 →
        stringAt stray "IPv4" i = filledStringAt cfg "IPv4" "0.0.0.0" i) ∧
      (byteAt stray "AddressType" i = some 2 → stringAt stray "IPv6" i =
        filledStringAt cfg "IPv6" "0000:0000:0000:0000:0000:0000:0000:0000" i)) ∧
    (t = 2 ∨ t = 3 → stringAt stray "UserName" i = filledStringAt cfg "UserName" "" i)

/-- What the two functions find is what is loaded, for each place it can be loaded from. -/
structure Covered (f : LanFiles) (iface : String) (i : Nat) : Prop where
  /-- Nothing is loaded: the file has no destination at the index. -/
  absent : ¬ Loadable f iface →
    (fileConfig f.shared iface).bind (fun cfg => byteAt cfg "Type" i) = none
  /-- From the shared file: the row is complete there. -/
  complete : Loadable f iface → (sharedSection f.shared iface).isSome = true →
    RowComplete (lanConfig f iface) i
  /-- From a legacy file: it has no such destination, or the shared file says the
  same in a section beside its "Interfaces". -/
  legacy : Loadable f iface → sharedSection f.shared iface = none →
    match fileConfig f.shared iface with
    | none => filledByteAt (lanConfig f iface) "Type" 0 i = none
    | some stray => SaysFilled stray (lanConfig f iface) i

theorem getElem?_ensureSized {α : Type} (n : U8) (vec : List α) (x : α) (i : Nat) :
    (ensureSized n vec x)[i]? = vec[i]?.or (if i < n.toNat then some x else none) := by
  unfold ensureSized
  rcases Nat.lt_or_ge i vec.length with hi | hi
  · rw [List.getElem?_append_left hi, List.getElem?_eq_getElem hi, Option.some_or]
  · rw [List.getElem?_append_right hi, List.getElem?_eq_none hi, List.getElem?_replicate,
      Option.none_or]
    refine if_congr ?_ rfl rfl
    omega

theorem getElem?_ensureSized_iff {α : Type} (n : U8) (vec : List α) (x : α) (i : Nat) :
    vec[i]? = (ensureSized n vec x)[i]? ↔ i < vec.length ∨ n.toNat ≤ i := by
  rw [getElem?_ensureSized]
  rcases Nat.lt_or_ge i vec.length with hi | hi
  · rw [List.getElem?_eq_getElem hi, Option.some_or]
    exact iff_of_true rfl (.inl hi)
  · rw [List.getElem?_eq_none hi, Option.none_or]
    split
    · exact iff_of_false (fun h => nomatch h) (by omega)
    · exact iff_of_true rfl (by omega)

theorem getElem?_of_mapM {α β : Type} {g : α → Except Json.Error β} :
    ∀ {xs : List α} {ys : List β}, xs.mapM g = .ok ys →
      ys.length = xs.length ∧ ∀ i : Nat, ys[i]? = xs[i]?.bind fun x => (g x).toOption
  | [], ys, h => by
      cases h
      exact ⟨rfl, fun _ => rfl⟩
  | x :: xs, ys, h => by
      rw [List.mapM_cons] at h
      obtain ⟨y, hy, h⟩ := Json.exists_of_bind_eq_ok h
      obtain ⟨ys', hys', h⟩ := Json.exists_of_bind_eq_ok h
      cases h
      obtain ⟨hlen, hall⟩ := getElem?_of_mapM hys'
      refine ⟨congrArg (· + 1) hlen, fun i => ?_⟩
      cases i with
      | zero =>
          show some y = (g x).toOption
          rw [hy]
          rfl
      | succ i => exact hall i

theorem byteAt_eq {cfg : Json} {key : String} {ys : List U8}
    (h : ((arrayAt cfg key).getD []).mapM getByte = .ok ys) (i : Nat) :
    byteAt cfg key i = ys[i]? := by
  rw [(getElem?_of_mapM h).2 i]
  unfold byteAt
  cases arrayAt cfg key with
  | none => rfl
  | some xs => rfl

theorem stringAt_eq {cfg : Json} {key : String} {ys : List String}
    (h : readStrings cfg key = .ok ys) (i : Nat) : stringAt cfg key i = ys[i]? := by
  rw [(getElem?_of_mapM h).2 i]
  unfold stringAt
  cases arrayAt cfg key with
  | none => rfl
  | some xs => rfl

theorem addressAt_eq_iff (addressType : Option U8) {ipv4 ipv4' ipv6 ipv6' : List String} {i : Nat} :
    addressAt addressType ipv4 ipv6 i = addressAt addressType ipv4' ipv6' i ↔
      (addressType = some 1 → ipv4[i]? = ipv4'[i]?) ∧
        (addressType = some 2 → ipv6[i]? = ipv6'[i]?) := by
  cases addressType with
  | none => exact iff_of_true rfl ⟨fun h => (nomatch h), fun h => (nomatch h)⟩
  | some a =>
      simp only [addressAt, Option.some.injEq]
      by_cases h1 : a = 1
      · subst h1
        simp
      · by_cases h2 : a = 2
        · subst h2
          simp
        · simp only [if_neg h1, if_neg h2]
          exact iff_of_true trivial ⟨fun h => absurd h h1, fun h => absurd h h2⟩

theorem rows_eq_iff {type type' addressType addressType' : List U8}
    {ipv4 ipv4' ipv6 ipv6' userName userName' : List String} {i : Nat} {t : U8}
    (ht : type[i]? = some t) (ht' : type'[i]? = some t) :
    (managerRow type addressType ipv4 ipv6 userName i =
        managerRow type' addressType' ipv4' ipv6' userName' i ∧
      testRow type userName i = testRow type' userName' i) ↔
    addressType[i]? = addressType'[i]? ∧
      (t ≠ 3 → (addressType[i]? = some 1 → ipv4[i]? = ipv4'[i]?) ∧
        (addressType[i]? = some 2 → ipv6[i]? = ipv6'[i]?)) ∧
      (t = 2 ∨ t = 3 → userName[i]? = userName'[i]?) := by
  simp only [managerRow, testRow, ht, ht', Option.map_some, Option.some.injEq, ManagerRow.mk.injEq,
    TestRow.mk.injEq, true_and]
  constructor
  · rintro ⟨⟨haddressType, haddress, huser2⟩, huser3⟩
    rw [haddressType] at haddress ⊢
    refine ⟨rfl, fun h3 => ?_, fun h23 => ?_⟩
    · rw [if_neg h3, if_neg h3] at haddress
      exact (addressAt_eq_iff _).mp haddress
    · rcases h23 with h2 | h3
      · rw [if_pos h2, if_pos h2] at huser2
        exact huser2
      · rw [if_pos h3, if_pos h3] at huser3
        exact huser3
  · rintro ⟨haddressType, haddress, huser⟩
    rw [haddressType] at haddress ⊢
    refine ⟨⟨rfl, ?_, ?_⟩, ?_⟩
    · by_cases h3 : t = 3
      · rw [if_pos h3, if_pos h3]
      · rw [if_neg h3, if_neg h3]
        exact (addressAt_eq_iff _).mpr (haddress h3)
    · by_cases h2 : t = 2
      · rw [if_pos h2, if_pos h2, huser (.inl h2)]
      · rw [if_neg h2, if_neg h2]
    · by_cases h3 : t = 3
      · rw [if_pos h3, if_pos h3, huser (.inr h3)]
      · rw [if_neg h3, if_neg h3]

theorem readBytes_eq {cfg : Json} {key : String} {xs : List Json}
    (h : arrayAt cfg key = some xs) : readBytes cfg key = xs.mapM getByte := by
  unfold arrayAt at h
  split at h
  · next hfind =>
      cases h
      unfold readBytes
      rw [hfind]
      rfl
  · cases h

theorem typeArr_of_read {cfg : Json} {n : U8} {raw : LanArrays}
    (hflat : hasFlatArrays cfg = true) (hraw : ArraysRead cfg n raw) :
    ((arrayAt cfg "Type").getD []).mapM getByte = .ok raw.typeArr := by
  simp only [hasFlatArrays, Bool.and_eq_true] at hflat
  obtain ⟨types, htypes⟩ := Option.isSome_iff_exists.mp hflat.1.1.2
  rw [htypes, Option.getD_some, ← readBytes_eq htypes]
  exact hraw.typeArr

/-- The address types as `getManagers` reads them: none at all if they are not an array. -/
theorem addressType_of_read {cfg : Json} {n : U8} {raw : LanArrays} (hraw : ArraysRead cfg n raw) :
    ∃ addressType, ((arrayAt cfg "AddressType").getD []).mapM getByte = .ok addressType ∧
      (arrayAt cfg "AddressType" = none ∧ addressType = [] ∨
        (arrayAt cfg "AddressType").isSome = true ∧ addressType = raw.addressTypeArr) := by
  cases hfind : arrayAt cfg "AddressType" with
  | none => exact ⟨[], rfl, .inl ⟨rfl, rfl⟩⟩
  | some xs =>
      refine ⟨raw.addressTypeArr, ?_, .inr ⟨rfl, rfl⟩⟩
      rw [Option.getD_some, ← readBytes_eq hfind]
      exact hraw.addressTypeArr

theorem unpadded_iff {α : Type} {cfg : Json} {key : String} {n : U8} {g : Json → Except Json.Error α}
    {ys : List α} (hn : cfg.value "NumberofDestinations" (Json.getUnsigned 8) 0 = .ok n)
    (h : ((arrayAt cfg key).getD []).mapM g = .ok ys) (x : α) (i : Nat) :
    ys[i]? = (ensureSized n ys x)[i]? ↔ Unpadded cfg key i := by
  rw [getElem?_ensureSized_iff, (getElem?_of_mapM h).1]
  unfold Unpadded destCountOf
  rw [hn]

theorem addressType_eq_iff {cfg : Json} {n : U8} {raw : LanArrays} {addressType : List U8}
    (hraw : ArraysRead cfg n raw)
    (hread : ((arrayAt cfg "AddressType").getD []).mapM getByte = .ok addressType)
    (hcases : arrayAt cfg "AddressType" = none ∧ addressType = [] ∨
      (arrayAt cfg "AddressType").isSome = true ∧ addressType = raw.addressTypeArr) (i : Nat) :
    addressType[i]? = (raw.pad n).addressTypeArr[i]? ↔
      AddressTypePlain cfg i ∧ Unpadded cfg "AddressType" i := by
  rcases hcases with ⟨hnone, rfl⟩ | ⟨hsome, rfl⟩
  · have hlen := (getElem?_of_mapM hraw.addressTypeArr).1
    unfold AddressTypePlain Unpadded destCountOf
    rw [hnone, hraw.destCount, ← hlen]
    show ([] : List U8)[i]? = (ensureSized n raw.addressTypeArr 1)[i]? ↔ _
    unfold ensureSized
    rw [List.getElem?_nil, eq_comm, List.getElem?_eq_none_iff, List.length_append,
      List.length_replicate]
    simp only [Option.isSome_none, Bool.false_eq_true, false_or, Option.getD_none, List.length_nil]
    omega
  · have hplain : AddressTypePlain cfg i := .inl hsome
    exact (unpadded_iff hraw.destCount hread 1 i).trans (and_iff_right hplain).symm

/-- The file and the object it has been loaded into show the same row, exactly
when the row is complete. -/
theorem rows_eq_iff_complete {cfg : Json} {n : U8} {raw : LanArrays} {community : String}
    (hflat : hasFlatArrays cfg = true) (hraw : ArraysRead cfg n raw)
    (hcommunity : cfg.value "CommunityString" Json.getString "" = .ok community) (i : Nat) :
    ((readTrapConfig cfg).toOption.bind (fun trap => trap.managerRow i) =
        (raw.pad n).managerRow i ∧ testRowOf cfg i = (raw.pad n).testRow i) ↔
      RowComplete cfg i := by
  have htype := typeArr_of_read hflat hraw
  obtain ⟨addressType, hread, hcases⟩ := addressType_of_read hraw
  have htrap : readTrapConfig cfg =
      .ok ⟨raw.typeArr, addressType, raw.ipv4Arr, raw.ipv6Arr, raw.userArr, community⟩ := by
    unfold readTrapConfig
    rw [htype, hread, hraw.ipv4Arr, hraw.ipv6Arr, hraw.userArr, hcommunity]
    rfl
  have htest : testRowOf cfg i = testRow raw.typeArr raw.userArr i := by
    unfold testRowOf testRow
    rw [byteAt_eq htype, stringAt_eq hraw.userArr]
  have htypeIff := unpadded_iff hraw.destCount htype 0 i
  rw [htrap, htest]
  show (managerRow raw.typeArr addressType raw.ipv4Arr raw.ipv6Arr raw.userArr i =
      (raw.pad n).managerRow i ∧ _) ↔ _
  unfold RowComplete
  rw [byteAt_eq htype]
  cases hi : raw.typeArr[i]? with
  | none =>
      rw [hi] at htypeIff
      simp only [managerRow, testRow, LanArrays.managerRow, LanArrays.testRow, hi, Option.map_none,
        eq_comm (a := none), Option.map_eq_none_iff, and_self, ← htypeIff]
      exact ⟨fun h => ⟨h, fun t ht => nomatch ht⟩, fun h => h.1⟩
  | some t =>
      have hpad : (raw.pad n).typeArr[i]? = some t := by
        have hlt := (List.getElem?_eq_some_iff.mp hi).1
        exact ((getElem?_ensureSized_iff n raw.typeArr 0 i).mpr (.inl hlt)).symm.trans hi
      have h4 : raw.ipv4Arr[i]? = (raw.pad n).ipv4Arr[i]? ↔ Unpadded cfg "IPv4" i :=
        unpadded_iff hraw.destCount hraw.ipv4Arr _ i
      have h6 : raw.ipv6Arr[i]? = (raw.pad n).ipv6Arr[i]? ↔ Unpadded cfg "IPv6" i :=
        unpadded_iff hraw.destCount hraw.ipv6Arr _ i
      have huser : raw.userArr[i]? = (raw.pad n).userArr[i]? ↔ Unpadded cfg "UserName" i :=
        unpadded_iff hraw.destCount hraw.userArr _ i
      rw [LanArrays.managerRow, LanArrays.testRow, rows_eq_iff hi hpad,
        addressType_eq_iff hraw hread hcases, h4, h6, huser, byteAt_eq hread]
      have htypeKept : Unpadded cfg "Type" i := htypeIff.mp (hi.trans hpad.symm)
      constructor
      · intro hrow
        refine ⟨htypeKept, fun t' ht' => ?_⟩
        cases ht'
        exact hrow
      · rintro ⟨-, hrow⟩
        exact hrow t rfl

theorem filledByteAt_eq {cfg : Json} {key : String} {n : U8} {ys : List U8}
    (hn : cfg.value "NumberofDestinations" (Json.getUnsigned 8) 0 = .ok n)
    (h : readBytes cfg key = .ok ys) (x : U8) (i : Nat) :
    (ensureSized n ys x)[i]? = filledByteAt cfg key x i := by
  unfold filledByteAt destCountOf
  rw [hn, getElem?_ensureSized, (getElem?_of_mapM h).2 i]

theorem filledStringAt_eq {cfg : Json} {key : String} {n : U8} {ys : List String}
    (hn : cfg.value "NumberofDestinations" (Json.getUnsigned 8) 0 = .ok n)
    (h : readStrings cfg key = .ok ys) (x : String) (i : Nat) :
    (ensureSized n ys x)[i]? = filledStringAt cfg key x i := by
  unfold filledStringAt destCountOf
  rw [hn, getElem?_ensureSized, stringAt_eq h]

theorem trapConfig_at {cfg : Json} {trap : TrapConfig} (h : readTrapConfig cfg = .ok trap)
    (i : Nat) :
    trap.type[i]? = byteAt cfg "Type" i ∧ trap.addressType[i]? = byteAt cfg "AddressType" i ∧
      trap.ipv4[i]? = stringAt cfg "IPv4" i ∧ trap.ipv6[i]? = stringAt cfg "IPv6" i ∧
      trap.userName[i]? = stringAt cfg "UserName" i := by
  obtain ⟨type, htype, h⟩ := Json.exists_of_bind_eq_ok h
  obtain ⟨addressType, haddressType, h⟩ := Json.exists_of_bind_eq_ok h
  obtain ⟨ipv4, h4, h⟩ := Json.exists_of_bind_eq_ok h
  obtain ⟨ipv6, h6, h⟩ := Json.exists_of_bind_eq_ok h
  obtain ⟨userName, huser, h⟩ := Json.exists_of_bind_eq_ok h
  obtain ⟨community, _, h⟩ := Json.exists_of_bind_eq_ok h
  cases h
  exact ⟨(byteAt_eq htype i).symm, (byteAt_eq haddressType i).symm, (stringAt_eq h4 i).symm,
    (stringAt_eq h6 i).symm, (stringAt_eq huser i).symm⟩

theorem managerRow_of_byteAt {cfg : Json} {i : Nat} (h : byteAt cfg "Type" i = none) :
    (readTrapConfig cfg).toOption.bind (fun trap => trap.managerRow i) = none := by
  cases hread : readTrapConfig cfg with
  | error e => rfl
  | ok trap =>
      show Option.map _ trap.type[i]? = none
      rw [(trapConfig_at hread i).1, h]
      rfl

theorem testRow_of_trapConfig {cfg : Json} {trap : TrapConfig} (h : readTrapConfig cfg = .ok trap)
    (i : Nat) : testRowOf cfg i = testRow trap.type trap.userName i := by
  obtain ⟨htype, -, -, -, huser⟩ := trapConfig_at h i
  unfold testRowOf testRow
  rw [htype, huser]

theorem rows_eq_iff_saysFilled {stray cfg : Json} {n : U8} {raw : LanArrays}
    (hraw : ArraysRead cfg n raw) (i : Nat) :
    ((readTrapConfig stray).toOption.bind (fun trap => trap.managerRow i) =
        (raw.pad n).managerRow i ∧ testRowOf stray i = (raw.pad n).testRow i) ↔
      SaysFilled stray cfg i := by
  have htype : (raw.pad n).typeArr[i]? = _ := filledByteAt_eq hraw.destCount hraw.typeArr 0 i
  have haddressType : (raw.pad n).addressTypeArr[i]? = _ :=
    filledByteAt_eq hraw.destCount hraw.addressTypeArr 1 i
  have h4 : (raw.pad n).ipv4Arr[i]? = _ := filledStringAt_eq hraw.destCount hraw.ipv4Arr _ i
  have h6 : (raw.pad n).ipv6Arr[i]? = _ := filledStringAt_eq hraw.destCount hraw.ipv6Arr _ i
  have huser : (raw.pad n).userArr[i]? = _ := filledStringAt_eq hraw.destCount hraw.userArr _ i
  unfold SaysFilled
  rw [← htype]
  cases hi : byteAt stray "Type" i with
  | none =>
      have htest : testRowOf stray i = none := Option.map_eq_none_iff.mpr hi
      rw [managerRow_of_byteAt hi, htest]
      simp only [LanArrays.managerRow, LanArrays.testRow, managerRow, testRow,
        eq_comm (a := none), Option.map_eq_none_iff, and_self]
      exact ⟨fun h => ⟨h, fun t ht => nomatch ht⟩, fun h => h.1⟩
  | some t =>
      rw [← haddressType, ← h4, ← h6, ← huser]
      constructor
      · rintro ⟨hmanager, htest⟩
        -- the object has this type, and `getManagers` can read the section
        have hpad : (raw.pad n).typeArr[i]? = some t := by
          have htypes := congrArg (Option.map TestRow.type) htest
          simpa only [testRowOf, hi, LanArrays.testRow, testRow, Option.map_map, Option.map_some,
            Function.comp_def, Option.map_id', eq_comm] using htypes
        refine ⟨hpad.symm, fun t' ht' => ?_⟩
        cases ht'
        cases htrap : readTrapConfig stray with
        | error e =>
            rw [htrap, LanArrays.managerRow, managerRow, hpad] at hmanager
            cases hmanager
        | ok trap =>
            obtain ⟨htype', haddressType', h4', h6', huser'⟩ := trapConfig_at htrap i
            rw [htrap] at hmanager
            rw [testRow_of_trapConfig htrap] at htest
            have hrest := (rows_eq_iff (htype'.trans hi) hpad).mp ⟨hmanager, htest⟩
            rw [haddressType', h4', h6', huser'] at hrest
            exact ⟨⟨trap, rfl⟩, hrest⟩
      · rintro ⟨hpad, hrest⟩
        obtain ⟨⟨trap, htrap⟩, hrest⟩ := hrest t rfl
        obtain ⟨htype', haddressType', h4', h6', huser'⟩ := trapConfig_at htrap i
        rw [htrap, testRow_of_trapConfig htrap]
        refine (rows_eq_iff (htype'.trans hi) hpad.symm).mpr ?_
        rw [haddressType', h4', h6', huser']
        exact hrest

/-! ## What is loaded -/

theorem getInt_of_getUnsigned {v : Json} {n : U8} (h : v.getUnsigned 8 = .ok n) :
    ∃ count, v.getInt = .ok count := by
  cases v with
  | num i => exact ⟨_, rfl⟩
  | bool b => exact ⟨_, rfl⟩
  | real q =>
      simp only [Json.getUnsigned] at h
      split at h
      · next hq =>
          refine ⟨Json.truncate q, if_pos ?_⟩
          omega
      · cases h
  | _ => cases h

theorem ArraysReadable.readLanParam {cfg : Json} (h : ArraysReadable cfg) :
    ∃ p, readLanParam cfg = .ok (some p) ∧ p.arrays.isSome = true := by
  obtain ⟨hflat, ⟨community, hcommunity⟩, n, raw, hraw⟩ := h
  have hcount : ∃ count, cfg.value "NumberofDestinations" Json.getInt 0 = .ok count := by
    have hn := hraw.destCount
    obtain ⟨ms, rfl⟩ := obj_of_value_eq_ok hn
    simp only [Json.value] at hn ⊢
    cases hv : ms.lookup "NumberofDestinations" with
    | none => exact ⟨0, rfl⟩
    | some v =>
        rw [hv] at hn
        exact getInt_of_getUnsigned hn
  obtain ⟨count, hcount⟩ := hcount
  exact ⟨⟨community, BitVec.ofInt 8 count, some (raw.pad n)⟩,
    readLanParam_eq_some.mpr ⟨hcommunity, ⟨count, hcount, rfl⟩,
      arraysOf_eq_some.mpr ⟨hflat, n, raw, hraw, rfl⟩⟩, rfl⟩

theorem exposedArrays_of_load {f : LanFiles} {objects : List (String × Option LanParam)}
    (h : parseLanConf f = .ok objects) {iface : String} {a : LanArrays}
    (ha : exposedArrays objects iface = some a) :
    Loadable f iface ∧ ∃ n raw, ArraysRead (lanConfig f iface) n raw ∧ a = raw.pad n := by
  obtain ⟨hnames, hall⟩ := parseLanConf_eq_ok.mp h
  obtain ⟨p, hp, ha⟩ := Option.bind_eq_some_iff.mp ha
  have hmem := Members.mem_of_lookup (Option.join_eq_some_iff.mp hp)
  have hread : readLanParam (lanConfig f iface) = .ok (some p) := hall _ hmem
  obtain ⟨hflat, raw, hraw, rfl⟩ := arrays_of_read hread ha
  have hcommunity := (readLanParam_eq_some.mp hread).1
  exact ⟨⟨⟨_, hnames, List.mem_map_of_mem hmem⟩, hflat, ⟨_, hcommunity⟩, _, raw, hraw⟩,
    _, raw, hraw, rfl⟩

theorem exposedArrays_isSome {f : LanFiles} {objects : List (String × Option LanParam)}
    (h : parseLanConf f = .ok objects) {iface : String} (hload : Loadable f iface) :
    (exposedArrays objects iface).isSome = true := by
  obtain ⟨hnames, hall⟩ := parseLanConf_eq_ok.mp h
  obtain ⟨⟨ifaces, hifaces, hmem⟩, hsection⟩ := hload
  cases hnames.symm.trans hifaces
  cases hlookup : objects.lookup iface with
  | none => exact absurd hmem (Members.lookup_eq_none.mp hlookup)
  | some object =>
      obtain ⟨p, hp, harrays⟩ := hsection.readLanParam
      have hread : readLanParam (lanConfig f iface) = .ok object :=
        hall _ (Members.mem_of_lookup hlookup)
      cases hread.symm.trans hp
      rw [exposedArrays, hlookup]
      exact harrays

theorem lanDataOfFile_of_shared {shared : Option Json} {iface : String} {data : Json}
    (h : sharedSection shared iface = some data) : lanDataOfFile shared iface = data := by
  cases shared with
  | none => cases h
  | some doc =>
      rw [sharedSection_eq] at h
      unfold lanDataOfFile
      unfold interfacesOf at h
      cases hfind : doc.find? "Interfaces" with
      | none =>
          simp only [hfind] at h
          simp only [hfind, h, Option.getD_some]
      | some v =>
          cases v with
          | obj ms =>
              simp only [hfind] at h
              simp only [hfind, h]
          | _ =>
              simp only [hfind] at h
              simp only [hfind, h, Option.getD_some]

theorem fileConfig_of_shared {f : LanFiles} {iface : String} {data : Json}
    (h : sharedSection f.shared iface = some data)
    (hflat : hasFlatArrays (lanConfig f iface) = true) :
    fileConfig f.shared iface = some (lanConfig f iface) := by
  have hfile : fileConfig f.shared iface = configOf (some data) := by
    rw [fileConfig, lanDataOfFile_of_shared h]
    rfl
  rw [lanConfig_of_shared h] at hflat ⊢
  rw [hfile]
  cases hfind : configOf (some data) with
  | some cfg => rfl
  | none =>
      rw [hfind] at hflat
      cases hflat

section Cases

variable {f : LanFiles} {iface : String} {i : Nat}

theorem covered_of_absent (hload : ¬ Loadable f iface) :
    Covered f iface i ↔
      (fileConfig f.shared iface).bind (fun cfg => byteAt cfg "Type" i) = none := by
  constructor
  · intro h
    exact h.absent hload
  · intro h
    exact ⟨fun _ => h, fun hl => absurd hl hload, fun hl => absurd hl hload⟩

theorem covered_of_shared (hload : Loadable f iface)
    (hshared : (sharedSection f.shared iface).isSome = true) :
    Covered f iface i ↔ RowComplete (lanConfig f iface) i := by
  constructor
  · intro h
    exact h.complete hload hshared
  · intro h
    refine ⟨fun hl => absurd hload hl, fun _ _ => h, fun _ hnone => ?_⟩
    rw [hnone] at hshared
    cases hshared

theorem covered_of_legacy (hload : Loadable f iface)
    (hshared : sharedSection f.shared iface = none) :
    Covered f iface i ↔
      match fileConfig f.shared iface with
      | none => filledByteAt (lanConfig f iface) "Type" 0 i = none
      | some stray => SaysFilled stray (lanConfig f iface) i := by
  constructor
  · intro h
    exact h.legacy hload hshared
  · intro h
    refine ⟨fun hl => absurd hload hl, fun _ hsome => ?_, fun _ _ => h⟩
    rw [hshared] at hsome
    cases hsome

end Cases

/-- For any files that load, any interface and any index: both functions find in the
file the destination that the object exposes, exactly when it is covered. -/
theorem oneTable_iff_covered (f : LanFiles) (objects : List (String × Option LanParam))
    (h : parseLanConf f = .ok objects) (iface : String) (i : Nat) :
    OneTable f objects iface i ↔ Covered f iface i := by
  unfold OneTable fileManagerRow fileTrapConfig fileTestRow
  cases hexposed : exposedArrays objects iface with
  | none =>
      have hload : ¬ Loadable f iface := by
        intro hload
        have hsome := exposedArrays_isSome h hload
        rw [hexposed] at hsome
        cases hsome
      rw [covered_of_absent hload]
      cases hcfg : fileConfig f.shared iface with
      | none => exact iff_of_true ⟨rfl, rfl⟩ rfl
      | some cfg =>
          simp only [Option.bind_some, Option.bind_none]
          constructor
          · intro hrows
            exact Option.map_eq_none_iff.mp hrows.2
          · intro hnone
            exact ⟨managerRow_of_byteAt hnone, Option.map_eq_none_iff.mpr hnone⟩
  | some a =>
      -- the object comes from its section
      obtain ⟨hload, n, raw, hraw, rfl⟩ := exposedArrays_of_load h hexposed
      obtain ⟨community, hcommunity⟩ := hload.2.community
      simp only [Option.bind_some]
      cases hshared : sharedSection f.shared iface with
      | some data =>
          rw [covered_of_shared hload (Option.isSome_of_eq_some hshared),
            fileConfig_of_shared hshared hload.2.flat]
          exact rows_eq_iff_complete hload.2.flat hraw hcommunity i
      | none =>
          rw [covered_of_legacy hload hshared]
          cases hcfg : fileConfig f.shared iface with
          | some stray => exact rows_eq_iff_saysFilled hraw i
          | none =>
              rw [← filledByteAt_eq hraw.destCount hraw.typeArr 0 i]
              simp only [Option.bind_none, LanArrays.managerRow, LanArrays.testRow, managerRow,
                testRow, eq_comm (a := none), Option.map_eq_none_iff, and_self]
              exact Iff.rfl

/-- A complete section in the shared file gives one table. -/
theorem complete_section_oneTable :
    OneTable (sampleFiles (some (.obj [("eth0", sampleConfig)]))) [("eth0", some sampleParam)]
      "eth0" 0 := by
  refine (oneTable_iff_covered (sampleFiles (some (.obj [("eth0", sampleConfig)])))
    [("eth0", some sampleParam)] rfl "eth0" 0).mpr ?_
  have hunpadded : ∀ key ∈ ["Type", "AddressType", "IPv4", "IPv6", "UserName"],
      Unpadded (lanConfig (sampleFiles (some (.obj [("eth0", sampleConfig)]))) "eth0") key 0 := by
    intro key hkey
    refine .inl ?_
    revert key
    decide
  have hrow : RowComplete (lanConfig (sampleFiles (some (.obj [("eth0", sampleConfig)]))) "eth0") 0 :=
    ⟨hunpadded _ (by decide), fun t _ => ⟨⟨.inl rfl, hunpadded _ (by decide)⟩,
      fun _ => ⟨fun _ => hunpadded _ (by decide), fun _ => hunpadded _ (by decide)⟩,
      fun _ => hunpadded _ (by decide)⟩⟩
  have hparse : parseLanConf (sampleFiles (some (.obj [("eth0", sampleConfig)]))) =
      .ok [("eth0", some sampleParam)] := rfl
  have hexposed : exposedArrays [("eth0", some sampleParam)] "eth0" = sampleParam.arrays := rfl
  have hload := (exposedArrays_of_load hparse hexposed).1
  exact (covered_of_shared hload rfl).mpr hrow

/-- A destination in a legacy file is exposed, and found by neither function. -/
theorem legacy_destination_hidden :
    parseLanConf (sampleFiles none) = .ok [("eth0", some sampleParam)] ∧
      ¬ OneTable (sampleFiles none) [("eth0", some sampleParam)] "eth0" 0 := by
  refine ⟨rfl, fun hsame => ?_⟩
  have hrow : none = sampleParam.arrays.bind fun a => a.testRow 0 := hsame.2
  exact absurd hrow (by decide)

end Pef
