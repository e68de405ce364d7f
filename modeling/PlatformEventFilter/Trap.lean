/-
# `Trap` — sending a trap

`sendOBMCErrorNotification` and `dispatchTestDestination`, down to the calls of
the SNMP library.

    getTrapEnabled          from the text of the status file
    getSNMPDisableStatus    from the text of snmp.conf
    getManagers             at most one manager, from the shared LAN file
    sendTrap                a session and a PDU for each manager

Files, D-Bus and the library are asked as in `Dbus`; the calls made for a
manager carry its position.  The library is modelled by what its calls return,
`snmp_add` by whether there is a session.
-/
import PlatformEventFilter.Alert
import PlatformEventFilter.Lan

namespace Pef

/-! ## The library -/

/-- A row of the manager list. -/
structure ManagerProperty where
  ipaddress : String
  version : String
  community : String
  userName : String
  algorithm : String
  encryption : String
  password : String
  deriving DecidableEq, Repr

inductive SnmpVersion where
  | SNMP_VERSION_1
  | SNMP_VERSION_2c
  | SNMP_VERSION_3
  deriving DecidableEq, Repr

inductive AuthProto where
  | usmHMAC256SHA384AuthProtocol
  | usmHMAC384SHA512AuthProtocol
  | SNMP_DEFAULT_AUTH_PROTO
  deriving DecidableEq, Repr

inductive PrivProto where
  | usmAES256PrivProtocol
  | SNMP_DEFAULT_PRIV_PROTO
  deriving DecidableEq, Repr

/-- The fields of a session that are set. -/
structure Session where
  peername : String
  localname : String
  version : SnmpVersion
  community : String
  securityName : String
  securityEngineID : List U8
  securityAuthProto : AuthProto
  securityAuthKey : List U8
  securityPrivProto : PrivProto
  securityPrivKey : List U8
  deriving DecidableEq, Repr

inductive AsnType where
  | ASN_INTEGER
  | ASN_UNSIGNED
  | ASN_OPAQUE_U64
  | ASN_OCTET_STR
  deriving DecidableEq, Repr

/-- The variant of the values of a trap. -/
inductive TrapValue where
  | u32 (x : BitVec 32)
  | u64 (x : BitVec 64)
  | i32 (x : Int)
  | str (s : String)
  deriving DecidableEq, Repr

def getASNType : TrapValue → AsnType
  | .u32 _ => .ASN_UNSIGNED
  | .u64 _ => .ASN_OPAQUE_U64
  | .i32 _ => .ASN_INTEGER
  | .str _ => .ASN_OCTET_STR

/-- A variable of a trap. -/
structure TrapObject where
  oid : List Nat
  type : AsnType
  value : TrapValue
  deriving DecidableEq, Repr

inductive PduCommand where
  | SNMP_MSG_TRAP
  | SNMP_MSG_TRAP2
  deriving DecidableEq, Repr

structure Pdu where
  command : PduCommand
  uptime : String
  trapOID : List Nat
  objects : List TrapObject
  deriving DecidableEq, Repr

/-- One of the two keys of a session. -/
inductive KeyUse where
  | auth
  | priv
  deriving DecidableEq, Repr

/-! ## Calls -/

/-- What the notification asks the rest of the system. -/
inductive SnmpCall where
  /-- the text of `SnmpTrapStatus` -/
  | trapStatusFile
  /-- the text of `snmp.conf` -/
  | snmpConfFile
  /-- `sdbusplus::bus::new_default` -/
  | newDefaultBus
  /-- `GetChannelInterfaceMap` -/
  | channelInterfaceMap
  /-- the shared LAN file -/
  | lanParamConfFile
  /-- `GetAll` of an SNMP user -/
  | snmpUser (userName : String)
  /-- `decryptString` -/
  | decryptString (text : String)
  /-- the members of the group `snmp` -/
  | snmpGroup (manager : Nat)
  /-- `snmpv3_get_engineID` -/
  | engineID (manager : Nat)
  /-- `generate_Ku` -/
  | generateKu (manager : Nat) (use : KeyUse) (proto : AuthProto) (password : String)
  /-- `snmp_add` -/
  | snmpAdd (manager : Nat) (session : Session)
  /-- `snmp_pdu_create` -/
  | pduCreate (manager : Nat) (command : PduCommand)
  /-- `getSystemUptimeTicks` -/
  | uptimeTicks (manager : Nat)
  /-- `snmp_add_var` of the uptime -/
  | addUptime (manager : Nat) (uptime : String)
  /-- `snmp_pdu_add_variable` of the trap OID -/
  | addTrapOID (manager : Nat) (oid : List Nat)
  /-- `snmp_pdu_add_variable` of a variable -/
  | addVariable (manager : Nat) (object : TrapObject)
  /-- `snmp_send` -/
  | snmpSend (manager : Nat) (session : Session) (pdu : Pdu)
  /-- `GetChannelInterfaceMap`, for a test -/
  | testChannelMap
  /-- the shared LAN file, for a test -/
  | testLanParamConfFile
  /-- `getTestTimestamp` -/
  | testTimestamp
  /-- `SMTPMailID` of a user, for a test -/
  | testMailID (objPath : String)
  /-- `ForgotPassSendMail` -/
  | testMail (mailId subject body : String)
  deriving DecidableEq, Repr

@[reducible] def SnmpCall.Answer : SnmpCall → Type
  | trapStatusFile => Option String
  | snmpConfFile => Option String
  | newDefaultBus => Option Unit
  | channelInterfaceMap => Option (List (U8 × String))
  | lanParamConfFile => Option Json
  | snmpUser _ => Option PropertyMap
  | decryptString _ => String
  | snmpGroup _ => List String
  | engineID _ => List U8
  | generateKu .. => Option (List U8)
  | snmpAdd .. => Bool
  | pduCreate .. => Bool
  | uptimeTicks _ => Nat
  | addUptime .. => Bool
  | addTrapOID .. => Bool
  | addVariable .. => Bool
  | snmpSend .. => Bool
  | testChannelMap => Option (List (U8 × String))
  | testLanParamConfFile => Option Json
  | testTimestamp => String
  | testMailID _ => Option Variant
  | testMail .. => Option Unit

abbrev SnmpEnv := (q : SnmpCall) → q.Answer

abbrev SnmpProg (α : Type) := Ask SnmpCall.Answer CxxException α

/-- Make a call. -/
abbrev snmpCall (q : SnmpCall) : SnmpProg q.Answer := Ask.ask q

/-! ## The status files -/

/-- The white space of the C locale. -/
def isSpace (c : Char) : Bool :=
  c = ' ' || c = '\t' || c = '\n' || c = '\u000b' || c = '\u000c' || c = '\r'

/-- `stream >> std::boolalpha >> status`, false when that fails. -/
def readBoolAlpha (text : List Char) : Bool :=
  "true".toList.isPrefixOf (text.dropWhile isSpace)

def getTrapEnabled (statusFile : Option String) : Bool :=
  match statusFile with
  | none => false
  | some text => readBoolAlpha text.toList

/-- What `lineStream >> word` reads one after the other. -/
def tokens (line : List Char) : List String :=
  ((line.splitOnP isSpace).filter (· ≠ [])).map String.ofList

/-- The version a key of snmp.conf is about. -/
def disableKey (key : String) : String :=
  if key = "disableSNMPv1" then "v1"
  else if key = "disableSNMPv2c" then "v2c"
  else if key = "disableSNMPv3" then "v3"
  else key

/-- One line of snmp.conf. -/
def readConfLine (disableStatus : List (String × Bool)) (line : List Char) :
    List (String × Bool) :=
  match tokens line with
  | key :: value :: _ =>
      let key := disableKey key
      if key = "v1" ∨ key = "v2c" ∨ key = "v3" then
        Members.assign key (value = "1" || value = "true" || value = "yes") disableStatus
      else disableStatus
  | _ => disableStatus

def getSNMPDisableStatus (confFile : Option String) : List (String × Bool) :=
  let disableStatus := [("v1", false), ("v2c", false), ("v3", false)]
  match confFile with
  | none => disableStatus
  | some text => (text.toList.splitOn '\n').foldl readConfLine disableStatus

/-! ## The manager of a destination -/

def SNMP_TRAP_PORT : Nat := 162

def formatPeerAddress (address : String) (addressType : U8) : String :=
  if address = "" then ""
  else if (addressType = 1 ∧ address = "0.0.0.0") ∨
      (addressType = 2 ∧ address = "0000:0000:0000:0000:0000:0000:0000:0000") then ""
  else if addressType = 2 ∧ address.toList.head? ≠ some '[' then
    "[" ++ address ++ "]:" ++ toString SNMP_TRAP_PORT
  else address ++ ":" ++ toString SNMP_TRAP_PORT

/-- The LAN channels of the map the call returns, none when it fails. -/
def snmpEthChannelInterfaceMap : SnmpProg EthChannelMap := do
  let channelMap ← snmpCall .channelInterfaceMap
  match channelMap with
  | none => pure []
  | some channelMap => pure (channelMap.filter fun p => startsWith p.2 "eth")

/-- The section of an interface in the shared file, null when there is none. -/
def lanDataOfFile (mergedData : Option Json) (iface : String) : Json :=
  match mergedData with
  | none => .null
  | some mergedData =>
      match (match mergedData.find? "Interfaces" with
        | some (.obj ms) => ms.lookup iface
        | _ => none) with
      | some lanData => lanData
      | none => (mergedData.find? iface).getD .null

/-- The parameters of an interface as the notification reads them. -/
structure TrapConfig where
  type : List U8
  addressType : List U8
  ipv4 : List String
  ipv6 : List String
  userName : List String
  community : String
  deriving DecidableEq, Repr

def readTrapConfig (cfg : Json) : Except Json.Error TrapConfig := do
  let type ← ((arrayAt cfg "Type").getD []).mapM getByte
  let addressType ← ((arrayAt cfg "AddressType").getD []).mapM getByte
  let ipv4 ← readStrings cfg "IPv4"
  let ipv6 ← readStrings cfg "IPv6"
  let userName ← readStrings cfg "UserName"
  let community ← cfg.value "CommunityString" Json.getString ""
  pure ⟨type, addressType, ipv4, ipv6, userName, community⟩

/-- Type and peer of the destination at the selector. -/
def selectedPeer (cfg : TrapConfig) (destinationSel : U8) : Option (Nat × U8 × String) := do
  -- a `size_t`, so that 0 becomes the largest one
  let selectedIndex := if destinationSel = 0 then 2 ^ 64 - 1 else destinationSel.toNat - 1
  let typeValue ← cfg.type[selectedIndex]?
  let addressTypeValue ← cfg.addressType[selectedIndex]?
  let rawAddress ←
    if typeValue = 3 then none
    else if addressTypeValue = 1 then cfg.ipv4[selectedIndex]?
    else if addressTypeValue = 2 then cfg.ipv6[selectedIndex]?
    else none
  let peer := formatPeerAddress rawAddress addressTypeValue
  if peer = "" then none else some (selectedIndex, typeValue, peer)

/-- Algorithm, encryption and password of an SNMP user. -/
def loadSnmpV3UserFromDBus (userName : String) : SnmpProg (Option (String × String × String)) := do
  let userProps ← snmpCall (.snmpUser userName)
  match userProps with
  | none => pure none
  | some userProps =>
      match (do
        let algorithm ← (← userProps.at "Algorithm").getStr
        let encryption ← (← userProps.at "Encryption").getStr
        let encryptedPassword ← (← userProps.at "Password").getStr
        pure (algorithm, encryption, encryptedPassword) :
          Except CxxException (String × String × String)) with
      | .error _ => pure none
      | .ok (algorithm, encryption, encryptedPassword) => do
          let password ← snmpCall (.decryptString encryptedPassword)
          pure (if password = "" then none else some (algorithm, encryption, password))

/-- The manager for the type and the peer of the destination at an index. -/
def managersOfPeer (cfg : TrapConfig) :
    Option (Nat × U8 × String) → SnmpProg (List ManagerProperty)
  | none => pure []
  | some (selectedIndex, typeValue, peer) =>
      if typeValue = 0 ∨ typeValue = 1 then
        pure (if cfg.community = "" then []
          else [⟨peer, if typeValue = 0 then "v1" else "v2c", cfg.community, "", "", "", ""⟩])
      else if typeValue = 2 then
        match cfg.userName[selectedIndex]? with
        | none => pure []
        | some selectedUserName =>
            if selectedUserName = "" then pure []
            else do
              let user ← loadSnmpV3UserFromDBus selectedUserName
              match user with
              | none => pure []
              | some (algorithm, encryption, password) =>
                  pure [⟨peer, "v3", "", selectedUserName, algorithm, encryption, password⟩]
      else pure []

/-- The manager of the destination at the selector. -/
def managersOf (cfg : TrapConfig) (destinationSel : U8) : SnmpProg (List ManagerProperty) :=
  managersOfPeer cfg (selectedPeer cfg destinationSel)

def getManagers (channelNoFilter destinationSelFilter : Option U8) :
    SnmpProg (List ManagerProperty) := do
  let bus ← snmpCall .newDefaultBus
  match bus with
  | none => Ask.raise .sdbusplus
  | some () => do
      let ethMap ← snmpEthChannelInterfaceMap
      match channelNoFilter.bind fun channelNo => ethMap.lookup channelNo with
      | none => pure []
      | some iface => do
          let mergedData ← snmpCall .lanParamConfFile
          match (lanDataOfFile mergedData iface).find? "Config" with
          | none => pure []
          | some cfg =>
              -- the exceptions of the reading are handled by `getManagers`
              match readTrapConfig cfg, destinationSelFilter with
              | .ok cfg, some destinationSel => managersOf cfg destinationSel
              | _, _ => pure []

/-! ## The trap -/

/-- The text behind the last colon. -/
def afterLastColon (s : String) : String :=
  String.ofList (s.toList.reverse.takeWhile (· ≠ ':')).reverse

namespace OBMCErrorNotification

def getTrapOID : List Nat := [1, 3, 6, 1, 4, 1, 49871, 1, 0, 0, 1]

/-- One variable of the trap. -/
def field (k : Nat) (value : TrapValue) : TrapObject :=
  ⟨[1, 3, 6, 1, 4, 1, 49871, 1, 0, 1, k], getASNType value, value⟩

def getFieldOIDList (a : SnmpAlert) : List TrapObject :=
  [field 1 (.u32 (a.id.setWidth 32)), field 2 (.str a.ts), field 3 (.str a.eventID),
   field 4 (.str a.sev), field 5 (.str a.msg), field 6 (.str a.ip),
   field 7 (.str a.eventStatus), field 8 (.str a.eventSubjectSN), field 9 (.str a.addData)]

end OBMCErrorNotification

/-- Add a variable to the PDU, which throws when type and value do not fit. -/
def addPDUVar (manager : Nat) (object : TrapObject) : SnmpProg Bool :=
  if getASNType object.value = object.type then snmpCall (.addVariable manager object)
  else Ask.raise .badVariantAccess

/-- Add variables until one fails. -/
def addPDUVars (manager : Nat) : List TrapObject → SnmpProg Bool
  | [] => pure true
  | object :: objectList => do
      let added ← addPDUVar manager object
      if added then addPDUVars manager objectList else pure false

def authProtoOf (algorithm : String) : AuthProto :=
  if algorithm = "SHA-384" then .usmHMAC256SHA384AuthProtocol
  else if algorithm = "SHA-512" then .usmHMAC384SHA512AuthProtocol
  else .SNMP_DEFAULT_AUTH_PROTO

def privProtoOf (encryption : String) : PrivProto :=
  if encryption = "AES" then .usmAES256PrivProtocol else .SNMP_DEFAULT_PRIV_PROTO

/-- A session with nothing but the two addresses and the version. -/
def plainSession (m : ManagerProperty) (bmcIPAddress : String) (version : SnmpVersion) : Session :=
  ⟨m.ipaddress, bmcIPAddress, version, "", "", [], .SNMP_DEFAULT_AUTH_PROTO, [],
    .SNMP_DEFAULT_PRIV_PROTO, []⟩

/-- The session of a manager, none when the manager is skipped. -/
def sessionFor (manager : Nat) (m : ManagerProperty) (bmcIPAddress : String) :
    SnmpProg (Option Session) :=
  if m.version = "v1" then
    pure (some { plainSession m bmcIPAddress .SNMP_VERSION_1 with community := m.community })
  else if m.version = "v2c" then
    pure (some { plainSession m bmcIPAddress .SNMP_VERSION_2c with community := m.community })
  else if m.version = "v3" then do
    let members ← snmpCall (.snmpGroup manager)
    if m.userName ∉ members then pure none
    else do
      let engineID ← snmpCall (.engineID manager)
      let proto := authProtoOf m.algorithm
      let authKey ← snmpCall (.generateKu manager .auth proto m.password)
      match authKey with
      | none => pure none
      | some authKey => do
          let privKey ← snmpCall (.generateKu manager .priv proto m.password)
          match privKey with
          | none => pure none
          | some privKey =>
              pure (some { plainSession m bmcIPAddress .SNMP_VERSION_3 with
                securityName := m.userName
                securityEngineID := engineID
                securityAuthProto := proto
                securityAuthKey := authKey
                securityPrivProto := privProtoOf m.encryption
                securityPrivKey := privKey })
  else pure none

def commandOf (version : String) : PduCommand :=
  if version = "v1" then .SNMP_MSG_TRAP else .SNMP_MSG_TRAP2

/-- The body of the manager loop of `sendTrap`; whether the PDU is sent. -/
def sendToManager (a : SnmpAlert) (disableStatus : List (String × Bool)) (bmcIPAddress : String)
    (manager : Nat) (m : ManagerProperty) : SnmpProg Bool :=
  if (disableStatus.lookup m.version).getD false then pure false
  else do
    let session ← sessionFor manager m bmcIPAddress
    match session with
    | none => pure false
    | some session => do
        let added ← snmpCall (.snmpAdd manager session)
        if !added then pure false
        else do
          let created ← snmpCall (.pduCreate manager (commandOf m.version))
          if !created then pure false
          else do
            let uptime ← snmpCall (.uptimeTicks manager)
            let timed ← snmpCall (.addUptime manager (toString uptime))
            if !timed then pure false
            else do
              let named ← snmpCall (.addTrapOID manager OBMCErrorNotification.getTrapOID)
              if !named then pure false
              else do
                let objectList := OBMCErrorNotification.getFieldOIDList a
                let allFieldsAdded ← addPDUVars manager objectList
                if !allFieldsAdded then pure false
                else snmpCall (.snmpSend manager session
                  ⟨commandOf m.version, toString uptime, OBMCErrorNotification.getTrapOID,
                    objectList⟩)

/-- The manager loop; whether one PDU is sent. -/
def sendToManagers (a : SnmpAlert) (disableStatus : List (String × Bool)) (bmcIPAddress : String) :
    Nat → List ManagerProperty → SnmpProg Bool
  | _, [] => pure false
  | manager, m :: managers => do
      let sent ← sendToManager a disableStatus bmcIPAddress manager m
      let sentLater ← sendToManagers a disableStatus bmcIPAddress (manager + 1) managers
      pure (sent || sentLater)

def sendTrap (a : SnmpAlert) (channelNoFilter destinationSelFilter : Option U8) :
    SnmpProg Bool := do
  let statusFile ← snmpCall .trapStatusFile
  if !getTrapEnabled statusFile then pure false
  else do
    let bmcIPAddress := afterLastColon a.eventSubjectSN
    let confFile ← snmpCall .snmpConfFile
    let managers ← Ask.catching
      (do let managers ← getManagers channelNoFilter destinationSelFilter; pure (some managers))
      fun _ => some (pure none)
    match managers with
    | none => pure false
    | some managers => sendToManagers a (getSNMPDisableStatus confFile) bmcIPAddress 0 managers

def sendOBMCErrorNotification (a : SnmpAlert) : SnmpProg Bool :=
  sendTrap a (some a.channelNo) (some a.destinationSel)

/-! ## Test alerts -/

def getInterfaceNameForChannelForTest (channelNo : U8) : SnmpProg (Option String) := do
  let channelMap ← snmpCall .testChannelMap
  pure ((channelMap.bind fun channelMap => channelMap.lookup channelNo).filter isEthInterfaceName)

def getSmtpMailIDForTest (selectedUserName : String) : SnmpProg (Option String) :=
  if selectedUserName = "" then pure none
  else do
    let variant ← snmpCall (.testMailID (userObjPathPrefix ++ selectedUserName))
    pure (variant.map Variant.getOnlyStr)

def sendTestMailForDestination (mailId : String) (channelNo destinationSel : U8) :
    SnmpProg Bool :=
  if mailId = "" then pure false
  else do
    let reply ← snmpCall (.testMail mailId "PEF Test Alert"
      ("PEF test alert triggered for channel " ++ toString channelNo.toNat ++ " destination " ++
        toString destinationSel.toNat))
    pure reply.isSome

/-- The notification of a test. -/
def testAlert (timestamp : String) (channelNo destinationSel : U8) : SnmpAlert where
  id := 0xFFFF
  ts := timestamp
  sev := "Information"
  msg := "PEF SNMP test notification"
  eventID := "PEFTestEvent"
  eventStatus := "Asserted"
  eventSubjectSN := ""
  addData := ""
  ip := "PEF_SNMP_TEST"
  channelNo := channelNo
  destinationSel := destinationSel

/-- The SMTP branch of `dispatchTestDestination`. -/
def dispatchTestMail (cfg : Json) (selectedIndex : Nat) (channelNo destinationSel : U8) :
    SnmpProg Bool :=
  match (arrayAt cfg "UserName").bind (·[selectedIndex]?) with
  | none => pure false
  | some user =>
      match user.getString with
      -- an exception, handled by `dispatchTestDestination`
      | .error _ => pure false
      | .ok selectedUser => do
          let smtpMailId ← getSmtpMailIDForTest selectedUser
          sendTestMailForDestination (smtpMailId.getD "") channelNo destinationSel

def dispatchTestDestination (channelNo destinationSel : U8) : SnmpProg Bool :=
  if destinationSel = 0 then pure false
  else do
    let ifaceName ← getInterfaceNameForChannelForTest channelNo
    match ifaceName with
    | none => pure false
    | some ifaceName => do
        let mergedData ← snmpCall .testLanParamConfFile
        match (lanDataOfFile mergedData ifaceName).find? "Config" with
        | none => pure false
        | some cfg =>
            let selectedIndex := destinationSel.toNat - 1
            match (arrayAt cfg "Type").bind (·[selectedIndex]?) with
            | none => pure false
            | some v =>
                match getByte v with
                | .error _ => pure false
                | .ok destinationType =>
                    if destinationType ≤ 2 then do
                      let timestamp ← snmpCall .testTimestamp
                      sendOBMCErrorNotification (testAlert timestamp channelNo destinationSel)
                    else if destinationType = 3 then
                      dispatchTestMail cfg selectedIndex channelNo destinationSel
                    else pure false

end Pef
