/-
# `Alert` — looking up policies, and sending one alert

The helpers `performPefAction` calls for an alert.

    checkAlertPoicyTbl   the enabled rows of a policy group, over all objects
    PEFActionSELLOG      the log entry of an action
    sendSNMPAlert        a trap, or a place in the retry queue
    getSmtpMailID        the mail address of a user
    sendSmtpAlert        a mail, or a place in the retry queue

`retryEnable` is the global flag of that name.  A status of `-1` is `0xFFFF`,
the return type being unsigned.  Which exceptions a helper handles is read off
its `try` blocks: a call outside of them ends the whole run when it fails.
-/
import PlatformEventFilter.Dbus

namespace Pef

/-! ## Reading a policy object -/

/-- A column that may be absent, read as bytes. -/
def readU8s (values : PropertyMap) (name : String) : Except CxxException (Option (List U8)) :=
  match values.lookup name with
  | none => .ok none
  | some v => v.asArrays.getU8s.map some

/-- A column that may be absent, read as strings. -/
def readStrs (values : PropertyMap) (name : String) :
    Except CxxException (Option (List String)) :=
  match values.lookup name with
  | none => .ok none
  | some v => v.asArrays.getStrs.map some

/-- The columns of a policy object as the process reads them. -/
structure PolicyColumns where
  groupNums : List U8
  enableAlert : Option (List U8)
  policyAction : Option (List U8)
  channelNo : Option (List U8)
  destinationSel : Option (List U8)
  eventSpecificAlertStr : Option (List String)
  deriving DecidableEq, Repr

def readPolicyColumns (values : PropertyMap) : Except CxxException PolicyColumns := do
  let groupNums ← (← values.at "AlertPolicyGroupNum").asArrays.getU8s
  let enableAlert ← readU8s values "EnableAlert"
  let policyAction ← readU8s values "PolicyAction"
  let channelNo ← readU8s values "ChannelNo"
  let destinationSel ← readU8s values "DestinationSel"
  let eventSpecificAlertStr ← readStrs values "EventSpecificAlertStr"
  pure ⟨groupNums, enableAlert, policyAction, channelNo, destinationSel, eventSpecificAlertStr⟩

/-- Cell `idx` of a column, the default when the column is absent or too short. -/
def cellAt {α : Type} (column : Option (List α)) (d : α) (idx : Nat) : α :=
  (column.bind (·[idx]?)).getD d

/-- `EnableAlert` of row `idx` is 1, or there is no such column. -/
def enabledAt (cols : PolicyColumns) (idx : Nat) : Bool :=
  match cols.enableAlert with
  | none => true
  | some vals => vals[idx]? = some 1

/-- Row `idx` as a policy of the group, if it is enabled and belongs to it. -/
def policyAt (alertPolicyNo : Int) (cols : PolicyColumns) (idx : Nat) : Option AlertPolicyTbl :=
  match cols.groupNums[idx]? with
  | none => none
  | some groupNum =>
      if !enabledAt cols idx then none
      else if groupNum ≠ BitVec.ofInt 8 alertPolicyNo then none
      else some
        { AlertPolicyGroupNum := groupNum
          EnableAlert := cellAt cols.enableAlert 0 idx
          PolicyAction := cellAt cols.policyAction 0 idx
          ChannelNo := cellAt cols.channelNo 0 idx
          DestinationSel := cellAt cols.destinationSel 0 idx
          EventSpecificAlertStr := cellAt cols.eventSpecificAlertStr "" idx }

/-- The policies of the group in one object. -/
def policiesOf (alertPolicyNo : Int) (cols : PolicyColumns) : List AlertPolicyTbl :=
  (List.range cols.groupNums.length).filterMap (policyAt alertPolicyNo cols)

def alertPolicyTableObj : String := "/xyz/openbmc_project/PefAlertManager/AlertPolicyTable"

/-- The policies of the group in the object `policyObj`, none when the call
fails. -/
def policiesIn (alertPolicyNo : Int) (entryIdx pathIdx : Nat) (policyObj : String) :
    Prog (List AlertPolicyTbl) :=
  if !startsWith policyObj (alertPolicyTableObj ++ "/") then pure []
  else catchSdbusplus
    (do
      let values ← reply (← call (.alertPolicyProperties entryIdx pathIdx policyObj))
      let cols ← ofExcept (readPolicyColumns values)
      pure (policiesOf alertPolicyNo cols))
    (pure [])

/-- The policies of a group over all policy objects. -/
def checkAlertPoicyTbl (entryIdx : Nat) (alertPolicyNo : Int) : Prog (List AlertPolicyTbl) :=
  if alertPolicyNo ≤ 0 then pure []
  else do
    let policyObjs ← catchSdbusplus
      (do let policyObjs ← reply (← call (.alertPolicyPaths entryIdx)); pure policyObjs)
      (pure [])
    Ask.collectIdx (policiesIn alertPolicyNo entryIdx) policyObjs 0

/-! ## What an alert says -/

/-- Positions of the slashes of a string. -/
def slashes (path : String) : List Nat :=
  (List.range path.toList.length).filter fun i => path.toList[i]? = some '/'

/-- `rfind('/', pos)`. -/
def rfindSlash (path : String) (pos : Nat) : Option Nat :=
  ((slashes path).filter (· ≤ pos)).getLast?

/-- `x - y` of two `size_t`. -/
def sizeSub (x y : Nat) : Nat := (x + 2 ^ 64 - y) % 2 ^ 64

theorem sizeSub_of_le {x y : Nat} (hle : y ≤ x) (hx : x < 2 ^ 64) : sizeSub x y = x - y := by
  rw [sizeSub, show x + 2 ^ 64 - y = x - y + 2 ^ 64 by omega, Nat.add_mod_right,
    Nat.mod_eq_of_lt (by omega)]

/-- `substr(pos, count)`, for a start inside the string. -/
def substr (s : String) (pos count : Nat) : String :=
  String.ofList ((s.toList.drop pos).take count)

def retrieveSensorTypeFromPath (path : String) : String :=
  match rfindSlash path (2 ^ 64 - 1) with
  | none => path
  | some typeEnd =>
      match rfindSlash path (sizeSub typeEnd 1) with
      | none => path
      | some typeStart => substr path (typeStart + 1) (sizeSub typeEnd (typeStart + 1))

def getSensorNameFromPath (path : String) : String :=
  match rfindSlash path (2 ^ 64 - 1) with
  | none => path
  | some nameStart => substr path (nameStart + 1) (2 ^ 64 - 1)

def THRESHOLD_EVENT_TABLE : List (U8 × String) :=
  [(0x00, "lowerNonCritGoingLow"), (0x01, "lowerNonCritGoingHigh"),
   (0x02, "lowerCritGoingLow"), (0x03, "lowerCritGoingHigh"),
   (0x06, "upperNonCritGoingLow"), (0x07, "upperNonCritGoingHigh"),
   (0x08, "upperCritGoingLow"), (0x09, "upperCritGoingHigh")]

def SENSOR_SPECIFIC_EVENT_TABLE : List (U8 × List (U8 × String)) :=
  [(0x0C,
    [(0x00, "CorrectableECC"), (0x01, "UncorrectableECC"), (0x02, "Parity"),
     (0x03, "MemoryScrubFailed"), (0x04, "MemoryDeviceDisabled"),
     (0x05, "CorrectableECClogging"), (0x06, "PresenceDetected"),
     (0x07, "ConfigurationError"), (0x08, "Spare"), (0x09, "Throttled"),
     (0x0a, "CriticalOvertemp")]),
   (0x0D,
    [(0x00, "DrivePresent"), (0x01, "DriveFault"), (0x02, "PredictiveFailure"),
     (0x03, "HotSpare"), (0x04, "ParityCheck"), (0x05, "InCriticalArray"),
     (0x06, "InFailedArray"), (0x07, "RebuildInProgress"), (0x08, "RebuildAborted")]),
   (0x05,
    [(0x00, "GenChassisIntrusion"), (0x01, "DriveBayIntrusion"), (0x02, "IOCardAreaIntrusion"),
     (0x03, "ProcessorAreaIntrusion"), (0x04, "LanLost"), (0x05, "UnauthorizedDock"),
     (0x06, "FanAreaIntrusion")]),
   (0x07,
    [(0x00, "Ierr"), (0x01, "ThermalTrip"), (0x02, "Frb1"), (0x03, "Frb2"), (0x04, "Frb3"),
     (0x05, "ConfigurationError"), (0x06, "UncorrectableCpuComplexError"),
     (0x07, "ProcessorPresenceDetected"), (0x08, "ProcessorDisabled"),
     (0x09, "TerminatorPresenceDetected"), (0x0a, "ProcessorAutomaticallyThrottled"),
     (0x0b, "MachineCheckException"), (0x0c, "CorrectableMachineCheck")]),
   (0x10,
    [(0x00, "Correctablememoryerror"), (0x01, "Eventloggingdisabled"), (0x02, "Logareareset"),
     (0x03, "Alleventloggingdisabled"), (0x04, "Logfull"), (0x05, "Logalmostfull")]),
   (0x22,
    [(0x00, "S0_G0"), (0x01, "S1"), (0x02, "S2"), (0x03, "S3"), (0x04, "S4"), (0x05, "S5_G2"),
     (0x06, "S4_S5"), (0x07, "G3"), (0x08, "S1_S2_S3"), (0x09, "G1"), (0x0a, "S5"),
     (0x0b, "LegacyOn"), (0x0c, "LegacyOff"), (0x0e, "ACPI_Unknown")]),
   (0x23,
    [(0x00, "Timerexpired"), (0x01, "Hardreset"), (0x02, "Powerdown"), (0x03, "Powercycle"),
     (0x08, "Timerinterrupt")])]

def GENERIC_EVENT_TABLE : List (U8 × List (U8 × String)) :=
  [(0x07, [(0x00, "ActiveStateLow"), (0x01, "ActiveStateHigh")]),
   (0x01, [(0x00, "ActiveStateLow"), (0x01, "ActiveStateHigh")])]

/-- The codes of `EventTypeCode`. -/
def EventTypeCode.threshold : U8 := 0x1
def EventTypeCode.generic : U8 := 0x3
def EventTypeCode.sensor_specific : U8 := 0x6f

/-- The text for an event: the one it brings, or the one of the tables, where
`specific` dresses up the text of a sensor-specific event. -/
def eventDataMsg (event : EventMsgData) (specific : String → String) : String :=
  let eventType := event.eventType &&& EVENT_TYPE
  let eventData := event.eventData0 &&& EVENT_STATE
  if event.msgStr ≠ "" then event.msgStr
  else if eventType = EventTypeCode.threshold then
    (THRESHOLD_EVENT_TABLE.lookup eventData).getD "unknown event"
  else if eventType = EventTypeCode.generic then
    ((GENERIC_EVENT_TABLE.lookup event.sensorType).bind (·.lookup eventData)).getD "unknown event"
  else if eventType = EventTypeCode.sensor_specific then
    (((SENSOR_SPECIFIC_EVENT_TABLE.lookup event.sensorType).bind (·.lookup eventData)).map
      specific).getD "unknown event"
  else "unknown event"

/-- The direction bit is clear. -/
def EventMsgData.assert (event : EventMsgData) : Bool := event.eventType &&& EVENT_DIRECTION = 0

/-- Severity and direction of a trap. -/
def snmpSeverity (event : EventMsgData) : String × String :=
  let eventData := event.eventData0 &&& EVENT_STATE
  if event.eventType &&& EVENT_TYPE ≠ EventTypeCode.sensor_specific then
    if !event.assert then ("OK", "Deasserted")
    else if eventData = 0x02 ∨ eventData = 0x09 then ("Critical", "Asserted")
    else if eventData = 0x00 ∨ eventData = 0x07 then ("Warning", "Asserted")
    else ("", "Asserted")
  else ("Information", "Asserted")

/-- Severity of a mail. -/
def smtpSeverity (event : EventMsgData) : String :=
  let evnDat := event.eventData0 &&& 0x0F
  if event.eventType &&& 0x7f ≠ EventTypeCode.sensor_specific then
    if !event.assert then "Ok"
    else if evnDat = 0x02 ∨ evnDat = 0x09 then "Critical"
    else if evnDat = 0x00 ∨ evnDat = 0x07 then "Warning"
    else if evnDat = 0x04 ∨ evnDat = 0x0B then "Non-Recoverable"
    else ""
  else "Information"

def checkSampleEvent (event : EventMsgData) : Bool :=
  (event.sensorNum = 0x30 ∧ event.sensorType = 0x01 ∧ event.eventType &&& 0x7f = 0x01 ∧
    event.eventData0 = 0x09 ∧ event.eventData1 = 0xff ∧ event.eventData2 = 0xff) ∨
  (event.sensorNum = 0x60 ∧ event.sensorType = 0x02 ∧ event.eventType &&& 0x7f = 0x01 ∧
    event.eventData0 = 0x02 ∧ event.eventData1 = 0xff ∧ event.eventData2 = 0xff) ∨
  (event.sensorNum = 0x53 ∧ event.sensorType = 0x0c ∧ event.eventType &&& 0x7f = 0x6f ∧
    event.eventData0 = 0x00 ∧ event.eventData1 = 0xff ∧ event.eventData2 = 0xff)

/-! ## The log entry of an action -/

def PEFActionSELLOG (entryIdx : Nat) (policyIdx : Option Nat) (action : U8) : Prog Unit :=
  catchSdbusplus (do reply (← call (.selLog entryIdx policyIdx action))) (pure ())

/-! ## SNMP -/

/-- `getPathFromSensorNumber`, which throws when the sensors cannot be
numbered. -/
def getPathFromSensorNumber (s : Site) (sensorNum : U8) : Prog String := do
  match ← call (.sensorPath s sensorNum) with
  | some path => pure path
  | none => Ask.raise .outOfRange

/-- A string property, read into a `Value`. -/
def getStrProperty (answer : Prog (Option Variant)) : Prog String := do
  let variant ← reply (← answer)
  ofExcept variant.asValue.getStr

/-- The address of the interface, or failing that of any interface. -/
def bmcIPAddress (s : Site) (ifaceName : String) : Prog String := do
  let ipAddress ← call (.ipAddress s (some ifaceName))
  if ipAddress = "" then call (.ipAddress s none) else pure ipAddress

/-- Hand over a trap. -/
def deliverTrap (retryEnable : Bool) (s : Site) (event : EventMsgData)
    (channelNo destinationSel : U8) (sensorPath timeStamp hostName : String) : Prog U16 :=
  let sensorName := getSensorNameFromPath sensorPath
  let (severity, direction) := snmpSeverity event
  let msg := eventDataMsg event fun eventStr => sensorName ++ " " ++ direction ++ " " ++ eventStr
  catchSdbusplus
    (if retryEnable then do
      let retryQueued ← reply (← call (.retrySnmp s (toString event.recordId.toNat)
        [("timeStamp", timeStamp), ("severity", severity), ("eventDataMsg", msg),
         ("sensorName", sensorName), ("sensorType", retrieveSensorTypeFromPath sensorPath),
         ("direction", direction), ("eventSubjectSN", ""), ("additionalData", ""),
         ("hostName", hostName)]))
      pure (if retryQueued then 0 else 0xFFFF)
    else do
      -- the result of `sendOBMCErrorNotification` is not looked at
      let _ ← call (.notification s
        { id := event.recordId, ts := timeStamp, sev := severity, msg := msg
          eventID := sensorName, eventStatus := direction, eventSubjectSN := "", addData := ""
          ip := hostName, channelNo := channelNo, destinationSel := destinationSel })
      pure 0)
    (pure 0xFFFF)

def sendSNMPAlert (retryEnable : Bool) (s : Site) (event : EventMsgData)
    (channelNo destinationSel : U8) : Prog U16 := do
  let sensorPath ← getPathFromSensorNumber s event.sensorNum
  let ethMap ← getEthChannelInterfaceMap (call (.alertChannelMap s))
  let ifaceName := getInterfaceNameForChannel channelNo ethMap
  if ifaceName = "" then pure 0xFFFF
  else do
    let ipAddress ← bmcIPAddress s ifaceName
    let timeStamp ← call (.currentTime s)
    -- outside of any `try`
    let hostName ← getStrProperty (call (.hostName s))
    deliverTrap retryEnable s event channelNo destinationSel sensorPath timeStamp
      (hostName ++ ":" ++ ipAddress)

/-! ## SMTP -/

def userObjPathPrefix : String := "/xyz/openbmc_project/user/"

def getSmtpMailID (s : Site) (selectedUserName : String) : Prog (Option String) :=
  if selectedUserName = "" then pure none
  else catchAll
    (do
      let mailID ← getStrProperty (call (.smtpMailID s (userObjPathPrefix ++ selectedUserName)))
      pure (some mailID))
    (pure none)

def primaryMailIfc : String := "xyz.openbmc_project.mail.alert.primary"
def secondaryMailIfc : String := "xyz.openbmc_project.mail.alert.secondary"

/-- `std::get<std::string>` of a `std::variant<std::string>`. -/
def Variant.getOnlyStr : Variant → String
  | .str s => s
  | _ => ""

/-- One mail service is enabled and its host can be resolved. -/
def mailHostReachable (s : Site) (iface : String) : Prog Bool :=
  catchSdbusplus
    (do
      let enable ← reply (← call (.mailProperty s iface "Enable"))
      if enable.getBool then do
        let host ← reply (← call (.mailProperty s iface "Host"))
        call (.resolveHost s iface host.getOnlyStr)
      else pure false)
    (pure false)

def isMailAlertConfigured (s : Site) : Prog Bool := do
  let primary ← mailHostReachable s primaryMailIfc
  if primary then pure true else mailHostReachable s secondaryMailIfc

/-- Subject of a mail. -/
def mailSubject (s : Site) (event : EventMsgData) : Prog String := do
  let subject ← catchSdbusplus (getStrProperty (call (.subject s))) (pure "")
  catchSdbusplus
    (do
      let hostName ← getStrProperty (call (.hostName s))
      pure (if subject = "" then
          if smtpSeverity event = "Ok" then "Message from " ++ hostName else "Alert from " ++ hostName
        else subject))
    (pure "PEF Alert")

/-- Text of a mail. -/
def mailBody (s : Site) (event : EventMsgData) (sensorPath smtpMailID : String) :
    Prog String := do
  let message ← catchSdbusplus
    (do let message ← getStrProperty (call (.message s)); pure (message ++ "\r\n")) (pure "")
  let body := message ++
    if checkSampleEvent event then "Sensor Name : Not Found"
    else "Sensor Name : " ++ getSensorNameFromPath sensorPath ++ "\r\n" ++
      "Sensor Type : " ++ retrieveSensorTypeFromPath sensorPath ++ " \r\n" ++
      "Severity    : " ++ smtpSeverity event ++ "\r\n" ++
      "Description : " ++ eventDataMsg event id
  pure (if smtpMailID = "" then body else body ++ "\r\nMail ID     : " ++ smtpMailID)

/-- Hand over a mail. -/
def deliverMail (retryEnable : Bool) (s : Site) (alertSubject alertBody : String) : Prog U16 :=
  catchSdbusplus
    (if retryEnable then do
      let configured ← isMailAlertConfigured s
      if configured then do
        let _ ← reply (← call (.retrySmtp s alertSubject alertBody))
        -- `mailstatus` is still 0, also when the queue has refused
        pure 0
      else pure 0xFFFF
    else do
      let mailstatus ← reply (← call (.sendMail s alertSubject alertBody))
      pure mailstatus)
    (pure 0xFFFF)

def sendSmtpAlert (retryEnable : Bool) (s : Site) (event : EventMsgData) (smtpMailID : String) :
    Prog U16 := do
  let sensorPath ← getPathFromSensorNumber s event.sensorNum
  let alertSubject ← mailSubject s event
  let alertBody ← mailBody s event sensorPath smtpMailID
  if smtpMailID = "" then pure 0xFFFF
  else deliverMail retryEnable s alertSubject alertBody

end Pef
