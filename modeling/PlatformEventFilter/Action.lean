/-
# `Action` — from an event to the actions it causes

`pefTask` and what it calls, the row matching (`Match`) and the alerts
themselves (`Alert`) apart.

    pefTask                 PEF on, not postponed
    eventFilteringProcess   the matched entries, the channel map, the settings
    performPefAction        for each entry: a power action, then the alerts
                            of its policy group

The last of these is two nested loops in one function; their bodies are
definitions of their own here (`powerAction`, `alertAction`).
-/
import PlatformEventFilter.Alert
import PlatformEventFilter.Match

namespace Pef

/-! ## Power actions -/

def pwrCtlOff : String := "xyz.openbmc_project.State.Chassis.Transition.Off"
def pwrStateReset : String := "xyz.openbmc_project.State.Host.Transition.Reboot"
def powerStateOn : String := "xyz.openbmc_project.State.Chassis.PowerState.On"

/-- The settings the process reads. -/
structure PefCfgInfo where
  PEFControl : U8
  PEFActionGblControl : U8
  PEFStartupDly : U8
  PEFAlertStartupDly : U8
  deriving DecidableEq, Repr

/-- Every bit of `mask` is set. -/
def hasBits (x mask : U8) : Bool := x &&& mask = mask

/-- An action is asked for by the entry and enabled in the settings. -/
def actionEnabled (pefcfgInfo : PefCfgInfo) (e : EvtFilterTblEntry) (action : U8) : Bool :=
  hasBits e.EvtFilterAction action && hasBits pefcfgInfo.PEFActionGblControl action

/-- The log entry of an action, written when `PEFControl & 0x02`. -/
def logAction (pefcfgInfo : PefCfgInfo) (entryIdx : Nat) (policyIdx : Option Nat) (action : U8) :
    Prog Unit :=
  if pefcfgInfo.PEFControl &&& 0x02 ≠ 0 then PEFActionSELLOG entryIdx policyIdx action
  else pure ()

def initiateChassisStateTransition (entryIdx : Nat) (powerAction : String) : Prog Unit := do
  reply (← call (.requestedPowerTransition entryIdx powerAction))

def initiateStateTransition (entryIdx : Nat) (powerAction : String) : Prog Unit := do
  reply (← call (.requestedHostTransition entryIdx powerAction))

def getPowerStatus (entryIdx : Nat) : Prog Bool :=
  catchSdbusplus
    (do
      let pwrStatus ← getStrProperty (call (.currentPowerState entryIdx))
      pure (decide (pwrStatus = powerStateOn)))
    (pure false)

/-- The host is reset if it is on. -/
def resetHost (entryIdx : Nat) : Prog Unit := do
  let power ← getPowerStatus entryIdx
  if power then initiateStateTransition entryIdx pwrStateReset else pure ()

/-- The first part of the loop body of `performPefAction`. -/
def powerAction (pefcfgInfo : PefCfgInfo) (entryIdx : Nat) (e : EvtFilterTblEntry) :
    Prog Unit :=
  if hasBits e.EvtFilterAction POWER_OFF_ACTION || hasBits e.EvtFilterAction POWER_CYCLE_ACTION ||
      hasBits e.EvtFilterAction RESET_ACTION then
    if actionEnabled pefcfgInfo e POWER_OFF_ACTION then do
      logAction pefcfgInfo entryIdx none POWER_OFF_ACTION
      initiateChassisStateTransition entryIdx pwrCtlOff
    else if actionEnabled pefcfgInfo e POWER_CYCLE_ACTION then do
      logAction pefcfgInfo entryIdx none POWER_CYCLE_ACTION
      resetHost entryIdx
    else if actionEnabled pefcfgInfo e RESET_ACTION then do
      logAction pefcfgInfo entryIdx none RESET_ACTION
      resetHost entryIdx
    else pure ()
  else pure ()

/-! ## Alerts -/

/-- `v[index]`, which is not tested against the size of the vector. -/
def subscriptAt (s : Site) (v : List U8) (index : Nat) : Prog U8 :=
  match v[index]? with
  | some x => pure x
  | none => call (.outOfBounds s index)

def lanObjPath (ifaceName : String) : String :=
  "/xyz/openbmc_project/PefAlertManager/Interface_" ++ ifaceName

/-- Destination type and user at the selector, none when there is no such
destination, or a mail destination has no user. -/
def selectDestination (s : Site) (destinationIndex : Nat) (lanParamValues : PropertyMap)
    (typeEntries : List U8) : Prog (Option (U8 × String)) :=
  if typeEntries.isEmpty then pure none
  else if destinationIndex < typeEntries.length then do
    -- a `size_t`, so that 0 becomes the largest one
    let selectedIndex := sizeSub destinationIndex 1
    let destinationType ← subscriptAt s typeEntries selectedIndex
    let userNameEntries ← ofExcept (readStrs lanParamValues "userName")
    let selectedUserName := cellAt userNameEntries "" selectedIndex
    pure (if destinationType = 3 ∧ selectedUserName = "" then none
      else some (destinationType, selectedUserName))
  else pure none

/-- The destination of a policy, none when the policy is skipped. -/
def destinationFor (s : Site) (ethMap : EthChannelMap) (policy : AlertPolicyTbl) :
    Prog (Option (U8 × String)) :=
  let ifaceName := getInterfaceNameForChannel policy.ChannelNo ethMap
  if ifaceName = "" then pure none
  else catchSdbusplus
    (do
      let lanParamValues ← reply (← call (.lanParam s (lanObjPath ifaceName)))
      match lanParamValues.lookup "Type" with
      | none => pure none
      | some v => do
          let typeEntries ← ofExcept v.asArrays.getU8s
          selectDestination s policy.DestinationSel.toNat lanParamValues typeEntries)
    (pure none)

/-- A mail, and the record id once the status is 0. -/
def mailAlert (retryEnable : Bool) (s : Site) (event : EventMsgData)
    (selectedUserName : String) : Prog Unit := do
  let smtpMailID ← getSmtpMailID s selectedUserName
  let alertStatus ← sendSmtpAlert retryEnable s event (smtpMailID.getD "")
  if alertStatus = 0 then
    catchAll (do reply (← call (.lastBMCProcessedEventID s event.recordId))) (pure ())
  else pure ()

/-- The body of the policy loop of `performPefAction`. -/
def policyAction (retryEnable : Bool) (pefcfgInfo : PefCfgInfo) (event : EventMsgData)
    (ethMap : EthChannelMap) (s : Site) (policy : AlertPolicyTbl) : Prog Unit :=
  if policy.AlertPolicyGroupNum = 0 then pure ()
  else do
    let destination ← destinationFor s ethMap policy
    match destination with
    | none => pure ()
    | some (destinationType, selectedUserName) =>
        if destinationType = 3 then do
          logAction pefcfgInfo s.entryIdx (some s.policyIdx) ALERT_ACTION
          mailAlert retryEnable s event selectedUserName
        else if destinationType ≤ 2 then do
          logAction pefcfgInfo s.entryIdx (some s.policyIdx) ALERT_ACTION
          -- the status is only logged
          let _ ← sendSNMPAlert retryEnable s event policy.ChannelNo policy.DestinationSel
          pure ()
        else pure ()

/-- The second part of the loop body of `performPefAction`. -/
def alertAction (retryEnable : Bool) (pefcfgInfo : PefCfgInfo) (event : EventMsgData)
    (ethMap : EthChannelMap) (entryIdx : Nat) (e : EvtFilterTblEntry) : Prog Unit :=
  if actionEnabled pefcfgInfo e ALERT_ACTION then do
    let alertpolicy ← checkAlertPoicyTbl entryIdx (e.AlertPolicyNum &&& 0x0F).toNat
    Ask.forIdx (fun policyIdx policy =>
      policyAction retryEnable pefcfgInfo event ethMap ⟨entryIdx, policyIdx⟩ policy) alertpolicy 0
  else pure ()

/-! ## The process -/

def performPefAction (retryEnable : Bool) (matEveFltEntries : List EvtFilterTblEntry)
    (event : EventMsgData) (ethMap : EthChannelMap) (pefcfgInfo : PefCfgInfo) : Prog Unit :=
  Ask.forIdx (fun entryIdx e => do
    powerAction pefcfgInfo entryIdx e
    alertAction retryEnable pefcfgInfo event ethMap entryIdx e) matEveFltEntries 0

def readPefConfInfo (pefCfgValues : PropertyMap) : Except CxxException PefCfgInfo := do
  let pefControl ← (← pefCfgValues.at "PEFControl").asValue.getU8
  let pefActionGblControl ← (← pefCfgValues.at "PEFActionGblControl").asValue.getU8
  let pefStartupDly ← (← pefCfgValues.at "PEFStartupDly").asValue.getU8
  let pefAlertStartupDly ← (← pefCfgValues.at "PEFAlertStartupDly").asValue.getU8
  pure ⟨pefControl, pefActionGblControl, pefStartupDly, pefAlertStartupDly⟩

def getPefConfInfo : Prog (Option PefCfgInfo) :=
  catchSdbusplus
    (do
      let pefCfgValues ← reply (← call .pefConfInfo)
      let pefcfgInfo ← ofExcept (readPefConfInfo pefCfgValues)
      pure (some pefcfgInfo))
    (pure none)

def eventFilteringProcess (retryEnable : Bool) (event : EventMsgData) : Prog Unit := do
  let matchedEveFltEntries ← matchedEntries event
  if matchedEveFltEntries.isEmpty then pure ()
  else do
    let ethMap ← getEthChannelInterfaceMap (call .channelInterfaceMap)
    let pefCfgInfo ← getPefConfInfo
    match pefCfgInfo with
    | none => pure ()
    | some pefCfgInfo => performPefAction retryEnable matchedEveFltEntries event ethMap pefCfgInfo

/-- A byte property, none when the call fails. -/
def byteProperty (answer : Prog (Option Variant)) : Prog (Option U8) :=
  catchSdbusplus
    (do
      let variant ← reply (← answer)
      let value ← ofExcept variant.asValue.getU8
      pure (some value))
    (pure none)

/-- The event of the arguments of `pefTask`. -/
def eventOf (recId : U16) (senType senNum eveType eveData1 eveData2 eveData3 : U8) (genId : U16)
    (msgStr : String) : EventMsgData where
  recordId := recId
  generatorId1 := ((genId >>> 8) &&& 0xff).setWidth 8
  generatorId2 := (genId &&& 0xff).setWidth 8
  sensorNum := senNum
  sensorType := senType
  eventType := eveType
  eventData0 := eveData1
  eventData1 := eveData2
  eventData2 := eveData3
  msgStr := msgStr

def pefTask (retryEnable : Bool) (recId : U16)
    (senType senNum eveType eveData1 eveData2 eveData3 : U8) (genId : U16) (msgStr : String) :
    Prog Unit := do
  let pefCtl ← byteProperty (call .pefControl)
  match pefCtl with
  | none => pure ()
  | some pefCtl => do
      let pefPostponeTimer ← byteProperty (call .armPefPostponeTmr)
      match pefPostponeTimer with
      | none => pure ()
      | some pefPostponeTimer =>
          if pefPostponeTimer = 0xFE ∨ (pefPostponeTimer ≠ 0x00 ∧ pefPostponeTimer ≠ 0xFF) then
            pure ()
          else if pefCtl &&& 0x01 = 0 then pure ()
          else
            eventFilteringProcess retryEnable
              (eventOf recId senType senNum eveType eveData1 eveData2 eveData3 genId msgStr)

end Pef
