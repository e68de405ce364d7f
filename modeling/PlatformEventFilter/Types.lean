/-
# `Types` — bytes, D-Bus values, and the columns of the tables

The data the two processes exchange: `pef_utils.hpp` and the structures of
`pef_action.hpp`.  The configuration tables are held column by column on D-Bus
(one array property for each field of a row) and row by row in the JSON file; a
column is therefore an index with a name, which is at once the property name
and the JSON key, and with the type of its cells.
-/
import PlatformEventFilter.Lib.Json
import PlatformEventFilter.Lib.Table

namespace Pef

abbrev U8 := BitVec 8

abbrev U16 := BitVec 16

/-- The exceptions that tell one handler from another. -/
inductive CxxException where
  | sdbusplus
  | badVariantAccess
  | outOfRange
  deriving DecidableEq, Repr

/-! ## D-Bus values -/

/-- A decoded D-Bus value. -/
inductive Variant where
  | bool (b : Bool)
  | u8 (x : U8)
  | u16 (x : U16)
  | str (s : String)
  | u8s (xs : List U8)
  | u16s (xs : List U16)
  | strs (xs : List String)
  deriving DecidableEq, Repr

/-- The properties of one interface, or those a signal says have changed. -/
abbrev PropertyMap := List (String × Variant)

namespace Variant

/-- Decoding into a variant that lacks the type of the value gives its first
alternative, default initialised. -/
def narrow (v : Variant) (allowed : Variant → Bool) (first : Variant) : Variant :=
  if allowed v then v else first

/-- The variant `Value`. -/
def asValue (v : Variant) : Variant := v.narrow (fun
  | .u8 _ | .u16 _ | .str _ | .strs _ => true
  | _ => false) (.u8 0)

/-- The variants of byte arrays and string arrays. -/
def asArrays (v : Variant) : Variant := v.narrow (fun
  | .u8s _ | .strs _ => true
  | _ => false) (.u8s [])

/-- The variants of byte arrays and word arrays. -/
def asWords (v : Variant) : Variant := v.narrow (fun
  | .u8s _ | .u16s _ => true
  | _ => false) (.u8s [])

/-- `std::get<bool>` of a `std::variant<bool>`. -/
def getBool : Variant → Bool
  | bool b => b
  | _ => false

/-- `std::get<uint8_t>`, and so on for the other types. -/
def getU8 : Variant → Except CxxException U8
  | u8 x => .ok x
  | _ => .error .badVariantAccess

def getStr : Variant → Except CxxException String
  | str s => .ok s
  | _ => .error .badVariantAccess

def getU8s : Variant → Except CxxException (List U8)
  | u8s xs => .ok xs
  | _ => .error .badVariantAccess

def getU16s : Variant → Except CxxException (List U16)
  | u16s xs => .ok xs
  | _ => .error .badVariantAccess

def getStrs : Variant → Except CxxException (List String)
  | strs xs => .ok xs
  | _ => .error .badVariantAccess

end Variant

/-- `std::map::at`. -/
def PropertyMap.at (m : PropertyMap) (k : String) : Except CxxException Variant :=
  match m.lookup k with
  | some v => .ok v
  | none => .error .outOfRange

/-! ## The event filter table -/

/-- The columns of the event filter table, in the order they are read. -/
inductive FilterColumn where
  | entryIds | filterConfig | evtFilterAction | alertPolicyNum | eventSeverity
  | genIdByte1 | genIdByte2 | sensorType | sensorNum | eventTrigger
  | eventData1OffsetMask
  | eventData1AndMask | eventData1Cmp1 | eventData1Cmp2
  | eventData2AndMask | eventData2Cmp1 | eventData2Cmp2
  | eventData3AndMask | eventData3Cmp1 | eventData3Cmp2
  deriving DecidableEq, Repr

namespace FilterColumn

def name : FilterColumn → String
  | entryIds => "EventFilterTableEntry"
  | filterConfig => "FilterConfig"
  | evtFilterAction => "EvtFilterAction"
  | alertPolicyNum => "AlertPolicyNum"
  | eventSeverity => "EventSeverity"
  | genIdByte1 => "GenIDByte1"
  | genIdByte2 => "GenIDByte2"
  | sensorType => "SensorType"
  | sensorNum => "SensorNum"
  | eventTrigger => "EventTrigger"
  | eventData1OffsetMask => "EventData1OffsetMask"
  | eventData1AndMask => "EventData1ANDMask"
  | eventData1Cmp1 => "EventData1Cmp1"
  | eventData1Cmp2 => "EventData1Cmp2"
  | eventData2AndMask => "EventData2ANDMask"
  | eventData2Cmp1 => "EventData2Cmp1"
  | eventData2Cmp2 => "EventData2Cmp2"
  | eventData3AndMask => "EventData3ANDMask"
  | eventData3Cmp1 => "EventData3Cmp1"
  | eventData3Cmp2 => "EventData3Cmp2"

def all : List FilterColumn :=
  [entryIds, filterConfig, evtFilterAction, alertPolicyNum, eventSeverity,
   genIdByte1, genIdByte2, sensorType, sensorNum, eventTrigger,
   eventData1OffsetMask,
   eventData1AndMask, eventData1Cmp1, eventData1Cmp2,
   eventData2AndMask, eventData2Cmp1, eventData2Cmp2,
   eventData3AndMask, eventData3Cmp1, eventData3Cmp2]

/-- Bits of a cell: the offset mask is the one 16-bit column. -/
@[reducible] def width : FilterColumn → Nat
  | eventData1OffsetMask => 16
  | _ => 8

abbrev Cell (c : FilterColumn) : Type := BitVec c.width

theorem mem_all (c : FilterColumn) : c ∈ all := by
  cases c <;> decide

theorem nodup_names : (all.map name).Nodup := by decide

theorem name_injective : Function.Injective name :=
  fun c d h => List.inj_on_of_nodup_map nodup_names (mem_all c) (mem_all d) h

/-- The array property of a column as a D-Bus value. -/
def encode (c : FilterColumn) (xs : List c.Cell) : Variant :=
  if c.width = 8 then .u8s (xs.map (BitVec.setWidth 8)) else .u16s (xs.map (BitVec.setWidth 16))

end FilterColumn

/-- The properties of one `EventFilterTable/List<k>` object. -/
abbrev EventFilterList := Table FilterColumn.Cell

/-- A row as the matching code sees it. -/
structure EvtFilterTblEntry where
  entry : U8
  FilterConfig : U8
  EvtFilterAction : U8
  AlertPolicyNum : U8
  EventSeverity : U8
  GenIDByte1 : U8
  GenIDByte2 : U8
  SensorType : U8
  SensorNum : U8
  EventTrigger : U8
  EventData1OffsetMask : U16
  EventData1ANDMask : U8
  EventData1Cmp1 : U8
  EventData1Cmp2 : U8
  EventData2ANDMask : U8
  EventData2Cmp1 : U8
  EventData2Cmp2 : U8
  EventData3ANDMask : U8
  EventData3Cmp1 : U8
  EventData3Cmp2 : U8
  deriving DecidableEq, Repr

/-! ## The alert policy table -/

/-- The columns of the alert policy table, in the order they are read. -/
inductive PolicyColumn where
  | groupNums | enableAlerts | policyActions | channelNos | destinationSels
  | eventSpecificStrs
  | alertStingKeys
  deriving DecidableEq, Repr

namespace PolicyColumn

def name : PolicyColumn → String
  | groupNums => "AlertPolicyGroupNum"
  | enableAlerts => "EnableAlert"
  | policyActions => "PolicyAction"
  | channelNos => "ChannelNo"
  | destinationSels => "DestinationSel"
  | eventSpecificStrs => "EventSpecificAlertStr"
  | alertStingKeys => "AlertStingkey"

def all : List PolicyColumn :=
  [groupNums, enableAlerts, policyActions, channelNos, destinationSels, eventSpecificStrs,
   alertStingKeys]

@[reducible] def Cell : PolicyColumn → Type
  | eventSpecificStrs => String
  | _ => U8

theorem mem_all (c : PolicyColumn) : c ∈ all := by
  cases c <;> decide

theorem nodup_names : (all.map name).Nodup := by decide

theorem name_injective : Function.Injective name :=
  fun c d h => List.inj_on_of_nodup_map nodup_names (mem_all c) (mem_all d) h

/-- The array property of a column as a D-Bus value. -/
def encode : (c : PolicyColumn) → List c.Cell → Variant
  | eventSpecificStrs, xs => .strs xs
  | groupNums, xs => .u8s xs
  | enableAlerts, xs => .u8s xs
  | policyActions, xs => .u8s xs
  | channelNos, xs => .u8s xs
  | destinationSels, xs => .u8s xs
  | alertStingKeys, xs => .u8s xs

end PolicyColumn

/-- The properties of one `AlertPolicyTable/PolicyList_eth<k>` object. -/
abbrev AlertPolicyList := Table PolicyColumn.Cell

/-- A policy row as the alerting code sees it. -/
structure AlertPolicyTbl where
  AlertPolicyEntry : U8 := 0
  AlertPolicyGroupNum : U8 := 0
  EnableAlert : U8 := 0
  PolicyAction : U8 := 0
  ChannelNo : U8 := 0
  DestinationSel : U8 := 0
  EventSpecificAlertStr : String := ""
  AlertStingkey : U8 := 0
  deriving DecidableEq, Repr

/-! ## The alert string table -/

/-- The columns of the alert string table, in the order they are read. -/
inductive AlertStringColumn where
  | entryIds | eventFilterSel | alertStringSet | alertString0 | alertString1 | alertString2
  deriving DecidableEq, Repr

namespace AlertStringColumn

def name : AlertStringColumn → String
  | entryIds => "AlertStringTableEntry"
  | eventFilterSel => "EventFilterSel"
  | alertStringSet => "AlertStringSet"
  | alertString0 => "AlertString0"
  | alertString1 => "AlertString1"
  | alertString2 => "AlertString2"

def all : List AlertStringColumn :=
  [entryIds, eventFilterSel, alertStringSet, alertString0, alertString1, alertString2]

/-- Bits of a cell. -/
@[reducible] def width : AlertStringColumn → Nat
  | entryIds => 8
  | eventFilterSel => 8
  | alertStringSet => 8
  | _ => 16

abbrev Cell (c : AlertStringColumn) : Type := BitVec c.width

end AlertStringColumn

/-- The properties of one `AlertStringTable/List<k>` object. -/
abbrev AlertStringList := Table AlertStringColumn.Cell

/-! ## The general settings -/

/-- The properties of the `PEFConfInfo` interface, in the order they are read. -/
inductive ConfColumn where
  | version | actionSupported | maxEventTblEntry | pefControl | pefActionGblControl
  | pefStartupDly | pefAlertStartupDly
  | lastBMCProcessedEventID | lastSWProcessedEventID
  | subject | message
  deriving DecidableEq, Repr

namespace ConfColumn

def name : ConfColumn → String
  | version => "Version"
  | actionSupported => "ActionSupported"
  | maxEventTblEntry => "MaxEventTblEntry"
  | pefControl => "PEFControl"
  | pefActionGblControl => "PEFActionGblControl"
  | pefStartupDly => "PEFStartupDly"
  | pefAlertStartupDly => "PEFAlertStartupDly"
  | lastBMCProcessedEventID => "LastBMCProcessedEventID"
  | lastSWProcessedEventID => "LastSWProcessedEventID"
  | subject => "Subject"
  | message => "Message"

def all : List ConfColumn :=
  [version, actionSupported, maxEventTblEntry, pefControl, pefActionGblControl,
   pefStartupDly, pefAlertStartupDly, lastBMCProcessedEventID, lastSWProcessedEventID,
   subject, message]

@[reducible] def Cell : ConfColumn → Type
  | lastBMCProcessedEventID => U16
  | lastSWProcessedEventID => U16
  | subject => String
  | message => String
  | _ => U8

theorem mem_all (c : ConfColumn) : c ∈ all := by
  cases c <;> decide

theorem nodup_names : (all.map name).Nodup := by decide

theorem name_injective : Function.Injective name :=
  fun c d h => List.inj_on_of_nodup_map nodup_names (mem_all c) (mem_all d) h

/-- The property of a column as a D-Bus value. -/
def encode : (c : ConfColumn) → c.Cell → Variant
  | version, x => .u8 x
  | actionSupported, x => .u8 x
  | maxEventTblEntry, x => .u8 x
  | pefControl, x => .u8 x
  | pefActionGblControl, x => .u8 x
  | pefStartupDly, x => .u8 x
  | pefAlertStartupDly, x => .u8 x
  | lastBMCProcessedEventID, x => .u16 x
  | lastSWProcessedEventID, x => .u16 x
  | subject, s => .str s
  | message, s => .str s

end ConfColumn

/-- The general settings of one `PEFConfInfo` element. -/
abbrev PefConfInfo := Row ConfColumn.Cell

/-! ## Events -/

/-- An event record as handed to the filtering process. -/
structure EventMsgData where
  recordId : U16
  generatorId1 : U8
  generatorId2 : U8
  sensorNum : U8
  sensorType : U8
  eventType : U8
  eventData0 : U8
  eventData1 : U8
  eventData2 : U8
  msgStr : String
  deriving DecidableEq, Repr

/-! ## Constants of `pef_action.hpp` -/

def ALL_BITS_MATCH_EXACT : U8 := 0xff
def ALL_ZERO_BITS : U8 := 0x00
def ALL_ONE_BITS : U8 := 0xff

def ALERT_ACTION : U8 := 0x01
def POWER_OFF_ACTION : U8 := 0x02
def RESET_ACTION : U8 := 0x04
def POWER_CYCLE_ACTION : U8 := 0x08

def EVENT_TYPE : U8 := 0x7f
def EVENT_DIRECTION : U8 := 0x80
def EVENT_STATE : U8 := 0x0f

end Pef
