/-
# `Lan` — the LAN parameters, their files, and the objects made of them

`parsePefConfToDbus` makes one object for each LAN interface.  The parameters of
an interface come from the first of

    the shared file      under "Interfaces" when that is an object, at the top
                         otherwise
    the legacy file      one for each of eth0 .. eth3
    the defaults

`parseLanConf` is that part of the function, `updateLanParamConfigValue` the
writer behind the setters.  A file that is missing or does not parse is `none`.
-/
import PlatformEventFilter.Setters

namespace Pef

/-! ## Reading a parameter -/

/-- `catch (nlohmann::json::exception&)`; undefined behaviour is not caught. -/
def catchJson {α : Type} (x : Except Json.Error α) (handler : α) : Except Json.Error α :=
  match x with
  | .error (.typeError _) => .ok handler
  | x => x

def getBool : Json → Except Json.Error Bool
  | .bool b => .ok b
  | _ => .error (.typeError 302)

/-- `static_cast<uint8_t>(v.get<uint32_t>())` -/
def getByte (v : Json) : Except Json.Error U8 := do
  let x ← v.getUnsigned 32
  pure (x.setWidth 8)

/-- The elements of `cfg[key]` when there is such an array. -/
def arrayAt (cfg : Json) (key : String) : Option (List Json) :=
  match cfg.find? key with
  | some (.arr xs) => some xs
  | _ => none

/-- Fill a vector up to `destCount` elements. -/
def ensureSized {α : Type} (destCount : U8) (vec : List α) (fillVal : α) : List α :=
  vec ++ List.replicate (destCount.toNat - vec.length) fillVal

/-! ## The object of an interface -/

/-- The array properties. -/
structure LanArrays where
  ipv4Arr : List String
  ipv6Arr : List String
  userArr : List String
  typeArr : List U8
  timeoutArr : List U8
  retriesArr : List U8
  addressTypeArr : List U8
  deriving DecidableEq, Repr

/-- The properties of an `Interface_<name>` object; the arrays are registered
together or not at all. -/
structure LanParam where
  CommunityString : String
  NumberofDestinations : U8
  arrays : Option LanArrays
  deriving DecidableEq, Repr

/-- The six arrays that have to be there. -/
def hasFlatArrays (cfg : Json) : Bool :=
  (arrayAt cfg "IPv4").isSome && (arrayAt cfg "IPv6").isSome && (arrayAt cfg "UserName").isSome &&
    (arrayAt cfg "Type").isSome && (arrayAt cfg "Timeout").isSome && (arrayAt cfg "Retries").isSome

/-- The strings of `cfg[key]`. -/
def readStrings (cfg : Json) (key : String) : Except Json.Error (List String) :=
  ((arrayAt cfg key).getD []).mapM Json.getString

/-- The bytes of `cfg[key]`. -/
def readBytes (cfg : Json) (key : String) : Except Json.Error (List U8) :=
  (((cfg.find? key).getD .null).items).mapM getByte

def readLanArrays (cfg : Json) : Except Json.Error LanArrays := do
  let destCount ← cfg.value "NumberofDestinations" (Json.getUnsigned 8) 0
  let ipv4Arr ← readStrings cfg "IPv4"
  let ipv6Arr ← readStrings cfg "IPv6"
  let userArr ← readStrings cfg "UserName"
  let typeArr ← readBytes cfg "Type"
  let retriesArr ← readBytes cfg "Retries"
  let timeoutArr ← readBytes cfg "Timeout"
  -- not among the six, an absent one has no elements
  let addressTypeArr ← readBytes cfg "AddressType"
  pure
    { ipv4Arr := ensureSized destCount ipv4Arr "0.0.0.0"
      ipv6Arr := ensureSized destCount ipv6Arr "0000:0000:0000:0000:0000:0000:0000:0000"
      userArr := ensureSized destCount userArr ""
      typeArr := ensureSized destCount typeArr 0
      timeoutArr := ensureSized destCount timeoutArr 0
      retriesArr := ensureSized destCount retriesArr 0
      addressTypeArr := ensureSized destCount addressTypeArr 1 }

/-- The object made of a "Config" section, none when it is given up. -/
def readLanParam (cfg : Json) : Except Json.Error (Option LanParam) :=
  catchJson
    (do
      let community ← cfg.value "CommunityString" Json.getString ""
      let count ← cfg.value "NumberofDestinations" Json.getInt 0
      let arrays ←
        if hasFlatArrays cfg then catchJson (do pure (some (← readLanArrays cfg))) none
        else pure none
      pure (some ⟨community, BitVec.ofInt 8 count, arrays⟩))
    none

/-! ## Where the section comes from -/

/-- The files the LAN parameters are read from. -/
structure LanFiles where
  channelConfig : Option Json
  shared : Option Json
  legacy : String → Option Json

/-- The interfaces with a legacy file. -/
def legacyLanFiles : List String := ["eth0", "eth1", "eth2", "eth3"]

/-- One channel of the channel configuration. -/
def addEthInterface (ethInterfaces : List String) (channelObj : Json) :
    Except Json.Error (List String) :=
  match channelObj with
  | .obj _ => do
      let isValid ← channelObj.value "is_valid" getBool false
      if !isValid then pure ethInterfaces
      else do
        let name ← channelObj.value "name" Json.getString ""
        pure (if !isEthInterfaceName name || name ∈ ethInterfaces then ethInterfaces
          else ethInterfaces ++ [name])
  | _ => pure ethInterfaces

def getAvailableEthInterfaces (channelConfig : Option Json) : Except Json.Error (List String) :=
  match channelConfig with
  | none => pure []
  | some channelData => channelData.items.foldlM addEthInterface []

def lanInterfaces (f : LanFiles) : Except Json.Error (List String) := do
  let ethInterfaces ← getAvailableEthInterfaces f.channelConfig
  pure (if ethInterfaces.isEmpty then legacyLanFiles else ethInterfaces)

/-- The part of the shared file that holds the interfaces. -/
def mergedLanConfigs (shared : Option Json) : Option Json :=
  match shared with
  | none => none
  | some merged => match merged.find? "Interfaces" with
      | some (.obj ms) => some (.obj ms)
      | _ => match merged with
          | .obj ms => some (.obj ms)
          | _ => none

/-- The section of an interface in the shared file. -/
def sharedSection (shared : Option Json) (ifaceName : String) : Option Json :=
  (mergedLanConfigs shared).bind (Json.find? ifaceName)

/-- The section of an interface, wherever it is. -/
def lanData (f : LanFiles) (ifaceName : String) : Option Json :=
  match sharedSection f.shared ifaceName with
  | some data => some data
  | none => if ifaceName ∈ legacyLanFiles then f.legacy ifaceName else some .null

/-- The "Config" section of an interface, empty when there is none. -/
def lanConfig (f : LanFiles) (ifaceName : String) : Json :=
  ((lanData f ifaceName).bind (Json.find? "Config")).getD (.obj [])

/-- The LAN part of `parsePefConfToDbus`. -/
def parseLanConf (f : LanFiles) : Except Json.Error (List (String × Option LanParam)) := do
  let ifaces ← lanInterfaces f
  ifaces.mapM fun ifaceName => do
    let object ← readLanParam (lanConfig f ifaceName)
    pure (ifaceName, object)

/-! ## The writer -/

/-- `container[ifaceName]["Config"][propName] = value` -/
def putLanValue (ifaceName propName : String) (value container : Json) :
    Except Json.Error Json := do
  let (container, lanData) ← container.access ifaceName
  let (lanData, cfg) ← lanData.access "Config"
  let cfg ← Json.put propName value cfg
  let lanData ← Json.put "Config" cfg lanData
  Json.put ifaceName lanData container

/-- The shared file after the parameter is written, without a selector path. -/
def updateLanParamConfigValue (shared : Option Json) (ifaceName propName : String)
    (value : Json) : Except Json.Error Json :=
  let data := shared.getD (.obj [])
  match data.find? "Interfaces" with
  | some (.obj ms) => do
      let interfaces ← putLanValue ifaceName propName value (.obj ms)
      Json.put "Interfaces" interfaces data
  | _ => putLanValue ifaceName propName value data

end Pef
