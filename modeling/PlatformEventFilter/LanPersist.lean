/-
# `LanPersist` — LAN parameters across a restart

A Set of a LAN property writes the one property into the interface's section of
the shared file.  The loader takes the whole section from there as soon as there
is one, and looks into the legacy file only otherwise.

    setLan s iface env req      files and objects after a Set
    Survives s                  a restart gives the objects back, padded
    SectionKept s iface         the section holds all there is of the interface

`survives_iff_sectionKept`: restarts at all times of a run give the objects back
exactly when each Set of the run finds the section, or nothing that could be lost.
-/
import PlatformEventFilter.LanSetters

namespace Pef

/-! ## Padding -/

/-- Every array filled up. -/
def LanArrays.pad (destCount : U8) (a : LanArrays) : LanArrays where
  ipv4Arr := ensureSized destCount a.ipv4Arr "0.0.0.0"
  ipv6Arr := ensureSized destCount a.ipv6Arr "0000:0000:0000:0000:0000:0000:0000:0000"
  userArr := ensureSized destCount a.userArr ""
  typeArr := ensureSized destCount a.typeArr 0
  timeoutArr := ensureSized destCount a.timeoutArr 0
  retriesArr := ensureSized destCount a.retriesArr 0
  addressTypeArr := ensureSized destCount a.addressTypeArr 1

/-- The arrays filled up to the number of destinations. -/
def LanParam.pad (p : LanParam) : LanParam :=
  { p with arrays := p.arrays.map (LanArrays.pad p.NumberofDestinations) }

theorem ensureSized_idem {α : Type} (n : U8) (vec : List α) (x : α) :
    ensureSized n (ensureSized n vec x) x = ensureSized n vec x := by
  have hlen : n.toNat - (ensureSized n vec x).length = 0 := by
    simp only [ensureSized, List.length_append, List.length_replicate]
    omega
  rw [ensureSized, hlen, List.replicate_zero, List.append_nil]

@[simp] theorem LanArrays.pad_pad (n : U8) (a : LanArrays) : (a.pad n).pad n = a.pad n := by
  simp only [LanArrays.pad, ensureSized_idem]

@[simp] theorem LanParam.pad_pad (p : LanParam) : p.pad.pad = p.pad := by
  simp only [LanParam.pad, Option.map_map, Function.comp_def, LanArrays.pad_pad]

/-- Padding first makes no difference to what is left after a Set. -/
theorem LanArrays.pad_assign_pad (n : U8) (a : LanArrays) (req : LanSet) :
    ((a.pad n).assign req).pad n = (a.assign req).pad n := by
  cases req <;> simp only [LanArrays.assign, LanArrays.pad, ensureSized_idem]

theorem LanParam.pad_assign_pad (p : LanParam) (req : LanSet) :
    (p.pad.assign req).pad = (p.assign req).pad := by
  cases req with
  | communityString value => simp only [LanParam.assign, LanParam.pad, Option.map_map,
      Function.comp_def, LanArrays.pad_pad]
  | _ => simp only [LanParam.assign, LanParam.pad, Option.map_map, Function.comp_def,
      LanArrays.pad_assign_pad]

/-! ## What a section says -/

/-- The name of the property in the file. -/
def LanSet.propName : LanSet → String
  | .communityString _ => "CommunityString"
  | .ipv4 _ => "IPv4"
  | .ipv6 _ => "IPv6"
  | .userName _ => "UserName"
  | .type _ => "Type"
  | .timeout _ => "Timeout"
  | .retries _ => "Retries"
  | .addressType _ => "AddressType"

/-- Strings as JSON. -/
def jsonOfStrings (value : List String) : Json := .arr (value.map .str)

/-- Bytes as JSON. -/
def jsonOfBytes (value : List U8) : Json := .arr (value.map fun x => .num x.toNat)

/-- The value as it is written. -/
def LanSet.json : LanSet → Json
  | .communityString value => .str value
  | .ipv4 value => jsonOfStrings value
  | .ipv6 value => jsonOfStrings value
  | .userName value => jsonOfStrings value
  | .type value => jsonOfBytes value
  | .timeout value => jsonOfBytes value
  | .retries value => jsonOfBytes value
  | .addressType value => jsonOfBytes value

/-- The arrays of a section, before padding. -/
structure ArraysRead (cfg : Json) (destCount : U8) (a : LanArrays) : Prop where
  destCount : cfg.value "NumberofDestinations" (Json.getUnsigned 8) 0 = .ok destCount
  ipv4Arr : readStrings cfg "IPv4" = .ok a.ipv4Arr
  ipv6Arr : readStrings cfg "IPv6" = .ok a.ipv6Arr
  userArr : readStrings cfg "UserName" = .ok a.userArr
  typeArr : readBytes cfg "Type" = .ok a.typeArr
  retriesArr : readBytes cfg "Retries" = .ok a.retriesArr
  timeoutArr : readBytes cfg "Timeout" = .ok a.timeoutArr
  addressTypeArr : readBytes cfg "AddressType" = .ok a.addressTypeArr

theorem readLanArrays_eq_ok {cfg : Json} {a' : LanArrays} :
    readLanArrays cfg = .ok a' ↔ ∃ n a, ArraysRead cfg n a ∧ a' = a.pad n := by
  constructor
  · intro h
    obtain ⟨n, hn, h⟩ := Json.exists_of_bind_eq_ok h
    obtain ⟨ipv4Arr, h4, h⟩ := Json.exists_of_bind_eq_ok h
    obtain ⟨ipv6Arr, h6, h⟩ := Json.exists_of_bind_eq_ok h
    obtain ⟨userArr, hu, h⟩ := Json.exists_of_bind_eq_ok h
    obtain ⟨typeArr, ht, h⟩ := Json.exists_of_bind_eq_ok h
    obtain ⟨retriesArr, hr, h⟩ := Json.exists_of_bind_eq_ok h
    obtain ⟨timeoutArr, htm, h⟩ := Json.exists_of_bind_eq_ok h
    obtain ⟨addressTypeArr, ha, h⟩ := Json.exists_of_bind_eq_ok h
    cases h
    exact ⟨n, ⟨ipv4Arr, ipv6Arr, userArr, typeArr, timeoutArr, retriesArr, addressTypeArr⟩,
      ⟨hn, h4, h6, hu, ht, hr, htm, ha⟩, rfl⟩
  · rintro ⟨n, a, h, rfl⟩
    simp only [readLanArrays, h.destCount, h.ipv4Arr, h.ipv6Arr, h.userArr, h.typeArr,
      h.retriesArr, h.timeoutArr, h.addressTypeArr]
    rfl

theorem catchJson_eq_ok {α : Type} {x : Except Json.Error α} {y handler : α} :
    catchJson x handler = .ok y ↔
      x = .ok y ∨ (∃ id, x = .error (.typeError id)) ∧ handler = y := by
  rcases x with (id | _) | x
  · simp [catchJson]
  · simp [catchJson]
  · simp [catchJson]

/-- The arrays a section gives an object. -/
def arraysOf (cfg : Json) : Except Json.Error (Option LanArrays) :=
  if hasFlatArrays cfg then catchJson (do pure (some (← readLanArrays cfg))) none else pure none

theorem arraysOf_eq_some {cfg : Json} {a' : LanArrays} :
    arraysOf cfg = .ok (some a') ↔
      hasFlatArrays cfg = true ∧ ∃ n a, ArraysRead cfg n a ∧ a' = a.pad n := by
  rw [← readLanArrays_eq_ok]
  unfold arraysOf
  split
  · next h =>
      rw [and_iff_right h, catchJson_eq_ok]
      cases readLanArrays cfg with
      | error e =>
          refine iff_of_false ?_ (fun h' => (nomatch h'))
          rintro (h' | ⟨_, h'⟩) <;> cases h'
      | ok a =>
          constructor
          · rintro (h' | ⟨_, h'⟩)
            · cases h'
              rfl
            · cases h'
          · intro h'
            cases h'
            exact .inl rfl
  · next h => exact iff_of_false (fun h' => (nomatch h')) (fun h' => h h'.1)

theorem readLanParam_eq (cfg : Json) :
    readLanParam cfg = catchJson
      (do
        let community ← cfg.value "CommunityString" Json.getString ""
        let count ← cfg.value "NumberofDestinations" Json.getInt 0
        let arrays ← arraysOf cfg
        pure (some ⟨community, BitVec.ofInt 8 count, arrays⟩)) none := by
  unfold readLanParam arraysOf
  cases hasFlatArrays cfg <;> rfl

theorem readLanParam_eq_some {cfg : Json} {p : LanParam} :
    readLanParam cfg = .ok (some p) ↔
      cfg.value "CommunityString" Json.getString "" = .ok p.CommunityString ∧
      (∃ count, cfg.value "NumberofDestinations" Json.getInt 0 = .ok count ∧
        p.NumberofDestinations = BitVec.ofInt 8 count) ∧
      arraysOf cfg = .ok p.arrays := by
  rw [readLanParam_eq, catchJson_eq_ok]
  constructor
  · rintro (h | ⟨_, h⟩)
    · obtain ⟨community, hcommunity, h⟩ := Json.exists_of_bind_eq_ok h
      obtain ⟨count, hcount, h⟩ := Json.exists_of_bind_eq_ok h
      obtain ⟨arrays, harrays, h⟩ := Json.exists_of_bind_eq_ok h
      cases h
      exact ⟨hcommunity, ⟨count, hcount, rfl⟩, harrays⟩
    · cases h
  · rintro ⟨hcommunity, ⟨count, hcount, hn⟩, harrays⟩
    refine .inl ?_
    rw [hcommunity, hcount, harrays]
    show Except.ok (some (⟨p.CommunityString, BitVec.ofInt 8 count, p.arrays⟩ : LanParam)) = _
    rw [← hn]

/-! ## A section with one property put into it -/

theorem obj_of_value_eq_ok {α : Type} {k : String} {get : Json → Except Json.Error α} {d x : α}
    {j : Json} (h : j.value k get d = .ok x) : ∃ ms, j = .obj ms := by
  cases j with
  | obj ms => exact ⟨ms, rfl⟩
  | _ => cases h

section Put

variable {ms : List (String × Json)}

theorem value_assign_ne {α : Type} {k k' : String} (hk : k ≠ k') (v : Json)
    (get : Json → Except Json.Error α) (d : α) :
    (Json.obj (Members.assign k v ms)).value k' get d = (Json.obj ms).value k' get d := by
  simp only [Json.value, Members.lookup_assign_ne hk]

theorem arrayAt_assign_ne {k k' : String} (hk : k ≠ k') (v : Json) :
    arrayAt (.obj (Members.assign k v ms)) k' = arrayAt (.obj ms) k' := by
  simp only [arrayAt, Json.find?, Members.lookup_assign_ne hk]

theorem arrayAt_assign_self (k : String) (xs : List Json) :
    arrayAt (.obj (Members.assign k (.arr xs) ms)) k = some xs := by
  simp only [arrayAt, Json.find?, Members.lookup_assign_self]

theorem readStrings_assign_ne {k k' : String} (hk : k ≠ k') (v : Json) :
    readStrings (.obj (Members.assign k v ms)) k' = readStrings (.obj ms) k' := by
  simp only [readStrings, arrayAt_assign_ne hk]

theorem readBytes_assign_ne {k k' : String} (hk : k ≠ k') (v : Json) :
    readBytes (.obj (Members.assign k v ms)) k' = readBytes (.obj ms) k' := by
  simp only [readBytes, Json.find?, Members.lookup_assign_ne hk]

theorem readStrings_assign_self (k : String) (value : List String) :
    readStrings (.obj (Members.assign k (jsonOfStrings value) ms)) k = .ok value := by
  unfold readStrings jsonOfStrings
  rw [arrayAt_assign_self, Option.getD_some, List.mapM_map]
  induction value with
  | nil => rfl
  | cons s value ih =>
      rw [List.mapM_cons, ih]
      rfl

theorem getByte_num (x : U8) : getByte (.num x.toNat) = .ok x := by
  have hx : (BitVec.ofInt 32 (x.toNat : Int)).setWidth 8 = x := by
    rw [BitVec.ofInt_natCast, BitVec.setWidth_ofNat_of_le (by omega), BitVec.ofNat_toNat,
      BitVec.setWidth_eq]
  show Except.ok ((BitVec.ofInt 32 (x.toNat : Int)).setWidth 8) = Except.ok x
  rw [hx]

theorem readBytes_assign_self (k : String) (value : List U8) :
    readBytes (.obj (Members.assign k (jsonOfBytes value) ms)) k = .ok value := by
  unfold readBytes jsonOfBytes
  rw [Json.find?, Members.lookup_assign_self, Option.getD_some, Json.items, List.mapM_map]
  induction value with
  | nil => rfl
  | cons x value ih =>
      rw [List.mapM_cons, ih, Function.comp_apply, getByte_num]
      rfl

theorem readStrings_put {req : LanSet} {k : String} {old new : List String}
    (hk : req.propName ≠ k ∧ new = old ∨ req.propName = k ∧ req.json = jsonOfStrings new)
    (h : readStrings (.obj ms) k = .ok old) :
    readStrings (.obj (Members.assign req.propName req.json ms)) k = .ok new := by
  rcases hk with ⟨hne, rfl⟩ | ⟨rfl, hjson⟩
  · exact (readStrings_assign_ne hne _).trans h
  · rw [hjson]
    exact readStrings_assign_self _ _

theorem readBytes_put {req : LanSet} {k : String} {old new : List U8}
    (hk : req.propName ≠ k ∧ new = old ∨ req.propName = k ∧ req.json = jsonOfBytes new)
    (h : readBytes (.obj ms) k = .ok old) :
    readBytes (.obj (Members.assign req.propName req.json ms)) k = .ok new := by
  rcases hk with ⟨hne, rfl⟩ | ⟨rfl, hjson⟩
  · exact (readBytes_assign_ne hne _).trans h
  · rw [hjson]
    exact readBytes_assign_self _ _

theorem arraysRead_put {n : U8} {a : LanArrays} (h : ArraysRead (.obj ms) n a) (req : LanSet) :
    ArraysRead (.obj (Members.assign req.propName req.json ms)) n (a.assign req) where
  destCount := by
    have hne : req.propName ≠ "NumberofDestinations" := by cases req <;> simp [LanSet.propName]
    exact (value_assign_ne hne _ _ _).trans h.destCount
  ipv4Arr := readStrings_put (by
    cases req <;> simp [LanSet.propName, LanSet.json, LanArrays.assign]) h.ipv4Arr
  ipv6Arr := readStrings_put (by
    cases req <;> simp [LanSet.propName, LanSet.json, LanArrays.assign]) h.ipv6Arr
  userArr := readStrings_put (by
    cases req <;> simp [LanSet.propName, LanSet.json, LanArrays.assign]) h.userArr
  typeArr := readBytes_put (by
    cases req <;> simp [LanSet.propName, LanSet.json, LanArrays.assign]) h.typeArr
  retriesArr := readBytes_put (by
    cases req <;> simp [LanSet.propName, LanSet.json, LanArrays.assign]) h.retriesArr
  timeoutArr := readBytes_put (by
    cases req <;> simp [LanSet.propName, LanSet.json, LanArrays.assign]) h.timeoutArr
  addressTypeArr := readBytes_put (by
    cases req <;> simp [LanSet.propName, LanSet.json, LanArrays.assign]) h.addressTypeArr

theorem isSome_arrayAt_put {req : LanSet} {k : String} (hk : k ≠ "CommunityString")
    (h : (arrayAt (.obj ms) k).isSome = true) :
    (arrayAt (.obj (Members.assign req.propName req.json ms)) k).isSome = true := by
  by_cases hne : req.propName = k
  · subst hne
    cases req with
    | communityString value => exact absurd rfl hk
    | _ =>
        simp only [LanSet.json, jsonOfStrings, jsonOfBytes, arrayAt_assign_self]
        rfl
  · rw [arrayAt_assign_ne hne]
    exact h

theorem hasFlatArrays_put (req : LanSet) (h : hasFlatArrays (.obj ms) = true) :
    hasFlatArrays (.obj (Members.assign req.propName req.json ms)) = true := by
  simp only [hasFlatArrays, Bool.and_eq_true] at h ⊢
  obtain ⟨⟨⟨⟨⟨h4, h6⟩, hu⟩, ht⟩, htm⟩, hr⟩ := h
  exact ⟨⟨⟨⟨⟨isSome_arrayAt_put (by decide) h4, isSome_arrayAt_put (by decide) h6⟩,
    isSome_arrayAt_put (by decide) hu⟩, isSome_arrayAt_put (by decide) ht⟩,
    isSome_arrayAt_put (by decide) htm⟩, isSome_arrayAt_put (by decide) hr⟩

theorem arraysOf_put_community (v : Json) :
    arraysOf (.obj (Members.assign "CommunityString" v ms)) = arraysOf (.obj ms) := by
  have hflat : hasFlatArrays (.obj (Members.assign "CommunityString" v ms)) =
      hasFlatArrays (.obj ms) := by
    simp only [hasFlatArrays]
    iterate 6 rw [arrayAt_assign_ne (by decide)]
  have hread : readLanArrays (.obj (Members.assign "CommunityString" v ms)) =
      readLanArrays (.obj ms) := by
    unfold readLanArrays
    rw [value_assign_ne (by decide)]
    iterate 3 rw [readStrings_assign_ne (by decide)]
    iterate 4 rw [readBytes_assign_ne (by decide)]
  unfold arraysOf
  rw [hflat, hread]

end Put

/-! ## An object read again after a Set -/

/-- Both readings of the number of destinations have the same low byte. -/
theorem destCount_eq {cfg : Json} {n : U8} {count : Int}
    (hn : cfg.value "NumberofDestinations" (Json.getUnsigned 8) 0 = .ok n)
    (hcount : cfg.value "NumberofDestinations" Json.getInt 0 = .ok count) :
    n = BitVec.ofInt 8 count := by
  obtain ⟨ms, rfl⟩ := obj_of_value_eq_ok hn
  simp only [Json.value] at hn hcount
  cases hv : ms.lookup "NumberofDestinations" with
  | none =>
      rw [hv] at hn hcount
      cases hn
      cases hcount
      rfl
  | some v =>
      rw [hv] at hn hcount
      cases v with
      | num i =>
          cases hn
          cases hcount
          exact (Json.ofInt_bmod (by decide) i).symm
      | bool b =>
          cases hn
          cases hcount
          cases b <;> rfl
      | real q =>
          simp only [Json.getUnsigned] at hn
          simp only [Json.getInt] at hcount
          split at hn
          · split at hcount
            · cases hn
              cases hcount
              rfl
            · cases hcount
          · cases hn
      | _ => cases hn

theorem arrays_of_read {cfg : Json} {p : LanParam} {a : LanArrays}
    (h : readLanParam cfg = .ok (some p)) (ha : p.arrays = some a) :
    hasFlatArrays cfg = true ∧
      ∃ raw, ArraysRead cfg p.NumberofDestinations raw ∧ a = raw.pad p.NumberofDestinations := by
  obtain ⟨_, ⟨count, hcount, hn⟩, harrays⟩ := readLanParam_eq_some.mp h
  rw [ha] at harrays
  obtain ⟨hflat, n, raw, hraw, rfl⟩ := arraysOf_eq_some.mp harrays
  have hsame : n = p.NumberofDestinations := (destCount_eq hraw.destCount hcount).trans hn.symm
  subst hsame
  exact ⟨hflat, raw, hraw, rfl⟩

theorem pad_of_read {cfg : Json} {p : LanParam} (h : readLanParam cfg = .ok (some p)) :
    p.pad = p := by
  obtain ⟨community, n, arrays⟩ := p
  cases arrays with
  | none => rfl
  | some a =>
      obtain ⟨_, raw, _, ha⟩ := arrays_of_read h rfl
      have hpad : a.pad n = a := by
        have ha : a = raw.pad n := ha
        rw [ha, LanArrays.pad_pad]
      simp only [LanParam.pad, Option.map_some, hpad]

/-- The property of the Set is there. -/
def LanSet.Registered (p : LanParam) : LanSet → Prop
  | .communityString _ => True
  | _ => p.arrays.isSome = true

theorem readLanParam_put {ms : List (String × Json)} {p : LanParam} {req : LanSet}
    (h : readLanParam (.obj ms) = .ok (some p)) (hreg : req.Registered p) :
    readLanParam (.obj (Members.assign req.propName req.json ms)) = .ok (some (p.assign req).pad) := by
  obtain ⟨hcommunity, ⟨count, hcount, hn⟩, harrays⟩ := readLanParam_eq_some.mp h
  have hnumber : req.propName ≠ "NumberofDestinations" := by cases req <;> simp [LanSet.propName]
  have hkeep : (p.assign req).pad.NumberofDestinations = p.NumberofDestinations := by
    cases req <;> rfl
  refine readLanParam_eq_some.mpr ⟨?_, ⟨count, (value_assign_ne hnumber _ _ _).trans hcount,
    hkeep.trans hn⟩, ?_⟩
  · cases req with
    | communityString value => simp only [LanSet.propName, LanSet.json, Json.value,
        Members.lookup_assign_self, Json.getString, LanParam.assign, LanParam.pad]
    | _ => exact (value_assign_ne (by simp [LanSet.propName]) _ _ _).trans hcommunity
  · have hput : ∀ a, p.arrays = some a →
        arraysOf (.obj (Members.assign req.propName req.json ms)) =
          .ok (some ((a.assign req).pad p.NumberofDestinations)) := by
      intro a ha
      obtain ⟨hflat, raw, hraw, rfl⟩ := arrays_of_read h ha
      exact arraysOf_eq_some.mpr ⟨hasFlatArrays_put req hflat, _, _, arraysRead_put hraw req,
        LanArrays.pad_assign_pad _ raw req⟩
    cases req with
    | communityString value =>
        have hpad : p.arrays.map (LanArrays.pad p.NumberofDestinations) = p.arrays :=
          congrArg LanParam.arrays (pad_of_read h)
        exact (arraysOf_put_community _).trans (harrays.trans (congrArg Except.ok hpad.symm))
    | _ =>
        obtain ⟨a, ha⟩ := Option.isSome_iff_exists.mp hreg
        rw [hput a ha]
        simp only [LanParam.assign, LanParam.pad, ha, Option.map_some]

/-- The section a Set starts when there was none. -/
theorem readLanParam_fresh (req : LanSet) :
    readLanParam (.obj [(req.propName, req.json)]) =
      .ok (some ((⟨"", 0, none⟩ : LanParam).assign req)) := by
  cases req <;> rfl

/-! ## The writer -/

/-- The "Config" section below an interface section. -/
def configOf (data : Option Json) : Option Json := data.bind (Json.find? "Config")

theorem find?_access {k : String} {j j' v : Json} (h : j.access k = .ok (j', v)) :
    v = (j.find? k).getD .null ∧ ∀ k', k' ≠ k → j'.find? k' = j.find? k' := by
  cases j with
  | null =>
      cases h
      refine ⟨rfl, fun k' hk => ?_⟩
      simp only [Json.find?, Members.lookup_cons, if_neg (Ne.symm hk)]
      rfl
  | obj ms =>
      simp only [Json.access] at h
      cases hlookup : ms.lookup k with
      | some w =>
          rw [hlookup] at h
          cases h
          refine ⟨?_, fun _ _ => rfl⟩
          rw [Json.find?, hlookup, Option.getD_some]
      | none =>
          rw [hlookup] at h
          cases h
          refine ⟨?_, fun k' hk => Members.lookup_assign_ne (Ne.symm hk) _ _⟩
          rw [Json.find?, hlookup, Option.getD_none]
  | _ => cases h

theorem obj_of_put_eq_ok {k : String} {v j j' : Json} (h : Json.put k v j = .ok j') :
    ∃ ms, j' = .obj ms := by
  cases j with
  | null => exact ⟨_, (Except.ok.inj h).symm⟩
  | obj ms => exact ⟨_, (Except.ok.inj h).symm⟩
  | _ => cases h

theorem putLanValue_eq_ok {ifaceName propName : String} {value container container' : Json}
    (h : putLanValue ifaceName propName value container = .ok container') :
    (∃ ms, container' = .obj ms) ∧
    (∀ other, other ≠ ifaceName → container'.find? other = container.find? other) ∧
    ∃ cfg', configOf (container'.find? ifaceName) = some cfg' ∧
      Json.put propName value ((configOf (container.find? ifaceName)).getD .null) = .ok cfg' := by
  obtain ⟨⟨c₁, data⟩, haccess, hrest⟩ := Json.exists_of_bind_eq_ok h
  obtain ⟨⟨data₁, cfg⟩, hconfig, hrest⟩ := Json.exists_of_bind_eq_ok hrest
  obtain ⟨cfg', hcfg, hrest⟩ := Json.exists_of_bind_eq_ok hrest
  obtain ⟨data', hdata, hput⟩ := Json.exists_of_bind_eq_ok hrest
  obtain ⟨hold, hothers⟩ := find?_access haccess
  obtain ⟨hcfgOld, -⟩ := find?_access hconfig
  refine ⟨obj_of_put_eq_ok hput, fun other hother => ?_, cfg', ?_, ?_⟩
  · rw [Json.find?_put hput, if_neg (Ne.symm hother)]
    exact hothers other hother
  · rw [Json.find?_put hput, if_pos rfl]
    show Json.find? "Config" data' = some cfg'
    rw [Json.find?_put hdata, if_pos rfl]
  · have hsame : (configOf (container.find? ifaceName)).getD .null = cfg := by
      rw [hcfgOld, hold]
      cases container.find? ifaceName <;> rfl
    rw [hsame]
    exact hcfg

/-- The object under "Interfaces". -/
def interfacesOf (shared : Json) : Option (List (String × Json)) :=
  match shared.find? "Interfaces" with
  | some (.obj ms) => some ms
  | _ => none

theorem sharedSection_eq (data : Json) (ifaceName : String) :
    sharedSection (some data) ifaceName =
      match interfacesOf data with
      | some ms => ms.lookup ifaceName
      | none => data.find? ifaceName := by
  unfold sharedSection mergedLanConfigs interfacesOf
  cases hfind : data.find? "Interfaces" with
  | none =>
      simp only [hfind]
      cases data <;> rfl
  | some v =>
      simp only [hfind]
      cases v with
      | obj ms => rfl
      | _ => cases data <;> rfl

/-- Writing into the shared file changes one property of one interface, in the
layout the file has. -/
theorem updateLanParamConfigValue_eq_ok {shared : Option Json} {ifaceName propName : String}
    {value shared' : Json} (hiface : ifaceName ≠ "Interfaces")
    (h : updateLanParamConfigValue shared ifaceName propName value = .ok shared') :
    (∀ other, other ≠ ifaceName →
      sharedSection (some shared') other = sharedSection shared other) ∧
    ∃ cfg', configOf (sharedSection (some shared') ifaceName) = some cfg' ∧
      Json.put propName value ((configOf (sharedSection shared ifaceName)).getD .null) =
        .ok cfg' := by
  have hdata : ∀ other, sharedSection shared other = sharedSection (some (shared.getD (.obj []))) other := by
    intro other
    cases shared <;> rfl
  simp only [hdata, sharedSection_eq]
  unfold updateLanParamConfigValue at h
  generalize shared.getD (.obj []) = data at h ⊢
  cases hnested : interfacesOf data with
  | some ms =>
      have hfind : data.find? "Interfaces" = some (.obj ms) := by
        unfold interfacesOf at hnested
        split at hnested
        · next hfind => exact hfind.trans (by rw [Option.some.inj hnested])
        · cases hnested
      simp only [hfind] at h
      obtain ⟨interfaces, hput, hdone⟩ := Json.exists_of_bind_eq_ok h
      obtain ⟨⟨ms', rfl⟩, hothers, cfg', hcfg, hvalue⟩ := putLanValue_eq_ok hput
      have hnested' : interfacesOf shared' = some ms' := by
        unfold interfacesOf
        rw [Json.find?_put hdone, if_pos rfl]
      simp only [hnested']
      exact ⟨hothers, cfg', hcfg, hvalue⟩
  | none =>
      have hflat : putLanValue ifaceName propName value data = .ok shared' := by
        unfold interfacesOf at hnested
        split at hnested
        · cases hnested
        · next hfind =>
            dsimp only at h
            split at h
            · next ms hfind' => exact absurd hfind' (hfind ms)
            · exact h
      obtain ⟨_, hothers, cfg', hcfg, hvalue⟩ := putLanValue_eq_ok hflat
      have hnested' : interfacesOf shared' = none := by
        unfold interfacesOf
        rw [hothers "Interfaces" (Ne.symm hiface)]
        exact hnested
      simp only [hnested']
      exact ⟨hothers, cfg', hcfg, hvalue⟩

/-! ## The interfaces -/

theorem foldlM_keeps {σ α ε : Type} {P : σ → Prop} {g : σ → α → Except ε σ}
    (hstep : ∀ s x s', P s → g s x = .ok s' → P s') :
    ∀ {xs : List α} {s s' : σ}, P s → xs.foldlM g s = .ok s' → P s'
  | [], s, s', hs, h => Except.ok.inj h ▸ hs
  | x :: xs, s, s', hs, h => by
      rw [List.foldlM_cons] at h
      obtain ⟨t, ht, h⟩ := Json.exists_of_bind_eq_ok h
      exact foldlM_keeps hstep (hstep s x t hs ht) h

theorem addEthInterface_eth {names names' : List String} {channelObj : Json}
    (hnames : ∀ n ∈ names, isEthInterfaceName n = true)
    (h : addEthInterface names channelObj = .ok names') :
    ∀ n ∈ names', isEthInterfaceName n = true := by
  cases channelObj with
  | obj ms =>
      obtain ⟨isValid, _, h⟩ := Json.exists_of_bind_eq_ok h
      split at h
      · exact Except.ok.inj h ▸ hnames
      · obtain ⟨name, _, h⟩ := Json.exists_of_bind_eq_ok h
        have h := Except.ok.inj h
        split at h
        · exact h ▸ hnames
        · next hname =>
            subst h
            intro n hn
            rcases List.mem_append.mp hn with hn | hn
            · exact hnames n hn
            · rw [List.mem_singleton.mp hn]
              simp only [Bool.or_eq_true, Bool.not_eq_true', decide_eq_true_eq, not_or,
                Bool.not_eq_false] at hname
              exact hname.1
  | _ => exact Except.ok.inj h ▸ hnames

theorem eth_of_mem_lanInterfaces {f : LanFiles} {names : List String}
    (h : lanInterfaces f = .ok names) : ∀ n ∈ names, isEthInterfaceName n = true := by
  obtain ⟨eths, heths, h⟩ := Json.exists_of_bind_eq_ok h
  have hall : ∀ n ∈ eths, isEthInterfaceName n = true := by
    unfold getAvailableEthInterfaces at heths
    split at heths
    · cases heths
      exact fun n hn => absurd hn List.not_mem_nil
    · exact foldlM_keeps (fun _ _ _ => addEthInterface_eth)
        (fun n hn => absurd hn List.not_mem_nil) heths
  have h := Except.ok.inj h
  split at h
  · subst h
    decide
  · exact h ▸ hall

theorem mapM_named_eq_ok {α ε : Type} {g : String → Except ε α} :
    ∀ {names : List String} {ps : List (String × α)},
      (names.mapM fun n => do pure (n, ← g n)) = .ok ps ↔
        ps.map Prod.fst = names ∧ ∀ p ∈ ps, g p.1 = .ok p.2
  | [], ps => by
      constructor
      · intro h
        cases h
        exact ⟨rfl, fun p hp => absurd hp List.not_mem_nil⟩
      · rintro ⟨h, -⟩
        rw [List.map_eq_nil_iff.mp h]
        rfl
  | n :: names, ps => by
      rw [List.mapM_cons]
      constructor
      · intro h
        obtain ⟨p, hp, h⟩ := Json.exists_of_bind_eq_ok h
        obtain ⟨x, hx, hp⟩ := Json.exists_of_bind_eq_ok hp
        obtain ⟨ps', hps', h⟩ := Json.exists_of_bind_eq_ok h
        cases hp
        cases h
        obtain ⟨hnames, hall⟩ := mapM_named_eq_ok.mp hps'
        exact ⟨congrArg (n :: ·) hnames, List.forall_mem_cons.mpr ⟨hx, hall⟩⟩
      · rintro ⟨hnames, hall⟩
        obtain ⟨p, ps, rfl⟩ : ∃ p ps', ps = p :: ps' :=
          List.exists_cons_of_ne_nil (by rintro rfl; cases hnames)
        obtain ⟨hn, hnames⟩ := List.cons.inj hnames
        obtain ⟨hp, hall⟩ := List.forall_mem_cons.mp hall
        have hps := mapM_named_eq_ok.mpr ⟨hnames, hall⟩
        subst hn
        rw [hp, hps]
        rfl

/-- What is loaded: an object for each interface, from its section. -/
theorem parseLanConf_eq_ok {f : LanFiles} {objects : List (String × Option LanParam)} :
    parseLanConf f = .ok objects ↔ lanInterfaces f = .ok (objects.map Prod.fst) ∧
      ∀ p ∈ objects, readLanParam (lanConfig f p.1) = .ok p.2 := by
  constructor
  · intro h
    obtain ⟨names, hnames, h⟩ := Json.exists_of_bind_eq_ok h
    obtain ⟨rfl, hall⟩ := mapM_named_eq_ok.mp h
    exact ⟨hnames, hall⟩
  · rintro ⟨hnames, hall⟩
    unfold parseLanConf
    rw [hnames]
    exact mapM_named_eq_ok.mpr ⟨rfl, hall⟩

/-! ## Sets and restarts -/

/-- The files, and the object of each interface, `none` for one given up. -/
structure LanSystem where
  files : LanFiles
  objects : List (String × Option LanObject)

/-- The objects just loaded. -/
def LanSystem.start (f : LanFiles) (objects : List (String × Option LanParam)) : LanSystem :=
  ⟨f, objects.map fun p => (p.1, p.2.map .load)⟩

/-- A Set of a property of an interface, with the replies its setter gets. -/
structure LanEvent where
  ifaceName : String
  env : LanSetterEnv
  req : LanSet

/-- The object of an interface, if there is one. -/
def LanSystem.object (s : LanSystem) (ifaceName : String) : Option LanObject :=
  (s.objects.lookup ifaceName).join

/-- The object of an interface replaced. -/
def setObject (objects : List (String × Option LanObject)) (ifaceName : String) (o : LanObject) :
    List (String × Option LanObject) :=
  objects.map fun p => if p.1 = ifaceName then (p.1, some o) else p

/-- An accepted Set; the writer behind the setter returns, and the file is written. -/
def setLan (s : LanSystem) (e : LanEvent) : Option LanSystem := do
  let o ← s.object e.ifaceName
  let o' ← setLanProperty e.env o e.req
  match updateLanParamConfigValue s.files.shared e.ifaceName e.req.propName e.req.json with
  | .error _ => none
  | .ok shared =>
      some ⟨{ s.files with shared := some shared }, setObject s.objects e.ifaceName o'⟩

/-- A restart gives every object with the properties it has, padded. -/
def Survives (s : LanSystem) : Prop :=
  parseLanConf s.files = .ok (s.objects.map fun p => (p.1, p.2.map fun o => o.param.pad))

/-- The shared file has a section for the interface, or nothing of the interface
comes from elsewhere. -/
def SectionKept (s : LanSystem) (ifaceName : String) : Prop :=
  (sharedSection s.files.shared ifaceName).isSome = true ∨
    ∀ o, s.object ifaceName = some o → o.param.arrays = none ∧ o.param.NumberofDestinations = 0

theorem survives_iff {s : LanSystem} :
    Survives s ↔ lanInterfaces s.files = .ok (s.objects.map Prod.fst) ∧
      ∀ p ∈ s.objects,
        readLanParam (lanConfig s.files p.1) = .ok (p.2.map fun o => o.param.pad) := by
  unfold Survives
  rw [parseLanConf_eq_ok, List.map_map, List.forall_mem_map]
  rfl

theorem survives_start {f : LanFiles} {objects : List (String × Option LanParam)}
    (h : parseLanConf f = .ok objects) : Survives (.start f objects) := by
  obtain ⟨hnames, hall⟩ := parseLanConf_eq_ok.mp h
  refine survives_iff.mpr ⟨?_, ?_⟩
  · simp only [LanSystem.start, List.map_map]
    exact hnames
  · simp only [LanSystem.start, List.forall_mem_map]
    intro p hp
    have hread := hall p hp
    obtain ⟨name, object⟩ := p
    cases object with
    | none => exact hread
    | some param =>
        rw [hread, Option.map_some, Option.map_some]
        exact congrArg (fun p => Except.ok (some p)) (pad_of_read hread).symm

theorem setLan_eq_some {s s' : LanSystem} {e : LanEvent} (h : setLan s e = some s') :
    ∃ o shared, s.object e.ifaceName = some o ∧ lanSetAccepted e.env o e.req = true ∧
      updateLanParamConfigValue s.files.shared e.ifaceName e.req.propName e.req.json = .ok shared ∧
      s' = ⟨{ s.files with shared := some shared },
        setObject s.objects e.ifaceName (o.assign e.req)⟩ := by
  obtain ⟨o, ho, h⟩ := Option.bind_eq_some_iff.mp h
  obtain ⟨o', ho', h⟩ := Option.bind_eq_some_iff.mp h
  obtain ⟨hacc, rfl⟩ := setLanProperty_eq_some ho'
  split at h
  · cases h
  · next shared hshared => exact ⟨o, shared, ho, hacc, hshared, (Option.some.inj h).symm⟩

theorem lanConfig_of_shared {f : LanFiles} {ifaceName : String} {data : Json}
    (h : sharedSection f.shared ifaceName = some data) :
    lanConfig f ifaceName = (configOf (some data)).getD (.obj []) := by
  simp only [lanConfig, lanData, h]
  rfl

theorem lanConfig_congr {f : LanFiles} {shared : Option Json} {ifaceName : String}
    (h : sharedSection shared ifaceName = sharedSection f.shared ifaceName) :
    lanConfig { f with shared := shared } ifaceName = lanConfig f ifaceName := by
  simp only [lanConfig, lanData, h]

theorem registered_of_accepted {env : LanSetterEnv} {o : LanObject} {req : LanSet}
    (h : lanSetAccepted env o req = true) : req.Registered o.param.pad := by
  cases req with
  | communityString value => trivial
  | _ =>
      have hsome := (Bool.and_eq_true_iff.mp h).1
      simpa only [LanSet.Registered, LanParam.pad, Option.isSome_map] using hsome

theorem fresh_eq_pad_iff {p : LanParam} {req : LanSet} (hreg : req.Registered p.pad) :
    (⟨"", 0, none⟩ : LanParam).assign req = (p.assign req).pad ↔
      p.arrays = none ∧ p.NumberofDestinations = 0 := by
  obtain ⟨community, n, arrays⟩ := p
  cases req with
  | communityString value =>
      simp only [LanParam.assign, LanParam.pad, LanParam.mk.injEq, true_and, eq_comm (a := none),
        Option.map_eq_none_iff, eq_comm (a := (0 : U8))]
      exact and_comm
  | _ =>
      obtain ⟨a, ha⟩ := Option.isSome_iff_exists.mp hreg
      obtain ⟨a, rfl, -⟩ := Option.map_eq_some_iff.mp ha
      refine iff_of_false (fun h => ?_) (fun h => nomatch h.1)
      cases congrArg LanParam.arrays h

theorem lanConfig_of_config {f : LanFiles} {shared : Option Json} {ifaceName : String} {cfg : Json}
    (h : configOf (sharedSection shared ifaceName) = some cfg) :
    lanConfig { f with shared := shared } ifaceName = cfg := by
  obtain ⟨data, hdata, hfind⟩ := Option.bind_eq_some_iff.mp h
  rw [lanConfig_of_shared hdata]
  show (Json.find? "Config" data).getD _ = _
  rw [hfind, Option.getD_some]

theorem put_getD (k : String) (v : Json) (o : Option Json) :
    Json.put k v (o.getD .null) = Json.put k v (o.getD (.obj [])) := by
  cases o <;> rfl

theorem survives_setObject_iff {s : LanSystem} {shared : Option Json} {ifaceName : String}
    {o o' : LanObject} (hs : Survives s) (ho : s.object ifaceName = some o)
    (hothers : ∀ other, other ≠ ifaceName →
      sharedSection shared other = sharedSection s.files.shared other) :
    Survives ⟨{ s.files with shared := shared }, setObject s.objects ifaceName o'⟩ ↔
      readLanParam (lanConfig { s.files with shared := shared } ifaceName) =
        .ok (some o'.param.pad) := by
  obtain ⟨hnames, hall⟩ := survives_iff.mp hs
  have hmem := Members.mem_of_lookup (Option.join_eq_some_iff.mp ho)
  rw [survives_iff]
  simp only [setObject, List.forall_mem_map]
  constructor
  · intro hafter
    have hself := hafter.2 _ hmem
    rw [if_pos rfl] at hself
    exact hself
  · intro hself
    refine ⟨?_, fun p hp => ?_⟩
    · rw [List.map_map]
      refine hnames.trans (congrArg Except.ok (List.map_congr_left fun p _ => ?_))
      show p.1 = (if p.1 = ifaceName then (p.1, some o') else p).1
      split <;> rfl
    · split
      · next hname =>
          show readLanParam (lanConfig _ p.1) = _
          rw [hname]
          exact hself
      · next hname =>
          rw [lanConfig_congr (hothers p.1 hname)]
          exact hall p hp

/-- One Set keeps a restart harmless exactly when it finds the section, or
nothing that could be lost. -/
theorem survives_setLan_iff {s s' : LanSystem} {e : LanEvent} (hs : Survives s)
    (h : setLan s e = some s') : Survives s' ↔ SectionKept s e.ifaceName := by
  obtain ⟨o, shared, ho, hacc, hshared, rfl⟩ := setLan_eq_some h
  obtain ⟨hnames, hall⟩ := survives_iff.mp hs
  have hmem := Members.mem_of_lookup (Option.join_eq_some_iff.mp ho)
  have hread : readLanParam (lanConfig s.files e.ifaceName) = .ok (some o.param.pad) := hall _ hmem
  have hreg := registered_of_accepted hacc
  have heth : isEthInterfaceName e.ifaceName = true :=
    eth_of_mem_lanInterfaces hnames _ (List.mem_map_of_mem hmem)
  have hiface : e.ifaceName ≠ "Interfaces" := by
    intro hname
    rw [hname] at heth
    exact absurd heth (by decide)
  obtain ⟨hothers, cfg', hcfg', hput⟩ := updateLanParamConfigValue_eq_ok hiface hshared
  rw [survives_setObject_iff hs ho hothers, lanConfig_of_config hcfg']
  cases hold : sharedSection s.files.shared e.ifaceName with
  | some data =>
      -- the property is put into the section that has been read
      refine iff_of_true ?_ (.inl (by rw [hold]; rfl))
      rw [lanConfig_of_shared hold] at hread
      rw [hold, put_getD] at hput
      obtain ⟨ms, hms⟩ := obj_of_value_eq_ok (readLanParam_eq_some.mp hread).1
      rw [hms] at hread hput
      cases hput
      show readLanParam (.obj (Members.assign e.req.propName e.req.json ms)) = _
      rw [readLanParam_put hread hreg, LanParam.pad_assign_pad]
      rfl
  | none =>
      -- the property is all there is
      rw [hold] at hput
      cases hput
      show readLanParam (.obj [(e.req.propName, e.req.json)]) =
        .ok (some (o.param.assign e.req).pad) ↔ _
      rw [readLanParam_fresh, Except.ok.injEq, Option.some.injEq, fresh_eq_pad_iff hreg, SectionKept,
        hold]
      simp only [Option.isSome_none, Bool.false_eq_true, false_or, ho, Option.some.injEq,
        forall_eq']

/-- From any files that can be loaded: a restart at any time of a run of Sets gives
every object back, padded, exactly when each Set finds the interface's section in
the shared file, or finds nothing of the interface that comes from elsewhere. -/
theorem survives_iff_sectionKept (f : LanFiles) (objects : List (String × Option LanParam))
    (h : parseLanConf f = .ok objects) (es : List LanEvent) :
    (∀ s, Reached setLan (.start f objects) es s → Survives s) ↔
      ∀ s e s', Occurs setLan (.start f objects) es s e s' → SectionKept s e.ifaceName := by
  constructor
  · intro hsurvives s e s' hoccurs
    have hbefore := hsurvives s hoccurs.reached
    have hafter := hsurvives s' hoccurs.reached_after
    obtain ⟨_, _, _, _, hstep⟩ := hoccurs
    exact (survives_setLan_iff hbefore hstep).mp hafter
  · intro hkept s hreached
    refine Reached.induct (P := Survives) (survives_start h) (fun s e s' hoccurs hs => ?_) hreached
    have hsection := hkept s e s' hoccurs
    obtain ⟨_, _, _, _, hstep⟩ := hoccurs
    exact (survives_setLan_iff hs hstep).mpr hsection

/-- The configuration of one destination. -/
def sampleConfig : Json :=
  .obj [("Config", .obj [("CommunityString", .str "public"), ("NumberofDestinations", .num 1),
    ("IPv4", jsonOfStrings ["10.0.0.1"]), ("IPv6", jsonOfStrings ["::1"]),
    ("UserName", jsonOfStrings [""]), ("Type", jsonOfBytes [1]), ("Timeout", jsonOfBytes [0]),
    ("Retries", jsonOfBytes [0]), ("AddressType", jsonOfBytes [1])])]

/-- The object of `sampleConfig`. -/
def sampleParam : LanParam :=
  ⟨"public", 1, some ⟨["10.0.0.1"], ["::1"], [""], [1], [0], [0], [1]⟩⟩

/-- One interface, with its section in the shared file or in its legacy file. -/
def sampleFiles (shared : Option Json) : LanFiles where
  channelConfig := some (.obj [("1", .obj [("is_valid", .bool true), ("name", .str "eth0")])])
  shared := shared
  legacy _ := some sampleConfig

/-- A Set of the type. -/
def sampleSet : LanEvent := ⟨"eth0", adminOnly.replies, .type [0]⟩

/-- With the section in the shared file, a new type outlives a restart. -/
theorem type_survives :
    ∃ s, setLan (.start (sampleFiles (some (.obj [("eth0", sampleConfig)])))
      [("eth0", some sampleParam)]) sampleSet = some s ∧ Survives s := by
  have hall := (survives_iff_sectionKept (sampleFiles (some (.obj [("eth0", sampleConfig)])))
    [("eth0", some sampleParam)] rfl [sampleSet]).mpr fun s e s' hoccurs => by
      obtain ⟨rfl, rfl⟩ := hoccurs.singleton
      exact .inl rfl
  exact ⟨_, rfl, hall _ (.last rfl)⟩

/-- With the section in the legacy file, the new type is all that is left. -/
theorem legacy_section_lost :
    parseLanConf (sampleFiles none) = .ok [("eth0", some sampleParam)] ∧
      ∃ s, setLan (.start (sampleFiles none) [("eth0", some sampleParam)]) sampleSet = some s ∧
        ¬ Survives s := by
  have hload : parseLanConf (sampleFiles none) = .ok [("eth0", some sampleParam)] := rfl
  refine ⟨hload, _, rfl, fun hsurvives => ?_⟩
  have hkept := (survives_setLan_iff (e := sampleSet) (survives_start hload) rfl).mp hsurvives
  rcases hkept with hsection | hnothing
  · exact absurd hsection (by decide)
  · exact nomatch (hnothing (.load sampleParam) rfl).1

end Pef
