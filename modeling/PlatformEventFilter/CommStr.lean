/-
# `CommStr` — which community strings the setter finds

`isCommStrValid` goes through the objects of the SNMP service in the order of
their paths.  An object without the interface, or without the property, throws;
the exception ends the search and counts as "no match".

    Shadowed value tree    some object has the string, and one that throws
                           comes before all of these

`commStrLookup_iff`: the lookup is exact on the trees that are not shadowed, and
objects that throw change the answer where they shadow.
-/
import PlatformEventFilter.LanSetters

namespace Pef

/-- An object of the reply: its path, and its interfaces with their properties. -/
abbrev SnmpObject := String × List (String × PropertyMap)

/-- The community string of an object, if it has the interface and the
property. -/
def commStr (obj : SnmpObject) : Option String :=
  (obj.2.lookup snmpCommStrIntf).bind fun commStrProps =>
    (commStrProps.lookup "CommunityString").map Variant.getOnlyStr

/-- Some object has the string. -/
def HasCommStr (value : String) (tree : ObjectTree) : Prop := ∃ obj ∈ tree, commStr obj = some value

/-- An object that throws comes before every object that has the string, and
there is one of these. -/
inductive Shadowed (value : String) : ObjectTree → Prop
  | here {obj : SnmpObject} {objs : ObjectTree} : commStr obj = none → HasCommStr value objs →
      Shadowed value (obj :: objs)
  | later {obj : SnmpObject} {objs : ObjectTree} : commStr obj ≠ some value →
      Shadowed value objs → Shadowed value (obj :: objs)

/-- The first tree with objects added that lack the interface or the property. -/
inductive Grown : ObjectTree → ObjectTree → Prop
  | nil : Grown [] []
  | keep (obj : SnmpObject) {objs objs' : ObjectTree} : Grown objs objs' →
      Grown (obj :: objs) (obj :: objs')
  | add {obj : SnmpObject} {objs objs' : ObjectTree} : commStr obj = none → Grown objs objs' →
      Grown objs (obj :: objs')

/-! ## One object -/

theorem findCommStr_cons (value : String) (obj : SnmpObject) (objs : ObjectTree) :
    findCommStr value (obj :: objs) =
      match commStr obj with
      | none => .error .outOfRange
      | some found => if found = value then .ok true else findCommStr value objs := by
  obtain ⟨path, intfMap⟩ := obj
  rw [findCommStr, commStr]
  cases intfMap.lookup snmpCommStrIntf with
  | none => rfl
  | some commStrProps =>
      dsimp only [Option.bind_some]
      rw [PropertyMap.at]
      cases commStrProps.lookup "CommunityString" with
      | none => rfl
      | some v => rfl

theorem hasCommStr_cons (value : String) (obj : SnmpObject) (objs : ObjectTree) :
    HasCommStr value (obj :: objs) ↔ commStr obj = some value ∨ HasCommStr value objs := by
  simp only [HasCommStr, List.exists_mem_cons_iff]

theorem Shadowed.hasCommStr {value : String} {tree : ObjectTree} (h : Shadowed value tree) :
    HasCommStr value tree := by
  induction h with
  | here _ hhas => exact (hasCommStr_cons value _ _).mpr (.inr hhas)
  | later _ _ ih => exact (hasCommStr_cons value _ _).mpr (.inr ih)

/-! ## The search -/

theorem findCommStr_ok_true_iff (value : String) (tree : ObjectTree) :
    findCommStr value tree = .ok true ↔ HasCommStr value tree ∧ ¬Shadowed value tree := by
  induction tree with
  | nil =>
      refine iff_of_false (fun h => ?_) (fun h => ?_)
      · cases h
      · obtain ⟨⟨obj, hobj, -⟩, -⟩ := h
        exact List.not_mem_nil hobj
  | cons obj objs ih =>
      rw [findCommStr_cons, hasCommStr_cons]
      cases hobj : commStr obj with
      | none =>
          refine iff_of_false (fun h => ?_) ?_
          · cases h
          · rintro ⟨hfound | hhas, hnot⟩
            · cases hfound
            · exact hnot (.here hobj hhas)
      | some found =>
          dsimp only
          by_cases hfound : found = value
          · rw [if_pos hfound]
            refine iff_of_true rfl ⟨.inl (congrArg some hfound), fun hshadowed => ?_⟩
            cases hshadowed with
            | here hnone _ =>
                rw [hobj] at hnone
                cases hnone
            | later hne _ => exact hne (hobj.trans (congrArg some hfound))
          · have hne : commStr obj ≠ some value := by
              rw [hobj]
              exact fun h => hfound (Option.some.inj h)
            rw [if_neg hfound, ih, or_iff_right (hobj ▸ hne)]
            refine and_congr_right fun _ => not_congr ⟨.later hne, fun hshadowed => ?_⟩
            cases hshadowed with
            | here hnone _ =>
                rw [hobj] at hnone
                cases hnone
            | later _ hlater => exact hlater

theorem isCommStrValid_iff (env : LanSetterEnv) (value : String) (tree : ObjectTree) :
    isCommStrValid { env with managedObjects := some tree } value = true ↔
      HasCommStr value tree ∧ ¬Shadowed value tree := by
  rw [← findCommStr_ok_true_iff, isCommStrValid]
  dsimp only
  cases findCommStr value tree with
  | ok found => simp
  | error e => simp

/-! ## Trees with more objects -/

theorem Grown.hasCommStr_iff {value : String} {tree tree' : ObjectTree} (h : Grown tree tree') :
    HasCommStr value tree' ↔ HasCommStr value tree := by
  induction h with
  | nil => exact Iff.rfl
  | keep obj _ ih => rw [hasCommStr_cons, hasCommStr_cons, ih]
  | @add obj _ _ hnone _ ih =>
      have hne : commStr obj ≠ some value := by
        rw [hnone]
        exact fun h => nomatch h
      rw [hasCommStr_cons, or_iff_right hne, ih]

theorem Grown.shadowed {value : String} {tree tree' : ObjectTree} (h : Grown tree tree')
    (hshadowed : Shadowed value tree) : Shadowed value tree' := by
  induction h with
  | nil => cases hshadowed
  | keep obj hgrown ih =>
      cases hshadowed with
      | here hnone hhas => exact .here hnone (hgrown.hasCommStr_iff.mpr hhas)
      | later hne hlater => exact .later hne (ih hlater)
  | add hnone hgrown _ =>
      exact .here hnone (hgrown.hasCommStr_iff.mpr hshadowed.hasCommStr)

/-- The lookup is exact exactly when the string is not shadowed, and objects
that lack the interface or the property leave the answer exactly when they do
not shadow it. -/
theorem commStrLookup_iff (env : LanSetterEnv) (value : String) (tree : ObjectTree) :
    ((isCommStrValid { env with managedObjects := some tree } value = true ↔
        HasCommStr value tree) ↔ ¬Shadowed value tree) ∧
      ∀ tree', Grown tree tree' →
        (isCommStrValid { env with managedObjects := some tree' } value =
            isCommStrValid { env with managedObjects := some tree } value ↔
          (Shadowed value tree' → Shadowed value tree)) := by
  refine ⟨?_, fun tree' hgrown => ?_⟩
  · rw [isCommStrValid_iff]
    constructor
    · intro hexact hshadowed
      exact (hexact.mpr hshadowed.hasCommStr).2 hshadowed
    · intro hnot
      exact and_iff_left hnot
  · rw [Bool.eq_iff_iff, isCommStrValid_iff, isCommStrValid_iff, hgrown.hasCommStr_iff]
    constructor
    · intro hsame hshadowed
      by_contra hnot
      exact (hsame.mpr ⟨hgrown.hasCommStr_iff.mp hshadowed.hasCommStr, hnot⟩).2 hshadowed
    · intro hshadows
      exact and_congr_right fun _ => not_congr ⟨hshadows, hgrown.shadowed⟩

/-- The setter refuses a string that is shadowed, though the service has it. -/
theorem shadowed_string_refused {value : String} {tree : ObjectTree}
    (h : Shadowed value tree) (hne : value ≠ "") (env : LanSetterEnv) (o : LanObject) :
    setLanProperty { env with managedObjects := some tree } o (.communityString value) = none := by
  have hinvalid : isCommStrValid { env with managedObjects := some tree } value = false := by
    rw [Bool.eq_false_iff]
    intro hvalid
    exact ((isCommStrValid_iff env value tree).mp hvalid).2 h
  simp only [setLanProperty, lanSetAccepted, hinvalid, hne, decide_false, Bool.or_false,
    Bool.and_false, Bool.false_eq_true, if_false]

/-- An object with the string `public`. -/
def publicObject (path : String) : SnmpObject :=
  (path, [(snmpCommStrIntf, [("CommunityString", .str "public")])])

/-- An object of another interface. -/
def userObject (path : String) : SnmpObject := (path, [("xyz.openbmc_project.Snmp.User", [])])

/-- Behind the string, an object without it makes no difference. -/
theorem later_object_harmless :
    isCommStrValid { UserDb.replies adminOnly with
        managedObjects := some [publicObject "/a", userObject "/b"] } "public" =
      isCommStrValid { UserDb.replies adminOnly with
        managedObjects := some [publicObject "/a"] } "public" := by
  have hgrown : Grown [publicObject "/a"] [publicObject "/a", userObject "/b"] :=
    .keep _ (.add rfl .nil)
  refine ((commStrLookup_iff adminOnly.replies "public" [publicObject "/a"]).2 _ hgrown).mpr ?_
  intro hshadowed
  cases hshadowed with
  | here hnone _ => cases hnone
  | later hne _ => exact absurd rfl hne

/-- In front of it, it hides the string. -/
theorem string_hidden_by_user :
    HasCommStr "public" [userObject "/a", publicObject "/b"] ∧
      isCommStrValid { UserDb.replies adminOnly with
        managedObjects := some [userObject "/a", publicObject "/b"] } "public" = false :=
  ⟨⟨publicObject "/b", by simp, rfl⟩, rfl⟩

end Pef
