/-
# `Lib.Json` — JSON values as a C++ program sees them

The values, the accessors that read them with their failures, and the in-place
updates.  An accessor that may fail returns an `Except Json.Error`; the error
says which exception is thrown, or that the call is outside the accessor's
contract (`undefined`: reading an absent key through the constant subscript, or
converting a floating-point number to an integer type that cannot hold it).

    subscript k j          constant `j[k]`
    value k get d j        `j.value(k, d)`
    access k j             non-constant `j[k]`, which inserts `null`
    put k v j              `j[k] = v`
    putAt i f j            `f` applied to the element `j[i]` in place
    mergePatch t p         RFC 7396

Objects are lists of members.  `WF` says that no object inside the value has
two members of one name, which holds of everything a parser returns; `NoNulls`
that a merge has no member to drop.
-/
import Mathlib.Algebra.Group.Nat.Defs
import Mathlib.Algebra.Ring.Int.Defs
import Mathlib.Data.List.Nodup

/-! ## Association lists keyed by strings -/

namespace Members

variable {α : Type}

/-- Set the member `k`, in place when there is one, at the end otherwise. -/
def assign (k : String) (v : α) : List (String × α) → List (String × α)
  | [] => [(k, v)]
  | m :: ms => if m.1 = k then (k, v) :: ms else m :: assign k v ms

/-- Remove the members named `k`. -/
def erase (k : String) (ms : List (String × α)) : List (String × α) :=
  ms.filter fun m => m.1 ≠ k

theorem lookup_cons (k : String) (m : String × α) (ms : List (String × α)) :
    (m :: ms).lookup k = if m.1 = k then some m.2 else ms.lookup k := by
  rcases m with ⟨k', v⟩
  rw [List.lookup_cons]
  by_cases h : k' = k
  · simp [h]
  · rw [if_neg h, beq_false_of_ne (Ne.symm h)]

@[simp] theorem lookup_assign_self (k : String) (v : α) :
    ∀ ms : List (String × α), (assign k v ms).lookup k = some v
  | [] => by simp [assign]
  | m :: ms => by
      by_cases h : m.1 = k
      · simp [assign, h]
      · simp [assign, h, lookup_cons, lookup_assign_self k v ms]

theorem lookup_assign_ne {k k' : String} (h : k ≠ k') (v : α) :
    ∀ ms : List (String × α), (assign k v ms).lookup k' = ms.lookup k'
  | [] => by simp [assign, lookup_cons, h]
  | m :: ms => by
      by_cases hm : m.1 = k
      · have hm' : m.1 ≠ k' := hm ▸ h
        simp [assign, hm, lookup_cons, h]
      · simp [assign, hm, lookup_cons, lookup_assign_ne h v ms]

theorem lookup_assign (k k' : String) (v : α) (ms : List (String × α)) :
    (assign k v ms).lookup k' = if k = k' then some v else ms.lookup k' := by
  split
  · next h => subst h; exact lookup_assign_self k v ms
  · next h => exact lookup_assign_ne h v ms

theorem assign_assign (k : String) (v w : α) :
    ∀ ms : List (String × α), assign k w (assign k v ms) = assign k w ms
  | [] => by simp [assign]
  | m :: ms => by
      by_cases h : m.1 = k
      · simp [assign, h]
      · simp [assign, h, assign_assign k v w ms]

theorem mem_assign {k : String} {v : α} {m : String × α} :
    ∀ {ms : List (String × α)}, m ∈ assign k v ms → m = (k, v) ∨ m ∈ ms
  | [], h => Or.inl (List.mem_singleton.mp h)
  | x :: ms, h => by
      simp only [assign] at h
      split at h
      · rcases List.mem_cons.mp h with h | h
        · exact Or.inl h
        · exact Or.inr (List.mem_cons_of_mem _ h)
      · rcases List.mem_cons.mp h with h | h
        · exact Or.inr (h ▸ List.mem_cons_self)
        · exact (mem_assign h).imp_right (List.mem_cons_of_mem _)

theorem mem_names_assign {k k' : String} {v : α} {ms : List (String × α)}
    (h : k' ∈ (assign k v ms).map Prod.fst) : k' = k ∨ k' ∈ ms.map Prod.fst := by
  obtain ⟨m, hm, rfl⟩ := List.mem_map.mp h
  rcases mem_assign hm with rfl | hm
  · exact Or.inl rfl
  · exact Or.inr (List.mem_map_of_mem hm)

theorem nodup_assign {k : String} {v : α} :
    ∀ {ms : List (String × α)}, (ms.map Prod.fst).Nodup → ((assign k v ms).map Prod.fst).Nodup
  | [], _ => by simp [assign]
  | m :: ms, h => by
      rw [List.map_cons, List.nodup_cons] at h
      simp only [assign]
      split
      · next hm => simpa [← hm] using h
      · next hm =>
          rw [List.map_cons, List.nodup_cons]
          refine ⟨fun hmem => ?_, nodup_assign h.2⟩
          rcases mem_names_assign hmem with h' | h'
          · exact hm h'
          · exact h.1 h'

theorem lookup_erase (k k' : String) :
    ∀ ms : List (String × α), (erase k ms).lookup k' = if k = k' then none else ms.lookup k'
  | [] => by simp [erase]
  | m :: ms => by
      have ih := lookup_erase k k' ms
      by_cases hm : m.1 = k
      · have : erase k (m :: ms) = erase k ms := by simp [erase, hm]
        rw [this, ih, lookup_cons, hm]
        split <;> rfl
      · have : erase k (m :: ms) = m :: erase k ms := by simp [erase, hm]
        rw [this, lookup_cons, lookup_cons, ih]
        by_cases hk : k = k'
        · subst hk; simp [hm]
        · simp [hk]

theorem lookup_eq_none {k : String} {ms : List (String × α)} :
    ms.lookup k = none ↔ k ∉ ms.map Prod.fst := by
  induction ms with
  | nil => simp
  | cons m ms ih =>
      rw [lookup_cons]
      by_cases h : m.1 = k
      · simp [h]
      · rw [if_neg h, ih, List.map_cons, List.mem_cons, not_or]
        exact ⟨fun hk => ⟨fun e => h e.symm, hk⟩, fun hk => hk.2⟩

theorem assign_of_not_mem {k : String} {v : α} :
    ∀ {ms : List (String × α)}, k ∉ ms.map Prod.fst → assign k v ms = ms ++ [(k, v)]
  | [], _ => rfl
  | m :: ms, h => by
      rw [List.map_cons, List.mem_cons, not_or] at h
      simp only [assign, if_neg (Ne.symm h.1), assign_of_not_mem h.2, List.cons_append]

theorem names_assign {k : String} {v w : α} {ms : List (String × α)}
    (h : ms.lookup k = some w) : (assign k v ms).map Prod.fst = ms.map Prod.fst := by
  induction ms with
  | nil => cases h
  | cons m ms ih =>
      rw [lookup_cons] at h
      simp only [assign]
      split
      · next hm => rw [List.map_cons, List.map_cons, hm]
      · next hm =>
          rw [if_neg hm] at h
          rw [List.map_cons, List.map_cons, ih h]

theorem assign_eq_self {k : String} {v : α} :
    ∀ {ms : List (String × α)}, assign k v ms = ms ↔ ms.lookup k = some v
  | [] => by simp [assign]
  | m :: ms => by
      rw [lookup_cons]
      simp only [assign]
      split
      · next h =>
          subst h
          rw [List.cons.injEq, and_iff_left rfl, Option.some.injEq]
          exact ⟨fun e => (congrArg Prod.snd e).symm, fun e => e ▸ rfl⟩
      · rw [List.cons.injEq, and_iff_right rfl]
        exact assign_eq_self

theorem mem_of_lookup {k : String} {v : α} :
    ∀ {ms : List (String × α)}, ms.lookup k = some v → (k, v) ∈ ms
  | [], h => by simp at h
  | (k', v') :: ms, h => by
      rw [lookup_cons] at h
      split at h
      · next hk =>
          cases h
          exact hk ▸ List.mem_cons_self
      · exact List.mem_cons_of_mem _ (mem_of_lookup h)

theorem lookup_of_mem {k : String} {v : α} {ms : List (String × α)}
    (hnd : (ms.map Prod.fst).Nodup) (hm : (k, v) ∈ ms) : ms.lookup k = some v := by
  induction ms with
  | nil => exact absurd hm List.not_mem_nil
  | cons m ms ih =>
      rw [List.map_cons, List.nodup_cons] at hnd
      rw [lookup_cons]
      rcases List.mem_cons.mp hm with rfl | hm
      · exact if_pos rfl
      · have hne : m.1 ≠ k := fun h => hnd.1 (h ▸ List.mem_map_of_mem hm)
        rw [if_neg hne]
        exact ih hnd.2 hm

theorem lookup_map {ι : Type} {name : ι → String} (hname : Function.Injective name) (g : ι → α)
    {i : ι} : ∀ {is : List ι}, i ∈ is → (is.map fun j => (name j, g j)).lookup (name i) = some (g i)
  | j :: is, hi => by
      rw [List.map_cons, lookup_cons]
      by_cases h : name j = name i
      · rw [if_pos h, hname h]
      · rw [if_neg h]
        rcases List.mem_cons.mp hi with rfl | hi
        · exact absurd rfl h
        · exact lookup_map hname g hi

/-- When each step sets the member or leaves it, the last that sets it decides. -/
theorem lookup_foldl {ι : Type} {k : String} {step : List (String × α) → ι → List (String × α)}
    {setting : ι → Option α}
    (h : ∀ ms x, (step ms x).lookup k = (setting x).or (ms.lookup k)) (xs : List ι)
    (ms : List (String × α)) :
    (xs.foldl step ms).lookup k = (xs.filterMap setting).getLast?.or (ms.lookup k) := by
  induction xs generalizing ms with
  | nil => rfl
  | cons x xs ih =>
      rw [List.foldl_cons, ih, h, List.filterMap_cons]
      cases setting x with
      | none => rfl
      | some v =>
          rw [List.getLast?_cons]
          cases (xs.filterMap setting).getLast? <;> rfl

end Members

/-! ## Values -/

/-- A JSON value.  A floating-point number is kept as the rational it is. -/
inductive Json where
  | null
  | bool (b : Bool)
  | num (i : Int)
  | real (q : Rat)
  | str (s : String)
  | arr (xs : List Json)
  | obj (ms : List (String × Json))

namespace Json

/-- What an accessor throws: the type error of that number, or nothing at all
because the call is outside its contract. -/
inductive Error where
  | typeError (id : Nat)
  | undefined
  deriving DecidableEq, Repr

/-- The member `k` of an object. -/
def find? (k : String) : Json → Option Json
  | obj ms => ms.lookup k
  | _ => none

/-- The members of an object, none for anything else. -/
def members : Json → List (String × Json)
  | obj ms => ms
  | _ => []

/-- Number of elements or members; a scalar counts as one element. -/
def size : Json → Nat
  | null => 0
  | arr xs => xs.length
  | obj ms => ms.length
  | _ => 1

/-- What a range-for over the value visits. -/
def items : Json → List Json
  | null => []
  | arr xs => xs
  | obj ms => ms.map Prod.snd
  | j => [j]

theorem exists_of_bind_eq_ok {ε α β : Type} {x : Except ε α} {f : α → Except ε β} {b : β}
    (h : (x >>= f) = .ok b) : ∃ a, x = .ok a ∧ f a = .ok b := by
  cases x with
  | error e => cases h
  | ok a => exact ⟨a, rfl, h⟩

/-! ## Reading -/

/-- Constant `j[k]`. -/
def subscript (k : String) : Json → Except Error Json
  | obj ms => match ms.lookup k with
      | some v => .ok v
      | none => .error .undefined
  | _ => .error (.typeError 305)

/-- `j.value(k, d)`, the member converted by `get`. -/
def value {α : Type} (k : String) (get : Json → Except Error α) (d : α) : Json → Except Error α
  | obj ms => match ms.lookup k with
      | some v => get v
      | none => .ok d
  | _ => .error (.typeError 306)

/-- A floating-point number with its fraction dropped. -/
def truncate (q : Rat) : Int := if 0 ≤ q then q.floor else -((-q).floor)

/-- Conversion to the unsigned type of `w` bits. -/
def getUnsigned (w : Nat) : Json → Except Error (BitVec w)
  | num i => .ok (BitVec.ofInt w i)
  | bool b => .ok (BitVec.ofNat w b.toNat)
  | real q =>
      if 0 ≤ truncate q ∧ truncate q < 2 ^ w then .ok (BitVec.ofInt w (truncate q))
      else .error .undefined
  | _ => .error (.typeError 302)

/-- Conversion to the signed type of 32 bits. -/
def getInt : Json → Except Error Int
  | num i => .ok (i.bmod (2 ^ 32))
  | bool b => .ok b.toNat
  | real q =>
      if -2 ^ 31 ≤ truncate q ∧ truncate q < 2 ^ 31 then .ok (truncate q) else .error .undefined
  | _ => .error (.typeError 302)

theorem ofInt_bmod {w : Nat} (hw : w ≤ 32) (i : Int) :
    BitVec.ofInt w (i.bmod (2 ^ 32)) = BitVec.ofInt w i := by
  have hdvd : ((2 ^ w : Nat) : Int) ∣ ((2 ^ 32 : Nat) : Int) :=
    Int.natCast_dvd_natCast.mpr (Nat.pow_dvd_pow 2 hw)
  apply BitVec.eq_of_toNat_eq
  rw [BitVec.toNat_ofInt, BitVec.toNat_ofInt, ← Int.emod_emod_of_dvd (i.bmod (2 ^ 32)) hdvd,
    Int.bmod_emod, Int.emod_emod_of_dvd _ hdvd]

/-- Conversion to a string. -/
def getString : Json → Except Error String
  | str s => .ok s
  | _ => .error (.typeError 302)

/-! ## Writing in place -/

/-- Non-constant `j[k]`: the document with the member present, and its value. -/
def access (k : String) : Json → Except Error (Json × Json)
  | null => .ok (obj [(k, null)], null)
  | obj ms => match ms.lookup k with
      | some v => .ok (obj ms, v)
      | none => .ok (obj (Members.assign k null ms), null)
  | _ => .error (.typeError 305)

/-- `j[k] = v`. -/
def put (k : String) (v : Json) : Json → Except Error Json
  | null => .ok (obj [(k, v)])
  | obj ms => .ok (obj (Members.assign k v ms))
  | _ => .error (.typeError 305)

/-- The elements, filled up with `null` so that position `i` exists. -/
def fillTo (xs : List Json) (i : Nat) : List Json :=
  xs ++ List.replicate (i + 1 - xs.length) null

/-- `f` applied to the element `j[i]` in place. -/
def putAt (i : Nat) (f : Json → Except Error Json) : Json → Except Error Json
  | null => do
      let v ← f null
      .ok (arr ((fillTo [] i).set i v))
  | arr xs => do
      let v ← f ((fillTo xs i).getD i null)
      .ok (arr ((fillTo xs i).set i v))
  | _ => .error (.typeError 305)

/-- A range-for that may change the elements it visits. -/
def updateItems (f : List Json → Except Error (List Json)) : Json → Except Error Json
  | null => .ok null
  | arr xs => (f xs).map arr
  | obj ms => (f (ms.map Prod.snd)).map fun vs => obj ((ms.map Prod.fst).zip vs)
  | j => (f [j]).map fun vs => vs.headD j

/-- Visit the elements until `f` returns a value for one of them; that element
is replaced by the value, and the visit ends. -/
def replaceFirst (f : Json → Except Error (Option Json)) : List Json → Except Error (List Json)
  | [] => .ok []
  | x :: xs => do
      match ← f x with
      | some y => .ok (y :: xs)
      | none => do
          let ys ← replaceFirst f xs
          .ok (x :: ys)

section ReplaceFirst

variable {f : Json → Except Error (Option Json)} {x : Json} {xs : List Json}

theorem replaceFirst_cons_some {y : Json} (h : f x = .ok (some y)) :
    replaceFirst f (x :: xs) = .ok (y :: xs) := by
  rw [replaceFirst, h]
  rfl

theorem replaceFirst_cons_none (h : f x = .ok none) :
    replaceFirst f (x :: xs) = (replaceFirst f xs).map (x :: ·) := by
  rw [replaceFirst, h]
  show (do
    let ys ← replaceFirst f xs
    .ok (x :: ys) : Except Error (List Json)) = _
  cases replaceFirst f xs <;> rfl

theorem replaceFirst_cons_error {e : Error} (h : f x = .error e) :
    replaceFirst f (x :: xs) = .error e := by
  rw [replaceFirst, h]
  rfl

/-- When the visit gets through, the first element with `named` is replaced. -/
theorem replaceFirst_eq_mapIdx {named : Json → Bool} {g : Json → Json} {xs ys : List Json}
    (hf : ∀ x ∈ xs, ∀ o, f x = .ok o → o = if named x then some (g x) else none)
    (h : replaceFirst f xs = .ok ys) :
    ys = xs.mapIdx fun i x => if xs.findIdx? named = some i then g x else x := by
  induction xs generalizing ys with
  | nil => exact (Except.ok.inj h).symm
  | cons x xs ih =>
      obtain ⟨hx, hxs⟩ := List.forall_mem_cons.mp hf
      rw [List.mapIdx_cons, List.findIdx?_cons]
      cases hfx : f x with
      | error e =>
          rw [replaceFirst_cons_error hfx] at h
          cases h
      | ok o =>
          have ho := hx o hfx
          cases hn : named x with
          | true =>
              rw [hn, if_pos rfl] at ho
              rw [replaceFirst_cons_some (ho ▸ hfx)] at h
              cases h
              have hrest : xs.mapIdx (fun _ y => y) = xs := by
                apply List.ext_getElem?
                intro i
                simp
              simp [hrest]
          | false =>
              rw [hn] at ho
              rw [replaceFirst_cons_none (hfx.trans (congrArg _ ho))] at h
              cases hr : replaceFirst f xs with
              | error e =>
                  rw [hr] at h
                  cases h
              | ok ys' =>
                  rw [hr] at h
                  cases h
                  rw [ih hxs hr]
                  simp

end ReplaceFirst

@[simp] theorem fillTo_of_lt {xs : List Json} {i : Nat} (h : i < xs.length) : fillTo xs i = xs := by
  simp [fillTo, show i + 1 - xs.length = 0 by omega]

theorem putAt_of_lt {xs : List Json} {i : Nat} (h : i < xs.length)
    (f : Json → Except Error Json) :
    putAt i f (arr xs) = (f xs[i]).map fun v => arr (xs.set i v) := by
  simp only [putAt, fillTo_of_lt h, List.getD_eq_getElem?_getD, List.getElem?_eq_getElem h,
    Option.getD_some]
  cases f xs[i] <;> rfl

theorem find?_put {k k' : String} {v j j' : Json} (h : put k v j = .ok j') :
    find? k' j' = if k = k' then some v else find? k' j := by
  cases j <;> simp only [put, Except.ok.injEq, reduceCtorEq] at h
  · subst h
    simp [find?, Members.lookup_cons]
  · subst h
    exact Members.lookup_assign k k' v _

/-! ## Merge patch -/

mutual

/-- RFC 7396: `p` merged into `t`. -/
def mergePatch (t : Json) : Json → Json
  | obj ms => obj (mergeMembers t.members ms)
  | null => null
  | bool b => bool b
  | num i => num i
  | real q => real q
  | str s => str s
  | arr xs => arr xs

/-- The members of the patch applied one after the other. -/
def mergeMembers (acc : List (String × Json)) : List (String × Json) → List (String × Json)
  | [] => acc
  | (k, null) :: ms => mergeMembers (Members.erase k acc) ms
  | (k, v) :: ms =>
      mergeMembers (Members.assign k (mergePatch ((acc.lookup k).getD null) v) acc) ms

end

/-- What a member of the patch leaves under its name. -/
def mergeSlot (old : Option Json) : Json → Option Json
  | null => none
  | v => some (mergePatch (old.getD null) v)

theorem mergeMembers_cons (acc : List (String × Json)) (k : String) (v : Json)
    (ms : List (String × Json)) :
    mergeMembers acc ((k, v) :: ms) =
      mergeMembers
        (match mergeSlot (acc.lookup k) v with
          | none => Members.erase k acc
          | some w => Members.assign k w acc) ms := by
  cases v <;> simp only [mergeMembers, mergeSlot]

/-- Each name is decided by the member of the patch that carries it. -/
theorem lookup_mergeMembers (k : String) :
    ∀ (ms acc : List (String × Json)), (ms.map Prod.fst).Nodup →
      (mergeMembers acc ms).lookup k =
        match ms.lookup k with
        | none => acc.lookup k
        | some v => mergeSlot (acc.lookup k) v
  | [], acc, _ => by simp [mergeMembers]
  | (k', v) :: ms, acc, h => by
      rw [List.map_cons, List.nodup_cons] at h
      rw [mergeMembers_cons, lookup_mergeMembers k ms _ h.2, Members.lookup_cons]
      by_cases hk : k' = k
      · subst hk
        rw [Members.lookup_eq_none.mpr h.1, if_pos rfl]
        cases hs : mergeSlot (acc.lookup k') v with
        | none => simp [Members.lookup_erase, hs]
        | some w => simp [hs]
      · have hacc : (match mergeSlot (acc.lookup k') v with
            | none => Members.erase k' acc
            | some w => Members.assign k' w acc).lookup k = acc.lookup k := by
          cases mergeSlot (acc.lookup k') v with
          | none => simp [Members.lookup_erase, hk]
          | some w => exact Members.lookup_assign_ne hk w acc
        rw [if_neg hk, hacc]

/-- A patch of distinctly named members none of which is `null` adds its
members, themselves patched onto nothing. -/
theorem mergeMembers_fresh :
    ∀ (ms acc : List (String × Json)), ((acc ++ ms).map Prod.fst).Nodup →
      (∀ m ∈ ms, m.2 ≠ null) →
      mergeMembers acc ms = acc ++ ms.map fun m => (m.1, mergePatch null m.2)
  | [], acc, _, _ => by simp [mergeMembers]
  | (k, v) :: ms, acc, hnd, hnull => by
      have hacc : acc.lookup k = none := by
        rw [Members.lookup_eq_none]
        intro hk
        rw [List.map_append, List.nodup_append] at hnd
        exact hnd.2.2 k hk k List.mem_cons_self rfl
      have hv : mergeSlot (acc.lookup k) v = some (mergePatch null v) := by
        have := hnull _ List.mem_cons_self
        rw [hacc]
        cases v <;> first | rfl | exact absurd rfl this
      have hassign : Members.assign k (mergePatch null v) acc = acc ++ [(k, mergePatch null v)] :=
        Members.assign_of_not_mem (Members.lookup_eq_none.mp hacc)
      rw [mergeMembers_cons, hv]
      simp only [hassign]
      rw [mergeMembers_fresh ms _ (by simpa using hnd)
        fun m hm => hnull m (List.mem_cons_of_mem _ hm)]
      simp

/-! ## Well-formed values -/

mutual

/-- No object inside the value has two members of one name. -/
def WF : Json → Prop
  | obj ms => (ms.map Prod.fst).Nodup ∧ WFMembers ms
  | arr xs => WFElems xs
  | _ => True

def WFMembers : List (String × Json) → Prop
  | [] => True
  | (_, v) :: ms => WF v ∧ WFMembers ms

def WFElems : List Json → Prop
  | [] => True
  | x :: xs => WF x ∧ WFElems xs

end

theorem wfMembers_iff {ms : List (String × Json)} : WFMembers ms ↔ ∀ m ∈ ms, WF m.2 := by
  induction ms with
  | nil => simp [WFMembers]
  | cons m ms ih => simp [WFMembers, ih]

theorem wfElems_iff {xs : List Json} : WFElems xs ↔ ∀ x ∈ xs, WF x := by
  induction xs with
  | nil => simp [WFElems]
  | cons x xs ih => simp [WFElems, ih]

theorem WF.nodup {ms : List (String × Json)} (h : WF (obj ms)) : (ms.map Prod.fst).Nodup := by
  simp only [WF] at h
  exact h.1

theorem WF.lookup {ms : List (String × Json)} (h : WF (obj ms)) {k : String} {v : Json}
    (hv : ms.lookup k = some v) : WF v := by
  simp only [WF] at h
  exact wfMembers_iff.mp h.2 (k, v) (Members.mem_of_lookup hv)

theorem WF.assign {ms : List (String × Json)} (h : WF (obj ms)) (k : String) {v : Json}
    (hv : WF v) : WF (obj (Members.assign k v ms)) := by
  simp only [WF, wfMembers_iff] at h ⊢
  refine ⟨Members.nodup_assign h.1, fun m hm => ?_⟩
  rcases Members.mem_assign hm with rfl | hm
  · exact hv
  · exact h.2 m hm

theorem WF.erase {ms : List (String × Json)} (h : WF (obj ms)) (k : String) :
    WF (obj (Members.erase k ms)) := by
  simp only [WF, wfMembers_iff] at h ⊢
  exact ⟨h.1.sublist (List.filter_sublist.map _), fun m hm => h.2 m (List.mem_of_mem_filter hm)⟩

theorem wf_members {t : Json} (h : WF t) : WF (obj t.members) := by
  cases t with
  | obj ms => exact h
  | _ => simp [members, WF, WFMembers]

mutual

theorem wf_mergePatch (t : Json) (ht : WF t) : (p : Json) → WF p → WF (mergePatch t p)
  | obj ms, hp => by
      simp only [mergePatch]
      simp only [WF] at hp
      exact wf_mergeMembers t.members (wf_members ht) ms hp.2
  | arr xs, hp => by simpa only [mergePatch] using hp
  | null, _ => by simp [mergePatch, WF]
  | bool _, _ => by simp [mergePatch, WF]
  | num _, _ => by simp [mergePatch, WF]
  | real _, _ => by simp [mergePatch, WF]
  | str _, _ => by simp [mergePatch, WF]

theorem wf_mergeMembers (acc : List (String × Json)) (hacc : WF (obj acc)) :
    (ms : List (String × Json)) → WFMembers ms → WF (obj (mergeMembers acc ms))
  | [], _ => by simpa only [mergeMembers] using hacc
  | (k, v) :: ms, h => by
      simp only [WFMembers] at h
      have hold : WF ((acc.lookup k).getD null) := by
        cases hk : acc.lookup k with
        | none => simp [WF]
        | some w => exact hacc.lookup hk
      have hslot : ∀ w, mergeSlot (acc.lookup k) v = some w → WF w := by
        intro w hw
        cases v <;> simp only [mergeSlot, Option.some.injEq, reduceCtorEq] at hw <;>
          exact hw ▸ wf_mergePatch _ hold _ h.1
      rw [mergeMembers_cons]
      cases hw : mergeSlot (acc.lookup k) v with
      | none => exact wf_mergeMembers _ (hacc.erase k) ms h.2
      | some w => exact wf_mergeMembers _ (hacc.assign k (hslot w hw)) ms h.2

end

/-! ## Values a merge keeps -/

mutual

/-- No object has a `null` member, nor has an object among its members; what is
in an array does not matter. -/
def NoNulls : Json → Prop
  | obj ms => NoNullMembers ms
  | _ => True

def NoNullMembers : List (String × Json) → Prop
  | [] => True
  | (_, v) :: ms => (v ≠ null ∧ NoNulls v) ∧ NoNullMembers ms

end

theorem noNullMembers_iff {ms : List (String × Json)} :
    NoNullMembers ms ↔ ∀ m ∈ ms, m.2 ≠ null ∧ NoNulls m.2 := by
  induction ms with
  | nil => simp [NoNullMembers]
  | cons m ms ih => rw [NoNullMembers, ih, List.forall_mem_cons]

/-- Members patched onto nothing are the same members when each of them is, and
then none of them is `null`. -/
theorem mergeMembers_nil_eq_self_iff {ms : List (String × Json)} (hnd : (ms.map Prod.fst).Nodup) :
    mergeMembers [] ms = ms ↔ ∀ m ∈ ms, m.2 ≠ null ∧ mergePatch null m.2 = m.2 := by
  constructor
  · rintro h ⟨k, v⟩ hm
    have hv : ms.lookup k = some v := Members.lookup_of_mem hnd hm
    have hslot := lookup_mergeMembers k ms [] hnd
    rw [h, hv] at hslot
    cases v with
    | null => cases hslot
    | _ =>
        refine ⟨fun hnull => ?_, (Option.some.inj hslot).symm⟩
        cases hnull
  · intro h
    rw [mergeMembers_fresh ms [] hnd fun m hm => (h m hm).1, List.nil_append]
    refine (List.map_congr_left fun m hm => ?_).trans (List.map_id ms)
    exact Prod.ext rfl (h m hm).2

mutual

/-- Patched onto what has no members, a value is itself exactly when a merge has
no member to drop. -/
theorem mergePatch_eq_self_iff {t : Json} (ht : t.members = []) :
    (p : Json) → WF p → (mergePatch t p = p ↔ NoNulls p)
  | obj ms, hp => by
      rw [mergePatch, ht, obj.injEq, mergeMembers_nil_eq_self_iff hp.nodup, NoNulls,
        noNullMembers_iff]
      simp only [WF] at hp
      exact forall₂_congr fun m hm => and_congr_right fun _ => mergePatch_members hp.2 m hm
  | arr xs, _ => by simp [mergePatch, NoNulls]
  | null, _ => by simp [mergePatch, NoNulls]
  | bool _, _ => by simp [mergePatch, NoNulls]
  | num _, _ => by simp [mergePatch, NoNulls]
  | real _, _ => by simp [mergePatch, NoNulls]
  | str _, _ => by simp [mergePatch, NoNulls]

theorem mergePatch_members : {ms : List (String × Json)} → WFMembers ms →
    ∀ m ∈ ms, mergePatch null m.2 = m.2 ↔ NoNulls m.2
  | [], _, _, hm => absurd hm List.not_mem_nil
  | (k, v) :: ms, h, m, hm => by
      simp only [WFMembers] at h
      rcases List.mem_cons.mp hm with rfl | hm
      · exact mergePatch_eq_self_iff rfl v h.1
      · exact mergePatch_members h.2 m hm

end

end Json
