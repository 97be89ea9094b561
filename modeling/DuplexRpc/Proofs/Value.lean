import DuplexRpc.Value.Basic
import DuplexRpc.Text.Utf8

/-! What the wire formats ask of values, and values that differ in binary64 numbers alone. -/

namespace DuplexRpc

theorem Number.ofInt?_of_range {i : Int} (h : WireRange i) : Number.ofInt? i = some (.int i h) := by
  rw [Number.ofInt?, dif_pos h]

/-- No text, array or object that the formats carry is longer. -/
def lengthLimit : Nat :=
  0x100000000

namespace Value

mutual

/-- Every number is an integer. -/
def isIntegral : Value → Bool
  | .num (.float _ _) => false
  | .arr items => areIntegral items
  | .obj fields => fieldsIntegral fields
  | _ => true

def areIntegral : List Value → Bool
  | [] => true
  | v :: vs => isIntegral v && areIntegral vs

def fieldsIntegral : List (String × Value) → Bool
  | [] => true
  | (_, v) :: fs => isIntegral v && fieldsIntegral fs

end

def isShortText (s : String) : Bool :=
  (Text.utf8 s).length < lengthLimit

mutual

/-- Texts, arrays and objects are within the limit of lengths. -/
def isShort : Value → Bool
  | .str s => isShortText s
  | .arr items => items.length < lengthLimit && areShort items
  | .obj fields => fields.length < lengthLimit && fieldsShort fields
  | _ => true

def areShort : List Value → Bool
  | [] => true
  | v :: vs => isShort v && areShort vs

def fieldsShort : List (String × Value) → Bool
  | [] => true
  | (name, v) :: fs => isShortText name && isShort v && fieldsShort fs

end

mutual

/-- The same value but for its finite binary64 numbers, which may be any others. -/
inductive Resembles : Value → Value → Prop
  | null : Resembles .null .null
  | bool (b : Bool) : Resembles (.bool b) (.bool b)
  | int (i : Int) (h : WireRange i) : Resembles (.num (.int i h)) (.num (.int i h))
  | float (x y : Double) (h : x.isFinite = true) (h' : y.isFinite = true) :
      Resembles (.num (.float x h)) (.num (.float y h'))
  | str (s : String) : Resembles (.str s) (.str s)
  | arr {vs ws : List Value} (h : ItemsResemble vs ws) : Resembles (.arr vs) (.arr ws)
  | obj {fs gs : List (String × Value)} (h : FieldsResemble fs gs) : Resembles (.obj fs) (.obj gs)

inductive ItemsResemble : List Value → List Value → Prop
  | nil : ItemsResemble [] []
  | cons {v w : Value} {vs ws : List Value} (h : Resembles v w) (hs : ItemsResemble vs ws) :
      ItemsResemble (v :: vs) (w :: ws)

inductive FieldsResemble : List (String × Value) → List (String × Value) → Prop
  | nil : FieldsResemble [] []
  | cons {v w : Value} {fs gs : List (String × Value)} (name : String) (h : Resembles v w)
      (hs : FieldsResemble fs gs) : FieldsResemble ((name, v) :: fs) ((name, w) :: gs)

end

mutual

theorem Resembles.refl (v : Value) : v.Resembles v := by
  match v with
  | .null => exact .null
  | .bool b => exact .bool b
  | .num (.int i h) => exact .int i h
  | .num (.float x h) => exact .float x x h h
  | .str s => exact .str s
  | .arr vs => exact .arr (ItemsResemble.refl vs)
  | .obj fs => exact .obj (FieldsResemble.refl fs)

theorem ItemsResemble.refl (vs : List Value) : ItemsResemble vs vs := by
  match vs with
  | [] => exact .nil
  | v :: vs => exact .cons (Resembles.refl v) (ItemsResemble.refl vs)

theorem FieldsResemble.refl (fs : List (String × Value)) : FieldsResemble fs fs := by
  match fs with
  | [] => exact .nil
  | (name, v) :: fs => exact .cons name (Resembles.refl v) (FieldsResemble.refl fs)

end

mutual

/-- Nothing but itself resembles a value without binary64 numbers. -/
theorem Resembles.eq_of_integral {v w : Value} (h : v.Resembles w) (integral : v.isIntegral = true) :
    w = v := by
  match h with
  | .null | .bool _ | .int _ _ | .str _ => rfl
  | .float _ _ _ _ => cases integral
  | .arr h => rw [h.eq_of_integral integral]
  | .obj h => rw [h.eq_of_integral integral]

theorem ItemsResemble.eq_of_integral {vs ws : List Value} (h : ItemsResemble vs ws)
    (integral : areIntegral vs = true) : ws = vs := by
  match h with
  | .nil => rfl
  | .cons h hs =>
    obtain ⟨one, others⟩ := Bool.and_eq_true_iff.mp integral
    rw [h.eq_of_integral one, hs.eq_of_integral others]

theorem FieldsResemble.eq_of_integral {fs gs : List (String × Value)} (h : FieldsResemble fs gs)
    (integral : fieldsIntegral fs = true) : gs = fs := by
  match h with
  | .nil => rfl
  | .cons name h hs =>
    obtain ⟨one, others⟩ := Bool.and_eq_true_iff.mp integral
    rw [h.eq_of_integral one, hs.eq_of_integral others]

end

end Value

end DuplexRpc
