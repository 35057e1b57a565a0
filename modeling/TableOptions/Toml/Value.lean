import TableOptions.Double.Basic
import TableOptions.Toml.Moment

/-!
# Values of a document

What a key of a TOML document can stand for. A table keeps its members in the order of the document.
Whether two values are the same can be computed, and so can whether a text reads as given values.
-/

namespace TableOptions.Toml

/-- A value. -/
inductive Value where
  | text (s : String)
  | integer (n : Int64)
  | float (x : Double)
  | boolean (b : Bool)
  | moment (m : Moment)
  | array (items : List Value)
  | table (members : List (String × Value))

mutual

/-- Equality of values is decidable. -/
def Value.decEq (a b : Value) : Decidable (a = b) :=
  match a with
  | .text s =>
    match b with
    | .text t => decidable_of_iff (s = t) ⟨congrArg _, Value.text.inj⟩
    | .integer _ | .float _ | .boolean _ | .moment _ | .array _ | .table _ => isFalse nofun
  | .integer m =>
    match b with
    | .integer n => decidable_of_iff (m = n) ⟨congrArg _, Value.integer.inj⟩
    | .text _ | .float _ | .boolean _ | .moment _ | .array _ | .table _ => isFalse nofun
  | .float x =>
    match b with
    | .float y => decidable_of_iff (x = y) ⟨congrArg _, Value.float.inj⟩
    | .text _ | .integer _ | .boolean _ | .moment _ | .array _ | .table _ => isFalse nofun
  | .boolean p =>
    match b with
    | .boolean q => decidable_of_iff (p = q) ⟨congrArg _, Value.boolean.inj⟩
    | .text _ | .integer _ | .float _ | .moment _ | .array _ | .table _ => isFalse nofun
  | .moment m =>
    match b with
    | .moment n => decidable_of_iff (m = n) ⟨congrArg _, Value.moment.inj⟩
    | .text _ | .integer _ | .float _ | .boolean _ | .array _ | .table _ => isFalse nofun
  | .array xs =>
    match b with
    | .array ys =>
      match decEqItems xs ys with
      | isTrue h => isTrue (congrArg _ h)
      | isFalse h => isFalse fun heq => h (Value.array.inj heq)
    | .text _ | .integer _ | .float _ | .boolean _ | .moment _ | .table _ => isFalse nofun
  | .table xs =>
    match b with
    | .table ys =>
      match decEqMembers xs ys with
      | isTrue h => isTrue (congrArg _ h)
      | isFalse h => isFalse fun heq => h (Value.table.inj heq)
    | .text _ | .integer _ | .float _ | .boolean _ | .moment _ | .array _ => isFalse nofun

/-- Equality of the items of arrays is decidable. -/
def decEqItems : (xs ys : List Value) → Decidable (xs = ys)
  | [], [] => isTrue rfl
  | [], _ :: _ => isFalse nofun
  | _ :: _, [] => isFalse nofun
  | x :: xs, y :: ys =>
    match x.decEq y, decEqItems xs ys with
    | isTrue hx, isTrue hxs => isTrue (congr (congrArg _ hx) hxs)
    | isFalse hx, _ => isFalse fun heq => hx (List.cons.inj heq).1
    | _, isFalse hxs => isFalse fun heq => hxs (List.cons.inj heq).2

/-- Equality of the members of tables is decidable. -/
def decEqMembers : (xs ys : List (String × Value)) → Decidable (xs = ys)
  | [], [] => isTrue rfl
  | [], _ :: _ => isFalse nofun
  | _ :: _, [] => isFalse nofun
  | (k, x) :: xs, (l, y) :: ys =>
    match decEq k l, x.decEq y, decEqMembers xs ys with
    | isTrue hk, isTrue hx, isTrue hxs => isTrue (by rw [hk, hx, hxs])
    | isFalse hk, _, _ => isFalse fun heq => hk (Prod.mk.inj (List.cons.inj heq).1).1
    | _, isFalse hx, _ => isFalse fun heq => hx (Prod.mk.inj (List.cons.inj heq).1).2
    | _, _, isFalse hxs => isFalse fun heq => hxs (List.cons.inj heq).2

end

instance : DecidableEq Value := Value.decEq

end TableOptions.Toml
