import Mathlib.Data.List.AList
import Mathlib.Data.List.Dedup

/-!
# Python values

The values the action client of `st2client/commands/action.py` handles: the JSON data
the API sends (action and runner schemas, execution results), the typed values the
parameter transformers produce, and the exceptions the client raises or lets through.
The client runs under Python 2, so a `str` is a byte string; a `String` here holds one
character per byte.

* `PyVal` is a Python value and `PyVal.truthy` is `bool(v)`.
* `PyExc` is an exception, given by its class and by the text `str(e)`.
* `PyDict` is a dictionary with string keys: an association list without repeated keys.
* `PySet` is a set of strings, listed in the order in which Python enumerates it.
-/

namespace St2

/-- A Python value, as JSON decoding produces it. A float is kept as its IEEE-754 bit
pattern: nothing in the client computes with it. -/
inductive PyVal where
  | none
  | bool (b : Bool)
  | int (n : Int)
  | float (bits : UInt64)
  | str (s : String)
  | list (xs : List PyVal)
  | dict (kvs : List (String × PyVal))
  deriving Repr, Inhabited

namespace PyVal

/-- `bool(v)`: `None`, `False`, zero and empty containers are false. -/
def truthy : PyVal → Bool
  | none => false
  | bool b => b
  | int n => n != 0
  | float bits => bits &&& 0x7FFFFFFFFFFFFFFF != 0
  | str s => !s.isEmpty
  | list xs => !xs.isEmpty
  | dict kvs => !kvs.isEmpty

/-- The name of the Python type of a value, as error messages print it. -/
def typeName : PyVal → String
  | none => "NoneType"
  | bool _ => "bool"
  | int _ => "int"
  | float _ => "float"
  | str _ => "str"
  | list _ => "list"
  | dict _ => "dict"

@[simp] theorem truthy_str (s : String) : (str s).truthy = !s.isEmpty := rfl

@[simp] theorem truthy_bool (b : Bool) : (bool b).truthy = b := rfl

end PyVal

/-- A Python exception: its class, and the text `str(e)` that handlers inspect. -/
structure PyExc where
  cls : String
  msg : String
  deriving DecidableEq, Repr

namespace PyExc

/-- `ValueError(msg)`. -/
def valueError (msg : String) : PyExc := ⟨"ValueError", msg⟩

/-- `KeyError(key)` for a key whose `repr` is `'key'`. -/
def keyError (key : String) : PyExc := ⟨"KeyError", "\x27" ++ key ++ "\x27"⟩

end PyExc

/-- A computation that may raise and returned a value ran its first step to a value. -/
theorem bind_eq_ok {α β : Type} {x : Except PyExc α} {f : α → Except PyExc β} {b : β}
    (h : x >>= f = .ok b) :
  ∃ a, x = .ok a ∧ f a = .ok b
  := by
  cases x with
  | error e => cases h
  | ok a => exact ⟨a, rfl, h⟩

/-- Each value a `map` over a list collected comes from one of its elements. -/
theorem mapM_eq_ok_mem {α β : Type} {f : α → Except PyExc β} {xs : List α} {ys : List β}
    (h : xs.mapM f = .ok ys) {y : β} (hy : y ∈ ys) :
  ∃ x ∈ xs, f x = .ok y
  := by
  induction xs generalizing ys with
  | nil =>
    cases h
    cases hy
  | cons x xs ih =>
    rw [List.mapM_cons] at h
    obtain ⟨y', hy', h⟩ := bind_eq_ok h
    obtain ⟨ys', hys', h⟩ := bind_eq_ok h
    cases h
    rcases List.mem_cons.mp hy with rfl | hy
    · exact ⟨x, List.mem_cons_self x xs, hy'⟩
    · obtain ⟨x', hx', hfx'⟩ := ih hys' hy
      exact ⟨x', List.mem_cons_of_mem x hx', hfx'⟩

/-- A dictionary with string keys. Python enumerates a dictionary in an order of its
own; only lookups are used here, so the order of the entries carries no meaning. -/
abbrev PyDict := AList (fun _ : String => PyVal)

/-- A Python set of strings, listed in the order Python enumerates it. CPython
enumerates a set in the order of its hash table; the model keeps the order in which the
set was built, and what depends on the order is stated for every enumeration. -/
structure PySet where
  elems : List String
  nodup : elems.Nodup

namespace PySet

instance : Membership String PySet := ⟨fun s n => n ∈ s.elems⟩

@[simp] theorem mem_mk {n : String} {l : List String} {h : l.Nodup} :
  n ∈ (⟨l, h⟩ : PySet) ↔ n ∈ l
  := Iff.rfl

instance (n : String) (s : PySet) : Decidable (n ∈ s) :=
  inferInstanceAs (Decidable (n ∈ s.elems))

/-- `set(l)`. -/
def ofList (l : List String) : PySet := ⟨l.dedup, List.nodup_dedup l⟩

/-- `s - t`. -/
def sdiff (s t : PySet) : PySet := ⟨s.elems.filter (· ∉ t), s.nodup.filter _⟩

instance : SDiff PySet := ⟨sdiff⟩

/-- `{n for n in s if p(n)}`. -/
def filter (p : String → Bool) (s : PySet) : PySet := ⟨s.elems.filter p, s.nodup.filter _⟩

/-- `bool(s)`: the set is non-empty. -/
def truthy (s : PySet) : Bool := !s.elems.isEmpty

@[simp] theorem mem_ofList {n : String} {l : List String} : n ∈ ofList l ↔ n ∈ l :=
  List.mem_dedup

@[simp] theorem mem_sdiff {n : String} {s t : PySet} : n ∈ s \ t ↔ n ∈ s ∧ n ∉ t := by
  show n ∈ s.elems.filter (· ∉ t) ↔ n ∈ s.elems ∧ n ∉ t.elems
  simp only [List.mem_filter, decide_eq_true_eq]
  rfl

@[simp] theorem mem_filter {n : String} {p : String → Bool} {s : PySet} :
  n ∈ s.filter p ↔ n ∈ s ∧ p n
  := List.mem_filter

end PySet

end St2
