import St2.Python.Str

/-!
# Paths and the runtime

`posixpath.join`, `posixpath.normpath` and `posixpath.basename`, as the client
computes the path of a file-valued parameter and the API the directory of a content
pack, and the `Runtime`: the library functions and the operating system calls the client
makes whose behaviour is not modelled. Every result about the client holds for every
runtime; where one needs a fact about a library function, it states that fact as a
hypothesis.

* `components_append_segment`: appending one segment to a path appends it to the
  components `normpath` keeps, so the longer path lies inside the shorter
  (`insideBase_append_segment`).
-/

namespace St2

namespace Path

/-- `posixpath.join(a, b)`: `b` when it is absolute, otherwise `a` and `b` separated by
one slash, none being added to an empty `a` or after a trailing slash. -/
def join (a b : String) : String :=
  if Str.startsWith b '/' then b
  else if a.isEmpty || a.data.getLast? == some '/' then a ++ b
  else a ++ "/" ++ b

/-- How `normpath` takes in one component of a path, given the number of leading
slashes: empty components and `.` are dropped, `..` removes the component before it
when there is one that is not `..` itself, and is dropped at the root. -/
def normComponent (initialSlashes : Nat) (comps : List String) (comp : String) :
    List String :=
  if comp = "" ∨ comp = "." then comps
  else if comp ≠ ".." ∨ (initialSlashes = 0 ∧ comps = []) ∨ comps.getLast? = some ".." then
    comps ++ [comp]
  else comps.dropLast

/-- The number of leading slashes `normpath` keeps: two exactly when the path starts
with exactly two, otherwise one when it starts with one. -/
def initialSlashes (path : String) : Nat :=
  if Str.startsWith path '/' then
    if path.data.take 2 = ['/', '/'] ∧ path.data.take 3 ≠ ['/', '/', '/'] then 2 else 1
  else 0

/-- `posixpath.normpath(path)`. -/
def normpath (path : String) : String :=
  if path.isEmpty then "." else
  let initial := initialSlashes path
  let comps := (Str.split path '/').foldl (normComponent initial) []
  let result := String.mk (List.replicate initial '/') ++ Str.join "/" comps
  if result.isEmpty then "." else result

/-- `posixpath.basename(p)`: what follows the last slash. -/
def basename (p : String) : String := ⟨(p.data.reverse.takeWhile (· != '/')).reverse⟩

/-! ### Segments and containment -/

/-- A single path segment: not empty, neither `.` nor `..`, and without a slash. -/
def IsSegment (s : String) : Prop := s ≠ "" ∧ s ≠ "." ∧ s ≠ ".." ∧ '/' ∉ s.data

instance : DecidablePred IsSegment := fun _ => inferInstanceAs (Decidable (_ ∧ _))

theorem IsSegment.not_startsWith {s : String} (h : IsSegment s) : ¬ Str.startsWith s '/' := by
  intro hs
  simp only [Str.startsWith, beq_iff_eq] at hs
  exact h.2.2.2 (List.mem_of_mem_head? hs)

/-- The components `normpath` joins: the path split at its slashes, with empty
components and `.` dropped and each `..` resolved. -/
def components (path : String) : List String :=
  (Str.split path '/').foldl (normComponent (initialSlashes path)) []

/-- `path` lies inside the directory `basePath` as `normpath` sees them (symbolic links
aside): both start with the same slashes, and the components of `basePath` begin those
of `path`. -/
def InsideBase (basePath path : String) : Prop :=
  initialSlashes path = initialSlashes basePath ∧ components basePath <+: components path

instance (basePath path : String) : Decidable (InsideBase basePath path) :=
  inferInstanceAs (Decidable (_ ∧ _))

theorem join_of_relative {a b : String} (hb : ¬ Str.startsWith b '/') (ha : a ≠ "")
    (hlast : a.data.getLast? ≠ some '/') :
  join a b = a ++ "/" ++ b
  := by
  simp [join, hb, Str.isEmpty_eq_false ha, hlast]

theorem splitOn_append_sep {l seg : List Char} (hseg : '/' ∉ seg) :
  (l ++ '/' :: seg).splitOn '/' = l.splitOn '/' ++ [seg]
  := by
  induction l with
  | nil =>
    have hsingle : seg.splitOnP (· == '/') = [seg] :=
      List.splitOnP_eq_single _ _ fun x hx hsep => hseg (by rwa [← beq_iff_eq.mp hsep])
    simp only [List.splitOn, List.nil_append, List.splitOnP_cons, beq_self_eq_true, if_true,
      hsingle, List.splitOnP_nil]
    rfl
  | cons c l ih =>
    simp only [List.splitOn] at ih ⊢
    rw [List.cons_append, List.splitOnP_cons, List.splitOnP_cons, ih]
    split
    · rfl
    · obtain ⟨h, t, ht⟩ := List.exists_cons_of_ne_nil (List.splitOnP_ne_nil (· == '/') l)
      rw [ht]
      rfl

theorem split_append_segment {p seg : String} (hseg : '/' ∉ seg.data) :
  Str.split (p ++ "/" ++ seg) '/' = Str.split p '/' ++ [seg]
  := by
  simp [Str.split, splitOn_append_sep hseg]

theorem initialSlashes_append_sep {p seg : String} (hp : p ≠ "")
    (hlast : p.data.getLast? ≠ some '/') :
  initialSlashes (p ++ "/" ++ seg) = initialSlashes p
  := by
  obtain ⟨l⟩ := p
  rcases l with _ | ⟨c, _ | ⟨d, _ | ⟨e, rest⟩⟩⟩
  · exact absurd rfl hp
  · have hc : c ≠ '/' := by simpa using hlast
    simp [initialSlashes, Str.startsWith, hc]
  · have hd : d ≠ '/' := by simpa using hlast
    simp [initialSlashes, Str.startsWith, hd]
  · simp [initialSlashes, Str.startsWith]

theorem append_sep_ne_empty (p seg : String) : p ++ "/" ++ seg ≠ "" := fun h => by
  have hdata : p.data ++ ['/'] ++ seg.data = [] := congrArg String.data h
  simp at hdata

theorem getLast?_append_segment {p seg : String} (hseg : IsSegment seg) :
  (p ++ "/" ++ seg).data.getLast? ≠ some '/'
  := by
  obtain ⟨hne, -, -, hslash⟩ := hseg
  obtain ⟨c, hc⟩ := Option.ne_none_iff_exists'.mp
    (mt List.getLast?_eq_none_iff.mp fun h => hne (String.ext h))
  have hlast : (p ++ "/" ++ seg).data.getLast? = some c := by
    show (p.data ++ ['/'] ++ seg.data).getLast? = _
    rw [List.getLast?_append, hc]
    rfl
  rw [hlast]
  exact fun h => hslash (Option.some.inj h ▸ List.mem_of_getLast?_eq_some hc)

/-- A segment appended to a path that does not end in a slash is appended to the
components `normpath` keeps. -/
theorem components_append_segment {p seg : String} (hp : p ≠ "")
    (hlast : p.data.getLast? ≠ some '/') (hseg : IsSegment seg) :
  components (p ++ "/" ++ seg) = components p ++ [seg]
  := by
  obtain ⟨hne, hdot, hdotdot, hslash⟩ := hseg
  rw [components, components, initialSlashes_append_sep hp hlast, split_append_segment hslash,
    List.foldl_append]
  simp [normComponent, hne, hdot, hdotdot]

theorem insideBase_append_segment {p seg : String} (hp : p ≠ "")
    (hlast : p.data.getLast? ≠ some '/') (hseg : IsSegment seg) :
  InsideBase p (p ++ "/" ++ seg)
  := ⟨initialSlashes_append_sep hp hlast, by
    rw [components_append_segment hp hlast hseg]
    exact List.prefix_append _ _⟩

theorem InsideBase.trans {a b c : String} (hab : InsideBase a b) (hbc : InsideBase b c) :
  InsideBase a c
  := ⟨hbc.1.trans hab.1, hab.2.trans hbc.2⟩

end Path

/-- The library functions and system calls the client makes whose behaviour is not
modelled. -/
structure Runtime where
  /-- `ast.literal_eval(s)`. -/
  literalEval : String → Except PyExc PyVal
  /-- `float(s)`. -/
  float : String → Except PyExc PyVal
  /-- `json.loads(s)`. -/
  jsonLoads : String → Except PyExc PyVal
  /-- `os.getcwd()`. -/
  getcwd : Except PyExc String
  /-- `os.path.exists(p)`. -/
  pathExists : String → Bool
  /-- `os.path.isfile(p)`. -/
  isFile : String → Bool
  /-- `open(p, 'rb').read()`. -/
  readBytes : String → Except PyExc String

/-- A runtime in which every library call fails and the file system is empty: a
concrete runtime for the theorems that evaluate the client at one input. -/
instance : Inhabited Runtime where
  default :=
    { literalEval := fun _ => .error (.valueError "malformed string")
      float := fun _ => .error (.valueError "could not convert string to float")
      jsonLoads := fun _ => .error (.valueError "No JSON object could be decoded")
      getcwd := .ok "/"
      pathExists := fun _ => false
      isFile := fun _ => false
      readBytes := fun _ => .error ⟨"IOError", "No such file or directory"⟩ }

end St2
