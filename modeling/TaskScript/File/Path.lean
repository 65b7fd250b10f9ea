import TaskScript.Text.Bytes

/-!
# Path — paths as octets, and their parents

A path is kept exactly as it was written, as octets: a system knows nothing of the encoding of its
file names.  Its components are the names between slashes; empty
components count for nothing, and so does `.` except at the very beginning of a relative path.

- `Path.parent?` : the path without its last component, if it has one
- `Path.join`    : a path below another one
- `Path.ancestors` : a path, its parent, the parent of that, and so on

No file system is asked: the parent of `a/..` is `a`.
-/

namespace TaskScript

/-- A path as it was written, in octets. -/
structure Path where
  chars : List Char
  deriving DecidableEq, Repr, Inhabited

namespace Path

/-- The path that octets spell. -/
def ofOctets (octets : String) : Path := ⟨octets.toList⟩

/-- The octets of a path. -/
def octets (path : Path) : String := String.ofList path.chars

/-- The path that a text stands for. -/
def ofString (text : String) : Path := ⟨Octets.charsOf text.toUTF8⟩

/-- The path as a text, whatever its octets are. -/
def display (path : Path) : String := Text.lossy (Octets.bytesOf path.chars)

/-- A text that became a path is told again. -/
@[simp]
theorem display_ofString (text : String) : (ofString text).display = text := by
  have valid : text.toByteArray.IsValidUTF8 := text.isValidUTF8
  simp [display, ofString, Text.lossy, String.fromUTF8?, String.fromUTF8, valid]

/-- Whether a path starts at the root. -/
def isAbsolute (path : Path) : Bool := path.chars.head? == some '/'

/-- A path below another one; an absolute path stands for itself. -/
def join (path below : Path) : Path :=
  if below.isAbsolute || path.chars.isEmpty then
    below
  else if path.chars.getLast? == some '/' then
    ⟨path.chars ++ below.chars⟩
  else
    ⟨path.chars ++ '/' :: below.chars⟩

/-! ## Parents -/

/-- The length of what precedes the ordinary components: the slash of the root, or a leading `.`
that is a component of its own. -/
def frontLength : List Char → Nat
  | ['.'] => 1
  | '.' :: '/' :: _ => 1
  | '/' :: _ => 1
  | _ => 0

/-- Drop the separators and the components `.` at the end of a reversed text. -/
def dropIdle : List Char → List Char
  | '/' :: rest => dropIdle rest
  | '.' :: '/' :: rest => dropIdle rest
  | ['.'] => []
  | reversed => reversed

/-- The path without its last component. -/
def parent? (path : Path) : Option Path :=
  let front := path.chars.take (frontLength path.chars)
  let reversed := dropIdle (path.chars.drop (frontLength path.chars)).reverse
  if reversed.isEmpty then
    if front == ['.'] then some ⟨[]⟩ else none
  else
    some ⟨front ++ (dropIdle (reversed.dropWhile (· != '/'))).reverse⟩

theorem length_dropIdle_le (reversed : List Char) :
    (dropIdle reversed).length ≤ reversed.length := by
  fun_induction dropIdle reversed <;> simp_all <;> omega

theorem length_dropWhile_le (p : Char → Bool) (text : List Char) :
    (text.dropWhile p).length ≤ text.length :=
  (List.dropWhile_sublist p).length_le

/-- The last component is not empty. -/
theorem dropIdle_not_slash (reversed : List Char) : (dropIdle reversed).head? ≠ some '/' := by
  fun_induction dropIdle reversed with
  | case1 rest ih => exact ih
  | case2 rest ih => exact ih
  | case3 => simp
  | case4 reversed h _ _ =>
    intro hh
    match reversed with
    | [] => simp at hh
    | c :: rest =>
      simp only [List.head?_cons, Option.some.injEq] at hh
      subst hh
      exact h rest rfl

/-- A parent is shorter. -/
theorem length_lt_of_parent? {path parent : Path} (h : path.parent? = some parent) :
    parent.chars.length < path.chars.length := by
  unfold parent? at h
  simp only at h
  have split : path.chars.length = (path.chars.take (frontLength path.chars)).length +
      (path.chars.drop (frontLength path.chars)).reverse.length := by
    rw [List.length_reverse, ← List.length_append, List.take_append_drop]
  generalize path.chars.take (frontLength path.chars) = front at h split
  generalize (path.chars.drop (frontLength path.chars)).reverse = body at h split
  have le := length_dropIdle_le body
  have notSlash := dropIdle_not_slash body
  generalize dropIdle body = reversed at h le notSlash
  match reversed with
  | [] =>
    simp only [List.isEmpty_nil, if_true] at h
    split at h
    · next hf =>
      simp only [Option.some.injEq] at h
      subst h
      simp only [beq_iff_eq] at hf
      simp only [hf, List.length_cons, List.length_nil] at split
      simp only [List.length_nil]
      omega
    · simp at h
  | c :: rest =>
    simp only [List.isEmpty_cons, Bool.false_eq_true, if_false, Option.some.injEq] at h
    subst h
    have hc : c ≠ '/' := by
      intro e
      exact notSlash (by simp [e])
    have drop : (c :: rest).dropWhile (· != '/') = rest.dropWhile (· != '/') := by
      simp [hc]
    have l₁ := length_dropIdle_le ((c :: rest).dropWhile (· != '/'))
    rw [drop] at l₁
    have l₂ := length_dropWhile_le (· != '/') rest
    simp only [List.length_append, List.length_reverse, List.length_cons] at *
    rw [drop]
    omega

/-- A path, its parent, the parent of that, and so on. -/
def ancestors (path : Path) : List Path :=
  match _up : path.parent? with
  | some parent => path :: ancestors parent
  | none => [path]
termination_by path.chars.length
decreasing_by exact length_lt_of_parent? _up

end Path
end TaskScript
