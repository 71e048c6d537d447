import Testsmith.Path.Basic

/-!
# File trees

The files and directories that operations see. A location names an entry by the parts from the top
down; the top itself is always a directory. A tree is known by what it holds at each location, and
the operations are stated by their effect on that view.

A tree has no symbolic or hard links: two locations never name one file, and writing at one location
changes no other. Whatever is stated about files is stated for such trees.
-/

namespace Testsmith

/-- A place in a file tree, from the top down. -/
abbrev Location := List String

/-- What a location holds. -/
inductive Node where
  | directory
  | file (content : ByteArray)
  deriving Inhabited

instance : DecidableEq Node
  | .directory, .directory => .isTrue rfl
  | .directory, .file _ => .isFalse fun h => nomatch h
  | .file _, .directory => .isFalse fun h => nomatch h
  | .file a, .file b => decidable_of_iff (a.data = b.data) (by simp [ByteArray.ext_iff])

structure FileTree where
  entries : List (Location × Node) := []
  deriving Inhabited

namespace FileTree

def node? (t : FileTree) (l : Location) : Option Node :=
  if l = [] then some .directory else t.entries.lookup l

/-- Puts an entry at a location, in place of what it holds. -/
def set (t : FileTree) (l : Location) (n : Node) : FileTree :=
  ⟨(l, n) :: t.entries.filter (·.1 ≠ l)⟩

def remove (t : FileTree) (l : Location) : FileTree :=
  ⟨t.entries.filter (·.1 ≠ l)⟩

def content? (t : FileTree) (l : Location) : Option ByteArray :=
  match t.node? l with
  | some (.file content) => some content
  | _ => none

def files (t : FileTree) : List (Location × ByteArray) :=
  t.entries.filterMap fun (l, n) =>
    match n with
    | .file content => some (l, content)
    | .directory => none

private theorem lookup_filter_ne {l k : Location} (entries : List (Location × Node)) (h : k ≠ l) :
    (entries.filter (fun e => decide (e.1 ≠ l))).lookup k = entries.lookup k := by
  induction entries with
  | nil => rfl
  | cons e rest ih =>
    obtain ⟨m, n⟩ := e
    by_cases he : m = l
    · subst he
      have : (k == m) = false := by simp [h]
      rw [List.filter_cons_of_neg (by simp), ih, List.lookup_cons, this]
    · rw [List.filter_cons_of_pos (by simp [he]), List.lookup_cons, List.lookup_cons, ih]

theorem node?_set_self (t : FileTree) {l : Location} (h : l ≠ []) (n : Node) :
    (t.set l n).node? l = some n := by
  simp [node?, set, h]

theorem node?_set_of_ne (t : FileTree) {l k : Location} (h : k ≠ l) (n : Node) :
    (t.set l n).node? k = t.node? k := by
  have : (k == l) = false := by simp [h]
  unfold node? set
  rw [List.lookup_cons, this, lookup_filter_ne _ h]

theorem node?_remove_of_ne (t : FileTree) {l k : Location} (h : k ≠ l) :
    (t.remove l).node? k = t.node? k := by
  unfold node? remove
  rw [lookup_filter_ne _ h]

end FileTree

end Testsmith
